import Provision.Shell.Pattern

namespace Provision.Shell

/-- What a part of a word becomes: a text that stays whole, one that is still to be split, or the
border between two texts, with what joins them where nothing is split. -/
inductive Piece
  | kept (quoted : Bool) (text : Chars)
  | loose (text : Chars)
  | border (joint : Chars)

namespace Piece

/-- The text of pieces that are not split. -/
def flat (ps : List Piece) : Chars :=
  ps.flatMap fun
    | .kept _ t | .loose t | .border t => t

/-- The text of pieces with the marks of what is quoted. -/
def marked (ps : List Piece) : List Marked :=
  ps.flatMap fun
    | .kept quoted t => t.map (·, quoted)
    | .loose t => t.map (·, false)
    | .border t => t.map (·, true)

/-- The pieces of a word that stands in another one without quotes. -/
def loosen (ps : List Piece) : List Piece :=
  ps.map fun
    | .kept false t => .loose t
    | p => p

/-- Fields on the way: those that are done and the characters of the present one, the last ones
first, and whether white space has just ended one. -/
structure Fields where
  done : List (List Marked)
  present : Option (List Marked)
  white : Bool

namespace Fields

def close (f : Fields) : Fields :=
  match f.present with
  | some p => { f with done := p.reverse :: f.done, present := none }
  | none => f

def extend (f : Fields) (cs : List Marked) : Fields :=
  { f with present := some (cs.reverse ++ f.present.getD []), white := false }

/-- Takes a character of a text that is split at separators. White space in a row counts once, each
other separator ends a field. -/
def addLoose (separators : Chars) (f : Fields) (c : Char) : Fields :=
  if !separators.contains c then f.extend [(c, false)]
  else if " \t\n".toList.contains c then
    if f.present.isSome then { f.close with white := true } else f
  else if f.present.isSome then { f.close with white := false }
  else if f.white then { f with white := false }
  else { f with done := [] :: f.done }

def add (separators : Chars) (f : Fields) : Piece → Fields
  | .kept false [] => f
  | .kept quoted t => f.extend (t.map (·, quoted))
  | .loose t => t.foldl (addLoose separators) f
  | .border _ => { f.close with white := false }

end Fields

/-- Splits pieces into fields. -/
def split (separators : Chars) (ps : List Piece) : List (List Marked) :=
  (ps.foldl (Fields.add separators) ⟨[], none, false⟩).close.done.reverse

end Piece

end Provision.Shell
