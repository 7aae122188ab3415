import Provision.Regular.Basic

/-!
Scripts that edit lines: commands that are meant for some lines, and what is put in the place of the
parts of a line that fit an expression.
-/

namespace Provision.Editing

/-- What is looked for: an expression, and whether letters of both cases are the same. -/
structure Wanted where
  expression : Regular
  fold : Bool
  deriving DecidableEq, Repr

/-! ## Lines that are meant -/

/-- Which line is meant. An expression that is left out is the last one that has been used, and the
last two kinds count from another line. -/
inductive Address
  | line (n : Nat)
  | every (first step : Nat)
  | last
  | fits (w : Option Wanted)
  | more (n : Nat)
  | multiple (n : Nat)
  deriving DecidableEq, Repr

/-- For which lines a command is meant: all, some, or those from one up to another. -/
inductive Scope
  | always
  | at (a : Address)
  | between (a b : Address)
  deriving DecidableEq, Repr

/-! ## Replacements -/

/-- What becomes of letters. -/
inductive Casing
  | kept
  | upper
  | lower
  deriving DecidableEq, Repr

def Casing.apply : Casing → Chars → Chars
  | .kept, t => t
  | .upper, t => t.map Char.toUpper
  | .lower, t => t.map Char.toLower

/-- A part of a replacement: a text and behind it a group of what has been found. The first letter
may be changed in another way than the others. -/
structure Part where
  text : Chars
  casing : Casing
  first : Option Casing
  group : Option Nat
  deriving DecidableEq, Repr

/-- Changes the letters of a text that is not empty. -/
def recased (casing : Casing) (first : Option Casing) (t : Chars) : Chars :=
  match first with
  | some f => f.apply (t.take 1) ++ casing.apply (t.drop 1)
  | none => casing.apply t

/-- What stands in the place of a match, where a change of the first letter may be left over. -/
def written (x : Subject) (m : Regular.Match) : Option Casing → List Part → Chars
  | _, [] => []
  | kept, p :: ps =>
    let first := p.first.or kept
    let text := if p.text.isEmpty then [] else recased p.casing first p.text
    let first := if p.text.isEmpty then first else none
    match p.group with
    | none => text ++ written x m none ps
    | some n =>
      let found := m.text x n
      if found.isEmpty then text ++ written x m (if p.first.isSome then first else none) ps
      else text ++ recased p.casing first found ++ written x m none ps

/-- A replacement of the parts that fit, from a certain one on, and what is done then: the line is
run as a command, shown before or behind that, or written to a file. -/
structure Substitution where
  wanted : Option Wanted
  parts : List Part
  all : Bool
  start : Nat
  runs : Bool
  showsBefore : Bool
  showsBehind : Bool
  goal : Option Chars
  deriving DecidableEq, Repr

/-- Replaces what fits from a place on. Nothing is found at once behind another match without a
character in between. The answer has the new text behind that place and whether anything is
replaced. -/
def Substitution.replace (s : Substitution) (r : Regular) (x : Subject) :
    (room from' count : Nat) → (last : Option Nat) → Chars × Bool
  | 0, i, _, _ => (x.part i x.text.size, false)
  | room + 1, i, count, last =>
    match r.findFrom x i with
    | none => (x.part i x.text.size, false)
    | some m =>
      let before := x.part i m.start
      let isVoid := m.stop = m.start
      if isVoid && some m.start = last then
        let (rest, changed) := s.replace r x room (m.start + 1) count none
        (before ++ x.part m.start (m.start + 1) ++ rest, changed)
      else
        let counts := s.start ≤ count + 1
        let text := if counts then written x m none s.parts else x.part m.start m.stop
        if counts && !s.all then (before ++ text ++ x.part m.stop x.text.size, true)
        else
          let skipped := if isVoid then x.part m.stop (m.stop + 1) else []
          let next := if isVoid then m.stop + 1 else m.stop
          let (rest, changed) := if x.text.size < next then ([], false)
            else s.replace r x room next (count + 1) (if isVoid then none else some m.stop)
          (before ++ text ++ skipped ++ rest, counts || changed)

/-- Replaces what fits in a text, if there is anything. -/
def Substitution.apply? (s : Substitution) (w : Wanted) (t : Chars) : Option Chars :=
  let x := Subject.ofChars w.fold t
  let (text, changed) := s.replace w.expression x (t.length + 2) 0 0 none
  if changed then some text else none

/-! ## Commands -/

/-- When a command goes on at a label. -/
inductive Jump
  | always
  | replaced
  | unreplaced
  deriving DecidableEq, Repr

/-- What a command does. A block is passed over up to its end if it is not meant. -/
inductive Action
  | block (stop : Nat)
  | none
  | number
  | append (t : Chars)
  | insert (t : Chars)
  | change (t : Chars)
  | jump (j : Jump) (label : Chars)
  | delete
  | deleteFirst
  | run (command : Chars)
  | fileName
  | take
  | takeMore
  | keep
  | keepMore
  | exchange
  | list (width : Option Nat)
  | next
  | nextMore
  | print
  | printFirst
  | quit (status : Nat) (prints : Bool)
  | readFile (path : Chars)
  | readLine (path : Chars)
  | write (path : Chars)
  | writeFirst (path : Chars)
  | substitute (s : Substitution)
  | translate (pairs : List (Char × Char))
  | clear
  deriving DecidableEq, Repr

/-- A command with the lines for which it is meant, or not meant. -/
structure Command where
  scope : Scope
  negated : Bool
  action : Action
  deriving DecidableEq, Repr

/-- Commands, the places of labels among them, and whether lines are shown only when that is asked
for. -/
structure Script where
  commands : Array Command
  labels : List (Chars × Nat)
  silent : Bool

/-- The files to which a script writes. -/
def Script.goals (s : Script) : List Chars :=
  (s.commands.toList.filterMap fun c =>
    match c.action with
    | .write path | .writeFirst path => some path
    | .substitute s => s.goal
    | _ => Option.none).eraseDups

/-! ## What is shown of a line -/

/-- How a character is shown between plain ones. -/
def shownChar (c : Char) : Chars :=
  match c with
  | '\\' => ['\\', '\\']
  | '\x07' => ['\\', 'a']
  | '\x08' => ['\\', 'b']
  | '\x0c' => ['\\', 'f']
  | '\n' => ['\\', 'n']
  | '\r' => ['\\', 'r']
  | '\t' => ['\\', 't']
  | '\x0b' => ['\\', 'v']
  | c =>
    if ' ' ≤ c && c ≤ '~' then [c]
    else '\\' :: (Nat.toDigits 8 c.toNat).leftpad 3 '0'

/-- A text without doubt about its characters, broken into rows of a width if there is one. -/
def shownLine (width : Nat) (t : Chars) : Chars :=
  let rec go : (column : Nat) → Chars → Chars
    | _, [] => ['$', '\n']
    | column, c :: cs =>
      let shown := shownChar c
      if 1 < width && width - 1 < column + shown.length then
        ['\\', '\n'] ++ shown ++ go shown.length cs
      else shown ++ go (column + shown.length) cs
  go 0 t

end Provision.Editing
