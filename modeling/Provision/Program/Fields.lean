import Provision.Program.Input

/-!
Programs that take lines apart into fields, or put fields together.
-/

namespace Provision.Program

open Bytes (toText ofText)
open Files (FileError)
open Shell (Run)

/-! ## Cutting -/

/-- Numbers from one to another one, which can be beyond all. -/
structure Span where
  first : Nat
  last : Option Nat

def Span.has (s : Span) (n : Nat) : Bool := s.first ≤ n && s.last.all (n ≤ ·)

/-- Why a list of numbers cannot be read. -/
inductive SpanProblem
  | zero
  | backward
  | empty
  | wrong (t : Chars)

/-- Reads numbers and spans of them. -/
def readSpans (t : Chars) : Except SpanProblem (List Span) :=
  ((t.splitOnP fun c => c = ',' || c = ' ' || c = '\t').filter (!·.isEmpty)).mapM fun part =>
    let first := part.takeWhile Char.isDigit
    let number (n : Chars) : Except SpanProblem Nat :=
      match Text.readNat? 10 n with
      | some 0 => .error .zero
      | some n => .ok n
      | none => .error (.wrong part)
    match part.drop first.length with
    | [] => do
      let n ← number first
      return ⟨n, some n⟩
    | ['-'] => do if first.isEmpty then .error .empty else return ⟨← number first, none⟩
    | '-' :: last => do
      let n ← if first.isEmpty then pure 1 else number first
      let m ← number last
      if m < n then .error .backward else return ⟨n, some m⟩
    | _ => .error (.wrong part)

/-- Says why a list of numbers cannot be read. -/
def SpanProblem.message (fields : Bool) : SpanProblem → String
  | .zero => if fields then "fields are numbered from 1" else "byte/character positions are numbered from 1"
  | .backward => "invalid decreasing range"
  | .empty => "invalid range with no endpoint: -"
  | .wrong t => (if fields then "invalid field value " else "invalid byte/character position ") ++ cited t

/-- The parts of a line whose numbers are asked for, with a text between those that do not stand side
by side. -/
def chosenChars (spans : List Span) (complement : Bool) (between : Option Chars) (line : Chars) :
    Chars :=
  let wanted (n : Nat) : Bool := (spans.any (·.has n)) != complement
  let starts (n : Nat) : Bool := !complement && spans.any fun s => s.first = n
  let rec go (n : Nat) (before some' : Bool) : Chars → Chars
    | [] => []
    | c :: cs =>
      if wanted n then
        let gap := match between with
          | some t => if some' && (!before || (starts n && !spans.any fun s => s.first < n && s.has n)) then t
            else []
          | none => []
        gap ++ c :: go (n + 1) true true cs
      else go (n + 1) false some' cs
  go 1 false false line

def cut : Program := fun c args =>
  withArguments c.name (.ofString "b:c:d:f:nsz"
    ["bytes=|b", "characters=|c", "delimiter=|d", "fields=|f", "only-delimited|s",
     "output-delimiter=", "complement", "zero-terminated|z"]) 1 false args fun a => do
    let usage (message : String) : Run Nat := do
      Run.complain (c.name ++ ": " ++ message)
      pointToHelp c.name 1
    let lists := a.options.filter fun o => ["b", "c", "f"].contains o.1
    match lists with
    | [] => usage "you must specify a list of bytes, characters, or fields"
    | _ :: _ :: _ => usage "only one list may be specified"
    | [(kind, text)] =>
      let fields := kind = "f"
      let delimiter := a.value? "d"
      match delimiter with
      | some (_ :: _ :: _) => return ← usage "the delimiter must be a single character"
      | _ => pure ()
      if !fields && delimiter.isSome then
        return ← usage "an input delimiter may be specified only when operating on fields"
      if !fields && a.has "s" then
        return ← usage ("suppressing non-delimited lines makes sense\n\tonly when operating on fields")
      match readSpans text with
      | .error p => usage (p.message fields)
      | .ok spans =>
        if spans.isEmpty then
          return ← usage (if fields then "fields are numbered from 1"
            else "byte/character positions are numbered from 1")
        let mark := if a.has "z" then '\x00' else '\n'
        let d := ((delimiter.map fun t => t.headD '\x00').getD '\t')
        let complement := a.has "complement"
        let between := a.value? "output-delimiter"
        let line (_ : Unit) (l : Chars) (_ : Bool) : Unit × Chars × Bool :=
          if !fields then ((), chosenChars spans complement between l ++ [mark], true)
          else if !l.contains d then ((), if a.has "s" then [] else l ++ [mark], true)
          else
            let parts := (l.splitOn d).mapIdx fun i t => (i + 1, t)
            let chosen := parts.filter fun p => (spans.any (·.has p.1)) != complement
            ((), List.intercalate (between.getD [d]) (chosen.map (·.2)) ++ [mark], true)
        let (_, good) ← throughLines (complainOf c.name) mark line (orInput a.operands) () true
        return if good then 0 else 1

/-! ## Putting together -/

/-- The separators that an argument lists. -/
def separatorsOf : Chars → List Chars
  | '\\' :: 'n' :: rest => ['\n'] :: separatorsOf rest
  | '\\' :: 't' :: rest => ['\t'] :: separatorsOf rest
  | '\\' :: '\\' :: rest => ['\\'] :: separatorsOf rest
  | '\\' :: '0' :: rest => [] :: separatorsOf rest
  | c :: rest => [c] :: separatorsOf rest
  | [] => []

/-- Texts with separators between them, which are taken by turns. -/
def between (separators : List Chars) : Nat → List Chars → Chars
  | _, [] => []
  | _, [t] => t
  | i, t :: ts => t ++ separators.getD (i % max 1 separators.length) [] ++ between separators (i + 1) ts

/-- Takes a line from each descriptor that has one. -/
def takeEach (mark : Char) : List (Option Nat) → Run (List (Option Nat × Option Chars))
  | [] => return []
  | none :: ds => return (none, none) :: (← takeEach mark ds)
  | some d :: ds => do
    match ← Run.takeThrough d mark with
    | .error _ | .ok ([], false) => return (none, none) :: (← takeEach mark ds)
    | .ok (line, _) => return (some d, some line) :: (← takeEach mark ds)

/-- Writes lines side by side as long as there are some. -/
def pasteLines (separators : List Chars) (mark : Char) : Nat → List (Option Nat) → Run Unit
  | 0, _ => return
  | room + 1, ds => do
    let found ← takeEach mark ds
    if found.all fun f => f.2.isNone then return
    match ← Run.write 1 (between separators 0 (found.map fun f => f.2.getD []) ++ [mark]) with
    | .ok () => pasteLines separators mark room (found.map (·.1))
    | .error _ => return

def paste : Program := fun c args =>
  withArguments c.name (.ofString "d:sz" ["serial|s", "delimiters=|d", "zero-terminated|z"]) 1 false
    args fun a => do
    let separators := match separatorsOf ((a.value? "d").getD ['\t']) with
      | [] => [[]]
      | ss => ss
    let mark := if a.has "z" then '\x00' else '\n'
    let operands := orInput a.operands
    let mut status := 0
    if a.has "s" then
      for path in operands do
        match ← readOperand path with
        | .error e => status ← complainOf c.name path e
        | .ok text => let _ ← out c.name (between separators 0 (linesOf mark text) ++ [mark])
      return status
    let mut ds : List (Option Nat) := []
    for path in operands do
      if path = ['-'] then ds := ds ++ [some 0]
      else
        match ← Run.openPath (toText path) .read with
        | .error e => return ← complainOf c.name path e
        | .ok stream =>
          let d ← Run.freeDescriptor 3
          Run.setDescriptor d (some stream)
          ds := ds ++ [some d]
    pasteLines separators mark maxLines ds
    return status

/-! ## Tables -/

/-- Rows in columns of the same width. -/
def tableText (separator : Chars) (rows : List (List Chars)) : Chars :=
  let count := (rows.map (·.length)).foldl max 0
  let width (i : Nat) : Nat := (rows.map fun r => (r.getD i []).length).foldl max 0
  let widths := (List.range count).map width
  rows.flatMap fun r =>
    let cells := r.mapIdx fun i t =>
      if i + 1 = r.length && i + 1 = count then t
      else if i + 1 = count then t else t.rightpad (widths.getD i 0) ' '
    List.intercalate separator cells ++ ['\n']

/-- Texts that are put into columns one below the other, as many as fit on a line. -/
def columnsText (width : Nat) (texts : List Chars) : Chars :=
  let widest := (texts.map (·.length)).foldl max 0
  let cell := (widest / 8 + 1) * 8
  let across := max 1 (width / cell)
  let deep := (texts.length + across - 1) / across
  (List.range deep).flatMap fun r =>
    let indices := (List.range texts.length).filter fun i => i % max 1 deep = r
    let cells := indices.mapIdx fun column i =>
      let t := texts.getD i []
      if column + 1 = indices.length then t
      else t ++ List.replicate ((cell - t.length + 7) / 8) '\t'
    cells.flatten ++ ['\n']

def column : Program := fun c args =>
  withArguments c.name (.ofString "ts:o:c:xnN:R:d"
    ["table|t", "separator=|s", "output-separator=|o", "output-width=|c", "fillrows|x",
     "table-columns=|N", "table-right=|R"]) 1 false args fun a => do
    let refuse (path : Chars) (e : FileError) : Run Nat :=
      complain c.name ("cannot open " ++ toText path ++ ": " ++ e.reason)
    let (texts, good) ← readOperands refuse (orInput a.operands)
    let ls := (texts.flatMap fun t => linesOf '\n' t.2).filter fun l => l.any fun ch => !isSpace ch
    if a.has "t" then
      let separators := (a.value? "s").getD [' ', '\t']
      let split (l : Chars) : List Chars :=
        let parts := l.splitOnP separators.contains
        if a.has "s" then parts else parts.filter (!·.isEmpty)
      let names := ((a.value? "N").map fun t => [t.splitOn ',']).getD []
      let _ ← out c.name (tableText ((a.value? "o").getD "  ".toList) (names ++ ls.map split))
    else
      let width := ((a.value? "c").bind (Text.readNat? 10)).getD 80
      let _ ← out c.name (columnsText width ls)
    return if good then 0 else 1
where
  isSpace (ch : Char) : Bool := ch == ' ' || ch == '\t'

end Provision.Program
