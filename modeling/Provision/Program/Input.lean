import Provision.Program.Basic

/-!
How programs read their inputs: as a whole, or piece by piece, and how they walk down a tree of
files.
-/

namespace Provision.Program

open Bytes (toText ofText)
open Files (FileError Tree)
open Shell (Run)

/-- Does something with what an operand names: the own input or the file at a path. -/
def withOperand {α : Type} (path : Chars) (act : Nat → Run α) : Run (Except FileError α) :=
  if path = ['-'] then return .ok (← act 0) else Run.withFile path .read act

/-- Reads what an operand names. -/
def readOperand (path : Chars) : Run (Except FileError Chars) := do
  match ← withOperand path Run.readAll with
  | .ok r => return r
  | .error e => return .error e

/-- The operands, or the own input if there are none. -/
def orInput (operands : List Chars) : List Chars := if operands.isEmpty then [['-']] else operands

/-- Complains of a path in the name of a program. -/
def complainOf (name : String) (path : Chars) (e : FileError) : Run Nat :=
  complain name (shownPath path ++ ": " ++ e.reason)

/-- Reads all operands one after the other. Those that cannot be read are complained of. The answer
tells whether all could be read. -/
def readOperands (refuse : Chars → FileError → Run Nat) :
    List Chars → Run (List (Chars × Chars) × Bool)
  | [] => return ([], true)
  | path :: rest => do
    match ← readOperand path with
    | .ok text =>
      let (more, good) ← readOperands refuse rest
      return ((path, text) :: more, good)
    | .error e =>
      let _ ← refuse path e
      let (more, _) ← readOperands refuse rest
      return (more, false)

/-- So much output is held back at most. -/
def blockSize : Nat := 4096

/-- Goes through the lines of a descriptor. A step has the line and whether it is ended, and gives
what is to be written and whether to go on. -/
def eachLine {σ : Type} (descriptor : Nat) (mark : Char)
    (step : σ → Chars → Bool → σ × Chars × Bool) :
    Nat → List Chars → Nat → σ → Run (Except FileError σ)
  | 0, held, _, state => do
    let _ ← Run.write 1 held.reverse.flatten
    return .ok state
  | room + 1, held, size, state => do
    let finish : Run (Except FileError σ) := do
      if held.isEmpty then return .ok state
      match ← Run.write 1 held.reverse.flatten with
      | .ok () => return .ok state
      | .error _ => return .ok state
    match ← Run.takeThrough descriptor mark with
    | .error e =>
      let _ ← finish
      return .error e
    | .ok ([], false) => finish
    | .ok (line, ended) =>
      let (state, text, goesOn) := step state line ended
      let held := if text.isEmpty then held else text :: held
      let size := size + text.length
      if !goesOn || !ended then
        let _ ← Run.write 1 held.reverse.flatten
        return .ok state
      else if blockSize ≤ size then
        match ← Run.write 1 held.reverse.flatten with
        | .ok () => eachLine descriptor mark step room [] 0 state
        | .error e => return .error e
      else eachLine descriptor mark step room held size state

/-- There are so many lines at most. -/
def maxLines : Nat := 1000000000000

/-- Goes through the lines of all operands. -/
def throughLines {σ : Type} (refuse : Chars → FileError → Run Nat) (mark : Char)
    (step : σ → Chars → Bool → σ × Chars × Bool) :
    List Chars → σ → Bool → Run (σ × Bool)
  | [], state, good => return (state, good)
  | path :: rest, state, good => do
    match ← withOperand path fun d => eachLine d mark step maxLines [] 0 state with
    | .ok (.ok state) => throughLines refuse mark step rest state good
    | .ok (.error e) | .error e =>
      let _ ← refuse path e
      throughLines refuse mark step rest state false

/-- A line with its mark if it has one. -/
def withMark (line : Chars) (ended : Bool) (mark : Char) : Chars :=
  if ended then line ++ [mark] else line

/-- The lines of a text, each with whether it is ended. -/
def linesWith (mark : Char) (text : Chars) : List (Chars × Bool) :=
  let parts := text.splitOn mark
  let last := parts.getLastD []
  parts.dropLast.map (·, true) ++ if last.isEmpty then [] else [(last, false)]

/-- The lines of a text without what ends them. -/
def linesOf (mark : Char) (text : Chars) : List Chars := (linesWith mark text).map (·.1)

/-- Lines with what ends them. -/
def unlines (mark : Char) (ls : List Chars) : Chars := ls.flatMap (· ++ [mark])

/-- A number at the start of a text, behind blanks and a plus sign if there are any, and what
follows. -/
def leadingCount? (t : Chars) : Option (Nat × Chars) :=
  let t := t.dropWhile fun c => c == ' ' || ('\t' ≤ c && c ≤ '\r')
  let t := if t.head? = some '+' then t.drop 1 else t
  let digits := t.takeWhile Char.isDigit
  (Text.readNat? 10 digits).map fun n => (n, t.drop digits.length)

/-- The names that the file of an option holds, each before a zero byte. With that option there can be
no operands. -/
def namesFrom? (name : String) (status : Nat) (refuse : Chars → FileError → Run Nat)
    (a : Arguments) : Run (Except Nat (Option (List Chars))) := do
  match a.value? "files0-from", a.operands with
  | none, _ => return .ok none
  | some _, extra :: _ =>
    let _ ← complain name ("extra operand " ++ quoted extra)
    Run.complain "file operands cannot be combined with --files0-from"
    return .error (← pointToHelp name status)
  | some path, [] =>
    match ← readOperand path with
    | .ok text => return .ok (some (linesOf '\x00' text))
    | .error e => return .error (← refuse path e)

/-- What a letter behind a number multiplies it by. -/
def multiplier? (suffix : String) : Option Nat :=
  match suffix with
  | "" => some 1
  | "b" => some 512
  | "K" | "k" | "KiB" => some 1024
  | "kB" | "KB" => some 1000
  | "M" | "m" | "MiB" => some (Nat.pow 1024 2)
  | "MB" => some (Nat.pow 1000 2)
  | "G" | "GiB" => some (Nat.pow 1024 3)
  | "GB" => some (Nat.pow 1000 3)
  | "T" | "TiB" => some (Nat.pow 1024 4)
  | "TB" => some (Nat.pow 1000 4)
  | "P" | "PiB" => some (Nat.pow 1024 5)
  | "E" | "EiB" => some (Nat.pow 1024 6)
  | _ => none

/-- A number with a letter behind it that multiplies it. -/
def readSize? (t : Chars) : Option Nat :=
  let number := t.takeWhile Char.isDigit
  let suffix := String.ofList (t.drop number.length)
  match Text.readNat? 10 number, multiplier? suffix with
  | some n, some m => some (n * m)
  | none, some m => if number.isEmpty && !suffix.isEmpty then some m else none
  | _, none => none

/-! ## Walks -/

/-- The path to a name in the directory at a path. -/
def pathIn (directory : Chars) (name : String) : Chars :=
  if directory.getLast? = some '/' then directory ++ ofText name
  else directory ++ '/' :: ofText name

/-- A node with the path to it and how deep it lies below the one from which a walk begins. -/
structure Found where
  path : Chars
  id : Nat
  depth : Nat

/-- A node and those below it, each directory before what it holds. Links are not followed. -/
def walk (t : Tree) (depth : Nat) (path : Chars) (id : Nat) : Nat → List Found
  | 0 => []
  | room + 1 =>
    ⟨path, id, depth⟩ :: (t.entries id).flatMap fun (name, n) =>
      walk t (depth + 1) (pathIn path name) n room

/-- So deep directories may stand in one another. -/
def maxDepth : Nat := 100000

end Provision.Program
