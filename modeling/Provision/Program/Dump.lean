import Provision.Program.Input

/-!
The program that shows the bytes of its input in columns.
-/

namespace Provision.Program

open Bytes (toText ofText)
open Files (FileError)
open Shell (Run)

namespace Dump

/-- What a column shows: numbers of so many bytes in a base, with or without a sign, or
characters. -/
inductive Column
  | number (base : Nat) (signed : Bool) (size : Nat)
  | escaped
  | named
  deriving DecidableEq

/-- A row of columns, which can have the characters themselves behind it. -/
structure Row where
  column : Column
  shows : Bool := false
  deriving DecidableEq

namespace Column

/-- The bytes that one column takes. -/
def size : Column → Nat
  | .number _ _ n => n
  | _ => 1

/-- The characters that the longest column takes. -/
def width : Column → Nat
  | .number 8 _ n => match n with
    | 1 => 3
    | 2 => 6
    | 4 => 11
    | _ => 22
  | .number 16 _ n => 2 * n
  | .number _ isSigned n =>
    let digits := match n with
      | 1 => 3
      | 2 => 5
      | 4 => 10
      | _ => if isSigned then 19 else 20
    if isSigned then digits + 1 else digits
  | _ => 3

/-- The number that bytes stand for. -/
def value (highFirst : Bool) (bytes : Chars) : Nat :=
  (if highFirst then bytes else bytes.reverse).foldl (fun n c => n * 256 + c.toNat) 0

def names : List String :=
  ["nul", "soh", "stx", "etx", "eot", "enq", "ack", "bel", "bs", "ht", "nl", "vt", "ff", "cr", "so",
   "si", "dle", "dc1", "dc2", "dc3", "dc4", "nak", "syn", "etb", "can", "em", "sub", "esc", "fs",
   "gs", "rs", "us", "sp"]

def escapedText (c : Char) : Chars :=
  match c with
  | '\x00' => ['\\', '0']
  | '\x07' => ['\\', 'a']
  | '\x08' => ['\\', 'b']
  | '\x0c' => ['\\', 'f']
  | '\n' => ['\\', 'n']
  | '\r' => ['\\', 'r']
  | '\t' => ['\\', 't']
  | '\x0b' => ['\\', 'v']
  | c => if isShown c then [c] else (Nat.toDigits 8 c.toNat).leftpad 3 '0'

/-- What a column shows of its bytes. -/
def text (k : Column) (highFirst : Bool) (bytes : Chars) : Chars :=
  let n := value highFirst bytes
  match k with
  | .number 10 true size =>
    let half := Nat.pow 2 (8 * size - 1)
    if n < half then Nat.toDigits 10 n else '-' :: Nat.toDigits 10 (2 * half - n)
  | .number 10 false _ => Nat.toDigits 10 n
  | .number base _ _ => (Nat.toDigits base n).leftpad k.width '0'
  | .escaped => escapedText (bytes.headD '\x00')
  | .named =>
    let low := n % 128
    if low = 127 then "del".toList
    else if low ≤ 32 then (names.getD low "").toList else [Char.ofNat low]

end Column

/-- How bytes are shown. -/
structure Style where
  rows : List Row
  width : Nat
  radix : Option (Nat × Nat)
  all : Bool
  highFirst : Bool

def address (s : Style) (n : Nat) : Chars :=
  match s.radix with
  | some (base, width) => (Nat.toDigits base n).leftpad width '0'
  | none => []

/-- The space that a block takes in the widest row. -/
def blockWidth (s : Style) : Nat :=
  s.rows.foldl (fun w r =>
    max w ((s.width / max 1 r.column.size) * (r.column.width + 1))) 0

/-- Writes one row of a block. All rows are equally wide, and what is left is spread over the
columns. -/
def rowText (s : Style) (r : Row) (block : Chars) : Chars :=
  let size := max 1 r.column.size
  let count := s.width / size
  let spare := blockWidth s - count * r.column.width
  let used := (block.length + size - 1) / size
  let columns := (List.range used).flatMap fun i =>
    let bytes := (block.drop (i * size)).take size
    let here := spare * (count - i) / count - spare * (count - i - 1) / count
    (r.column.text s.highFirst (bytes.rightpad size '\x00')).leftpad (here + r.column.width) ' '
  let rest := spare * (count - used) / count + (count - used) * r.column.width
  if r.shows then
    columns ++ List.replicate rest ' ' ++ "  >".toList ++
      block.map (fun c => if isShown c then c else '.') ++ ['<']
  else columns

/-- Writes a block with its address. -/
def blockText (s : Style) (start : Nat) (block : Chars) : Chars :=
  let margin := List.replicate (match s.radix with
    | some (_, width) => width
    | none => 0) ' '
  (s.rows.mapIdx fun i r =>
    (if i = 0 then address s start else margin) ++ rowText s r block ++ ['\n']).flatten

/-- Writes all blocks. Of equal ones that follow each other only the first is shown, unless all are
asked for. -/
def blocksText (s : Style) : (room start : Nat) → Chars → Option Chars → Bool → List Chars → Chars
  | 0, _, _, _, _, written => written.reverse.flatten
  | room + 1, start, bytes, before, starred, written =>
    let block := bytes.take s.width
    let rest := bytes.drop s.width
    if block.isEmpty then
      (match s.radix with
        | some _ => (address s start ++ ['\n']) :: written
        | none => written).reverse.flatten
    else if !s.all && before = some block && block.length = s.width then
      blocksText s room (start + s.width) rest before true
        (if starred then written else ['*', '\n'] :: written)
    else
      blocksText s room (start + block.length) rest (some block) false
        (blockText s start block :: written)

/-! ## Options -/

/-- The size that a letter or a number stands for. -/
def sizeOf? (t : Chars) : Option Nat × Chars :=
  match t with
  | 'C' :: rest => (some 1, rest)
  | 'S' :: rest => (some 2, rest)
  | 'I' :: rest => (some 4, rest)
  | 'L' :: rest => (some 8, rest)
  | t =>
    let digits := t.takeWhile Char.isDigit
    (if digits.isEmpty then some 4 else Text.readNat? 10 digits, t.drop digits.length)

/-- Reads what rows shall show. -/
def readRows (whole : Chars) : (room : Nat) → Chars → Except String (List Row)
  | 0, _ => .ok []
  | _ + 1, [] => .ok []
  | room + 1, c :: rest => do
    let finish (k : Column) (rest : Chars) : Except String (List Row) := do
      let shows := rest.head? = some 'z'
      let more ← readRows whole room (if shows then rest.drop 1 else rest)
      return ⟨k, shows⟩ :: more
    match c with
    | 'a' => finish .named rest
    | 'c' => finish .escaped rest
    | 'd' | 'o' | 'u' | 'x' =>
      let base := match c with
        | 'o' => 8
        | 'x' => 16
        | _ => 10
      match sizeOf? rest with
      | (some n, rest) =>
        if [1, 2, 4, 8].contains n then finish (.number base (c = 'd') n) rest
        else
          throw ("invalid type string " ++ cited whole ++ ";\nthis system doesn't provide a " ++
            toString n ++ "-byte integral type")
      | (none, _) => throw ("invalid type string " ++ cited whole)
    | c =>
      throw ("invalid character '" ++ toText [c] ++ "' in type string " ++ cited whole)

/-- The rows that single letters ask for. -/
def rowsOfLetter? (letter : String) : Option String :=
  match letter with
  | "a" => some "a"
  | "b" => some "o1"
  | "c" => some "c"
  | "d" => some "u2"
  | "o" | "B" => some "o2"
  | "s" => some "d2"
  | "h" | "x" => some "x2"
  | "i" => some "d4"
  | "l" | "I" | "L" => some "d8"
  | "D" => some "u4"
  | "O" => some "o4"
  | "H" | "X" => some "x4"
  | _ => none

def radixOf? (t : Chars) : Option (Option (Nat × Nat)) :=
  match t.head? with
  | some 'd' => some (some (10, 7))
  | some 'o' => some (some (8, 7))
  | some 'x' => some (some (16, 6))
  | some 'n' => some none
  | _ => none

/-- Reads a number that can be one of the base of eight or of sixteen. -/
def readCount? (t : Chars) : Option Nat :=
  match t with
  | '0' :: 'x' :: rest | '0' :: 'X' :: rest => Text.readNat? 16 rest
  | '0' :: c :: rest => if c.isDigit then Text.readNat? 8 (c :: rest) else readSize? t
  | t => readSize? t

/-- An offset in the old form: behind a plus sign, in the base of eight unless it says
otherwise. -/
def oldOffset? (t : Chars) : Option Nat :=
  let t := if t.head? = some '+' then t.drop 1 else t
  let (t, unit) := if t.getLast? = some 'b' then (t.dropLast, 512) else (t, 1)
  let n := match t with
    | '0' :: 'x' :: rest => Text.readNat? 16 rest
    | t =>
      if t.getLast? = some '.' then Text.readNat? 10 t.dropLast else Text.readNat? 8 t
  n.map (· * unit)

def spec : Spec :=
  .ofString "A:aBbcDdeFfHhIij:LlN:OoS:st:vw::Xx"
    ["skip-bytes=|j", "address-radix=|A", "read-bytes=|N", "format=|t", "output-duplicates|v",
     "strings?|S", "traditional", "width?|w", "endian="]

/-- The operands that are files, and an offset in the old form. -/
def operandsOf (a : Arguments) : List Chars × Nat :=
  let isModern := ["A", "j", "N", "t", "v", "w"].any a.has
  let (operand, files) := match a.operands with
    | [one] => (if one.head? = some '+' then some one else none, [])
    | [file, one] =>
      (if one.head? = some '+' || one.head?.any Char.isDigit then some one else none, [file])
    | _ => (none, [])
  match if isModern then none else operand.bind oldOffset? with
  | some n => (files, n)
  | none => (a.operands, 0)

/-- The strings of characters that can be shown, each ended by a zero and not too short. -/
def strings (s : Style) (least : Nat) :
    (room start : Nat) → Chars → List Chars → Chars
  | 0, _, _, found => found.reverse.flatten
  | room + 1, start, bytes, found =>
    match bytes with
    | [] => found.reverse.flatten
    | _ =>
      let run := bytes.takeWhile isShown
      let rest := bytes.drop run.length
      let next := start + run.length + 1
      if rest.head? = some '\x00' && least ≤ run.length then
        let lead := match s.radix with
          | some _ => address s start ++ [' ']
          | none => []
        strings s least room next (rest.drop 1) ((lead ++ run ++ ['\n']) :: found)
      else strings s least room next (rest.drop 1) found

end Dump

open Dump in
def od : Program := fun c args =>
  withArguments c.name spec 1 false args fun a => do
    let words := a.options.filterMap fun (key, value) =>
      if key = "t" then some value else (rowsOfLetter? key).map String.toList
    let mut rows : List Row := []
    for w in words do
      match readRows w (w.length + 1) w with
      | .ok more => rows := rows ++ more
      | .error message => return ← complain c.name message
    if rows.isEmpty then rows := [⟨.number 8 false 2, false⟩]
    let radix ← match (a.value? "A").map fun t => (t, radixOf? t) with
      | none => pure (some (8, 7))
      | some (_, some r) => pure r
      | some (t, none) =>
        return ← complain c.name ("invalid output address radix '" ++ toText (t.take 1) ++
          "'; it must be one character from [doxn]")
    for key in ["j", "N", "S", "w"] do
      match a.value? key with
      | some t =>
        if (readCount? t).isNone && !(key = "w" && t.isEmpty) then
          return ← complain c.name ("invalid -" ++ key ++ " argument '" ++ toText t ++ "'")
      | none => pure ()
    let unit := rows.foldl (fun n r => max n r.column.size) 1
    let asked := match a.value? "w" with
      | some [] => some 32
      | some t => readCount? t
      | none => none
    let width := match asked with
      | some 0 | none => 16
      | some n => if n % unit = 0 then n else unit
    match asked with
    | some n =>
      if n ≠ width then
        Run.complain (c.name ++ ": warning: invalid width " ++ toString n ++ "; using " ++
          toString width ++ " instead")
    | none => pure ()
    let (operands, old) := operandsOf a
    let (texts, good) ← readOperands (fun path e => complainOf c.name path e) (orInput operands)
    let whole := texts.flatMap (·.2)
    let skipped := old + (((a.value? "j").bind readCount?).getD 0)
    if whole.length < skipped then
      return ← complain c.name "cannot skip past end of combined input"
    let bytes := whole.drop skipped
    let bytes := match (a.value? "N").bind readCount? with
      | some n => bytes.take n
      | none => bytes
    let t ← Run.tree
    if !good && texts.isEmpty && !operands.any (fun o => t.isDirectory (toText o)) then return 1
    let s : Style := ⟨rows, width, radix, a.has "v", a.value? "endian" = some "big".toList⟩
    let t := match a.value? "S" with
      | some n => strings s ((readCount? n).getD 3) (bytes.length + 1) skipped bytes []
      | none => blocksText s (bytes.length + 2) skipped bytes none false []
    let status ← out c.name t
    return if good then status else 1

end Provision.Program
