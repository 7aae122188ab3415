import Provision.Records.Value
import Provision.Regular.Basic

/-!
How texts are split into fields and records, and how parts of them are replaced.
-/

namespace Provision.Records

open Regular (Match)

/-- What stands between fields: runs of blanks, nothing, one character, or what fits an
expression. -/
inductive Separator
  | blanks
  | nothing
  | one (c : Char)
  | fitting (r : Regular)

/-- The pieces of a text between parts that fit, of which none is empty. -/
def piecesBetween (r : Regular) (x : Subject) : (room : Nat) → (start from' : Nat) → List Chars
  | 0, start, _ => [x.part start x.text.size]
  | room + 1, start, from' =>
    match r.findFrom x from' with
    | none => [x.part start x.text.size]
    | some m =>
      if m.stop = m.start then
        if x.text.size ≤ m.start then [x.part start x.text.size]
        else piecesBetween r x room start (m.start + 1)
      else x.part start m.start :: piecesBetween r x room m.stop m.stop

/-- The words of a text. -/
def words : (room : Nat) → Chars → List Chars
  | 0, _ => []
  | room + 1, t =>
    let t := t.dropWhile isBlank
    if t.isEmpty then []
    else
      let w := t.takeWhile (!isBlank ·)
      w :: words room (t.drop w.length)

/-- The fields of a text. -/
def Separator.split (s : Separator) (t : Chars) : List Chars :=
  if t.isEmpty then []
  else
    match s with
    | .blanks => words (t.length + 1) t
    | .nothing => t.map fun c => [c]
    | .one c => t.splitOn c
    | .fitting r =>
      let x := Subject.ofChars false t
      piecesBetween r x (t.length + 1) 0 0

/-- What is put in the place of a match. -/
inductive Part
  | text (t : Chars)
  | whole
  deriving DecidableEq

/-- Reads what is put in the place of a match: a sign stands for it, unless a backslash stands
before. -/
def readParts : (room : Nat) → Chars → List Part
  | 0, _ => []
  | _ + 1, [] => []
  | room + 1, '\\' :: '&' :: rest => .text ['&'] :: readParts room rest
  | room + 1, '\\' :: '\\' :: rest => .text ['\\'] :: readParts room rest
  | room + 1, '&' :: rest => .whole :: readParts room rest
  | room + 1, c :: rest => .text [c] :: readParts room rest

def Part.written (m : Chars) : Part → Chars
  | .text t => t
  | .whole => m

/-- Replaces the first match from a place on, or all. The answer tells how many there were. -/
def replaceFrom (r : Regular) (ps : List Part) (x : Subject) (all : Bool) :
    (room : Nat) → (from' : Nat) → (barred : Option Nat) → Chars × Nat
  | 0, i, _ => (x.part i x.text.size, 0)
  | room + 1, i, barred =>
    match r.findFrom x i with
    | none => (x.part i x.text.size, 0)
    | some m =>
      let before := x.part i m.start
      if m.stop = m.start then
        let here := if barred = some m.start then [] else ps.flatMap (Part.written [])
        let count := if barred = some m.start then 0 else 1
        if !all && count = 1 then (before ++ here ++ x.part m.start x.text.size, 1)
        else if x.text.size ≤ m.start then (before ++ here, count)
        else
          let (t, n) := replaceFrom r ps x all room (m.start + 1) none
          (before ++ here ++ x.part m.start (m.start + 1) ++ t, n + count)
      else
        let here := ps.flatMap (Part.written (x.part m.start m.stop))
        if all then
          let (t, n) := replaceFrom r ps x all room m.stop (some m.stop)
          (before ++ here ++ t, n + 1)
        else (before ++ here ++ x.part m.stop x.text.size, 1)

def replace (r : Regular) (ps : List Part) (all : Bool) (t : Chars) : Chars × Nat :=
  replaceFrom r ps (.ofChars false t) all (t.length + 2) 0 none

end Provision.Records
