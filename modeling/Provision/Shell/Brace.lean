import Provision.Shell.Script
import Provision.Text.Digits

namespace Provision.Shell

/-- A character of a word that is not quoted, or any other part of it. -/
inductive Atom
  | char (c : Char)
  | part (p : Part)

namespace Atom

def ofParts (w : List Part) : List Atom :=
  w.flatMap fun
    | .literal false cs => cs.map .char
    | p => [.part p]

def toParts : List Atom → List Part
  | [] => []
  | .char c :: rest =>
    match toParts rest with
    | .literal false cs :: more => .literal false (c :: cs) :: more
    | more => .literal false [c] :: more
  | .part p :: rest => p :: toParts rest

/-- The alternatives behind an opening brace, as far as they are read, and what follows the closing
brace. The depth counts the braces that stand inside. -/
def alternatives : (depth : Nat) → (present : List Atom) → List Atom →
    Option (List (List Atom) × List Atom)
  | _, _, [] => none
  | depth, present, a :: rest =>
    match a, depth with
    | .char '\x7d', 0 => some ([present.reverse], rest)
    | .char ',', 0 =>
      (alternatives 0 [] rest).map fun (more, after) => (present.reverse :: more, after)
    | .char '\x7d', depth + 1 => alternatives depth (a :: present) rest
    | .char '\x7b', depth => alternatives (depth + 1) (a :: present) rest
    | _, depth => alternatives depth (a :: present) rest

/-- A whole number with its sign. -/
def readInt? (cs : Chars) : Option Int :=
  match cs with
  | '-' :: rest => (Text.readNat? 10 rest).map fun n => -(n : Int)
  | '+' :: rest => (Text.readNat? 10 rest).map (·)
  | _ => (Text.readNat? 10 cs).map (·)

/-- The numbers from one to another by steps. -/
def span (first last step : Int) : List Int :=
  let step := if step = 0 then 1 else step.natAbs
  (List.range ((last - first).natAbs / step + 1)).map fun (n : Nat) =>
    if first ≤ last then first + (n * step : Nat) else first - (n * step : Nat)

/-- The width to which numbers are filled up, if one of them is written with a zero in front. -/
def fillWidth (a b : Chars) : Nat :=
  let isFilled (cs : Chars) : Bool :=
    match cs with
    | '0' :: _ :: _ | '-' :: '0' :: _ :: _ => true
    | _ => false
  if isFilled a || isFilled b then max a.length b.length else 0

def writeInt (width : Nat) (n : Int) : Chars :=
  if n < 0 then '-' :: Text.padded (width - 1) n.natAbs else Text.padded width n.natAbs

/-- The texts of a range such as from one number or letter to another. -/
def range? (cs : Chars) : Option (List Chars) :=
  let make (a b : Chars) (step : Int) : Option (List Chars) :=
    match a, b with
    | [c], [d] =>
      if c.isAlpha ∧ d.isAlpha then
        some ((span c.toNat d.toNat step).map fun n => [Char.ofNat n.toNat])
      else none
    | _, _ => none
  let numbers (a b : Chars) (step : Int) : Option (List Chars) := do
    let width := fillWidth a b
    return (span (← readInt? a) (← readInt? b) step).map (writeInt width)
  match (String.ofList cs).splitOn ".." with
  | [a, b] => (numbers a.toList b.toList 1).or (make a.toList b.toList 1)
  | [a, b, s] => do
    let step ← readInt? s.toList
    (numbers a.toList b.toList step).or (make a.toList b.toList step)
  | _ => none

def plain? : List Atom → Option Chars
  | [] => some []
  | .char c :: rest => (plain? rest).map (c :: ·)
  | .part _ :: _ => none

/-- The words that braces make of one, in their order. -/
def expand : Nat → List Atom → List (List Atom)
  | 0, atoms => [atoms]
  | _ + 1, [] => [[]]
  | room + 1, .char '\x7b' :: rest =>
    let kept := (expand room rest).map (.char '\x7b' :: ·)
    match alternatives 0 [] rest with
    | none => kept
    | some ([single], after) =>
      match (plain? single).bind range? with
      | some texts =>
        let ends := expand room after
        texts.flatMap fun text => ends.map (text.map .char ++ ·)
      | none => kept
    | some (choices, after) =>
      let ends := expand room after
      choices.flatMap fun choice => (expand room choice).flatMap fun a => ends.map (a ++ ·)
  | room + 1, a :: rest => (expand room rest).map (a :: ·)

end Atom

/-- The words that the braces of one make, each by its parts. -/
def braced (w : List Part) : List (List Part) :=
  let atoms := Atom.ofParts w
  if atoms.any fun
    | .char '\x7b' => true
    | _ => false then
    (Atom.expand (atoms.length + 1) atoms).map Atom.toParts
  else [w]

end Provision.Shell
