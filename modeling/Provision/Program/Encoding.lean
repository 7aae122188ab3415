import Provision.Program.Input

/-!
Programs that write bytes with few characters, and that read them back.
-/

namespace Provision.Program

open Bytes (toText ofText)
open Shell (Run)

namespace Encoding

/-- A way to write bytes: the characters that stand for so many bits each, in groups of so many, which
are filled up at the end. -/
structure Code where
  alphabet : Chars
  bits : Nat
  group : Nat
  fills : Bool
  lowFirst : Bool := false

def letters : Chars := "ABCDEFGHIJKLMNOPQRSTUVWXYZ".toList

def sixtyFour (last : String) : Code :=
  ⟨letters ++ letters.map Char.toLower ++ "0123456789".toList ++ last.toList, 6, 4, true, false⟩

def base64 : Code := sixtyFour "+/"
def base64url : Code := sixtyFour "-_"
def base32 : Code := ⟨letters ++ "234567".toList, 5, 8, true, false⟩
def base32hex : Code := ⟨"0123456789ABCDEFGHIJKLMNOPQRSTUV".toList, 5, 8, true, false⟩
def base16 : Code := ⟨"0123456789ABCDEF".toList, 4, 2, false, false⟩
def base2 (lowFirst : Bool) : Code := ⟨"01".toList, 1, 8, false, lowFirst⟩

namespace Code

/-- The bits of a number, the highest one first. -/
def bitsOf : (places n : Nat) → List Bool
  | 0, _ => []
  | places + 1, n => bitsOf places (n / 2) ++ [n % 2 == 1]

def ofBits (bs : List Bool) : Nat := bs.foldl (fun n b => 2 * n + if b then 1 else 0) 0

/-- Writes the bits of some bytes. -/
def writeBits (k : Code) : (room : Nat) → List Bool → Chars
  | 0, _ => []
  | room + 1, bs =>
    if bs.isEmpty then []
    else
      k.alphabet.getD (ofBits ((bs.take k.bits).rightpad k.bits false)) '=' ::
        writeBits k room (bs.drop k.bits)

/-- Writes the bytes of one group. -/
def writeGroup (k : Code) (bytes : Chars) : Chars :=
  let bits := bytes.flatMap fun c =>
    let bs := bitsOf 8 c.toNat
    if k.lowFirst then bs.reverse else bs
  let t := k.writeBits (bits.length + 1) bits
  if k.fills then t.rightpad k.group '=' else t

/-- Writes bytes. -/
def write (k : Code) : (room : Nat) → Chars → List Chars → Chars
  | 0, _, written => written.reverse.flatten
  | room + 1, bytes, written =>
    let size := k.group * k.bits / 8
    if bytes.isEmpty then written.reverse.flatten
    else k.write room (bytes.drop size) (k.writeGroup (bytes.take size) :: written)

/-- The bits that a character stands for. -/
def bitsOf? (k : Code) (c : Char) : Option (List Bool) :=
  (k.alphabet.idxOf? c).map (bitsOf k.bits)

/-- The bytes that whole bits stand for, of which some at the end can be left over. -/
def bytesOf (k : Code) : (room : Nat) → List Bool → Chars
  | 0, _ => []
  | room + 1, bs =>
    if bs.length < 8 then []
    else
      let eight := if k.lowFirst then (bs.take 8).reverse else bs.take 8
      Char.ofNat (ofBits eight) :: bytesOf k room (bs.drop 8)

/-- Reads one group. What can be read is given even if the group is not right. -/
def readGroup (k : Code) (t : Chars) : Chars × Bool :=
  let digits := t.takeWhile fun c => (k.bitsOf? c).isSome
  let rest := t.drop digits.length
  let bits := digits.flatMap fun c => (k.bitsOf? c).getD []
  let bytes := k.bytesOf 9 bits
  let isFilled := k.fills && t.length = k.group && rest.all (· = '=') && !bytes.isEmpty &&
    (digits.length - 1) * k.bits / 8 < digits.length * k.bits / 8
  (bytes, digits.length = k.group || isFilled)

/-- Reads what was written. The answer tells too whether all of it was right. -/
def read (k : Code) : (room : Nat) → Chars → List Chars → Chars × Bool
  | 0, _, found => (found.reverse.flatten, true)
  | room + 1, t, found =>
    if t.isEmpty then (found.reverse.flatten, true)
    else
      match k.readGroup (t.take k.group) with
      | (bytes, true) => k.read room (t.drop k.group) (bytes :: found)
      | (bytes, false) => ((bytes :: found).reverse.flatten, false)

end Code

/-- Lines of a width. -/
def wrapped (width : Nat) : (room : Nat) → Chars → List Chars → Chars
  | 0, _, ls => ls.reverse.flatten
  | room + 1, t, ls =>
    if t.isEmpty then ls.reverse.flatten
    else wrapped width room (t.drop width) (['\n'] :: t.take width :: ls)

/-- Writes or reads the input by a code. -/
def work (name : String) (k : Code) (a : Arguments) : Run Nat := do
  let width := (a.value? "w").getD "76".toList
  match Text.readNat? 10 width, a.operands with
  | none, _ => complain name ("invalid wrap size: " ++ cited width)
  | _, _ :: extra :: _ => refuseOperand name extra
  | some width, operands =>
    let path := operands.headD ['-']
    match ← readOperand path with
    | .error e =>
      if e = .isADirectory then complain name ("read error: " ++ e.reason)
      else complainOf name path e
    | .ok content =>
      if a.has "d" then
        let kept := content.filter fun c =>
          c ≠ '\n' && (!a.has "i" || k.alphabet.contains c || (k.fills && c = '='))
        let (bytes, good) := k.read (kept.length + 1) kept []
        let _ ← out name bytes
        if good then return 0 else complain name "invalid input"
      else
        let t := k.write (content.length + 1) content []
        out name (if width = 0 then t else wrapped width (t.length + 1) t [])

def codes : List (String × Code) :=
  [("base64", base64), ("base64url", base64url), ("base32", base32), ("base32hex", base32hex),
   ("base16", base16), ("base2msbf", base2 false), ("base2lsbf", base2 true)]

def names : List String := ["decode|d", "wrap=|w", "ignore-garbage|i"]

def codeProgram (k : Code) : Program := fun c args =>
  withArguments c.name (.ofString "diw:" names) 1 false args fun a => work c.name k a

end Encoding

open Encoding

def base64 : Program := codeProgram Encoding.base64

def base32 : Program := codeProgram Encoding.base32

def basenc : Program := fun c args =>
  withArguments c.name (.ofString "diw:" (names ++ codes.map (·.1))) 1 false args fun a =>
    match (a.lastOf? (codes.map (·.1))).bind fun w => codes.lookup w with
    | some k => work c.name k a
    | none => misuse c.name "missing encoding type"

end Provision.Program
