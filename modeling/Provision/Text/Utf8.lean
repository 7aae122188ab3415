
namespace Provision.Text

/-- The character that stands for bytes that make no sense. -/
def replacement : Char := '\uFFFD'

/-- What the first byte of a character beyond ASCII tells: its own bits, how many bytes follow, and
the bounds of the first of them. -/
def leadByte? (b : Nat) : Option (Nat × Nat × Nat × Nat) :=
  if 0xC2 ≤ b ∧ b ≤ 0xDF then some (b - 0xC0, 1, 0x80, 0xBF)
  else if b = 0xE0 then some (0, 2, 0xA0, 0xBF)
  else if b = 0xED then some (0xD, 2, 0x80, 0x9F)
  else if 0xE1 ≤ b ∧ b ≤ 0xEF then some (b - 0xE0, 2, 0x80, 0xBF)
  else if b = 0xF0 then some (0, 3, 0x90, 0xBF)
  else if 0xF1 ≤ b ∧ b ≤ 0xF3 then some (b - 0xF0, 3, 0x80, 0xBF)
  else if b = 0xF4 then some (4, 3, 0x80, 0x8F)
  else none

/-- Reads the bytes that follow the first one, as far as they fit. -/
def tailBytes (value : Nat) : (count low high : Nat) → List UInt8 → Option Nat × List UInt8
  | 0, _, _, bs => (some value, bs)
  | _ + 1, _, _, [] => (none, [])
  | count + 1, low, high, b :: bs =>
    if low ≤ b.toNat ∧ b.toNat ≤ high then
      tailBytes (value * 64 + (b.toNat - 0x80)) count 0x80 0xBF bs
    else (none, b :: bs)

theorem length_tailBytes_le (value count low high : Nat) (bs : List UInt8) :
    (tailBytes value count low high bs).2.length ≤ bs.length := by
  induction bs generalizing value count low high with
  | nil => cases count <;> simp [tailBytes]
  | cons b bs ih =>
    cases count with
    | zero => simp [tailBytes]
    | succ count =>
      simp only [tailBytes]
      split
      · exact Nat.le_succ_of_le (ih ..)
      · simp

/-- Reads a text, with one replacement character for each longest run of bytes that begins a
character but does not end it, and for each byte that begins none. -/
def decodeLossy : List UInt8 → List Char
  | [] => []
  | b :: bs =>
    if b.toNat < 0x80 then Char.ofNat b.toNat :: decodeLossy bs
    else
      match leadByte? b.toNat with
      | none => replacement :: decodeLossy bs
      | some (value, count, low, high) =>
        let result := tailBytes value count low high bs
        (result.1.map Char.ofNat).getD replacement :: decodeLossy result.2
termination_by bs => bs.length
decreasing_by
  · simp
  · simp
  · exact Nat.lt_succ_of_le (length_tailBytes_le ..)

def encode (s : String) : List UInt8 := s.toUTF8.toList

end Provision.Text

namespace Provision

/-- A text of which each byte is a character of its own, the one with the number of the byte. -/
abbrev Chars := List Char

namespace Bytes

def ofBytes (bs : List UInt8) : Chars := bs.map fun b => Char.ofNat b.toNat

def toBytes (cs : Chars) : List UInt8 := cs.map fun c => UInt8.ofNat c.toNat

def toText (cs : Chars) : String := String.ofList (Text.decodeLossy (toBytes cs))

def ofText (s : String) : Chars := ofBytes (Text.encode s)

/-- Whether a text comes before another one, or is the same, where bytes are compared. -/
def precedes : Chars → Chars → Bool
  | [], _ => true
  | _ :: _, [] => false
  | a :: as, b :: bs => if a = b then precedes as bs else a.toNat < b.toNat

/-- Texts in ascending order. -/
def sorted (ts : List Chars) : List Chars := ts.mergeSort precedes

end Bytes

end Provision
