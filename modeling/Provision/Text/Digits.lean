namespace Provision.Text

def hexDigit (upper : Bool) (d : Nat) : Char :=
  if d < 10 then Char.ofNat (48 + d) else Char.ofNat ((if upper then 55 else 87) + d)

/-- The last `width` hexadecimal digits of a number. -/
def hex (upper : Bool) : (width n : Nat) → List Char
  | 0, _ => []
  | width + 1, n => hex upper width (n / 16) ++ [hexDigit upper (n % 16)]

@[simp] theorem length_hex (upper : Bool) (width n : Nat) : (hex upper width n).length = width := by
  induction width generalizing n with
  | zero => rfl
  | succ width ih => simp [hex, ih]

/-- The decimal digits of a number, with zeros in front up to a width. -/
def padded (width n : Nat) : List Char :=
  (Nat.toDigits 10 n).leftpad width '0'

/-- The value of a digit in bases up to sixteen. -/
def digitValue? (c : Char) : Option Nat :=
  if '0' ≤ c ∧ c ≤ '9' then some (c.toNat - 48)
  else if 'a' ≤ c ∧ c ≤ 'f' then some (c.toNat - 87)
  else if 'A' ≤ c ∧ c ≤ 'F' then some (c.toNat - 55)
  else none

/-- Reads a number from digits of a base, of which there has to be one. -/
def readNat? (base : Nat) : List Char → Option Nat
  | [] => none
  | cs => cs.foldl (fun n c => do
      let n ← n
      let d ← digitValue? c
      if d < base then some (n * base + d) else none) (some 0)

end Provision.Text
