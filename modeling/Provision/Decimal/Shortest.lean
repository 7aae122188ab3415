
namespace Provision.Decimal

/-- A positive rational number. -/
structure Ratio where
  num : Nat
  den : Nat
  deriving DecidableEq, Repr

/-- The number `n · b ^ e`. -/
def Ratio.scale (b n : Nat) : Int → Ratio
  | .ofNat e => ⟨n * Nat.pow b e, 1⟩
  | .negSucc e => ⟨n, Nat.pow b (e + 1)⟩

def Ratio.mul (a b : Ratio) : Ratio := ⟨a.num * b.num, a.den * b.den⟩

def Ratio.lt (a b : Ratio) : Bool := a.num * b.den < b.num * a.den

def Ratio.le (a b : Ratio) : Bool := a.num * b.den ≤ b.num * a.den

/-- A positive double, which is `significand · 2 ^ exponent`. Of the numbers that round to it the
least is half as far away as usual if `narrow` holds. -/
structure Binary where
  significand : Nat
  exponent : Int
  narrow : Bool
  deriving DecidableEq, Repr

/-- What the bits of a double stand for. -/
inductive Double
  | zero (negative : Bool)
  | finite (negative : Bool) (value : Binary)
  | infinite (negative : Bool)
  | notANumber
  deriving DecidableEq, Repr

/-- The fraction of a double has fifty-two bits. -/
def fractionSpan : Nat := 0x10000000000000

/-- The exponent of a double has eleven bits. -/
def exponentSpan : Nat := 0x800

def Double.ofBits (bits : Nat) : Double :=
  let negative := bits / (exponentSpan * fractionSpan) % 2 == 1
  let exponent := bits / fractionSpan % exponentSpan
  let fraction := bits % fractionSpan
  if exponent + 1 = exponentSpan then if fraction = 0 then .infinite negative else .notANumber
  else if exponent = 0 then
    if fraction = 0 then .zero negative else .finite negative ⟨fraction, -1074, false⟩
  else
    .finite negative
      ⟨fraction + fractionSpan, (exponent : Int) - 1075, fraction == 0 && 1 < exponent⟩

namespace Binary

def value (b : Binary) : Ratio := Ratio.scale 2 (4 * b.significand) (b.exponent - 2)

def least (b : Binary) : Ratio :=
  Ratio.scale 2 (4 * b.significand - if b.narrow then 1 else 2) (b.exponent - 2)

def greatest (b : Binary) : Ratio := Ratio.scale 2 (4 * b.significand + 2) (b.exponent - 2)

/-- Whether a number rounds to the double. The ends of the interval do if the double is even. -/
def rounds (b : Binary) (r : Ratio) : Bool :=
  if b.significand % 2 = 0 then b.least.le r && r.le b.greatest
  else b.least.lt r && r.lt b.greatest

end Binary

/-- The decimal number `digits · 10 ^ exponent`. -/
structure Scientific where
  digits : Nat
  exponent : Int
  deriving DecidableEq, Repr

def Scientific.value (s : Scientific) : Ratio := Ratio.scale 10 s.digits s.exponent

/-- The number of digits before the decimal point, or minus the zeros right after it. -/
def magnitude (r : Ratio) : Int :=
  let guess := ((Nat.toDigits 10 r.num).length : Int) - (Nat.toDigits 10 r.den).length
  if (Ratio.scale 10 1 guess).le r then guess + 1 else guess

/-- The distance of a double from the decimal number below it is not greater than that from the
next one, and of two equal distances the even number counts as nearer. -/
def isNearerBelow (r : Ratio) (s : Scientific) : Bool :=
  let middle := Ratio.scale 10 (2 * s.digits + 1) s.exponent
  let twice := Ratio.mul ⟨2, 1⟩ r
  if twice.num * middle.den = middle.num * twice.den then s.digits % 2 == 0 else twice.lt middle

/-- The decimal number with steps of `10 ^ exponent` that is nearest to a double among those that
round to it, if one of the two neighbours does. -/
def onGrid? (b : Binary) (exponent : Int) : Option Scientific :=
  let scaled := Ratio.mul b.value (Ratio.scale 10 1 (-exponent))
  let below : Scientific := ⟨scaled.num / scaled.den, exponent⟩
  let above : Scientific := ⟨scaled.num / scaled.den + 1, exponent⟩
  match b.rounds below.value, b.rounds above.value with
  | true, true => some (if isNearerBelow b.value below then below else above)
  | true, false => some below
  | false, true => some above
  | false, false => none

/-- The decimal number with the fewest digits that rounds to a double. Seventeen are enough. -/
def shortest (b : Binary) : Scientific :=
  let size := magnitude b.value
  let found := (List.range' 1 17).findSome? fun (n : Nat) => onGrid? b (size - n)
  found.getD ⟨0, 0⟩

/-- A number without the zeros at the end of its digits. -/
def Scientific.reduce (s : Scientific) : Scientific :=
  let digits := Nat.toDigits 10 s.digits
  let zeros := (digits.reverse.takeWhile (· == '0')).length
  ⟨s.digits / Nat.pow 10 zeros, s.exponent + zeros⟩

/-- How numbers are written: without an exponent from `10 ^ (lowest - 1)` up to `10 ^ highest`. -/
structure Format where
  lowest : Int
  highest : Int
  exponentSign : Bool

/-- Writes a positive number. Without an exponent there is a digit on either side of the point, and
with one the point is left out if no digit follows. -/
def Format.write (f : Format) (s : Scientific) : List Char :=
  let s := s.reduce
  let digits := Nat.toDigits 10 s.digits
  let point := s.exponent + digits.length
  if f.lowest ≤ point ∧ point ≤ f.highest then
    match point with
    | .ofNat p =>
      if p = 0 then '0' :: '.' :: digits
      else if digits.length ≤ p then
        digits ++ List.replicate (p - digits.length) '0' ++ ['.', '0']
      else digits.take p ++ '.' :: digits.drop p
    | .negSucc z => '0' :: '.' :: List.replicate (z + 1) '0' ++ digits
  else
    let e := point - 1
    let sign := if e < 0 then ['-'] else if f.exponentSign then ['+'] else []
    digits.take 1 ++ (if digits.length = 1 then [] else '.' :: digits.drop 1) ++
      'e' :: sign ++ Nat.toDigits 10 e.natAbs


/-- A quotient to the nearest whole number, and to the even one of two that are equally near. -/
def roundDiv (n d : Nat) : Nat :=
  let q := n / d
  let r := n % d
  if 2 * r < d ∨ (2 * r = d ∧ q % 2 = 0) then q else q + 1

/-- Writes a number of units of which `10 ^ places` make one. -/
def pointed (places units : Nat) : List Char :=
  let digits := (Nat.toDigits 10 units).leftpad (places + 1) '0'
  let whole := digits.length - places
  if places = 0 then digits else digits.take whole ++ '.' :: digits.drop whole

/-- Writes a positive number with a fixed number of decimal places. -/
def Ratio.fixed (r : Ratio) (places : Nat) : List Char :=
  pointed places (roundDiv (r.num * Nat.pow 10 places) r.den)

/-- Writes a positive double with a fixed number of decimal places. -/
def Double.fixed (places : Nat) : Double → List Char
  | .finite _ b => b.value.fixed places
  | _ => pointed places 0

end Provision.Decimal
