import Provision.Decimal.Shortest
import Provision.Text.Digits
import Provision.Text.Utf8

namespace Provision.Decimal

/-- A number as it is written: a fraction with its sign, one beyond all others, or none at all. -/
inductive Quantity
  | finite (negative : Bool) (r : Ratio)
  | infinite (negative : Bool)
  | notANumber (negative : Bool)
  deriving DecidableEq, Repr

namespace Quantity

def isNegative : Quantity → Bool
  | .finite n _ | .infinite n | .notANumber n => n

/-! ## Reading -/

/-- Reads the digits of a number in a base, with a point among them, and what follows. The answer
holds the number and how many of the digits stand behind the point. -/
def readDigits (base : Nat) (cs : Chars) : Option (Nat × Nat × Chars) :=
  let isDigit (c : Char) : Bool := (Text.digitValue? c).any (· < base)
  let whole := cs.takeWhile isDigit
  let (fraction, rest) := match cs.drop whole.length with
    | '.' :: rest => (rest.takeWhile isDigit, rest.drop (rest.takeWhile isDigit).length)
    | rest => ([], rest)
  (Text.readNat? base (whole ++ fraction)).map fun n => (n, fraction.length, rest)

/-- Reads an exponent behind its letter, if there is one. -/
def readExponent (letters : Chars) (cs : Chars) : Int × Chars :=
  match cs with
  | c :: rest =>
    if !letters.contains c then (0, cs)
    else
      let (negative, digits) : Bool × Chars := match rest with
        | '-' :: rest => (true, rest)
        | '+' :: rest => (false, rest)
        | _ => (false, rest)
      let text := digits.takeWhile Char.isDigit
      match Text.readNat? 10 text with
      | some n => (if negative then -(n : Int) else n, digits.drop text.length)
      | none => (0, cs)
  | [] => (0, cs)

/-- An exponent counts up to here, lest numbers get too large to be handled. -/
def clamp (e : Int) : Int := max (-6000) (min 6000 e)

/-- Whether a text begins with letters, be they of either case. -/
def beginsWith (word : String) (cs : Chars) : Bool :=
  (cs.take word.length).map Char.toLower = word.toList

/-- Reads the longest beginning that is a number, and what follows. -/
def readPart? (cs : Chars) : Option (Quantity × Chars) :=
  let cs := cs.dropWhile fun c => c == ' ' || ('\t' ≤ c && c ≤ '\r')
  let (negative, rest) := match cs with
    | '-' :: rest => (true, rest)
    | '+' :: rest => (false, rest)
    | _ => (false, cs)
  if beginsWith "infinity" rest then some (.infinite negative, rest.drop 8)
  else if beginsWith "inf" rest then some (.infinite negative, rest.drop 3)
  else if beginsWith "nan" rest then some (.notANumber negative, rest.drop 3)
  else
    let decimal : Option (Quantity × Chars) :=
      (readDigits 10 rest).map fun (n, places, rest) =>
        let (e, rest) := readExponent ['e', 'E'] rest
        (.finite negative (Ratio.scale 10 n (clamp e - places)), rest)
    if beginsWith "0x" rest then
      match readDigits 16 (rest.drop 2) with
      | some (n, places, rest) =>
        let (e, rest) := readExponent ['p', 'P'] rest
        some (.finite negative (Ratio.scale 2 n (clamp e - 4 * places)), rest)
      | none => decimal
    else decimal

/-- Reads a number. -/
def read? (cs : Chars) : Option Quantity :=
  match readPart? cs with
  | some (q, []) => some q
  | _ => none

/-! ## Rounding -/

/-- The binary exponent at which a number has so many bits before the point. -/
def binaryExponent (bits : Nat) (r : Ratio) : Int :=
  let guess : Int := (Nat.log2 r.num : Int) - Nat.log2 r.den
  let e := guess - bits + 1
  let scaled := Ratio.mul r (Ratio.scale 2 1 (-e))
  if scaled.num < Nat.pow 2 (bits - 1) * scaled.den then e - 1
  else if Nat.pow 2 bits * scaled.den ≤ scaled.num then e + 1
  else e

/-- The nearest fraction whose numerator has so many bits, up to a power of two. -/
def roundTo (bits : Nat) (r : Ratio) : Ratio :=
  if r.num = 0 then r
  else
    let e := binaryExponent bits r
    let scaled := Ratio.mul r (Ratio.scale 2 1 (-e))
    Ratio.scale 2 (roundDiv scaled.num scaled.den) e

/-- A number as wide registers hold it. -/
def wide : Quantity → Quantity
  | .finite n r => .finite n (roundTo 64 r)
  | q => q

/-! ## Writing -/

/-- A mantissa with so many places behind the point, and its exponent. -/
def mantissa (places : Nat) (r : Ratio) : Nat × Int :=
  if r.num = 0 then (0, 0)
  else
    let e := magnitude r - 1
    let scaled := Ratio.mul r (Ratio.scale 10 1 (places - e))
    let m := roundDiv scaled.num scaled.den
    if Nat.pow 10 (places + 1) ≤ m then (m / 10, e + 1) else (m, e)

def exponentText (letter : Char) (e : Int) : Chars :=
  letter :: (if e < 0 then '-' else '+') :: Text.padded 2 e.natAbs

/-- A mantissa and a power of ten. -/
def scientific (places : Nat) (r : Ratio) : Chars :=
  let (m, e) := mantissa places r
  pointed places m ++ exponentText 'e' e

/-- Drops the zeros at the end of a fraction, and its point if nothing else is left. -/
def withoutZeros (t : Chars) : Chars :=
  if !t.contains '.' then t
  else
    let short := (t.reverse.dropWhile (· == '0')).reverse
    if short.getLast? = some '.' then short.dropLast else short

/-- The shorter of both forms, with so many digits. -/
def general (precision : Nat) (keepZeros : Bool) (r : Ratio) : Chars :=
  let p := if precision = 0 then 1 else precision
  let (m, e) := mantissa (p - 1) r
  let strip (t : Chars) : Chars := if keepZeros then t else withoutZeros t
  if -4 ≤ e && e < p then strip (r.fixed (p - 1 - e : Int).toNat)
  else strip (pointed (p - 1) m) ++ exponentText 'e' e

/-- The digits of a number, without its sign, in the form of a conversion. -/
def digits (conversion : Char) (precision : Option Nat) (alternative : Bool) (q : Quantity) :
    Chars :=
  let upper := conversion.isUpper
  let text : Chars := match q with
    | .infinite _ => "inf".toList
    | .notANumber _ => "nan".toList
    | .finite _ r =>
      let places := precision.getD 6
      match conversion.toLower with
      | 'e' => scientific places r
      | 'g' => general places alternative r
      | _ => r.fixed places
  if upper then text.map Char.toUpper else text

/-- The number that a double is. -/
def ofFloat (x : Float) : Quantity :=
  match Double.ofBits x.toBits.toNat with
  | .zero n => .finite n ⟨0, 1⟩
  | .finite n b => .finite n b.value
  | .infinite n => .infinite n
  | .notANumber => .notANumber (0x8000000000000000 ≤ x.toBits.toNat)

/-- The double that is nearest to a number. -/
def toFloat : Quantity → Float
  | .infinite n => if n then -(1.0 / 0.0) else 1.0 / 0.0
  | .notANumber n => if n then -(0.0 / 0.0) else 0.0 / 0.0
  | .finite n r =>
    let x :=
      if r.num = 0 then 0.0
      else if r.den = 1 && r.num < 0x20000000000000 then Float.ofNat r.num
      else
        let e := max (-1074) (binaryExponent 53 r)
        let scaled := Ratio.mul r (Ratio.scale 2 1 (-e))
        (Float.ofNat (roundDiv scaled.num scaled.den)).scaleB e
    if n then -x else x

end Quantity

end Provision.Decimal
