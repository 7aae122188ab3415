import Provision.Decimal.Quantity

/-!
Values, which are numbers or texts, and how one becomes the other.
-/

namespace Provision.Records

open Decimal (Quantity)

/-- A value: none so far, a number, a text, or a text from outside that looks like a number. -/
inductive Value
  | unset
  | number (x : Float)
  | text (t : Chars)
  | seeming (t : Chars) (x : Float)

instance : Inhabited Value := ⟨.unset⟩

def isBlank (c : Char) : Bool := c = ' ' || ('\t' ≤ c && c ≤ '\r')

/-- The number with which a text begins. -/
def leadingNumber (t : Chars) : Float :=
  match Quantity.readPart? t with
  | some (q, _) => q.toFloat
  | none => 0

/-- The number that a text as a whole is. -/
def wholeNumber? (t : Chars) : Option Float :=
  match Quantity.readPart? t with
  | some (q, rest) => if rest.all isBlank then some q.toFloat else none
  | none => none

def isWhole (x : Float) : Bool := x.floor == x

/-- Numbers are written in whole up to here. -/
def greatestWhole : Float := 18446744073709551616

def leastWhole : Float := -9223372036854775808

/-- The whole number that a number is, cut off behind the point. -/
def toInt (x : Float) : Int :=
  if x.isNaN then -9223372036854775808
  else if x < 0 then
    if x < leastWhole then -9223372036854775807 else -(x.abs.toUInt64.toNat : Int)
  else x.toUInt64.toNat

def integerText (n : Int) : Chars :=
  if n < 0 then '-' :: Nat.toDigits 10 n.natAbs else Nat.toDigits 10 n.natAbs

/-- A number by a format, of which it is the only argument. -/
def byFormat (format : Chars) (x : Float) : Chars :=
  let before := format.takeWhile (· ≠ '%')
  let rest := (format.drop before.length).drop 1
  let flags := rest.takeWhile "-+ #0".toList.contains
  let rest := rest.drop flags.length
  let width := rest.takeWhile Char.isDigit
  let rest := rest.drop width.length
  let (precision, rest) : Option Nat × Chars := match rest with
    | '.' :: more =>
      let ds := more.takeWhile Char.isDigit
      (some ((Text.readNat? 10 ds).getD 0), more.drop ds.length)
    | rest => (none, rest)
  match rest with
  | [] => before
  | c :: after =>
    let q := Quantity.ofFloat x
    let sign : Chars := if q.isNegative then ['-'] else if flags.contains '+' then ['+'] else []
    let digits := if c = 'd' || c = 'i' then Nat.toDigits 10 (toInt x).natAbs
      else q.digits c precision (flags.contains '#')
    let t := sign ++ digits
    let n := (Text.readNat? 10 width).getD 0
    before ++ (if flags.contains '-' then t.rightpad n ' ' else t.leftpad n ' ') ++ after

/-- A number as text. Whole ones need no format. -/
def numberText (format : Chars) (x : Float) : Chars :=
  if isWhole x && leastWhole ≤ x && x ≤ greatestWhole then integerText (toInt x)
  else if x.isNaN then "-nan".toList
  else byFormat format x

namespace Value

def toNumber : Value → Float
  | .unset => 0
  | .number x | .seeming _ x => x
  | .text t => leadingNumber t

def toText (format : Chars) : Value → Chars
  | .unset => []
  | .number x => numberText format x
  | .text t | .seeming t _ => t

def isTrue : Value → Bool
  | .unset => false
  | .number x | .seeming _ x => x != 0
  | .text t => !t.isEmpty

/-- A text from outside, which may look like a number. -/
def given (t : Chars) : Value :=
  let start := t.dropWhile isBlank
  let c := start.headD 'x'
  if c.isDigit || "+-.iInN".toList.contains c then
    match wholeNumber? t with
    | some x => .seeming t x
    | none => .text t
  else .text t

def isNumeric : Value → Bool
  | .text _ => false
  | _ => true

end Value

/-- Whether bytes come before others. -/
def comesBefore : Chars → Chars → Bool
  | _, [] => false
  | [], _ :: _ => true
  | a :: as, b :: bs => if a = b then comesBefore as bs else a.toNat < b.toNat

/-- Compares values: as numbers if both can be, otherwise as texts. The answer tells whether the first
is less, and whether both are the same. -/
def order (format : Chars) (v w : Value) : Bool × Bool :=
  if v.isNumeric && w.isNumeric then (v.toNumber < w.toNumber, v.toNumber == w.toNumber)
  else
    let a := v.toText format
    let b := w.toText format
    (comesBefore a b, a = b)

end Provision.Records
