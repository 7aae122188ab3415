import Provision.Decimal.Quantity
import Provision.Program.Input

/-!
Orders of texts: by their bytes, by numbers and months in them, and by the parts that keys name.
-/

namespace Provision.Program

/-- Whether a character stands between fields if nothing else does. -/
def isBlankIn (c : Char) : Bool := c == ' ' || c == '\t' || c == '\n'

/-! ## Comparing -/

/-- A decimal number at the start of a text: whether it is negative, the digits before its point, and
those behind it. -/
def leadingNumber (t : Chars) : Bool × Chars × Chars × Chars :=
  let t := t.dropWhile isBlankIn
  let (negative, t) := match t with
    | '-' :: rest => (true, rest)
    | t => (false, t)
  let whole := t.takeWhile Char.isDigit
  let rest := t.drop whole.length
  match rest with
  | '.' :: more =>
    let part := more.takeWhile Char.isDigit
    (negative, whole, part, more.drop part.length)
  | _ => (negative, whole, [], rest)

def decimalValue (digits : Chars) : Nat := digits.foldl (fun n c => n * 10 + (c.toNat - 48)) 0

/-- Compares decimal numbers. -/
def compareNumbers (a b : Bool × Chars × Chars) : Ordering :=
  let scaled (x : Bool × Chars × Chars) (places : Nat) : Int :=
    let n : Int := decimalValue (x.2.1 ++ x.2.2.rightpad places '0')
    if x.1 then -n else n
  let places := max a.2.2.length b.2.2.length
  compare (scaled a places) (scaled b places)

/-- The power that a letter behind a number stands for. -/
def sizeOrder (rest : Chars) : Nat :=
  match rest with
  | c :: _ => match "KMGTPEZY".toList.idxOf? (if c = 'k' then 'K' else c) with
    | some i => i + 1
    | none => 0
  | [] => 0

/-- Compares sizes with letters behind them. -/
def compareSizes (a b : Chars) : Ordering :=
  let (na, wa, pa, ra) := leadingNumber a
  let (nb, wb, pb, rb) := leadingNumber b
  let isZero (w p : Chars) : Bool := (w ++ p).all (· == '0')
  let rank (n : Bool) (w p r : Chars) : Int :=
    if isZero w p then 0 else if n then -(sizeOrder r + 1 : Nat) else (sizeOrder r + 1 : Nat)
  (compare (rank na wa pa ra) (rank nb wb pb rb)).then (compareNumbers (na, wa, pa) (nb, wb, pb))

def months : List String :=
  ["JAN", "FEB", "MAR", "APR", "MAY", "JUN", "JUL", "AUG", "SEP", "OCT", "NOV", "DEC"]

/-- The number of a month, or zero. -/
def monthOf (t : Chars) : Nat :=
  let name := String.ofList (((t.dropWhile isBlankIn).take 3).map Char.toUpper)
  match months.idxOf? name with
  | some i => i + 1
  | none => 0

/-- Compares numbers in any form. What is no number comes first. -/
def compareGeneral (a b : Chars) : Ordering :=
  let value (t : Chars) : Option Decimal.Quantity :=
    (Decimal.Quantity.readPart? (t.dropWhile isBlankIn)).map (·.1)
  let rank : Option Decimal.Quantity → Nat
    | none => 0
    | some (.notANumber _) => 1
    | some (.infinite true) => 2
    | some (.finite ..) => 3
    | some (.infinite false) => 4
  let x := value a
  let y := value b
  (compare (rank x) (rank y)).then (match x, y with
    | some (.finite m r), some (.finite n q) =>
      let sign (m : Bool) (n : Nat) : Int := if m then -n else n
      compare (sign m (r.num * q.den)) (sign n (q.num * r.den))
    | _, _ => .eq)

/-! ### Versions -/

/-- The place of a character among versions, where the end of a text has a place too. -/
def versionRank (ending : Int) (c : Option Char) : Int :=
  match c with
  | none => ending
  | some c =>
    if c.isDigit then 0
    else if c.isAlpha then c.toNat
    else if c = '~' then -2
    else c.toNat + 256

/-- Compares versions: texts without digits and numbers by turns. -/
def compareVersions (ending : Int) : Nat → Chars → Chars → Ordering
  | 0, _, _ => .eq
  | room + 1, a, b =>
    if a.isEmpty && b.isEmpty then .eq
    else
      let rec letters : Nat → Chars → Chars → Ordering × Chars × Chars
        | 0, a, b => (.eq, a, b)
        | n + 1, a, b =>
          let p := a.head?
          let q := b.head?
          if (p.any (!·.isDigit)) || (q.any (!·.isDigit)) then
            match compare (versionRank ending p) (versionRank ending q) with
            | .eq => letters n (a.drop 1) (b.drop 1)
            | o => (o, a, b)
          else (.eq, a, b)
      match letters (a.length + b.length) a b with
      | (.eq, a, b) =>
        let m := (a.takeWhile Char.isDigit)
        let n := (b.takeWhile Char.isDigit)
        (compare (decimalValue m) (decimalValue n)).then
          (compareVersions ending room (a.drop m.length) (b.drop n.length))
      | (o, _, _) => o

/-- A name without what looks like the suffixes of a file. -/
def withoutSuffix (t : Chars) : Chars :=
  let rec go : Nat → Chars → Chars
    | 0, t => t
    | n + 1, t =>
      let tail := t.reverse.takeWhile fun c => c.isAlphanum || c == '~'
      let name := t.take (t.length - tail.length)
      match name.getLast?, tail.getLast? with
      | some '.', some c =>
        if (c.isAlpha || c == '~') && 1 < name.length then go n name.dropLast else t
      | _, _ => t
  go t.length t

/-- Compares the names of files by the versions in them. -/
def compareFileVersions (a b : Chars) : Ordering :=
  if a = b then .eq
  else
    let special (t : Chars) : Nat :=
      if t.isEmpty then 0 else if t = ['.'] then 1 else if t = ['.', '.'] then 2
      else if t.head? = some '.' then 3 else 4
    match compare (special a) (special b) with
    | .eq =>
      let x := withoutSuffix a
      let y := withoutSuffix b
      let (p, q) := if x = y then (a, b) else (x, y)
      match compareVersions (-1) (p.length + q.length + 1) p q with
      | .eq => compareVersions (-1) (a.length + b.length + 1) a b
      | o => o
    | o => o

/-- Compares texts by their bytes. -/
def compareBytes (a b : Chars) : Ordering :=
  if a = b then .eq else if Bytes.precedes a b then .lt else .gt

/-! ## Keys -/

/-- The manner in which parts of lines are compared: the letters of what is wanted, and whether blanks
are skipped where a part starts and where it ends. -/
structure Manner where
  letters : List Char := []
  skipsStart : Bool := false
  skipsEnd : Bool := false

namespace Manner

def has (m : Manner) (c : Char) : Bool := m.letters.contains c

/-- Reads the letters of a manner. A `b` counts where a part starts, where it ends, or for both. -/
def read (atStart atEnd : Bool) : Chars → Manner → Manner × Chars
  | [], m => (m, [])
  | c :: cs, m =>
    if c = 'b' then
      read atStart atEnd cs
        { m with skipsStart := m.skipsStart || atStart, skipsEnd := m.skipsEnd || atEnd }
    else if "dfghiMnRrV".toList.contains c then
      read atStart atEnd cs { m with letters := c :: m.letters }
    else (m, c :: cs)

/-- Whether a manner asks for nothing, except that the order be turned round. -/
def isPlain (m : Manner) : Bool :=
  m.letters.all (· == 'r') && !m.skipsStart && !m.skipsEnd

/-- The letters of a manner that cannot be wanted together. -/
def conflict? (m : Manner) : Option String :=
  let numeric := ['n', 'g', 'h', 'M'].filter m.has
  let textual := ['V', 'R', 'd', 'i'].any m.has
  if 1 < numeric.length + (if textual then 1 else 0) then
    let shown := "dfghiMnRV".toList.filter fun c => m.has c && !(c = 'i' && m.has 'd')
    some (String.ofList shown)
  else none

/-- Compares parts. -/
def compare (m : Manner) (a b : Chars) : Ordering :=
  let shaped (t : Chars) : Chars :=
    let t := if m.has 'd' then t.filter fun c => isBlankIn c || c.isAlphanum
      else if m.has 'i' then t.filter isShown
      else t
    if m.has 'f' then t.map Char.toUpper else t
  let a := shaped a
  let b := shaped b
  let result : Ordering :=
    if m.has 'n' then
      let (na, wa, pa, _) := leadingNumber a
      let (nb, wb, pb, _) := leadingNumber b
      compareNumbers (na, wa, pa) (nb, wb, pb)
    else if m.has 'g' then compareGeneral a b
    else if m.has 'h' then compareSizes a b
    else if m.has 'M' then Ord.compare (monthOf a) (monthOf b)
    else if m.has 'V' then compareFileVersions a b
    else compareBytes a b
  if m.has 'r' then result.swap else result

end Manner

/-- A part of a line by which it is sorted: from a character of a field to a character of another one,
or to its end if that is the character zero. Without a last field it goes on to the end of the line. -/
structure SortKey where
  field : Nat := 0
  offset : Nat := 0
  last : Option (Nat × Nat) := none
  manner : Manner := {}

namespace SortKey

/-- The text behind so many fields. -/
def skipFields (separator : Option Char) : Nat → Chars → Chars
  | 0, t => t
  | n + 1, t =>
    match separator with
    | some s => skipFields separator n ((t.dropWhile (· != s)).drop 1)
    | none => skipFields separator n ((t.dropWhile isBlankIn).dropWhile (!isBlankIn ·))

/-- What follows a key in a line. -/
def behind (k : SortKey) (separator : Option Char) (line : Chars) : Chars :=
  match k.last with
  | none => []
  | some (field, 0) =>
    match separator with
    | none => skipFields separator (field + 1) line
    | some s => (skipFields separator field line).dropWhile (· != s)
  | some (field, offset) =>
    let rest := skipFields separator field line
    (if k.manner.skipsEnd then rest.dropWhile isBlankIn else rest).drop offset

/-- The text of a key in a line. -/
def of (k : SortKey) (separator : Option Char) (line : Chars) : Chars :=
  let rest := skipFields separator k.field line
  let rest := if k.manner.skipsStart then rest.dropWhile isBlankIn else rest
  let rest := rest.drop k.offset
  rest.take (rest.length - (k.behind separator line).length)

/-- Reads a number of a key. -/
def readCount (what : String) (t : Chars) : Except String (Nat × Chars) :=
  match leadingCount? t with
  | some r => .ok r
  | none => .error (what ++ ": invalid count at start of " ++ cited t)

/-- Reads a key: where it starts, and behind a comma where it ends, each with letters behind it. -/
def read (t : Chars) : Except String SortKey := do
  let refuse {α : Type} (what : String) : Except String α :=
    .error (what ++ ": invalid field specification " ++ cited t)
  let (field, rest) ← readCount "invalid number at field start" t
  if field = 0 then refuse "field number is zero"
  let (offset, rest) ← match rest with
    | '.' :: more => readCount "invalid number after '.'" more
    | _ => pure (1, rest)
  if offset = 0 then refuse "character offset is zero"
  let (manner, rest) := Manner.read true false rest {}
  let key : SortKey := { field := field - 1, offset := offset - 1, manner }
  let (key, rest) ← match rest with
    | ',' :: more => do
      let (last, rest) ← readCount "invalid number after ','" more
      if last = 0 then refuse "field number is zero"
      let (stop, rest) ← match rest with
        | '.' :: more => readCount "invalid number after '.'" more
        | _ => pure (0, rest)
      let (manner, rest) := Manner.read false true rest manner
      pure ({ key with last := some (last - 1, stop), manner }, rest)
    | _ => pure (key, rest)
  if rest.isEmpty then return key else refuse "stray character in field spec"

end SortKey

end Provision.Program
