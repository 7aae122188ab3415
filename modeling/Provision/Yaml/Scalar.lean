import Provision.Text.Digits

namespace Provision.Yaml

/-- The words that stand for null. -/
def nullWords : List String := ["", "~", "null", "Null", "NULL"]

/-- The words that stand for a truth value. -/
def booleanWords : List String := ["true", "True", "TRUE", "false", "False", "FALSE"]

/-- The words that stand for an infinity or for no number. -/
def specialWords : List String :=
  [".inf", ".Inf", ".INF", "+.inf", "+.Inf", "+.INF", "-.inf", "-.Inf", "-.INF",
   ".nan", ".NaN", ".NAN"]

/-- A text without the sign in front of it. -/
def unsigned : List Char → List Char
  | '+' :: cs => cs
  | '-' :: cs => cs
  | cs => cs

/-- Digits after a needless zero. They are no number, although they look like one. -/
def isZeroPadded (cs : List Char) : Bool :=
  match unsigned cs with
  | '0' :: d :: ds => (d :: ds).all Char.isDigit
  | _ => false

/-- The magnitude of an integer in decimal notation, or after `0x`, `0o` or `0b` in another. -/
def magnitude? : List Char → Option Nat
  | '0' :: 'x' :: cs => Text.readNat? 16 cs
  | '0' :: 'o' :: cs => Text.readNat? 8 cs
  | '0' :: 'b' :: cs => Text.readNat? 2 cs
  | cs => Text.readNat? 10 cs

/-- An integer that fits in 128 bits. -/
def isInteger (cs : List Char) : Bool :=
  match cs, magnitude? (unsigned cs) with
  | '-' :: _, some n => n ≤ Nat.pow 2 127
  | _, some n => n < Nat.pow 2 128
  | _, none => false

/-- Digits with an exponent of ten. -/
structure Decimal where
  digits : Nat
  exponent : Int
  deriving DecidableEq, Repr

/-- Reads the exponent at the end of a number, which may be left out. -/
def exponent? : List Char → Option Int
  | [] => some 0
  | e :: cs =>
    if e = 'e' ∨ e = 'E' then
      (Text.readNat? 10 (unsigned cs)).map fun n => if cs.head? = some '-' then -n else n
    else none

/-- Reads a number without a sign. One digit before or after the point is enough. -/
def decimal? (cs : List Char) : Option Decimal :=
  let whole := cs.takeWhile Char.isDigit
  let rest := cs.dropWhile Char.isDigit
  let (fraction, tail) := match rest with
    | '.' :: more => (more.takeWhile Char.isDigit, more.dropWhile Char.isDigit)
    | _ => ([], rest)
  match Text.readNat? 10 (whole ++ fraction), exponent? tail with
  | some digits, some e => some ⟨digits, e - fraction.length⟩
  | _, _ => none

/-- From here on the nearest double is an infinity. -/
def doubleLimit : Nat := Nat.pow 2 1024 - Nat.pow 2 970

/-- Whether the nearest double is finite. -/
def Decimal.isFinite (d : Decimal) : Bool :=
  let size := (Nat.toDigits 10 d.digits).length
  if d.digits = 0 then true
  else
    match d.exponent with
    | .ofNat e => if 310 < size + e then false else d.digits * Nat.pow 10 e < doubleLimit
    | .negSucc e => if size ≤ e then true else d.digits < doubleLimit * Nat.pow 10 (e + 1)

/-- A number with a point or an exponent that is no infinity. -/
def isReal (cs : List Char) : Bool :=
  match decimal? (unsigned cs) with
  | some d => d.isFinite
  | none => false

/-- A plain text that would not be read back as a string, or that only looks as if it would not. -/
def needsQuotes (s : String) : Bool :=
  let cs := s.toList
  nullWords.contains s || booleanWords.contains s || specialWords.contains s ||
    isInteger cs || isZeroPadded cs || isReal cs

/-! ## How a text is written -/

def isBreak (c : Char) : Bool :=
  c == '\n' || c == '\r' || c == '\u0085' || c == '\u2028' || c == '\u2029'

/-- A blank, a break, or the end of a text. -/
def isGap : Option Char → Bool
  | none => true
  | some c => c == ' ' || c == '\t' || c == '\x00' || isBreak c

/-- The characters that may be written as they are. -/
def isPrintable (c : Char) : Bool :=
  let n := c.toNat
  n == 0x0A || (0x20 ≤ n && n ≤ 0x7E) || (0xA0 ≤ n && n ≤ 0xFFFD && n != 0xFEFF) || 0x10000 ≤ n

/-- Some character of the first class stands right before one of the second. -/
def hasPair (p q : Char → Bool) : List Char → Bool
  | a :: b :: cs => (p a && q b) || hasPair p q (b :: cs)
  | _ => false

/-- Something inside a text that would end it or mean something else. -/
def hasInnerIndicator : List Char → Bool
  | a :: b :: cs =>
    (b == ':' && isGap cs.head?) || (b == '#' && isGap (some a)) || hasInnerIndicator (b :: cs)
  | _ => false

/-- Something at the start of a text that would make it mean something else. -/
def hasLeadingIndicator : List Char → Bool
  | [] => false
  | c :: cs =>
    "#,[]\x7b\x7d&*!|>'\"%@`".contains c ||
      ((c == '?' || c == ':' || c == '-') && isGap cs.head?) ||
      ['-', '-'].isPrefixOf cs && c == '-' || ['.', '.'].isPrefixOf cs && c == '.'

/-- The ways to write a string. -/
inductive Style
  | plain
  | single
  | double
  | literal
  deriving DecidableEq, Repr

def hasPrintableText (cs : List Char) : Bool :=
  cs.all isPrintable && !hasPair (· == ' ') isBreak cs

def plainAllowed (cs : List Char) : Bool :=
  hasPrintableText cs && !cs.any isBreak && cs.head? != some ' ' && cs.getLast? != some ' ' &&
    !hasLeadingIndicator cs && !hasInnerIndicator cs

def singleAllowed (cs : List Char) : Bool :=
  hasPrintableText cs && !hasPair isBreak (· == ' ') cs

def literalAllowed (cs : List Char) : Bool :=
  hasPrintableText cs && !cs.isEmpty && cs.getLast? != some ' '

/-- A text of several lines is written line by line if it can be. Else quotes are used where they
are needed, and double quotes where single ones will not do. -/
def style (s : String) : Style :=
  let cs := s.toList
  if cs.contains '\n' then if literalAllowed cs then .literal else .double
  else if plainAllowed cs && !needsQuotes s then .plain
  else if singleAllowed cs then .single
  else .double

/-- The letter that stands for a character after a backslash. -/
def escapeLetter? (c : Char) : Option Char :=
  match c.toNat with
  | 0x00 => some '0'
  | 0x07 => some 'a'
  | 0x08 => some 'b'
  | 0x09 => some 't'
  | 0x0A => some 'n'
  | 0x0B => some 'v'
  | 0x0C => some 'f'
  | 0x0D => some 'r'
  | 0x1B => some 'e'
  | 0x22 => some '"'
  | 0x5C => some '\\'
  | 0x85 => some 'N'
  | 0x2028 => some 'L'
  | 0x2029 => some 'P'
  | _ => none

def escape (c : Char) : List Char :=
  match escapeLetter? c with
  | some letter => ['\\', letter]
  | none =>
    if isPrintable c then [c]
    else if c.toNat ≤ 0xFF then '\\' :: 'x' :: Text.hex true 2 c.toNat
    else if c.toNat ≤ 0xFFFF then '\\' :: 'u' :: Text.hex true 4 c.toNat
    else '\\' :: 'U' :: Text.hex true 8 c.toNat

def indentation (n : Nat) : List Char := List.replicate n ' '

/-- Writes a text so that what follows a break is indented. -/
def indented (n : Nat) (afterBreak : Bool) (f : Char → List Char) : List Char → List Char
  | [] => []
  | c :: cs =>
    if isBreak c then c :: indented n true f cs
    else (if afterBreak then indentation n else []) ++ f c ++ indented n false f cs

/-- What the header of a literal says: the depth of a margin that could be mistaken, and whether
the breaks at the end of the text count. -/
def literalHints (cs : List Char) : List Char :=
  let margin := match cs.head? with
    | some c => if c == ' ' || isBreak c then ['2'] else []
    | none => []
  let ends := match cs.reverse with
    | a :: b :: _ => if !isBreak a then ['-'] else if isBreak b then ['+'] else []
    | [a] => if isBreak a then ['+'] else ['-']
    | [] => ['-']
  margin ++ ends

/-- A string in its style. Lines after the first are indented by `n`. -/
def scalar (n : Nat) (s : String) : List Char :=
  let cs := s.toList
  match style s with
  | .plain => cs
  | .single =>
    '\'' :: indented n false (fun c => if c = '\'' then ['\'', '\''] else [c]) cs ++ ['\'']
  | .double => '"' :: cs.flatMap escape ++ ['"']
  | .literal => '|' :: literalHints cs ++ '\n' :: indented n true (fun c => [c]) cs

end Provision.Yaml
