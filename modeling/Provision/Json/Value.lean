import Provision.Decimal.Shortest
import Provision.Text.Digits

namespace Provision.Json

/-- What a line of a log holds under a name. -/
inductive Value
  | text (s : String)
  | integer (n : Int)
  | seconds (x : Float)

/-- The letter that stands for a character after a backslash. -/
def escapeLetter? (c : Char) : Option Char :=
  match c.toNat with
  | 0x08 => some 'b'
  | 0x09 => some 't'
  | 0x0A => some 'n'
  | 0x0C => some 'f'
  | 0x0D => some 'r'
  | 0x22 => some '"'
  | 0x5C => some '\\'
  | _ => none

/-- Escapes quotes, backslashes and control characters. -/
def escape (c : Char) : List Char :=
  match escapeLetter? c with
  | some letter => ['\\', letter]
  | none => if c.toNat < 0x20 then '\\' :: 'u' :: Text.hex false 4 c.toNat else [c]

def quote (s : String) : List Char :=
  '"' :: s.toList.flatMap escape ++ ['"']

/-- Numbers from `1e-5` to below `1e16` have no exponent. -/
def numberFormat : Decimal.Format := ⟨-4, 16, true⟩

def number (x : Float) : List Char :=
  let signed (negative : Bool) (cs : List Char) := if negative then '-' :: cs else cs
  match Decimal.Double.ofBits x.toBits.toNat with
  | .zero negative => signed negative ['0', '.', '0']
  | .finite negative b => signed negative (numberFormat.write (Decimal.shortest b))
  | .infinite _ => ['n', 'u', 'l', 'l']
  | .notANumber => ['n', 'u', 'l', 'l']

def Value.render : Value → List Char
  | .text s => quote s
  | .integer n => (toString n).toList
  | .seconds x => number x

def field (name : String) (v : Value) : List Char :=
  quote name ++ ':' :: v.render

/-- An object on one line, with its fields in order. -/
def object (fields : List (String × Value)) : List Char :=
  '\x7b' :: ([','].intercalate (fields.map fun (name, v) => field name v)) ++ ['\x7d']

end Provision.Json
