import Provision.OrderedMap
import Provision.Shell.Script

namespace Provision.Shell

/-- What a variable holds: nothing yet, a text, texts at indices in ascending order, or texts at
keys in the order of a table. -/
inductive Value
  | unset
  | text (t : Chars)
  | array (elements : List (Nat × Chars))
  | table (pairs : List (Chars × Chars))

/-- What holds for a variable beside its value: commands see it, it does not change, it holds whole
numbers, letters of one case only, or the name of another variable, it is watched by traps, or it is
declared as a list that nothing has been given to. -/
structure Marks where
  exported : Bool := false
  constant : Bool := false
  integer : Bool := false
  recasing : Option Recasing := none
  reference : Bool := false
  traced : Bool := false
  bare : Bool := false
  deriving DecidableEq, Repr

structure Variable where
  value : Value
  marks : Marks

/-- The variables of a function or of the whole shell. -/
abbrev Scope := OrderedMap String Variable

/-- The chain of a key in the order of tables, which keep their keys by a number of thirty-two bits
that is multiplied by a prime and combined with each byte. -/
def chainOf (key : Chars) : Nat :=
  (key.foldl (fun (h : UInt32) c =>
    let b := UInt32.ofNat (if c.toNat < 128 then c.toNat else c.toNat + 0xFFFFFF00)
    (h * 16777619) ^^^ b) 2166136261).toNat % 1024

/-- Puts a text at a key. A new key comes first in its chain. -/
def insertPair (key text : Chars) (pairs : List (Chars × Chars)) : List (Chars × Chars) :=
  if pairs.any (·.1 == key) then pairs.map fun (k, t) => if k = key then (k, text) else (k, t)
  else
    let chain := chainOf key
    pairs.takeWhile (fun p => chainOf p.1 < chain) ++ (key, text) ::
      pairs.dropWhile (fun p => chainOf p.1 < chain)

/-- Puts a text into an array at an index. -/
def insertElement (index : Nat) (text : Chars) (es : List (Nat × Chars)) : List (Nat × Chars) :=
  es.takeWhile (·.1 < index) ++ (index, text) :: es.dropWhile (·.1 ≤ index)

/-- Puts texts into an array from an index on. -/
def insertElements (start : Nat) (texts : List Chars) (es : List (Nat × Chars)) :
    List (Nat × Chars) :=
  es.takeWhile (·.1 < start) ++ texts.mapIdx (fun i t => (start + i, t)) ++
    es.dropWhile (·.1 < start + texts.length)

namespace Value

/-- The text of a value as a whole, which is the one at zero. -/
def text? : Value → Option Chars
  | .unset => none
  | .text t => some t
  | .array es => (es.find? (·.1 = 0)).map (·.2)
  | .table ps => (ps.find? (·.1 = ['0'])).map (·.2)

/-- The texts of a value in their order. -/
def texts : Value → List Chars
  | .unset => []
  | .text t => [t]
  | .array es => es.map (·.2)
  | .table ps => ps.map (·.2)

/-- The indices of the texts of a value as they are written. -/
def keys : Value → List Chars
  | .unset => []
  | .text _ => [['0']]
  | .array es => es.map fun (n, _) => (toString n).toList
  | .table ps => ps.map (·.1)

/-- The texts of a value at whole numbers. -/
def elements : Value → List (Nat × Chars)
  | .text t => [(0, t)]
  | .array es => es
  | _ => []

/-- The value with another text as a whole. -/
def withText (new : Chars) : Value → Value
  | .array es => .array (insertElement 0 new es)
  | .table ps => .table (insertPair ['0'] new ps)
  | _ => .text new

/-- A text with the case of its letters as it is asked for. -/
def recase (how : Option Recasing) (t : Chars) : Chars :=
  match how with
  | some .upper => t.map Char.toUpper
  | some .lower => t.map Char.toLower
  | _ => t

end Value

end Provision.Shell
