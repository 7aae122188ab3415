import Provision.Text.Blank
import Provision.Text.Lines

namespace Provision

/-- A line of a document: its number, counted from one, the bytes of its margin, and its text
without the blanks around it. -/
structure Line where
  number : Nat
  indent : Nat
  text : List Char
  deriving DecidableEq, Repr

namespace Line

def ofText (number : Nat) (raw : List Char) : Line :=
  ⟨number, Text.width (Text.margin raw), Text.trim raw⟩

def isEmpty (l : Line) : Bool := l.text.isEmpty

/-- A comment fills its line. -/
def isComment (l : Line) : Bool := l.text.head? == some '#'

/-- A line that says something. -/
def isCode (l : Line) : Bool := !l.isEmpty && !l.isComment

def shift (n : Nat) (l : Line) : Line := { l with number := l.number + n }

/-- The lines with the given texts, numbered from `first` on. -/
def ofTexts (first : Nat) : List (List Char) → List Line
  | [] => []
  | raw :: rest => ofText first raw :: ofTexts (first + 1) rest

theorem ofTexts_append (first : Nat) (a b : List (List Char)) :
    ofTexts first (a ++ b) = ofTexts first a ++ ofTexts (first + a.length) b := by
  induction a generalizing first with
  | nil => simp [ofTexts]
  | cons raw a ih => simp [ofTexts, ih, Nat.add_comm, Nat.add_left_comm]

theorem ofTexts_add (first n : Nat) (a : List (List Char)) :
    ofTexts (first + n) a = (ofTexts first a).map (shift n) := by
  induction a generalizing first with
  | nil => rfl
  | cons raw a ih =>
    rw [ofTexts, ofTexts, List.map_cons, ← ih, Nat.add_right_comm first n 1]
    rfl

end Line

end Provision
