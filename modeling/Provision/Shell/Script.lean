import Provision.Text.Utf8

namespace Provision.Shell

/-- Which of the two shells reads a script. -/
inductive Dialect
  | bash
  | dash
  deriving DecidableEq, Repr

/-- One of the two ends of a text. -/
inductive Side
  | front
  | back
  deriving DecidableEq, Repr

/-- What is done with the case of letters. -/
inductive Recasing
  | upper
  | lower
  | toggle
  deriving DecidableEq, Repr

/-- How a descriptor is turned elsewhere. -/
inductive Direction
  | input
  | output
  | clobber
  | append
  | inputOutput
  | both
  | bothAppend
  | duplicateInput
  | duplicateOutput
  | hereString
  | hereDocument (delimiter : Chars) (literal tabs : Bool)
  deriving DecidableEq, Repr

/-- The descriptor that a redirection turns: the usual one, a number, or one whose number a variable
gets. -/
inductive Descriptor
  | usual
  | number (n : Nat)
  | variable (name : String)
  deriving DecidableEq, Repr

mutual

/-- A part of a word. What is quoted is neither split nor taken as a pattern. -/
inductive Part
  | literal (quoted : Bool) (text : Chars)
  | parameter (quoted : Bool) (r : Reference)
  | capture (quoted : Bool) (body : List Command)
  | arithmetic (quoted : Bool) (expression : List Part)
  | feed (reading : Bool) (body : List Command)

/-- A word with the text in which it is written. -/
inductive Word
  | mk (parts : List Part) (text : Chars)

/-- A use of a parameter, which can go through the name that another parameter holds. -/
inductive Reference
  | mk (indirect : Bool) (name : String) (index : Option (List Part)) (operation : Operation)

/-- What is made of the value of a parameter. -/
inductive Operation
  | value
  | length
  | keys
  | names (joined : Bool)
  | fallback (whenEmpty : Bool) (word : List Part)
  | default (whenEmpty : Bool) (word : List Part)
  | require (whenEmpty : Bool) (word : List Part)
  | instead (whenEmpty : Bool) (word : List Part)
  | trim (side : Side) (longest : Bool) (pattern : List Part)
  | replace (all : Bool) (side : Option Side) (pattern replacement : List Part)
  | slice (offset : List Part) (length : Option (List Part))
  | recase (how : Recasing) (all : Bool) (pattern : List Part)
  | shown (letter : Char)
  | invalid (text : Chars)

/-- What is given to a variable. -/
inductive Assigned
  | word (w : Word)
  | elements (ws : List (Option (List Part) × Word)) (text : Chars)

inductive Assignment
  | mk (name : String) (index : Option (List Part)) (indexText : Chars) (append : Bool)
      (value : Assigned)

inductive Redirection
  | mk (descriptor : Descriptor) (direction : Direction) (word : Word)

/-- A condition between double brackets. -/
inductive Condition
  | word (w : Word)
  | unary (operator : String) (w : Word)
  | binary (operator : String) (left right : Word)
  | not (c : Condition)
  | both (left right : Condition)
  | either (left right : Condition)
  | enclosed (c : Condition)

inductive Command
  | simple (line : Nat) (assignments : List Assignment) (words : List Word)
      (redirections : List Redirection)
  | redirected (line : Nat) (c : Command) (redirections : List Redirection)
  | pipeline (negated : Bool) (stages : List Command)
  | timed (portable : Bool) (c : Command)
  | both (first second : Command)
  | either (first second : Command)
  | background (c : Command)
  | subshell (body : List Command)
  | group (body : List Command)
  | branch (condition body otherwise : List Command)
  | loop (negated : Bool) (condition body : List Command)
  | each (line : Nat) (name : String) (items : Option (List Word)) (body : List Command)
  | select (line : Nat) (name : String) (items : Option (List Word)) (body : List Command)
  | count (line : Nat) (start condition step : Word) (body : List Command)
  | choice (line : Nat) (subject : Word) (arms : List (List Word × List Command × String))
  | test (line : Nat) (c : Condition)
  | arithmetic (line : Nat) (expression : Word)
  | function (line : Nat) (name : String) (body : Command)
  | companion (name : String) (c : Command)

end

def Word.parts : Word → List Part
  | .mk parts _ => parts

/-- The text in which a word is written. -/
def Word.text : Word → Chars
  | .mk _ text => text

instance : Inhabited Command := ⟨.group []⟩

instance : Inhabited Word := ⟨.mk [] []⟩

end Provision.Shell
