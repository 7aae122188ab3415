import Provision.Action
import Provision.Text.Blank
import Provision.Text.Lines

namespace Provision.Document

/-- The part of a text before a `#` that begins it or follows a blank, if there is such a `#`. -/
def beforeComment? (afterBlank : Bool) : List Char → Option (List Char)
  | [] => none
  | c :: cs =>
    if c = '#' ∧ afterBlank then some []
    else (beforeComment? (Text.isBlank c) cs).map (c :: ·)

/-- Drops a trailing comment and the blanks before it. -/
def dropComment (cs : List Char) : List Char :=
  match beforeComment? true cs with
  | some before => Text.trimEnd before
  | none => cs

/-- Drops everything from the first `#` on and the blanks before it. Where only names and
punctuation can stand, every `#` begins a comment. -/
def dropAnyComment (cs : List Char) : List Char :=
  if '#' ∈ cs then Text.trimEnd (cs.takeWhile (· != '#')) else cs

/-- How a text that follows `depth` open parentheses goes on: it leaves so many open, or it closes
the last one after `inner`. -/
inductive Closing
  | unclosed (depth : Nat)
  | closed (inner rest : List Char)
  deriving DecidableEq, Repr

/-- Puts a character before the text that a parenthesis closes. -/
def Closing.cons (c : Char) : Closing → Closing
  | .unclosed depth => .unclosed depth
  | .closed inner rest => .closed (c :: inner) rest

/-- Looks for the parenthesis that closes the last of `depth` open ones. -/
def closing (depth : Nat) : List Char → Closing
  | [] => .unclosed depth
  | c :: cs =>
    if c = '(' then (closing (depth + 1) cs).cons c
    else if c = ')' then
      if depth ≤ 1 then .closed [] cs else (closing (depth - 1) cs).cons c
    else (closing depth cs).cons c

/-- The argument groups in a text: commas part the groups, and blanks the tokens of a group. A text
of blanks holds no group. -/
def groups (inner : List Char) : List (List String) :=
  if Text.isAllBlank inner then []
  else (Text.fields (· == ',') inner).map fun group =>
    (Text.runs Text.isBlank group).map String.ofList

def invocation (name inner : List Char) : Invocation :=
  ⟨String.ofList name, groups inner⟩

/-- What a statement is, judged by its first line. -/
inductive Statement
  | action (action : Action)
  | unclosed (name inner : List Char) (depth : Nat)
  deriving DecidableEq, Repr

/-- A name right before a parenthesis calls a recipe if the text ends with the closing parenthesis,
a comment aside, or if the parenthesis is left open. All else is a script for the shell. -/
def statement (text : List Char) : Statement :=
  let (name, rest) := Text.splitName text
  match rest with
  | '(' :: cs =>
    if name.isEmpty then .action (.shell (String.ofList text))
    else
      match closing 1 cs with
      | .closed inner tail =>
        if Text.isAllBlank (dropComment tail) then .action (.call (invocation name inner))
        else .action (.shell (String.ofList text))
      | .unclosed depth => .unclosed name (dropComment cs) depth
  | _ => .action (.shell (String.ofList text))

end Provision.Document
