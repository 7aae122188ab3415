import Provision.Document.Problem
import Provision.Document.Statement
import Provision.Text.Lines

namespace Provision.Document

/-- The heading that opens a target or a recipe; `column` is where the name of the recipe stands. -/
inductive Heading
  | target (name : String)
  | recipe (name : String) (parameters : List String) (column : Nat)
  deriving DecidableEq, Repr

/-- The text after a colon that follows a leading name, and the name. -/
def splitHeading? (text : List Char) : Option (List Char × List Char) :=
  let (name, rest) := Text.splitName text
  match Text.trimStart rest with
  | ':' :: cs => if name.isEmpty then none else some (name, cs)
  | _ => none

/-- The text after the word `recipe` and a blank, from that blank on. -/
def recipeHeading? (text : List Char) : Option (List Char) :=
  match "recipe".toList.isPrefixOf? text with
  | some (c :: cs) => if Text.isBlank c then some (c :: cs) else none
  | _ => none

/-- The text between parentheses that a lone colon follows. -/
def parameterText? (text : List Char) : Option (List Char) :=
  match Text.trimStart text with
  | '(' :: cs =>
    match cs.dropWhile (· != ')') with
    | ')' :: tail =>
      if Text.trim tail = [':'] then some (cs.takeWhile (· != ')')) else none
    | _ => none
  | _ => none

/-- Reads `recipe NAME(parameters):`, where `rest` is what follows the first word of `text`. -/
def readRecipeHeading (line : Nat) (text rest : List Char) : Except ParseError Heading :=
  let header := Text.trimStart rest
  let column := Text.width text - Text.width header + 1
  let (name, afterName) := Text.splitName header
  if name.isEmpty then .error ⟨line, column, .recipeNameExpected⟩
  else
    match parameterText? afterName with
    | none =>
      .error ⟨line, column + Text.width name, .malformedRecipeHeader (String.ofList name)⟩
    | some inner =>
      let parameters := Text.runs (fun c => c == ',' || Text.isBlank c) inner
      match parameters.find? (!Text.isName ·) with
      | some parameter =>
        .error ⟨line, column,
          .invalidParameter (String.ofList parameter) (String.ofList name)⟩
      | none => .ok (.recipe (String.ofList name) (parameters.map String.ofList) column)

/-- The text before the first arrow, the arrow, and the text after it. -/
def splitArrow? : List Char → Option (List Char × Arrow × List Char)
  | '-' :: '>' :: cs => some ([], .dependsOn, cs)
  | '<' :: '-' :: cs => some ([], .dependedUpon, cs)
  | c :: cs => (splitArrow? cs).map fun (before, arrow, rest) => (c :: before, arrow, rest)
  | [] => none

/-- Reads `A -> B C` or `A <- B C`. A text without an arrow is no dependency. -/
def readDependency (line : Nat) (text : List Char) : Except ParseError (Option Item) :=
  match splitArrow? text with
  | none => .ok none
  | some (before, arrow, rest) =>
    let subject := Text.trim before
    if !Text.isName subject then
      .error ⟨line, 1, .invalidSubject (String.ofList subject) arrow⟩
    else
      let others := Text.runs Text.isBlank rest
      match others.find? (!Text.isName ·) with
      | some other =>
        let preceding := (Text.before? other text).getD before
        .error ⟨line, Text.width preceding + 1, .invalidOperand (String.ofList other)⟩
      | none =>
        if others.isEmpty then
          .error ⟨line, Text.width before + 2 + 1, .operandExpected arrow⟩
        else
          .ok (some (.dependency ⟨String.ofList subject, arrow, others.map String.ofList⟩ line))

end Provision.Document
