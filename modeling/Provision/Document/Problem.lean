import Provision.Document.Basic

namespace Provision

/-- What can be wrong with a document. -/
inductive Problem
  | indentedItem
  | unknownItem (found : String)
  | recipeNameExpected
  | malformedRecipeHeader (recipe : String)
  | invalidParameter (parameter recipe : String)
  | recipeWithoutMethods (recipe : String)
  | targetWithoutMethods (target : String)
  | invocationExpected (target found : String)
  | invalidSubject (subject : String) (arrow : Arrow)
  | invalidOperand (operand : String)
  | operandExpected (arrow : Arrow)
  | methodExpected (found : String)
  | unknownMethod (method : String)
  | unclosedInvocation (recipe : String)
  | textAfterInvocation (recipe : String)
  deriving DecidableEq, Repr

def Problem.message : Problem → String
  | .indentedItem => "unexpected indentation at top level"
  | .unknownItem found =>
    "expected a target, recipe, or dependency declaration, found `" ++ found ++ "`"
  | .recipeNameExpected => "expected a recipe name after `recipe`"
  | .malformedRecipeHeader recipe =>
    "malformed header for recipe '" ++ recipe ++ "', expected `recipe " ++ recipe ++ "(params):`"
  | .invalidParameter parameter recipe =>
    "invalid parameter name '" ++ parameter ++ "' in recipe '" ++ recipe ++ "'"
  | .recipeWithoutMethods recipe => "recipe '" ++ recipe ++ "' has no method definitions"
  | .targetWithoutMethods target => "target '" ++ target ++ "' has no method definitions"
  | .invocationExpected target found =>
    "expected a recipe invocation after `" ++ target ++ ":`, found `" ++ found ++ "`"
  | .invalidSubject subject arrow =>
    "invalid target name '" ++ subject ++ "' before `" ++ arrow.symbol ++ "`"
  | .invalidOperand operand => "invalid target name '" ++ operand ++ "'"
  | .operandExpected arrow =>
    "expected at least one target name after `" ++ arrow.symbol ++ "`"
  | .methodExpected found =>
    "expected a method definition like `setup:`, found `" ++ found ++ "`"
  | .unknownMethod method =>
    "unknown method '" ++ method ++ "', expected `setup` or `is_setup`"
  | .unclosedInvocation recipe => "unclosed invocation of '" ++ recipe ++ "', expected `)`"
  | .textAfterInvocation recipe => "unexpected text after `)` closing '" ++ recipe ++ "'"

/-- A problem and its place: lines and columns count from one, columns in bytes. -/
structure ParseError where
  line : Nat
  column : Nat
  problem : Problem
  deriving DecidableEq, Repr

/-- The report on an error in the document that goes by the name `source`. -/
def ParseError.message (source : String) (e : ParseError) : String :=
  source ++ ":" ++ toString e.line ++ ":" ++ toString e.column ++ ": " ++ e.problem.message

end Provision
