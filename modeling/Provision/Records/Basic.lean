import Provision.Regular.Basic

/-!
A language that goes through records and does something with those that fit. This module holds its
expressions and statements.
-/

namespace Provision.Records

/-- A variable: one that all parts of a program share, or one of a function by its place. -/
inductive Name
  | shared (name : String)
  | own (place : Nat)
  deriving DecidableEq, BEq

inductive Arithmetic
  | add
  | subtract
  | multiply
  | divide
  | remainder
  | power
  deriving DecidableEq

inductive Relation
  | less
  | lessOrEqual
  | equal
  | unequal
  | more
  | moreOrEqual
  deriving DecidableEq

/-- Where output goes: into a file, at the end of one, or to a command. -/
inductive Sink
  | file
  | ending
  | command
  deriving DecidableEq

/-- From where a record is fetched. -/
inductive Source
  | main
  | file
  | command
  deriving DecidableEq

mutual

inductive Expr
  | number (x : Float)
  | text (t : Chars)
  | regular (r : Regular)
  | place (p : Place)
  | group (e : Expr)
  | assign (p : Place) (op : Option Arithmetic) (e : Expr)
  | choose (c a b : Expr)
  | both (a b : Expr)
  | either (a b : Expr)
  | negated (e : Expr)
  | minus (e : Expr)
  | plus (e : Expr)
  | arithmetic (op : Arithmetic) (a b : Expr)
  | join (a b : Expr)
  | compare (r : Relation) (a b : Expr)
  | fits (negated : Bool) (a b : Expr)
  /-- Adds one to what stands at a place, or takes one away. The value is that before or after. -/
  | step (p : Place) (up before : Bool)
  | member (subscripts : List Expr) (a : Name)
  | call (f : String) (args : List Expr)
  | builtin (f : String) (args : List Expr)
  | fetch (source : Source) (from' : Option Expr) (into : Option Place)

/-- What a value can be put into. -/
inductive Place
  | variable (v : Name)
  | element (a : Name) (subscripts : List Expr)
  | field (e : Expr)

end

inductive Statement
  | expr (e : Expr)
  | print (args : List Expr) (goal : Option (Sink × Expr))
  | printFormatted (args : List Expr) (goal : Option (Sink × Expr))
  | block (body : List Statement)
  | choice (c : Expr) (yes : Statement) (no : Option Statement)
  | whileTrue (c : Expr) (body : Statement)
  | doWhile (body : Statement) (c : Expr)
  | loop (start : Option Statement) (c : Option Expr) (step : Option Statement) (body : Statement)
  | each (v : Name) (a : Name) (body : Statement)
  | delete (a : Name) (subscripts : List Expr)
  | next
  | nextFile
  | exit (e : Option Expr)
  | give (e : Option Expr)
  | stop
  | again

/-- A function: its name, how many parameters it has, and its body. -/
structure Function where
  name : String
  arity : Nat
  body : List Statement

/-- For which records something is done. -/
inductive Condition
  | always
  | when (e : Expr)
  | between (first last : Expr)

/-- A program. What is done first or last stands for itself. Where no body is written, the record is
printed. -/
structure Program where
  beginning : List Statement
  rules : List (Condition × Option (List Statement))
  ending : List Statement
  hasEnding : Bool
  functions : List Function

end Provision.Records
