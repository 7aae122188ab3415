import Provision.Program.Input
import Provision.Shell.Test

/-!
Programs that compute with their arguments.
-/

namespace Provision.Program

open Bytes (toText ofText)
open Shell (Run)

namespace Expression

/-- What an expression gives. -/
inductive Value
  | number (n : Int)
  | text (t : Chars)

/-- Why an expression has no value, with the status for that. -/
structure Fault where
  message : String
  status : Nat

abbrev Evaluation := StateT (List Chars × Chars) (Except Fault)

/-- A whole number with its sign. -/
def integer? (t : Chars) : Option Int :=
  match t with
  | '-' :: digits => (Text.readNat? 10 digits).map fun n => -(n : Int)
  | digits => (Text.readNat? 10 digits).map fun n => (n : Int)

def Value.write : Value → Chars
  | .number n => Run.integerText n
  | .text t => t

def Value.toInt (v : Value) : Evaluation Int :=
  match v with
  | .number n => return n
  | .text t =>
    match integer? t with
    | some n => return n
    | none => throw ⟨"non-integer argument", 2⟩

/-- Whether a value counts as false. -/
def Value.isNull : Value → Bool
  | .number n => n = 0
  | .text t =>
    let digits := if t.head? = some '-' then t.drop 1 else t
    t.isEmpty || (!digits.isEmpty && digits.all (· == '0'))

def ofBool (b : Bool) : Value := .number (if b then 1 else 0)

/-- The next word if it is one of some words. -/
def accept? (words : List String) : Evaluation (Option String) := do
  match ← get with
  | (w :: rest, _) =>
    match words.find? fun x => ofText x = w with
    | some x =>
      set (rest, w)
      return some x
    | none => return none
  | _ => return none

/-- Takes the next word, which has to be there. -/
def take : Evaluation Chars := do
  match ← get with
  | (w :: rest, _) =>
    set (rest, w)
    return w
  | ([], last) => throw ⟨"syntax error: missing argument after " ++ cited last, 2⟩

/-- What a regular expression fits at the beginning of a text: its group, or how much. -/
def compareText (text pattern : Chars) : Evaluation Value := do
  match Regular.ofChars .basic pattern with
  | .error e => throw ⟨e.message, 2⟩
  | .ok r =>
    let x := Subject.ofChars false text
    let grouped := 0 < r.groupCount
    match r.matchAt? x 0 with
    | none => return if grouped then .text [] else .number 0
    | some m =>
      if grouped then return .text (m.text x 1)
      else return .number (m.text x 0).length

def relation (operator : String) (a b : Value) : Bool :=
  let s := a.write
  let t := b.write
  match integer? s, integer? t with
  | some m, some n =>
    match operator with
    | "<" => m < n
    | "<=" => m ≤ n
    | "=" | "==" => m = n
    | "!=" => m ≠ n
    | ">=" => m ≥ n
    | _ => m > n
  | _, _ =>
    let before := Bytes.precedes s t
    match operator with
    | "<" => before && s ≠ t
    | "<=" => before
    | "=" | "==" => s = t
    | "!=" => s ≠ t
    | ">=" => !before || s = t
    | _ => !before

/-- A part of a text, by the number of its first character and its length. -/
def substring (t : Chars) (first count : Int) : Chars :=
  if first ≤ 0 || count ≤ 0 then [] else (t.drop (first.toNat - 1)).take count.toNat

/-- The levels of operators, from the weakest on, and those on the same level. -/
def operators : List (List String) :=
  [["|"], ["&"], ["<", "<=", "=", "==", "!=", ">=", ">"], ["+", "-"], ["*", "/", "%"], [":"]]

/-- Puts two values together. Arithmetic on what does not count is left out. -/
def apply (counts : Bool) (operator : String) (a b : Value) : Evaluation Value := do
  if !counts && operator ≠ "|" && operator ≠ "&" then return .number 0
  match operator with
  | "|" => return if !a.isNull then a else if !b.isNull then b else .number 0
  | "&" => return if a.isNull || b.isNull then .number 0 else a
  | ":" => compareText a.write b.write
  | "+" => return .number ((← a.toInt) + (← b.toInt))
  | "-" => return .number ((← a.toInt) - (← b.toInt))
  | "*" => return .number ((← a.toInt) * (← b.toInt))
  | "/" | "%" =>
    let m ← a.toInt
    let n ← b.toInt
    if n = 0 then throw ⟨"division by zero", 2⟩
    return .number (if operator = "/" then Int.tdiv m n else Int.tmod m n)
  | o => return ofBool (relation o a b)

/-- Puts further values to one as long as operators of a level come, where `next` reads a value. -/
def joined (counts : Bool) (level : List String) (next : Bool → Evaluation Value) :
    Nat → Value → Evaluation Value
  | 0, a => return a
  | n + 1, a => do
    match ← accept? level with
    | none => return a
    | some o =>
      let b ← next (counts && match o with
        | "|" => a.isNull
        | "&" => !a.isNull
        | _ => true)
      joined counts level next n (← apply counts o a b)

/-- Reads an expression of some levels of operators. -/
def evaluate : Nat → Bool → List (List String) → Evaluation Value
  | 0, _, _ => throw ⟨"syntax error", 2⟩
  | room + 1, counts, [] => do
    match ← accept? ["+", "length", "match", "index", "substr", "(", ")"] with
    | some "+" => return .text (← take)
    | some "length" => return .number (← evaluate room counts []).write.length
    | some "match" =>
      let a ← evaluate room counts []
      let b ← evaluate room counts []
      if counts then compareText a.write b.write else return .number 0
    | some "index" =>
      let a ← evaluate room counts []
      let b ← evaluate room counts []
      let t := a.write
      let place := (t.takeWhile (!b.write.contains ·)).length
      return .number (if place < t.length then place + 1 else 0)
    | some "substr" =>
      let t ← evaluate room counts []
      let first ← evaluate room counts []
      let count ← evaluate room counts []
      match integer? first.write, integer? count.write with
      | some i, some n => return .text (substring t.write i n)
      | _, _ => return .text []
    | some "(" =>
      let v ← evaluate room counts operators
      match ← get with
      | ([], last) => throw ⟨"syntax error: expecting ')' after " ++ cited last, 2⟩
      | (w :: rest, _) =>
        if w = [')'] then
          set (rest, w)
          return v
        else throw ⟨"syntax error: expecting ')' instead of " ++ cited w, 2⟩
    | some _ => throw ⟨"syntax error: unexpected ')'", 2⟩
    | none => return .text (← take)
  | room + 1, counts, level :: stronger => do
    let first ← evaluate room counts stronger
    joined counts level (fun counts => evaluate room counts stronger) ((← get).1.length + 1) first

end Expression

open Expression in
def expr : Program := fun c args => do
  match args with
  | [a] =>
    if a = "--version".toList || a = "--help".toList then
      return ← withArguments c.name ⟨[], []⟩ 2 false args fun _ => return 0
  | _ => pure ()
  let args := if args.head? = some "--".toList then args.drop 1 else args
  if args.isEmpty then return ← misuse c.name "missing operand" 2
  let fail (p : Fault) : Run Nat := do
    let _ ← complain c.name p.message
    return p.status
  match (evaluate (8 * args.length + 8) true operators).run (args, []) with
  | .error p => fail p
  | .ok (_, t :: _, _) => fail ⟨"syntax error: unexpected argument " ++ cited t, 2⟩
  | .ok (v, [], _) =>
    let _ ← out c.name (v.write ++ ['\n'])
    return if v.isNull then 1 else 0

/-- How a program tells that it cannot test something. -/
def testMessage : Run.TestProblem → String
  | .noNumber t => "invalid integer " ++ cited t
  | .notUnary t => cited t ++ ": unary operator expected"
  | .notBinary t => cited t ++ ": binary operator expected"
  | .unclosed => "')' expected"
  | .missing t => "missing argument after " ++ cited t
  | .extra t => "extra argument " ++ cited t

/-- Tests words. -/
def testWith (c : Caller) (words : List Chars) : Run Nat := do
  match ← (Run.testWords words).run with
  | .ok b => return if b then 0 else 1
  | .error p =>
    Run.complain (c.name ++ ": " ++ testMessage p)
    return 2

def test : Program := testWith

def bracket : Program := fun c args => do
  if args = ["--version".toList] || args = ["--help".toList] then
    withArguments c.name ⟨[], []⟩ 2 false args fun _ => return 0
  else if args.getLast? = some [']'] then testWith c args.dropLast
  else
    let _ ← complain c.name "missing ']'"
    return 2

end Provision.Program
