import Provision.Shell.Arithmetic

/-!
Arithmetic of the smaller shell. It knows neither steps, powers nor lists, and its variables hold
numbers alone. What cannot be read shows only once the reckoning comes to it, so a sum may end in a
complaint.
-/

namespace Provision.Shell

/-- A sum of whole numbers, which may break off for a reason after a part of it. -/
inductive Sum
  | number (n : Int)
  | name (x : String)
  | unary (sign : Char) (a : Sum)
  | binary (sign : String) (a b : Sum)
  | choose (condition yes no : Sum)
  | assign (sign : String) (x : String) (a : Sum)
  | broken (a : Sum) (reason : String)

namespace Sum

/-- A piece of a sum. -/
inductive Piece
  | number (n : Int)
  | name (x : String)
  | sign (s : String)
  | wrong
  deriving DecidableEq

/-- The signs of sums. Of two that fit, the first one is meant. -/
def signs : List String :=
  ["<<=", ">>=", "<<", ">>", "<=", ">=", "==", "!=", "&&", "||", "+=", "-=", "*=", "/=", "%=", "&=",
   "^=", "|=", "+", "-", "*", "/", "%", "<", ">", "!", "~", "&", "|", "^", "?", ":", "=", "(", ")"]

/-- The value of digits. A number that is too great counts as the greatest one. -/
def readDigits (base : Nat) (digits : Chars) : Int :=
  let n := digits.foldl (fun (n : Nat) c => n * base + ((Formula.digit? base c).getD 0)) 0
  if greatestInteger < n then greatestInteger else n

/-- The number at the start of a text, and how many characters it has. Zeros before it set the
base. -/
def leadingNumber (cs : Chars) : Int × Nat :=
  let run (base : Nat) (cs : Chars) : Chars := cs.takeWhile fun c => (Formula.digit? base c).isSome
  let plain (base : Nat) : Int × Nat := (readDigits base (run base cs), (run base cs).length)
  match cs with
  | '0' :: x :: rest =>
    let digits := run 16 rest
    if (x = 'x' || x = 'X') && !digits.isEmpty then (readDigits 16 digits, digits.length + 2)
    else plain 8
  | _ => plain 10

/-- Takes a sum apart, up to what is no piece of one. -/
def scan : (room : Nat) → Chars → List Piece
  | 0, _ => []
  | _ + 1, [] => []
  | room + 1, c :: rest =>
    if [' ', '\t', '\n'].contains c then scan room rest
    else if c.isDigit then
      let (n, width) := leadingNumber (c :: rest)
      .number n :: scan room (rest.drop (width - 1))
    else if isNameStart c then
      let name := (c :: rest).takeWhile isNameChar
      .name (String.ofList name) :: scan room (rest.drop (name.length - 1))
    else
      match signs.find? fun s => s.toList.isPrefixOf (c :: rest) with
      | some s => .sign s :: scan room (rest.drop (s.length - 1))
      | none => [.wrong]

/-- What reads a sum from the start of some pieces. -/
abbrev Taking := List Piece → Sum × List Piece

/-- Takes an operand with the signs before it, where `inner` takes what stands in parentheses. -/
def operand (inner : Taking) : Taking
  | .number n :: rest => (.number n, rest)
  | .name x :: rest => (.name x, rest)
  | .sign "(" :: rest =>
    match inner rest with
    | (a, .sign ")" :: rest) => (a, rest)
    | (a, _) => (.broken a "expecting ')'", [])
  | .sign "+" :: rest => operand inner rest
  | .sign "-" :: rest => let (a, rest) := operand inner rest; (.unary '-' a, rest)
  | .sign "!" :: rest => let (a, rest) := operand inner rest; (.unary '!' a, rest)
  | .sign "~" :: rest => let (a, rest) := operand inner rest; (.unary '~' a, rest)
  | _ => (.broken (.number 0) "expecting primary", [])

/-- Takes the operands on the right. -/
def chain (signs : List String) (next : Taking) : Nat → Sum → Taking
  | 0, a, ps => (a, ps)
  | room + 1, a, ps =>
    match ps with
    | .sign s :: rest =>
      if signs.contains s then
        let (b, rest) := next rest
        chain signs next room (.binary s a b) rest
      else (a, ps)
    | _ => (a, ps)

/-- The signs between two operands, from those that bind weakly to those that bind strongly. -/
def levels : List (List String) :=
  [["|"], ["^"], ["&"], ["==", "!="], ["<=", ">=", "<", ">"], ["<<", ">>"], ["+", "-"],
   ["*", "/", "%"]]

/-- Takes operands with signs of some levels between them. -/
def ladder (inner : Taking) : List (List String) → Taking
  | [], ps => operand inner ps
  | signs :: stronger, ps =>
    let (a, rest) := ladder inner stronger ps
    chain signs (ladder inner stronger) rest.length a rest

/-- Takes operands with one sign between them, from the right. -/
def joined (sign : String) (next : Taking) : Nat → Taking
  | 0, ps => next ps
  | room + 1, ps =>
    match next ps with
    | (a, .sign s :: rest) =>
      if s = sign then
        let (b, rest) := joined sign next room rest
        (.binary sign a b, rest)
      else (a, .sign s :: rest)
    | r => r

/-- Takes a choice, whose condition and last part hold no assignment. -/
def choice (inner : Taking) : Nat → Taking
  | 0, ps => (.broken (.number 0) "expecting primary", ps)
  | room + 1, ps =>
    let both := joined "&&" (ladder inner levels) ps.length
    match joined "||" both ps.length ps with
    | (a, .sign "?" :: rest) =>
      match inner rest with
      | (b, .sign ":" :: rest) =>
        let (c, rest) := choice inner room rest
        (.choose a b c, rest)
      | (b, _) => (.choose a (.broken b "expecting ':'") (.broken (.number 0) "expecting ':'"), [])
    | r => r

def assigning : List String :=
  ["=", "+=", "-=", "*=", "/=", "%=", "<<=", ">>=", "&=", "^=", "|="]

/-- Takes an assignment or a choice. -/
def assignment : Nat → Taking
  | 0, ps => (.broken (.number 0) "expecting primary", ps)
  | room + 1, ps =>
    match ps with
    | .name x :: .sign s :: rest =>
      if assigning.contains s then
        let (a, rest) := assignment room rest
        (.assign s x a, rest)
      else choice (assignment room) ps.length ps
    | _ => choice (assignment room) ps.length ps

/-- Reads a sum. What is left over breaks it off at its end. -/
def ofChars (cs : Chars) : Sum :=
  let pieces := scan (cs.length + 1) cs
  match assignment (pieces.length + 1) pieces with
  | (a, []) => a
  | (a, _) => .broken a "expecting EOF"

/-- Why a sum has no value: it breaks off, a variable holds no number, or one cannot be changed,
which has been said. -/
inductive Failure
  | broken (reason : String)
  | noNumber (text : Chars)
  | said

/-- The number that a variable holds. Blanks may stand around it. -/
def held? (text : Chars) : Option Int :=
  let isBlank (c : Char) : Bool := c == ' ' || ('\t' ≤ c && c ≤ '\r')
  let inner := text.dropWhile isBlank
  let (negative, digits) := match inner with
    | '-' :: rest => (true, rest)
    | '+' :: rest => (false, rest)
    | rest => (false, rest)
  let (n, width) := leadingNumber digits
  if width = 0 then if text.all isBlank then some 0 else none
  else if (digits.drop width).all isBlank then some (if negative then -n else n)
  else none

/-- The value of a sum. In a part that does not count nothing is looked up or changed, yet it may
break off. -/
def value (counts : Bool) : Sum → ExceptT Failure Run Int
  | .number n => return n
  | .name x => if counts then fetch x else return 0
  | .unary sign a => do
    let n ← value counts a
    return match sign with
      | '-' => Formula.wrap (-n)
      | '!' => Formula.ofBool (n = 0)
      | _ => -n - 1
  | .binary "&&" a b => do
    let m ← value counts a
    let n ← value (counts && m ≠ 0) b
    return Formula.ofBool (m ≠ 0 && n ≠ 0)
  | .binary "||" a b => do
    let m ← value counts a
    let n ← value (counts && m = 0) b
    return Formula.ofBool (m ≠ 0 || n ≠ 0)
  | .binary sign a b => do
    let m ← value counts a
    let n ← value counts b
    if counts then combine sign m n else return n
  | .choose c a b => do
    let n ← value counts c
    let yes ← value (counts && n ≠ 0) a
    let no ← value (counts && n = 0) b
    return if n ≠ 0 then yes else no
  | .assign sign x a => do
    let n ← value counts a
    if !counts then return n
    let n ← if sign = "=" then pure n else combine sign (← fetch x) n
    if ← Run.storeText x (Run.integerText n) then return n else throw .said
  | .broken a reason => do
    let _ ← value counts a
    throw (.broken reason)
where
  /-- The number in a variable. -/
  fetch (x : String) : ExceptT Failure Run Int := do
    match ← Run.textOf? x with
    | none =>
      if ← Run.isOn .refuseUnset then
        Run.report (x ++ ": parameter not set")
        throw .said
      else return 0
    | some text =>
      match held? text with
      | some n => return n
      | none => throw (.noNumber text)
  /-- The value of two operands. -/
  combine (sign : String) (m n : Int) : ExceptT Failure Run Int :=
    match Formula.combine sign m n [] with
    | .ok n => return n
    | .error _ => throw (.broken "division by zero")

end Sum

namespace Run

open Bytes (toText)

/-- The value of a sum, without which the smaller shell ends. -/
def reckoned (text : Chars) : Run Int := do
  match ← ((Sum.ofChars text).value true).run with
  | .ok n => return n
  | .error failure =>
    match failure with
    | .broken reason =>
      report ("arithmetic expression: " ++ reason ++ ": \"" ++ toText text ++ "\"")
    | .noNumber t => report ("Illegal number: " ++ toText t)
    | .said => pure ()
    leave 2

end Run

end Provision.Shell
