import Provision.Regular.Reader
import Provision.Shell.Expansion

namespace Provision.Shell

open Bytes (toText ofText)

namespace Run

/-- The node at a path, if there is one. -/
def node? (path : Chars) : Run (Option Files.Node) := do
  return ((← tree).find (toText path)).toOption

/-- The node that a path itself stands for. -/
def entry? (path : Chars) : Run (Option Files.Node) := do
  return ((← tree).findEntry (toText path)).toOption

/-- Whether a node fits an operator for one file. -/
def nodeTest (operator : Char) (n : Files.Node) : Bool :=
  let bit (b : Nat) : Bool := n.mode / b % 2 = 1
  match operator with
  | 'd' => n.isDirectory
  | 'f' => n.isFile
  | 's' => 0 < n.size
  | 'x' => n.isDirectory || n.isExecutable
  | 'p' => n.content == .queue
  | 'c' => match n.content with
    | .device _ => true
    | _ => false
  | 'g' => bit 0o2000
  | 'u' => bit 0o4000
  | 'k' => bit 0o1000
  | 'O' => n.owner = 0
  | 'G' => n.group = 0
  | 'N' => n.accessed < n.modified
  | c => "earw".toList.contains c

/-- Whether a path fits an operator for one file. -/
def fileTest (operator : Char) (path : Chars) : Run Bool := do
  if operator = 'L' ∨ operator = 'h' then return (← entry? path).any Files.Node.isLink
  match Host.descriptorOf? (toText path) with
  | some d =>
    let found := (← stream? d).isSome
    let seekable ← isSeekable d
    return found && match operator with
      | 'f' | 's' => seekable
      | 'p' => !seekable
      | c => "earw".toList.contains c
  | none => return (← node? path).any (nodeTest operator)

/-- The operators that ask for a file. -/
def fileOperators : List Char := "abcdefghkprsuwxLSGNO".toList

/-- Whether there is something at a name, which can have an index. -/
def isGiven (t : Chars) : Run Bool := do
  match splitName t with
  | (name, none) => return (← textOf? name).isSome
  | (name, some i) =>
    let v ← valueOf name
    if i = ['@'] || i = ['*'] then return !v.texts.isEmpty
    match v with
    | .table ps => return ps.any (·.1 = i)
    | v =>
      let n ← calculated "" i
      let size : Nat := (v.elements.getLast?.map (·.1 + 1)).getD 0
      let n := if n < 0 then size + n else n
      return v.elements.any fun e => (e.1 : Int) = n

/-- Whether a condition on one text holds. -/
def unaryTest (operator : Chars) (t : Chars) : Run Bool := do
  match operator with
  | ['-', 'z'] => return t.isEmpty
  | ['-', 'n'] => return !t.isEmpty
  | ['-', 't'] => return false
  | ['-', 'v'] => isGiven t
  | ['-', 'R'] => return ((find? (toText t) (← get).scopes).map (·.marks.reference)).getD false
  | ['-', 'o'] =>
    let on := (← get).settings
    return (Setting.ofName? (toText t)).any on.contains
  | ['-', c] => fileTest c t
  | _ => return false

/-- A whole number of the shell with its sign and with blanks around it. -/
def readInteger? (cs : Chars) : Option Int :=
  let isBlank (c : Char) : Bool := c == ' ' || ('\t' ≤ c && c ≤ '\r')
  let inner := cs.dropWhile isBlank
  (Atom.readInt? (inner.reverse.dropWhile isBlank).reverse).filter fun n => Formula.wrap n = n

def compare (operator : String) (m n : Int) : Bool :=
  match operator with
  | "-eq" => m = n
  | "-ne" => m ≠ n
  | "-lt" => m < n
  | "-le" => m ≤ n
  | "-gt" => m > n
  | _ => m ≥ n

def isComparison (operator : String) : Bool :=
  ["-eq", "-ne", "-lt", "-le", "-gt", "-ge"].contains operator

/-- Whether two paths lead to the same node. -/
def sameFile (a b : Chars) : Run Bool := do
  let t ← tree
  match t.locate (toText a), t.locate (toText b) with
  | .ok m, .ok n => return m == n
  | _, _ => return false

/-- Whether the file at a path is changed later than the one at another path. -/
def isNewer (a b : Chars) : Run Bool := do
  match ← node? a, ← node? b with
  | some m, some n => return n.modified < m.modified
  | some _, none => return true
  | none, _ => return false

/-- Why a test has no answer: a text is no number or no operator, a bracket stays open, a word is
missing behind another one, or there is a word too much. -/
inductive TestProblem
  | noNumber (t : Chars)
  | notUnary (t : Chars)
  | notBinary (t : Chars)
  | unclosed
  | missing (behind : Chars)
  | extra (t : Chars)

/-- How a shell tells of a problem. -/
def TestProblem.message : Dialect → TestProblem → String
  | .bash, .noNumber t => toText t ++ ": integer expression expected"
  | .dash, .noNumber t => "Illegal number: " ++ toText t
  | .bash, .notUnary t => toText t ++ ": unary operator expected"
  | .bash, .notBinary t => toText t ++ ": binary operator expected"
  | .bash, .unclosed => "`)' expected"
  | .dash, .unclosed => "closing paren expected"
  | .bash, .missing _ => "argument expected"
  | .dash, .missing t => toText t ++ ": argument expected"
  | .bash, .extra _ => "too many arguments"
  | .dash, .extra t | .dash, .notUnary t | .dash, .notBinary t =>
    (if t.isEmpty then "" else toText t ++ ": ") ++ "unexpected operator"

/-- What a test gives unless there is a problem. -/
abbrev Tested := ExceptT TestProblem Run

/-- Whether a condition on two texts holds, if there is such a one. -/
def binaryTest? (operator : String) (a b : Chars) : Tested (Option Bool) := do
  if isComparison operator then
    let number (t : Chars) : Tested Int :=
      match readInteger? t with
      | some n => pure n
      | none => throw (.noNumber t)
    return some (compare operator (← number a) (← number b))
  else
    match operator with
    | "=" | "==" => return some (a = b)
    | "!=" => return some (a ≠ b)
    | "<" => return some (a ≠ b && Bytes.precedes a b)
    | ">" => return some (a ≠ b && Bytes.precedes b a)
    | "-ef" => return some (← sameFile a b)
    | "-nt" => return some (← isNewer a b)
    | "-ot" => return some (← isNewer b a)
    | "-a" => return some (!a.isEmpty && !b.isEmpty)
    | "-o" => return some (!a.isEmpty || !b.isEmpty)
    | _ => return none

/-- Whether a text is an operator for one text. -/
def isUnaryOperator (cs : Chars) : Bool :=
  match cs with
  | ['-', c] => fileOperators.contains c || "zntvoR".toList.contains c
  | _ => false

/-- Tests up to three words, of which there is at least one. -/
def testFew : List Chars → Tested Bool
  | [] => return false
  | [a] => return !a.isEmpty
  | [a, b] => do
    if a = ['!'] then return b.isEmpty
    else if isUnaryOperator a then unaryTest a b
    else throw (.notUnary a)
  | [a, b, c] => do
    match ← binaryTest? (toText b) a c with
    | some result => return result
    | none =>
      if a = ['!'] then return !(← testFew [b, c])
      else if a = ['('] ∧ c = [')'] then testFew [b]
      else throw (.notBinary b)
  | _ :: _ :: _ :: t :: _ => throw (.extra t)

/-- Reads a condition of many words, from the weak operators to the strong ones. -/
def testMany (last : Chars) : Nat → List Chars → Tested (Bool × List Chars)
  | 0, ws => throw (.extra (ws.headD []))
  | room + 1, ws => do
    let single (ws : List Chars) : Tested (Bool × List Chars) := do
      match ws with
      | ['!'] :: rest =>
        let (b, rest) ← testMany last room rest
        return (!b, rest)
      | ['('] :: rest =>
        match ← testMany last room rest with
        | (b, [')'] :: rest) => return (b, rest)
        | _ => throw .unclosed
      | a :: o :: b :: rest =>
        if (o ≠ "-a".toList ∧ o ≠ "-o".toList) then
          match ← binaryTest? (toText o) a b with
          | some result => return (result, rest)
          | none =>
            if isUnaryOperator a then return (← unaryTest a o, b :: rest)
            else return (!a.isEmpty, o :: b :: rest)
        else return (!a.isEmpty, o :: b :: rest)
      | [a, b] =>
        if isUnaryOperator a then return (← unaryTest a b, []) else throw (.extra a)
      | [a] => return (!a.isEmpty, [])
      | [] => throw (.missing last)
    let rec conjunction : Nat → List Chars → Tested (Bool × List Chars)
      | 0, ws => throw (.extra (ws.headD []))
      | n + 1, ws => do
        let (a, rest) ← single ws
        match rest with
        | ['-', 'a'] :: rest =>
          let (b, rest) ← conjunction n rest
          return (a && b, rest)
        | rest => return (a, rest)
    let (a, rest) ← conjunction (ws.length + 1) ws
    match rest with
    | ['-', 'o'] :: rest =>
      let (b, rest) ← testMany last room rest
      return (a || b, rest)
    | rest => return (a, rest)

/-- Tests the words of a condition. -/
def testWords (ws : List Chars) : Tested Bool := do
  match ws with
  | [['!'], a, b, c] => return !(← testFew [a, b, c])
  | [['('], a, b, [')']] => testFew [a, b]
  | _ =>
    if ws.length ≤ 3 then testFew ws
    else
      let (b, rest) ← testMany (ws.getLastD []) (ws.length + 1) ws
      match rest with
      | [] => return b
      | t :: _ => throw (.extra t)

variable (runner : Runner)

/-- The text of a regular expression, in which what is quoted stands for itself. -/
def regularText (ms : List Marked) : Chars :=
  ms.flatMap fun m =>
    if m.2 && ".[]()*+?^$|\\\x7b\x7d".toList.contains m.1 then ['\\', m.1] else [m.1]

/-- Whether a regular expression fits a text. What its groups fit is kept in a variable. -/
def regularTest (text : Chars) (ms : List Marked) : Run Nat := do
  match Regular.ofChars .posix (regularText ms) with
  | .error _ => return 2
  | .ok r =>
    let x := Subject.ofChars (← hasExtra "nocasematch") text
    match r.findFrom x 0 with
    | none =>
      let _ ← store "BASH_REMATCH" (.array [])
      return 1
    | some m =>
      let groups := (List.range (r.groupCount + 1)).map fun n => (n, m.text x n)
      let _ ← store "BASH_REMATCH" (.array groups)
      return 0

/-- The status of a condition between double brackets. -/
def conditionStatus : Nat → Condition → Run Nat
  | 0, _ => return 2
  | room + 1, c => do
    let ofBool (b : Bool) : Nat := if b then 0 else 1
    let shown (words : List Chars) : Run Unit :=
      trace runner (List.intercalate [' '] (["[[".toList] ++ words ++ ["]]".toList]))
    let quoted (t : Chars) : Chars := if t.isEmpty then ['\'', '\''] else t
    match c with
    | .word w =>
      let t ← expandText runner w.parts
      shown ["-n".toList, quoted t]
      return ofBool !t.isEmpty
    | .unary operator w =>
      let t ← expandText runner w.parts
      shown [operator.toList, quoted t]
      return ofBool (← unaryTest operator.toList t)
    | .enclosed c => conditionStatus room c
    | .not c =>
      let n ← match c with
        | .word w => do
          let t ← expandText runner w.parts
          shown ["!".toList, "-n".toList, quoted t]
          pure (ofBool !t.isEmpty)
        | .unary operator w => do
          let t ← expandText runner w.parts
          shown ["!".toList, operator.toList, quoted t]
          pure (ofBool (← unaryTest operator.toList t))
        | c => conditionStatus room c
      return if n = 0 then 1 else if n = 1 then 0 else n
    | .both a b =>
      let n ← conditionStatus room a
      if n = 0 then conditionStatus room b else return n
    | .either a b =>
      let n ← conditionStatus room a
      if n = 0 then return 0 else conditionStatus room b
    | .binary operator a b =>
      let left ← expandText runner a.parts
      let right ← do pure (Piece.marked (← pieces runner maxWordNesting (← withHome b.parts)))
      let plain := right.map (·.1)
      let isPattern := ["==", "=", "!="].contains operator
      shown [quoted left, operator.toList,
        if isPattern then (if right.isEmpty then ['\'', '\''] else tracedPattern right)
        else quoted plain]
      if isComparison operator then
        match ← calculate "[[: " left, ← calculate "[[: " plain with
        | some m, some n => return ofBool (compare operator m n)
        | _, _ => return 1
      else if operator = "=~" then regularTest left right
      else if isPattern then
        let fold ← hasExtra "nocasematch"
        return ofBool ((Pattern.ofMarked true right).fitsWith fold left != (operator = "!="))
      else
        match ← (binaryTest? operator left plain).run with
        | .ok (some result) => return ofBool result
        | _ => return 1

end Run

end Provision.Shell

/-!
Tests of the smaller shell, which reads all conditions by one grammar, however many words they have.
-/

namespace Provision.Shell.Run

open Bytes (toText)

/-- What a word of a condition is where it stands. -/
inductive TestWord
  | unary
  | binary
  | not
  | both
  | either
  | opening
  | closing
  | operand
  | nothing
  deriving DecidableEq

/-- The operators of the smaller shell for two texts. -/
def plainBinary : List String :=
  ["=", "!=", "<", ">", "-eq", "-ne", "-ge", "-gt", "-le", "-lt", "-nt", "-ot", "-ef"]

/-- The operator that a word is by itself. -/
def plainOperator? (t : Chars) : Option TestWord :=
  match t with
  | ['!'] => some .not
  | ['('] => some .opening
  | [')'] => some .closing
  | ['-', 'a'] => some .both
  | ['-', 'o'] => some .either
  | ['-', c] =>
    if "rwxefdcbpugkstznhOGLS".toList.contains c then some .unary else none
  | t => if plainBinary.contains (toText t) then some .binary else none

/-- What the first of some words is. An operator for one text is none if nothing follows, or if an
operator for two texts and a further word do. -/
def testWord : List Chars → TestWord
  | [] => .nothing
  | t :: rest =>
    match plainOperator? t, rest with
    | none, _ | some .unary, [] | some .opening, [] => .operand
    | some .unary, next :: _ :: _ =>
      if plainOperator? next = some .binary then .operand else .unary
    | some w, _ => w

/-- Whether a condition on two texts holds. -/
def plainCompare (operator : String) (a b : Chars) : Tested Bool := do
  match operator with
  | "-nt" | "-ot" =>
    match ← node? a, ← node? b with
    | some m, some n =>
      return if operator = "-nt" then n.modified < m.modified else m.modified < n.modified
    | _, _ => return false
  | _ => return ((← binaryTest? operator a b).getD false)

/-- Reads a condition without operators around it from the start of some words, of which the first
one is known. The answer has what follows. -/
def plainPrimary (either : TestWord → List Chars → Tested (Bool × List Chars)) (first : TestWord)
    (ws : List Chars) : Tested (Bool × List Chars) := do
  match first, ws with
  | .nothing, _ | _, [] => return (false, [])
  | .opening, _ :: rest =>
    match testWord rest with
    | .closing => return (false, rest.drop 1)
    | next =>
      let (b, rest) ← either next rest
      if testWord rest = .closing then return (b, rest.drop 1) else throw .unclosed
  | .unary, [t] => throw (.missing t)
  | .unary, ['-', 't'] :: t :: rest =>
    if (readInteger? t).isNone then throw (.noNumber t) else return (false, rest)
  | .unary, t :: a :: rest => return (← unaryTest t a, rest)
  | _, a :: rest =>
    match testWord rest, rest with
    | .binary, [operator] => throw (.missing operator)
    | .binary, operator :: b :: rest => return (← plainCompare (toText operator) a b, rest)
    | _, _ => return (!a.isEmpty, rest)

mutual

/-- Reads conditions of which one has to hold. -/
def plainEither : Nat → TestWord → List Chars → Tested (Bool × List Chars)
  | 0, _, ws => throw (.extra (ws.headD []))
  | room + 1, first, ws => do
    let (a, rest) ← plainBoth room first ws
    if testWord rest = .either then
      let (b, rest) ← plainEither room (testWord (rest.drop 1)) (rest.drop 1)
      return (a || b, rest)
    else return (a, rest)

/-- Reads conditions of which all have to hold. -/
def plainBoth : Nat → TestWord → List Chars → Tested (Bool × List Chars)
  | 0, _, ws => throw (.extra (ws.headD []))
  | room + 1, first, ws => do
    let (a, rest) ← plainNot room first ws
    if testWord rest = .both then
      let (b, rest) ← plainBoth room (testWord (rest.drop 1)) (rest.drop 1)
      return (a && b, rest)
    else return (a, rest)

/-- Reads a condition that may be turned round. -/
def plainNot : Nat → TestWord → List Chars → Tested (Bool × List Chars)
  | 0, _, ws => throw (.extra (ws.headD []))
  | room + 1, first, ws => do
    if first = .not then
      let (b, rest) ← plainNot room (testWord (ws.drop 1)) (ws.drop 1)
      return (!b, rest)
    else plainPrimary (plainEither room) first ws

end

/-- Tests the words of a condition. Of three words with an operator for two texts between them, the
first one is a text. -/
def plainTest : (room : Nat) → List Chars → Tested Bool
  | 0, _ => return false
  | room + 1, ws => do
    let whole (first : TestWord) (ws : List Chars) : Tested Bool := do
      let (b, rest) ← plainEither (4 * ws.length + 4) first ws
      match rest, (ws.take (ws.length - rest.length)).getLast? with
      | _ :: _, some t => throw (.extra t)
      | _, _ => return b
    match ws with
    | [] => return false
    | [a, o, b] =>
      if plainOperator? o = some .binary then whole .operand ws
      else if a = ['('] && b = [')'] then whole (testWord [o]) [o]
      else if a = ['!'] then return !(← plainTest room [o, b])
      else whole (testWord ws) ws
    | [a, b, c, d] =>
      if a = ['('] && d = [')'] then whole (testWord [b, c]) [b, c]
      else if a = ['!'] then return !(← plainTest room [b, c, d])
      else whole (testWord ws) ws
    | ws => whole (testWord ws) ws

/-- The status of a condition in the name of a command. -/
def testStatus (command : String) (ws : List Chars) : Run Nat := do
  let tested := match (← get).dialect with
    | .bash => testWords ws
    | .dash => plainTest (ws.length + 1) ws
  match ← tested.run with
  | .ok b => return if b then 0 else 1
  | .error p =>
    report (command ++ ": " ++ p.message (← get).dialect)
    return 2

end Provision.Shell.Run
