import Provision.Regular.Reader
import Provision.Records.Value

/-!
The tokens of programs that go through records.
-/

namespace Provision.Records

/-- What is wrong with a program, and on which line. -/
inductive Fault
  | near (line : Nat) (text : Chars)
  | missing (line : Nat) (sign : Char) (text : Chars)
  | missingBrace (line : Nat)
  | extra (line : Nat) (sign : String)
  | unexpected (line : Nat) (c : Char)
  | runawayText (line : Nat) (t : Chars)
  | runawayRegular (line : Nat) (t : Chars)
  | regular (line : Nat) (reason : String) (t : Chars)
  | argumentCount (line : Nat) (f : String)
  | noArguments (line : Nat) (f : String)
  | isTable (line : Nat) (name : String)
  | isNoTable (line : Nat) (name : String)
  | unknownFunction (line : Nat) (f : String)
  | twice (line : Nat) (f : String)
  | tooMany (line : Nat) (f : String)
  | parameterTwice (line : Nat) (name : String)
  | outside (line : Nat) (text : String)

def Fault.message : Fault → String
  | .near n t => "line " ++ toString n ++ ": syntax error at or near " ++ Bytes.toText t
  | .missing n c t => "line " ++ toString n ++ ": missing " ++ String.singleton c ++ " near " ++ Bytes.toText t
  | .missingBrace n => "line " ++ toString n ++ ": missing \x7d near end of file"
  | .extra n s => "line " ++ toString n ++ ": extra '" ++ s ++ "'"
  | .unexpected n c => toString n ++ ": unexpected character '" ++ Bytes.toText [c] ++ "'"
  | .runawayText n t => "line " ++ toString n ++ ": runaway string constant " ++ Bytes.toText t ++ " ..."
  | .runawayRegular n t =>
    "line " ++ toString n ++ ": runaway regular expression " ++ Bytes.toText t ++ " ..."
  | .regular n reason t =>
    "line " ++ toString n ++ ": regular expression compile failed (" ++ reason ++ ")\n" ++
      Bytes.toText t
  | .argumentCount n f => "line " ++ toString n ++ ": wrong number of arguments in call to " ++ f
  | .noArguments n f => "line " ++ toString n ++ ": no arguments in call to " ++ f
  | .isTable n name => "line " ++ toString n ++ ": illegal reference to array " ++ name
  | .isNoTable n name => "line " ++ toString n ++ ": illegal reference to variable " ++ name
  | .unknownFunction n f => "line " ++ toString n ++ ": function " ++ f ++ " never defined"
  | .twice n f => "line " ++ toString n ++ ": redefinition of " ++ f
  | .tooMany n f => "line " ++ toString n ++ ": too many arguments in call to " ++ f
  | .parameterTwice n name =>
    "line " ++ toString n ++ ": " ++ name ++ " is duplicated in argument list"
  | .outside n text => "line " ++ toString n ++ ": " ++ text

inductive Token
  | finish
  | newline
  | number (x : Float) (spelled : Chars)
  | text (t : Chars)
  /-- A word that has a meaning of its own. -/
  | word (w : String)
  /-- A function that there is always. -/
  | builtin (f : String)
  /-- A name with an opening parenthesis right behind it. -/
  | called (f : String)
  | name (n : String)
  | sign (s : String)

namespace Token

def isSign (t : Token) (s : String) : Bool :=
  match t with
  | .sign u => s = u
  | _ => false

def isWord (t : Token) (w : String) : Bool :=
  match t with
  | .word u => w = u
  | _ => false

/-- A token as faults show it. -/
def shown : Token → Chars
  | .finish => "end of file".toList
  | .newline => "end of line".toList
  | .number _ t => t
  | .text t => t
  | .word w | .builtin w | .called w | .name w | .sign w => w.toList

def words : List String :=
  ["BEGIN", "END", "function", "func", "if", "else", "while", "for", "do", "break", "continue",
   "next", "nextfile", "exit", "return", "delete", "print", "printf", "getline", "in"]

/-- The functions that there are always, with the least and the greatest number of arguments. -/
def builtins : List (String × Nat × Nat) :=
  [("length", 0, 1), ("index", 2, 2), ("substr", 2, 3), ("split", 2, 3), ("match", 2, 2),
   ("sub", 2, 3), ("gsub", 2, 3), ("sprintf", 1, 255), ("tolower", 1, 1), ("toupper", 1, 1),
   ("sin", 1, 1), ("cos", 1, 1), ("atan2", 2, 2), ("exp", 1, 1), ("log", 1, 1), ("sqrt", 1, 1),
   ("int", 1, 1), ("rand", 0, 0), ("srand", 0, 1), ("close", 1, 1), ("system", 1, 1),
   ("fflush", 0, 1), ("strftime", 0, 3), ("mktime", 1, 1), ("systime", 0, 0)]

/-- The signs, longer ones before those with which they begin. -/
def signs : List String :=
  ["&&", "||", "==", "!=", "<=", ">=", "!~", "++", "--", "+=", "-=", "*=", "/=", "%=", "^=", ">>",
   "\x7b", "\x7d", "(", ")", "[", "]", ";", ",", "+", "-", "*", "/", "%", "^", "!", "<", ">", "|",
   "?", ":", "~", "$", "="]

/-- What stands behind a backslash in a text, and what follows. -/
def escaped (rest : Chars) : Chars × Chars :=
  let isOctal (c : Char) : Bool := '0' ≤ c && c ≤ '7'
  match rest with
  | [] => (['\\'], [])
  | c :: more =>
    match c with
    | 'n' => (['\n'], more)
    | 't' => (['\t'], more)
    | 'f' => (['\x0c'], more)
    | 'b' => (['\x08'], more)
    | 'r' => (['\r'], more)
    | 'a' => (['\x07'], more)
    | 'v' => (['\x0b'], more)
    | '\\' => (['\\'], more)
    | '\x22' => (['\x22'], more)
    | '\n' => ([], more)
    | c =>
      if isOctal c then
        let digits := (rest.take 3).takeWhile isOctal
        ([Char.ofNat ((Text.readNat? 8 digits).getD 0 % 256)], rest.drop digits.length)
      else if c = 'x' then
        let digits := (more.take 2).takeWhile fun d => (Text.digitValue? d).isSome
        match Text.readNat? 16 digits with
        | some n => ([Char.ofNat n], more.drop digits.length)
        | none => (['\\', 'x'], more)
      else (['\\', c], more)

/-- A text with what backslashes in it stand for. -/
def unescaped : (room : Nat) → Chars → Chars
  | 0, t => t
  | _ + 1, [] => []
  | room + 1, '\\' :: rest =>
    let (t, rest) := escaped rest
    t ++ unescaped room rest
  | room + 1, c :: rest => c :: unescaped room rest

/-- Reads a text up to the quote that ends it. -/
def readText : (room : Nat) → Chars → Option (Chars × Chars)
  | 0, _ => none
  | _ + 1, [] => none
  | _ + 1, '\x22' :: rest => some ([], rest)
  | _ + 1, '\n' :: _ => none
  | room + 1, '\\' :: rest =>
    let (t, rest) := escaped rest
    (readText room rest).map fun (more, rest) => (t ++ more, rest)
  | room + 1, c :: rest => (readText room rest).map fun (more, rest) => (c :: more, rest)

/-- Reads an expression up to the slash that ends it. Within brackets a slash stands for itself. -/
def readSlashed : (room : Nat) → (inside : Bool) → Chars → Option (Chars × Chars)
  | 0, _, _ => none
  | _ + 1, _, [] => none
  | _ + 1, _, '\n' :: _ => none
  | room + 1, inside, '\\' :: c :: rest =>
    if c = '\n' then none
    else
      (readSlashed room inside rest).map fun (more, rest) =>
        (if c = '/' then '/' :: more else '\\' :: c :: more, rest)
  | room + 1, inside, c :: rest =>
    if c = '/' && !inside then some ([], rest)
    else if c = '[' && !inside then
      let start := rest.takeWhile (· = '^')
      let close := (rest.drop start.length).takeWhile (· = ']')
      let lead := start.take 1 ++ close.take 1
      (readSlashed room true (rest.drop lead.length)).map fun (more, rest) =>
        (c :: lead ++ more, rest)
    else
      (readSlashed room (inside && c ≠ ']') rest).map fun (more, rest) => (c :: more, rest)

/-- Drops blanks, comments and ends of lines behind a backslash. The answer tells how many lines went
with them. -/
def skipBlanks : (room : Nat) → Chars → Chars × Nat
  | 0, cs => (cs, 0)
  | room + 1, cs =>
    match cs with
    | '\\' :: '\n' :: rest =>
      let (cs, n) := skipBlanks room rest
      (cs, n + 1)
    | '\\' :: '\r' :: '\n' :: rest =>
      let (cs, n) := skipBlanks room rest
      (cs, n + 1)
    | '#' :: rest => skipBlanks room (rest.dropWhile (· ≠ '\n'))
    | c :: rest => if c = ' ' || c = '\t' || c = '\r' then skipBlanks room rest else (cs, 0)
    | [] => ([], 0)

def isNameStart (c : Char) : Bool := c.isAlpha || c = '_'

def isNameChar (c : Char) : Bool := c.isAlphanum || c = '_'

/-- Reads a number, which has no sign. -/
def readNumber (cs : Chars) : Option (Float × Chars) :=
  (Decimal.Quantity.readDigits 10 cs).map fun (n, places, rest) =>
    let (e, rest) := Decimal.Quantity.readExponent ['e', 'E'] rest
    let e := Decimal.Quantity.clamp e - places
    ((Decimal.Quantity.finite false (Decimal.Ratio.scale 10 n e)).toFloat, rest)

/-- Reads a token, in front of which no blanks are. -/
def read (line : Nat) (cs : Chars) : Except Fault (Token × Chars) := do
  match cs with
  | [] => return (.finish, [])
  | '\n' :: rest => return (.newline, rest)
  | '\x22' :: rest =>
    match readText (rest.length + 1) rest with
    | some (t, rest) => return (.text t, rest)
    | none => throw (.runawayText line ((cs.takeWhile (· ≠ '\n')).take 11))
  | c :: rest =>
    if isNameStart c then
      let name := String.ofList (cs.takeWhile isNameChar)
      let rest := cs.drop name.length
      if words.contains name then return (.word (if name = "func" then "function" else name), rest)
      else if (builtins.lookup name).isSome then return (.builtin name, rest)
      else if rest.head? = some '(' then return (.called name, rest)
      else return (.name name, rest)
    else if c.isDigit || (c = '.' && rest.head?.any Char.isDigit) then
      match readNumber cs with
      | some (x, rest) => return (.number x (cs.take (cs.length - rest.length)), rest)
      | none => throw (.near line [c])
    else
      match signs.find? fun s => s.toList.isPrefixOf cs with
      | some s => return (.sign s, cs.drop s.length)
      | none => throw (.unexpected line c)

end Token

/-! ## Expressions -/

/-- Whether a sign of an expression has nothing to which it belongs. -/
def lacksOperand : (room : Nat) → (fresh : Bool) → Chars → Bool
  | 0, _, _ => false
  | _ + 1, fresh, [] => fresh
  | room + 1, fresh, c :: rest =>
    match c with
    | '\\' => lacksOperand room false (rest.drop 1)
    | '[' =>
      let start := if rest.head? = some '^' then 1 else 0
      let start := if rest[start]? = some ']' then start + 1 else start
      lacksOperand room false (((rest.drop start).dropWhile (· ≠ ']')).drop 1)
    | '(' | '|' => if c = '|' && fresh then true else lacksOperand room true rest
    | ')' => fresh || lacksOperand room false rest
    | '*' | '+' | '?' => fresh || lacksOperand room false rest
    | _ => lacksOperand room false rest

/-- Reads an expression, or tells why that is impossible. -/
def readRegular (t : Chars) : Except String Regular :=
  match Regular.ofChars .slashed t with
  | .error .unmatchedOpening => .error "missing ')'"
  | .error .trailingBackslash => .ok (.sequence (.ofLiteral t.dropLast) (.ofLiteral ['\\']))
  | .error _ => .error "bad class -- [], [^] or ["
  | .ok r =>
    if !t.isEmpty && lacksOperand (t.length + 1) true t then .error "missing operand" else .ok r

end Provision.Records
