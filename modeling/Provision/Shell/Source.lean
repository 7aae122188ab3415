import Provision.Shell.Script
import Provision.OrderedMap

namespace Provision.Shell

/-- An alias in whose place its text stands: its name, the position behind it, and whether the next
word can be an alias too. -/
structure Replacement where
  name : String
  ending : Int
  continues : Bool

/-- What is left of a script, how many characters of it are read, the line at which the rest begins,
how many lines have been taken out of it behind that line, the here-documents that end with the
script (the lines of the end and of the start, and what should end them), in which way it is
read, the aliases, and those that are replaced. The text of an alias does not count among the
characters that are read, but its name does. -/
structure Source where
  rest : Chars
  position : Int
  line : Nat
  held : Nat
  unended : List (Nat × Nat × Chars)
  dialect : Dialect
  extended : Bool
  aliases : OrderedMap String Chars
  replaced : List Replacement

inductive SyntaxProblem
  | unexpected (token : Chars) (expected : Option String)
  | unfinished (expected : Option String)
  | unclosed (mark : Char)
  | unclosedArray
  | condition (reasons : List String)
  | badName (name : Chars)
  | badSubstitution
  deriving DecidableEq, Repr

/-- What is wrong with a script, and on which line. -/
structure SyntaxError where
  line : Nat
  problem : SyntaxProblem
  deriving DecidableEq, Repr

abbrev Reader := StateT Source (Except SyntaxError)

def isBlankChar (c : Char) : Bool := c == ' ' || c == '\t'

/-- The characters that end a word. -/
def isMeta (c : Char) : Bool := " \t\n|&;()<>".toList.contains c

def isNameStart (c : Char) : Bool := c.isAlpha || c == '_'

def isNameChar (c : Char) : Bool := c.isAlphanum || c == '_'

def isName (cs : Chars) : Bool :=
  match cs with
  | [] => false
  | c :: rest => isNameStart c && rest.all isNameChar

/-- The texts that separate words by themselves. Of two that fit, the first one is meant. -/
def operators : List String :=
  ["&&", "||", ";;&", ";;", ";&", "&>>", "&>", "|&", "<<<", "<<-", "<<", "<&", "<>", ">>", ">&",
   ">|", ";", "&", "|", "(", ")", "<", ">"]

/-- The operators that the smaller shell has. -/
def plainOperators : List String :=
  ["&&", "||", ";;", "<<-", "<<", "<&", "<>", ">>", ">&", ">|", ";", "&", "|", "(", ")", "<", ">"]

/-- The words that are reserved in the smaller shell. -/
def plainKeywords : List String :=
  ["if", "then", "else", "elif", "fi", "case", "esac", "for", "while", "until", "do", "done", "in",
   "\x7b", "\x7d", "!"]

/-- The operator with which a text begins. -/
def operator? (d : Dialect) (cs : Chars) : Option String :=
  (if d = .bash then operators else plainOperators).find? fun o => o.toList.isPrefixOf cs

namespace Source

/-- Whether the text of an alias with a property is being read. -/
def isReplacing (p : Replacement → Bool) (s : Source) : Bool :=
  s.replaced.any fun r => s.position < r.ending && p r

/-- Drops a character. Lines in the text of an alias do not count. -/
def advance (s : Source) : Source :=
  match s.rest with
  | [] => s
  | '\n' :: rest =>
    if s.isReplacing fun _ => true then { s with rest, position := s.position + 1 }
    else { s with rest, position := s.position + 1, line := s.line + 1 + s.held, held := 0 }
  | _ :: rest => { s with rest, position := s.position + 1 }

def drop : Nat → Source → Source
  | 0, s => s
  | n + 1, s => drop n s.advance

/-- How many characters of a text are blank, with lines that go on after a backslash. -/
def blankCount : Chars → Nat
  | '\\' :: '\n' :: rest => blankCount rest + 2
  | c :: rest => if isBlankChar c then blankCount rest + 1 else 0
  | [] => 0

def skipBlanks (s : Source) : Source := s.drop (blankCount s.rest)

/-- Drops a comment, which runs up to the end of the line. -/
def skipComment (s : Source) : Source :=
  if s.rest.head? = some '#' then s.drop (s.rest.takeWhile (· != '\n')).length else s

/-- The word at the start, as it is written. -/
def rawWord (s : Source) : Chars := s.rest.takeWhile (!isMeta ·)

end Source

namespace Reader

variable {α : Type}

def fail (problem : SyntaxProblem) : Reader α := do throw ⟨(← get).line, problem⟩

def dialect : Reader Dialect := return (← get).dialect

/-- Fails with the token at which the source stands, in place of which another one may be
expected. -/
def unexpectedFor (expected : Option String) : Reader α := do
  let s ← get
  match s.rest with
  | [] => fail (.unfinished expected)
  | '\n' :: _ => fail (.unexpected "newline".toList expected)
  | _ =>
    match operator? s.dialect s.rest with
    | some o => fail (.unexpected o.toList expected)
    | none => fail (.unexpected s.rawWord expected)

/-- Fails with the token at which the source stands. -/
def unexpected : Reader α := unexpectedFor none

def peek : Reader (Option Char) := return (← get).rest.head?

def skip (n : Nat) : Reader Unit := modify (·.drop n)

/-- Whether the source goes on with a text. -/
def sees (text : String) : Reader Bool := return text.toList.isPrefixOf (← get).rest

/-- Takes a text if the source goes on with it. -/
def accept (text : String) : Reader Bool := do
  if ← sees text then
    skip text.length
    return true
  else return false

/-- Takes a text if that is wanted and the text comes next. -/
def acceptIf (wanted : Bool) (text : String) : Reader Bool :=
  if wanted then accept text else return false

def expect (text : String) : Reader Unit := do
  unless ← accept text do unexpectedFor (some text)

def blanks : Reader Unit := modify (·.skipBlanks)

/-- Whether the word at the start is a reserved one. -/
def seesWord (word : String) : Reader Bool := return (← get).rawWord = word.toList

def acceptWord (word : String) : Reader Bool := do
  if ← seesWord word then
    skip word.length
    return true
  else return false

/-- Takes a word if that is wanted and the word comes next. -/
def acceptWordIf (wanted : Bool) (word : String) : Reader Bool :=
  if wanted then acceptWord word else return false

def expectWord (word : String) : Reader Unit := do
  unless ← acceptWord word do unexpectedFor (some word)

/-- Takes characters as long as they fit. -/
def takeWhile (p : Char → Bool) : Reader Chars := do
  let taken := (← get).rest.takeWhile p
  skip taken.length
  return taken

def manyWithin (r : Reader (Option α)) : Nat → List α → Reader (List α)
  | 0, found => return found.reverse
  | room + 1, found => do
    match ← r with
    | none => return found.reverse
    | some a => manyWithin r room (a :: found)

/-- Reads again and again, as long as there is something to read. Each time uses up some of the
source. -/
def many (r : Reader (Option α)) : Reader (List α) := do
  manyWithin r ((← get).rest.length + 1) []

/-- Drops blanks, comments and the ends of lines. -/
def lineEnds : Reader Unit := do
  let _ ← many do
    modify (·.skipBlanks.skipComment)
    return if ← accept "\n" then some () else none

/-- Reads a text of its own, which begins on the present line. -/
def within (text : Chars) (r : Reader α) : Reader α := do
  let outer ← get
  set ({ outer with rest := text, held := 0 } : Source)
  let a ← r
  set outer
  return a

/-- Reads something, and gives the text of it too. -/
def spelled (r : Reader α) : Reader (α × Chars) := do
  let before ← get
  let a ← r
  return (a, before.rest.take ((← get).position - before.position).toNat)

/-- Puts the text of an alias in the place of its name, if the source stands at one that is not in
its own text. The text does not grow together with what follows. -/
def replaceAlias : Reader Bool := do
  let s ← get
  let raw := s.rawWord
  let name := String.ofList raw
  if s.isReplacing (·.name = name) then return false
  match s.aliases.get? name with
  | none => return false
  | some text =>
    let isOpen := s.dialect = .bash && !text.getLast?.any isMeta
    let continues := text.getLast?.any isBlankChar
    let text := if isOpen then text ++ [' '] else text
    let ending := s.position + raw.length
    set { s with
      rest := text ++ s.rest.drop raw.length
      position := ending - text.length
      replaced := ⟨name, ending, continues⟩ :: s.replaced }
    return true

/-- Puts the texts of aliases in their places, where a command can begin. -/
def replaceAliases : Reader Unit := do
  if (← get).aliases.size = 0 then return
  let _ ← many do
    blanks
    return if ← replaceAlias then some () else none

end Reader

end Provision.Shell
