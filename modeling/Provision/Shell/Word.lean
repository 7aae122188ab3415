import Provision.Shell.Escape
import Provision.Shell.Source

namespace Provision.Shell

/-- Where a word is read: in the open, between double quotes, in the text of a here-document, as an
arithmetic expression, as a regular expression, as an index, in the parentheses of a pattern, or between braces, up to one of
some characters. -/
inductive Mode
  | plain
  | quoted
  | here
  | number
  | regular
  | index
  | group
  | braced (quoted : Bool) (stops : Chars)
  deriving DecidableEq, Repr

/-- The readers of what can stand inside itself. -/
structure Nested where
  commands : List String → Reader (List Command)
  parts : Mode → Reader (List Part)
  condition : Reader Condition

namespace Mode

/-- Whether what is read counts as quoted. -/
def isQuoted : Mode → Bool
  | .quoted | .here | .number => true
  | .braced inner _ => inner
  | .plain | .regular | .index | .group => false

/-- Whether a character ends the reading. -/
def stopsAt : Mode → Char → Bool
  | .plain, c => isMeta c
  | .quoted, c => c == '"'
  | .here, _ => false
  | .number, _ => false
  | .index, _ => false
  | .group, c => c == ')'
  | .regular, c => " \t\n".toList.contains c
  | .braced _ stops, c => stops.contains c

/-- Whether a character begins a part of its own kind. -/
def isSpecial (m : Mode) (c : Char) : Bool :=
  c == '\\' || c == '$' || c == (Char.ofNat 96) ||
    (m = .number && c == '"') ||
    (m != .quoted && m != .here && m != .number && (c == '"' || (c == '\'' && !m.isQuoted)))

/-- Whether a backslash takes the meaning from a character. -/
def isEscapable (m : Mode) (c : Char) : Bool :=
  if m.isQuoted then
    c == '$' || c == (Char.ofNat 96) || c == '\\' || (m != .here && c == '"') ||
      (m != .quoted && m.stopsAt c)
  else true

end Mode

/-- The quote around a command whose output is taken. -/
def backquote : Char := Char.ofNat 96

namespace Reader

/-- Takes a text up to a character, which is dropped. -/
def through (mark : Char) : Reader Chars := do
  let text := (← get).rest.takeWhile (· != mark)
  if text.length = (← get).rest.length then fail (.unclosed mark)
  skip (text.length + 1)
  return text

/-- How many characters there are up to a closing mark, where a backslash protects the next. -/
def spanTo (mark : Char) : Chars → Option Nat
  | [] => none
  | '\\' :: _ :: rest => (spanTo mark rest).map (· + 2)
  | c :: rest => if c = mark then some 0 else (spanTo mark rest).map (· + 1)

/-- Takes a text up to a closing mark that is not behind a backslash. -/
def throughOpen (mark : Char) : Reader Chars := do
  match spanTo mark (← get).rest with
  | none => fail (.unclosed mark)
  | some n =>
    let text := (← get).rest.take n
    skip (n + 1)
    return text

/-- How many characters there are up to the mark that closes an open one. -/
def balancedSpan (opening closing : Char) : (depth : Nat) → Chars → Option Nat
  | _, [] => none
  | depth, c :: rest =>
    if c = opening then (balancedSpan opening closing (depth + 1) rest).map (· + 1)
    else if c = closing then
      match depth with
      | 0 => some 0
      | depth + 1 => (balancedSpan opening closing depth rest).map (· + 1)
    else (balancedSpan opening closing depth rest).map (· + 1)

/-- Takes a text up to the mark that closes an open one, which is dropped. -/
def throughBalanced (opening closing : Char) : Reader Chars := do
  match balancedSpan opening closing 0 (← get).rest with
  | none => fail (.unclosed closing)
  | some n =>
    let text := (← get).rest.take n
    skip (n + 1)
    return text

variable (nested : Nested)

/-- How many characters there are before two parentheses that close an expression. -/
def doubleSpan : (depth : Nat) → Chars → Option Nat
  | _, [] => none
  | 0, ')' :: ')' :: _ => some 0
  | depth, c :: rest =>
    (doubleSpan (if c = '(' then depth + 1 else if c = ')' then depth - 1 else depth) rest).map
      (· + 1)

/-- Takes an arithmetic expression behind its two opening parentheses, if two close it. In the smaller
shell two have to do that. -/
def expression? : Reader (Option (List Part)) := do
  let rest := (← get).rest
  if (← dialect) = .dash then
    match doubleSpan 0 rest with
    | none => fail (.condition ["Missing '))'"])
    | some n =>
      let w ← within (rest.take n) (nested.parts .number)
      skip (n + 2)
      return some w
  match balancedSpan '(' ')' 0 rest with
  | none => fail (.unclosed ')')
  | some n =>
    if (rest.drop n).tail.head? = some ')' then
      let text := rest.take n
      let w ← within text (nested.parts .number)
      skip (n + 2)
      return some w
    else return none

/-- Reads a command whose output is taken, behind its opening parenthesis. -/
def captured (quoted : Bool) : Reader Part := do
  let body ← nested.commands [")"]
  if (← get).rest.isEmpty then fail (.unclosed ')')
  expect ")"
  return .capture quoted body

/-- Reads a command whose output is taken and that begins with a parenthesis of its own. -/
def capturedSubshell (quoted : Bool) : Reader Part := do
  let start := (← get).line
  modify fun s => { s with rest := '(' :: s.rest }
  let part ← tryCatch (captured nested quoted) fun
    | ⟨_, .unclosed ')'⟩ => throw ⟨start, .unclosed ')'⟩
    | e => throw e
  return part

/-- The text between backquotes, with the backslashes taken off that protect it. -/
def unprotect (quoted : Bool) : Chars → Chars
  | '\\' :: c :: rest =>
    if c = '$' ∨ c = '\\' ∨ c = backquote ∨ (quoted ∧ c = '"') then c :: unprotect quoted rest
    else '\\' :: c :: unprotect quoted rest
  | c :: rest => c :: unprotect quoted rest
  | [] => []

/-- Takes the word of an operation up to the closing brace. -/
def operand (quoted : Bool) : Reader (List Part) := do
  let w ← nested.parts (.braced quoted ['}'])
  unless ← accept "\x7d" do fail (.unclosed '}')
  return w

/-- Reads the pattern of a replacement and the text that comes in its place. -/
def replacement (all : Bool) : Reader Operation := do
  let side ←
    if all then pure none
    else if ← accept "#" then pure (some Side.front)
    else if ← accept "%" then pure (some Side.back)
    else pure none
  let pattern ← nested.parts (.braced false ['/', '}'])
  if ← accept "/" then return .replace all side pattern (← operand nested false)
  unless ← accept "\x7d" do fail (.unclosed '}')
  return .replace all side pattern []

/-- Reads how the case of letters is changed, with the pattern of the letters in question. -/
def recasing (how : Recasing) (sign : String) : Reader Operation := do
  let all ← accept sign
  return .recase how all (← operand nested false)

/-- Reads what is made of the value of a parameter, up to the closing brace. -/
def operation (quoted : Bool) : Reader (Option Operation) := do
  if ← accept "\x7d" then return some .value
  let onEmpty ← (return (← sees ":-") || (← sees ":=") || (← sees ":?") || (← sees ":+"))
  if onEmpty then skip 1
  if ← accept "-" then return some (.fallback onEmpty (← operand nested quoted))
  if ← accept "=" then return some (.default onEmpty (← operand nested quoted))
  if ← accept "?" then return some (.require onEmpty (← operand nested quoted))
  if ← accept "+" then return some (.instead onEmpty (← operand nested quoted))
  if ← accept "##" then return some (.trim .front true (← operand nested false))
  if ← accept "#" then return some (.trim .front false (← operand nested false))
  if ← accept "%%" then return some (.trim .back true (← operand nested false))
  if ← accept "%" then return some (.trim .back false (← operand nested false))
  if (← dialect) = .dash then return none
  if ← accept "//" then return some (← replacement nested true)
  if ← accept "/" then return some (← replacement nested false)
  if ← accept "^" then return some (← recasing nested .upper "^")
  if ← accept "," then return some (← recasing nested .lower ",")
  if ← accept "~" then return some (← recasing nested .toggle "~")
  if ← accept "@" then
    match ← peek with
    | some c =>
      if "UuLQEPAKak".toList.contains c then
        skip 1
        if ← accept "\x7d" then return some (.shown c)
      return none
    | none => return none
  if ← accept ":" then
    let offset ← nested.parts (.braced true [':', '}'])
    if ← accept ":" then return some (.slice offset (some (← operand nested true)))
    unless ← accept "\x7d" do fail (.unclosed '}')
    return some (.slice offset none)
  return none

/-- The parameters that are not variables. -/
def isSpecialParameter (c : Char) : Bool := "@*#?-$!".toList.contains c

/-- Takes the name of a parameter between braces. -/
def parameterName : Reader (Option String) := do
  match ← peek with
  | none => return none
  | some c =>
    if isNameStart c then return some (String.ofList (← takeWhile isNameChar))
    else if c.isDigit then return some (String.ofList (← takeWhile Char.isDigit))
    else if isSpecialParameter c then
      skip 1
      return some (String.singleton c)
    else return none

/-- Takes an index between brackets. -/
def index? : Reader (Option (List Part)) := do
  if ← accept "[" then
    let text ← throughBalanced '[' ']'
    return some (← within text (nested.parts .index))
  else return none

/-- Whether what stands behind an opening brace asks for the length of a parameter. -/
def asksLength (cs : Chars) : Bool :=
  match cs with
  | '#' :: c :: rest =>
    isNameStart c || c.isDigit || (isSpecialParameter c && rest.head? = some '}')
  | _ => false

/-- Reads a parameter behind its opening brace. -/
def braced (quoted : Bool) : Reader Part := do
  let start ← get
  let isLength := asksLength start.rest
  if isLength then skip 1
  let indirect ← (return !isLength && (← dialect) = .bash && (← sees "!") && !(← sees "!\x7d"))
  if indirect then skip 1
  let invalid : Reader Part := do
    set start
    let text ← throughBalanced '{' '}'
    return .parameter quoted (.mk false "" none (.invalid text))
  match ← parameterName with
  | none => invalid
  | some name =>
    if ← acceptIf indirect "@\x7d" then
      return .parameter quoted (.mk false name none (.names false))
    if ← acceptIf indirect "*\x7d" then
      return .parameter quoted (.mk false name none (.names true))
    let index ← if (← dialect) = .bash then index? nested else pure none
    if isLength then
      if ← accept "\x7d" then return .parameter quoted (.mk false name index .length) else invalid
    else
      match ← operation nested quoted with
      | none => invalid
      | some op =>
        match indirect, index, op with
        | true, some (.literal _ ['@'] :: _), .value
        | true, some (.literal _ ['*'] :: _), .value =>
          return .parameter quoted (.mk false name index .keys)
        | _, _, _ => return .parameter quoted (.mk indirect name index op)

/-- Reads what stands behind a dollar sign. -/
def dollar (m : Mode) : Reader Part := do
  let quoted := m.isQuoted
  let isFull := (← dialect) = .bash
  let simple (name : String) : Part := .parameter quoted (.mk false name none .value)
  if ← accept "((" then
    match ← expression? nested with
    | some w => return .arithmetic quoted w
    | none => capturedSubshell nested quoted
  else if ← acceptIf isFull "[" then
    let text ← throughBalanced '[' ']'
    return .arithmetic quoted (← within text (nested.parts .number))
  else if ← accept "(" then captured nested quoted
  else if ← accept "\x7b" then braced nested quoted
  else
    match ← peek with
    | none => return .literal quoted ['$']
    | some c =>
      if isNameStart c then return simple (String.ofList (← takeWhile isNameChar))
      else if c.isDigit || isSpecialParameter c then
        skip 1
        return simple (String.singleton c)
      else if c = '\'' ∧ !quoted ∧ isFull then
        skip 1
        return .literal true (unescape .quoted (← throughOpen '\'')).1
      else if c = '"' ∧ !quoted ∧ isFull then return .literal false []
      else return .literal quoted ['$']

/-- Whether a text begins with parentheses that hold alternatives of a pattern. -/
def beginsGroup (cs : Chars) : Bool :=
  match cs with
  | c :: '(' :: _ => "?*+@!".toList.contains c
  | _ => false

/-- Reads the alternatives of a pattern behind their opening parenthesis. -/
def alternatives (opening : Chars) : Reader (List Part) := do
  let inside ← nested.parts .group
  unless ← accept ")" do fail (.unclosed ')')
  return .literal false opening :: inside ++ [.literal false [')']]

/-- The longest beginning of a text that has no meaning but itself. -/
def plainSpan (m : Mode) (groups : Bool) : Chars → Chars
  | [] => []
  | c :: rest =>
    if m.stopsAt c || m.isSpecial c || (groups && beginsGroup (c :: rest)) ||
        (m = .group && c == '(') || (m = .regular && c == '(') then []
    else c :: plainSpan m groups rest

/-- Reads the next part of a word. -/
def part? (m : Mode) : Reader (Option (List Part)) := do
  let quoted := m.isQuoted
  let isFull := (← dialect) = .bash
  let groups := (m = .plain || m = .group) && (← get).extended
  match ← peek with
  | none => return none
  | some c =>
    if m = .plain ∧ isFull ∧ (← sees "<(") then
      skip 2
      let body ← nested.commands [")"]
      expect ")"
      return some [.feed true body]
    else if m = .plain ∧ isFull ∧ (← sees ">(") then
      skip 2
      let body ← nested.commands [")"]
      expect ")"
      return some [.feed false body]
    else if m.stopsAt c then return none
    else if groups ∧ beginsGroup (← get).rest then
      skip 2
      return some (← alternatives nested [c, '('])
    else if (m = .group ∨ m = .regular) ∧ c = '(' then
      skip 1
      return some (← alternatives nested ['('])
    else if c = '\\' then
      skip 1
      match ← peek with
      | none => return some [.literal quoted ['\\']]
      | some '\n' =>
        skip 1
        return some []
      | some d =>
        if m.isEscapable d then
          skip 1
          return some [.literal true [d]]
        else return some [.literal quoted ['\\']]
    else if c = '$' then
      skip 1
      return some [← dollar nested m]
    else if c = backquote then
      skip 1
      let text ← throughOpen backquote
      return some [.capture quoted (← within (unprotect quoted text) (nested.commands []))]
    else if c = '\'' ∧ m.isSpecial c then
      skip 1
      return some [.literal true (← through '\'')]
    else if c = '"' ∧ m = .number then
      skip 1
      return some []
    else if c = '"' ∧ m.isSpecial c then
      let start := (← get).line
      skip 1
      let inner ← tryCatch (nested.parts .quoted) fun
        | ⟨_, .unclosed '}'⟩ => throw ⟨start, .unclosed '"'⟩
        | e => throw e
      unless ← accept "\"" do throw ⟨start, .unclosed '"'⟩
      return some (if inner.isEmpty then [.literal true []] else inner)
    else
      let text := plainSpan m groups (← get).rest
      skip text.length
      return some [.literal quoted text]

/-- Reads the parts of a word. -/
def partsWith (m : Mode) : Reader (List Part) := do
  return (← many (part? nested m)).flatten

/-- Reads the parts of a word, with its text. -/
def wordIn (m : Mode) : Reader Word := do
  let (parts, text) ← spelled (nested.parts m)
  return .mk parts text

/-- Whether the source stands at commands whose output or input is given as a file. -/
def seesFeed : Reader Bool := return (← dialect) = .bash && ((← sees "<(") || (← sees ">("))

/-- Reads a word, of which there has to be some. -/
def word (m : Mode) : Reader Word := do
  match ← peek with
  | none => unexpected
  | some c => if m.stopsAt c && !(← seesFeed) then unexpected else wordIn nested m

end Reader

end Provision.Shell
