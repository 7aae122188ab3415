import Provision.Shell.Word

namespace Provision.Shell

namespace Reader

variable (nested : Nested)

/-- The words that close or continue a command and cannot begin one. -/
def closingWords : List String :=
  ["then", "elif", "else", "fi", "do", "done", "esac", "\x7d"]

/-- Whether the source stands at one of the given words or signs. -/
def atStop (stops : List String) : Reader Bool := do
  let s ← get
  return stops.any fun stop =>
    if stop.toList.all isMeta then stop.toList.isPrefixOf s.rest else s.rawWord = stop.toList

/-- The lines of a here-document, up to the one that ends it, and what follows that. -/
def hereLines (tabs : Bool) (delimiter : Chars) : List Chars → List Chars × Option (List Chars)
  | [] => ([], none)
  | line :: rest =>
    let line := if tabs then line.dropWhile (· == '\t') else line
    if line = delimiter then ([], some rest)
    else
      let (body, rest) := hereLines tabs delimiter rest
      (line :: body, rest)

/-- Takes the text of a here-document out of the lines behind the present one. -/
def hereText (tabs : Bool) (delimiter : Chars) : Reader Chars := do
  let s ← get
  let present := s.rest.takeWhile (· != '\n')
  let behind := (s.rest.drop (present.length + 1)).splitOn '\n'
  match hereLines tabs delimiter behind with
  | (body, some rest) =>
    let held := s.held + (behind.length - rest.length)
    set { s with rest := present ++ '\n' :: List.intercalate ['\n'] rest, held }
    return (body.map (· ++ ['\n'])).flatten
  | (body, none) =>
    let height := if body.getLast? = some [] then body.length - 1 else body.length
    set { s with
      rest := present ++ ['\n'], held := s.held + height
      unended := s.unended ++ [(s.line + s.held + height, s.line, delimiter)] }
    return List.intercalate ['\n'] body

/-- The text of a word without its quotes, and whether it has some. -/
def delimiter (raw : Chars) : Chars × Bool :=
  (raw.filter fun c => c != '\'' && c != '"' && c != '\\',
    raw.any fun c => c == '\'' || c == '"' || c == '\\')

/-- The descriptor before a redirection, if there is one. -/
def descriptor? (d : Dialect) (cs : Chars) : Option (Descriptor × Chars) :=
  let turned (rest : Chars) : Bool := rest.head? = some '<' || rest.head? = some '>'
  match cs with
  | '\x7b' :: rest =>
    let name := rest.takeWhile isNameChar
    match rest.drop name.length with
    | '\x7d' :: rest =>
      if d = .bash && isName name && turned rest then some (.variable (String.ofList name), rest)
      else none
    | _ => none
  | _ =>
    let digits := cs.takeWhile Char.isDigit
    let rest := cs.drop digits.length
    if turned rest then (Text.readNat? 10 digits).map fun n => (.number n, rest) else none

/-- The texts of the redirections. Of two that fit, the first one is meant. -/
def directions (d : Dialect) : List (String × Direction) :=
  let plain := [("<&", Direction.duplicateInput), ("<>", .inputOutput), ("<", .input),
    (">&", .duplicateOutput), (">>", .append), (">|", .clobber), (">", .output)]
  if d = .bash then
    ("&>>", .bothAppend) :: ("&>", .both) :: ("<<<", .hereString) :: plain
  else plain

/-- Reads a here-document behind its sign. -/
def hereDocument (tabs : Bool) : Reader (Direction × Word) := do
  blanks
  let raw := (← get).rawWord
  if raw.isEmpty then unexpected
  skip raw.length
  let (mark, isLiteral) := delimiter raw
  let text ← hereText tabs mark
  let parts ← if isLiteral then pure [.literal true text] else within text (nested.parts .here)
  return (.hereDocument mark isLiteral tabs, .mk parts text)

/-- Reads a redirection, if there is one. -/
def redirection? : Reader (Option Redirection) := do
  if ← seesFeed then return none
  let s ← get
  let explicit := descriptor? s.dialect s.rest
  match explicit with
  | some (_, rest) => skip (s.rest.length - rest.length)
  | none => pure ()
  let descriptor := (explicit.map (·.1)).getD .usual
  let isHere ← (return (← sees "<<") && !((← sees "<<<") && s.dialect = .bash))
  if isHere then
    let tabs ← accept "<<-"
    unless tabs do skip 2
    let (direction, w) ← hereDocument nested tabs
    return some (.mk descriptor direction w)
  let rest := (← get).rest
  match (directions s.dialect).find? fun (sign, _) => sign.toList.isPrefixOf rest with
  | none => return none
  | some (sign, direction) =>
    skip sign.length
    blanks
    return some (.mk descriptor direction (← word nested .plain))

def redirections : Reader (List Redirection) :=
  many do
    blanks
    redirection? nested

/-- Reads the elements of an array behind the opening parenthesis. -/
def elements : Reader (List (Option (List Part) × Word)) := do
  let start := (← get).line
  let found ← many do
    lineEnds
    if (← get).rest.isEmpty then throw ⟨start, .unclosedArray⟩
    if ← accept ")" then return none
    let isIndexed :=
      match (← get).rest with
      | '[' :: inner =>
        match balancedSpan '[' ']' 0 inner with
        | some n =>
          match inner.drop (n + 1) with
          | '=' :: _ | '+' :: '=' :: _ => true
          | _ => false
        | none => false
      | _ => false
    if isIndexed then
      let index ← index? nested
      let _ ← accept "+"
      expect "="
      return some (index, ← wordIn nested .plain)
    else return some (none, ← word nested .plain)
  return found

/-- The name at the start of an assignment, if there is one, with the text behind it. -/
def assigned? (cs : Chars) : Option (String × Chars) :=
  let name := cs.takeWhile isNameChar
  let rest := cs.drop name.length
  if !isName name then none
  else
    let afterIndex := match rest with
      | '[' :: inner => (balancedSpan '[' ']' 0 inner).map fun n => inner.drop (n + 1)
      | _ => some rest
    match afterIndex with
    | some ('=' :: _) | some ('+' :: '=' :: _) => some (String.ofList name, rest)
    | _ => none

/-- Reads an assignment, if there is one. -/
def assignment? : Reader (Option Assignment) := do
  let s ← get
  match assigned? s.rest with
  | none => return none
  | some (name, rest) =>
    if s.dialect = .dash && rest.head? != some '=' then return none
    skip (s.rest.length - rest.length)
    let (index, indexText) ← spelled (index? nested)
    let append ← accept "+"
    skip 1
    if ← acceptIf ((← dialect) = .bash) "(" then
      let (ws, text) ← spelled (elements nested)
      return some (.mk name index indexText append (.elements ws ('(' :: text)))
    else return some (.mk name index indexText append (.word (← wordIn nested .plain)))

/-- What can stand in a simple command. -/
inductive Element
  | assignment (a : Assignment)
  | word (w : Word)
  | redirection (r : Redirection)

/-- The commands whose words can be assignments. -/
def declarations : List String := ["declare", "typeset", "local", "export", "readonly"]

/-- Whether an assignment can come next: before the words, or behind one that asks for it. -/
def isAssignable : List Word → Bool
  | [] => true
  | .mk _ name :: _ => declarations.contains (String.ofList name)

/-- Reads the next element of a simple command. -/
def element? (assignable : Bool) : Reader (Option Element) := do
  blanks
  match ← redirection? nested with
  | some r => return some (.redirection r)
  | none =>
    match ← peek with
    | none => return none
    | some c =>
      if (isMeta c && !(← seesFeed)) || c == '#' then return none
      else
        match ← (if assignable then assignment? nested else pure none) with
        | some a => return some (.assignment a)
        | none => return some (.word (← wordIn nested .plain))

/-- Reads the elements of a simple command, which counts for the line on which it ends. -/
def simpleWithin : Nat → List Assignment → List Word → List Redirection →
    Reader Command
  | 0, as, ws, rs => return .simple (← get).line as ws rs
  | room + 1, as, ws, rs => do
    let before := (← get).position
    blanks
    let s ← get
    if ws.isEmpty || s.replaced.any fun r =>
        r.continues && before < r.ending && r.ending ≤ s.position then replaceAliases
    match ← element? nested (isAssignable ws) with
    | none => return .simple (← get).line as ws rs
    | some (.assignment a) => simpleWithin room (as ++ [a]) ws rs
    | some (.word w) => simpleWithin room as (ws ++ [w]) rs
    | some (.redirection r) => simpleWithin room as ws (rs ++ [r])

/-- Reads commands up to one of the given words, of which there have to be some. -/
def body (stops : List String) : Reader (List Command) := do
  let commands ← nested.commands stops
  if commands.isEmpty then
    lineEnds
    unexpectedFor (if (← get).rest.isEmpty then stops.getLast? else none)
  return commands

/-- Reads the commands between two reserved words. -/
def block (opening closing : String) : Reader (List Command) := do
  lineEnds
  expectWord opening
  let commands ← body nested [closing]
  expectWord closing
  return commands

/-- Reads the rest of a branch behind its first word. -/
def branches : Nat → Reader Command
  | 0 => unexpected
  | room + 1 => do
    let condition ← body nested ["then"]
    expectWord "then"
    let consequence ← body nested ["elif", "else", "fi"]
    if ← acceptWord "elif" then
      return .branch condition consequence [← branches room]
    else if ← acceptWord "else" then
      let otherwise ← body nested ["fi"]
      expectWord "fi"
      return .branch condition consequence otherwise
    else
      expectWord "fi"
      return .branch condition consequence []

/-- Reads one of the cases of a choice. -/
def arm? : Reader (Option (List Word × List Command × String)) := do
  lineEnds
  if ← acceptWord "esac" then return none
  if (← get).rest.isEmpty then fail (.unfinished (some ")"))
  let _ ← accept "("
  let patterns ← many do
    blanks
    if ← accept ")" then return none
    let _ ← accept "|"
    blanks
    return some (← word nested .plain)
  let isFull := (← dialect) = .bash
  let commands ← nested.commands
    (if isFull then ["esac", ";;&", ";;", ";&"] else ["esac", ";;"])
  let ending ←
    if ← acceptIf isFull ";;&" then pure ";;&"
    else if ← accept ";;" then pure ";;"
    else if ← acceptIf isFull ";&" then pure ";&"
    else if ← seesWord "esac" then pure ";;"
    else unexpectedFor (some ";;")
  return some (patterns, commands, ending)

def choice : Reader Command := do
  let line := (← get).line
  blanks
  if (← dialect) = .dash && (← get).rawWord.isEmpty then unexpectedFor (some "word")
  let subject ← word nested .plain
  lineEnds
  expectWord "in"
  return .choice line subject (← many (arm? nested))

/-- Reads the parts of an arithmetic expression between semicolons. -/
def clauses (text : Chars) : Reader (List Word) :=
  (text.splitOn ';').mapM fun clause => return .mk (← within clause (nested.parts .number)) clause

/-- Reads the text of an arithmetic command behind its two opening parentheses. -/
def doubled? : Reader (Option Chars) := do
  let rest := (← get).rest
  match balancedSpan '(' ')' 0 rest with
  | none => fail (.unclosed ')')
  | some n =>
    if (rest.drop n).tail.head? = some ')' then
      skip (n + 2)
      return some (rest.take n)
    else return none

/-- Reads the commands of a loop, which stand between words or between braces. -/
def loopBody : Reader (List Command) := do
  lineEnds
  if (← dialect) = .bash && (← seesWord "\x7b") then block nested "\x7b" "\x7d"
  else block nested "do" "done"

/-- Reads the items of a loop, if some are given. -/
def items? : Reader (Option (List Word)) := do
  lineEnds
  let items ←
    if ← acceptWord "in" then
      let items ← many do
        blanks
        match ← peek with
        | none => return none
        | some c =>
          if isMeta c && !(← seesFeed) then return none else return some (← wordIn nested .plain)
      if (← dialect) = .dash && ((← sees ";;") || !(← (return (← sees ";") || (← sees "\n")))) then
        unexpected
      pure (some items)
    else pure none
  blanks
  if !(← sees ";;") then let _ ← accept ";"
  return items

def forLoop : Reader Command := do
  let line := (← get).line
  blanks
  if ← acceptIf ((← dialect) = .bash) "((" then
    match ← doubled? with
    | none => unexpected
    | some text =>
      match ← clauses nested text with
      | [start, condition, step] =>
        blanks
        let _ ← accept ";"
        return .count line start condition step (← loopBody nested)
      | _ => unexpected
  else
    let name := (← get).rawWord
    if (← dialect) = .dash && !isName name then
      fail (.badName name)
    if name.isEmpty then unexpected
    skip name.length
    let items ← items? nested
    return .each line (String.ofList name) items (← loopBody nested)

def selectLoop : Reader Command := do
  let line := (← get).line
  blanks
  let name := (← get).rawWord
  if name.isEmpty then unexpected
  skip name.length
  let items ← items? nested
  return .select line (String.ofList name) items (← loopBody nested)

/-- The operators for conditions with one word. -/
def isUnary (raw : Chars) : Bool :=
  match raw with
  | ['-', c] => "abcdefghknoprstuvwxzLSGNOR".toList.contains c
  | _ => false

def binaryOperators : List String :=
  ["==", "=", "!=", "=~", "-eq", "-ne", "-lt", "-le", "-gt", "-ge", "-nt", "-ot", "-ef"]

/-- How the next thing in a condition is called, if it is no word. At the end of the last line the
line still ends first. -/
def tokenName? : Reader (Option String) := do
  blanks
  let s ← get
  match s.rest with
  | [] | '\n' :: _ => return some "newline"
  | _ => return if s.rawWord = "]]".toList then some "]]" else operator? s.dialect s.rest

/-- Fails in a condition, in which something of a name is wrong. -/
def failCondition {α : Type} (named : String → String) (unnamed : String) : Reader α := do
  let message := match ← tokenName? with
    | some name => named ("`" ++ name ++ "'")
    | none => unnamed
  fail (.condition [message])

/-- Fails where a condition should begin. -/
def failTerm {α : Type} : Reader α := do
  let s ← get
  match s.rest with
  | [] => fail (.condition ["unexpected token `EOF' in conditional command"])
  | _ =>
    match ← tokenName? with
    | some "]]" | none => fail (.condition [])
    | some name => fail (.condition ["unexpected token `" ++ name ++ "' in conditional command"])

/-- Fails behind a condition. -/
def failEnd {α : Type} (line : Nat) : Reader α := do
  match (← get).rest with
  | [] => throw ⟨line, .condition ["unexpected EOF while looking for `]]'"]⟩
  | _ =>
    failCondition (fun name => "syntax error in conditional expression: unexpected token " ++ name)
      "syntax error in conditional expression"

/-- Reads a word of a condition behind an operator. -/
def conditionWord (m : Mode) (reason : String) : Reader Word := do
  blanks
  let failed : Reader Word :=
    failCondition (fun name => "unexpected argument " ++ name ++ " to " ++ reason)
      ("unexpected argument to " ++ reason)
  if ← seesWord "]]" then return ← failed
  match ← peek with
  | none => failed
  | some c =>
    if m.stopsAt c then failed
    else
      let outer := (← get).extended
      modify fun s => { s with extended := true }
      let w ← wordIn nested m
      modify fun s => { s with extended := outer }
      return w

/-- Reads a condition that is not made of others by words between them. -/
def primary : Nat → Reader Condition
  | 0 => unexpected
  | room + 1 => do
    lineEnds
    if ← acceptWord "!" then return .not (← primary room)
    else if ← accept "(" then
      let c ← tryCatch nested.condition fun e =>
        match e.problem with
        | .condition reasons => throw { e with problem := .condition (reasons ++ ["expected `)'"]) }
        | _ => throw e
      lineEnds
      unless ← accept ")" do
        if (← get).rest.isEmpty then
          fail (.condition ["unexpected token `EOF', expected `)'"])
        failCondition (fun name => "unexpected token " ++ name ++ ", expected `)'") "expected `)'"
      return .enclosed c
    else
      let raw := (← get).rawWord
      if raw.isEmpty ∨ raw = "]]".toList then failTerm
      else if isUnary raw then
        skip raw.length
        return .unary (String.ofList raw)
          (← conditionWord nested .plain "conditional unary operator")
      else
        let left ← wordIn nested .plain
        blanks
        let operator := (← get).rawWord
        if ← accept "<" then
          return .binary "<" left (← conditionWord nested .plain "conditional binary operator")
        else if ← accept ">" then
          return .binary ">" left (← conditionWord nested .plain "conditional binary operator")
        else if binaryOperators.contains (String.ofList operator) then
          skip operator.length
          let m : Mode := if operator = "=~".toList then .regular else .plain
          return .binary (String.ofList operator) left
            (← conditionWord nested m "conditional binary operator")
        else if operator = "]]".toList ∨ (← sees "&&") ∨ (← sees "||") ∨ (← sees ")") then
          return .word left
        else
          failCondition (fun name => "unexpected token " ++ name ++
            ", conditional binary operator expected") "conditional binary operator expected"

/-- Reads what follows an operator between conditions. -/
def following? (operator : String) (r : Reader Condition) : Reader (Option Condition) := do
  lineEnds
  if ← accept operator then return some (← r) else return none

/-- Reads a condition. -/
def conditionWith : Reader Condition := do
  let single : Reader Condition := do primary nested ((← get).rest.length + 1)
  let conjunction : Reader Condition := do
    let first ← single
    return (← many (following? "&&" single)).foldl .both first
  let first ← conjunction
  return (← many (following? "||" conjunction)).foldl .either first

/-- Reads a command that is made of others, if the source stands at one. -/
def compound? : Reader (Option Command) := do
  let line := (← get).line
  let isFull := (← dialect) = .bash
  if ← acceptWord "\x7b" then
    let commands ← body nested ["\x7d"]
    expectWord "\x7d"
    return some (.group commands)
  else if ← acceptIf isFull "((" then
    match ← doubled? with
    | some text =>
      return some (.arithmetic line (.mk (← within text (nested.parts .number)) text))
    | none =>
      modify fun s => { s with rest := '(' :: s.rest }
      let commands ← body nested [")"]
      expect ")"
      return some (.subshell commands)
  else if ← accept "(" then
    let commands ← body nested [")"]
    expect ")"
    return some (.subshell commands)
  else if ← acceptWord "if" then return some (← branches nested ((← get).rest.length + 1))
  else if ← acceptWord "while" then
    let condition ← body nested ["do"]
    return some (.loop false condition (← block nested "do" "done"))
  else if ← acceptWord "until" then
    let condition ← body nested ["do"]
    return some (.loop true condition (← block nested "do" "done"))
  else if ← acceptWord "for" then return some (← forLoop nested)
  else if ← acceptWord "case" then return some (← choice nested)
  else if ← acceptWordIf isFull "select" then return some (← selectLoop nested)
  else if ← acceptWordIf isFull "[[" then
    let c ← nested.condition
    lineEnds
    unless ← acceptWord "]]" do failEnd line
    return some (.test line c)
  else return none

/-- Reads the definition of a function behind its name. -/
def definition (name : Chars) : Reader Command := do
  let line := (← get).line
  lineEnds
  let start := (← get).line
  match ← compound? nested with
  | none =>
    if (← dialect) ≠ .dash then unexpected
    match ← simpleWithin nested ((← get).rest.length + 1) [] [] [] with
    | .simple _ [] [] [] => unexpected
    | c => return .function line (String.ofList name) c
  | some c =>
    let rs ← redirections nested
    return .function line (String.ofList name) (if rs.isEmpty then c else .redirected start c rs)

/-- Whether a function can have a name. -/
def isFunctionName (d : Dialect) (name : Chars) : Bool :=
  !name.isEmpty && (d = .dash ||
    name.all fun c => !("$'\"\\=".toList.contains c) && c != backquote)

/-- Reads a command behind the word that lets it run beside the shell. -/
def companion : Reader Command := do
  blanks
  match ← compound? nested with
  | some c => return .companion "COPROC" c
  | none =>
    let name := (← get).rawWord
    let start ← get
    skip name.length
    blanks
    match ← (if isName name then compound? nested else pure none) with
    | some c => return .companion (String.ofList name) c
    | none =>
      set start
      return .companion "COPROC" (← simpleWithin nested (start.rest.length + 1) [] [] [])

/-- Reads a command without a pipe. -/
def command : Reader Command := do
  blanks
  replaceAliases
  let s ← get
  let isFull := s.dialect = .bash
  if closingWords.any (·.toList = s.rawWord) then unexpected
  match ← compound? nested with
  | some c =>
    let rs ← redirections nested
    return if rs.isEmpty then c else .redirected s.line c rs
  | none =>
    if ← acceptWordIf isFull "function" then
      blanks
      let name := (← get).rawWord
      skip name.length
      blanks
      if ← accept "(" then
        blanks
        expect ")"
      definition nested name
    else if ← acceptWordIf isFull "coproc" then companion nested
    else
      let name := s.rawWord
      let behind := (s.drop name.length).skipBlanks
      if !name.isEmpty && behind.rest.head? = some '(' && !(assigned? s.rest).isSome &&
          !(s.extended && beginsGroup (s.rest.drop (name.length - 1))) &&
          isFunctionName s.dialect name then
        set behind
        skip 1
        blanks
        expect ")"
        if s.dialect = .dash && !isName name then fail (.condition ["Bad function name"])
        definition nested name
      else
        match ← simpleWithin nested (s.rest.length + 1) [] [] [] with
        | .simple _ [] [] [] => unexpected
        | c => return c

/-- Lets the errors of a command go where its output goes. -/
def withErrors (c : Command) : Command :=
  let r := Redirection.mk (.number 2) .duplicateOutput (.mk [.literal false ['1']] ['1'])
  match c with
  | .simple line as ws rs => .simple line as ws (rs ++ [r])
  | .redirected line c rs => .redirected line c (rs ++ [r])
  | c => .redirected 0 c [r]

/-- Reads the next command of a pipe. -/
def stage? : Reader (Option (Bool × Command)) := do
  blanks
  if ← sees "||" then return none
  if ← acceptIf ((← dialect) = .bash) "|&" then
    lineEnds
    return some (true, ← command nested)
  else if ← accept "|" then
    lineEnds
    return some (false, ← command nested)
  else return none

/-- Whether nothing more of a command follows. -/
def atEnd : Reader Bool := do
  blanks
  return match ← peek with
    | none => true
    | some c => "\n;&|)".toList.contains c

/-- Reads commands with pipes between them. -/
def pipelineWithin : Nat → Reader Command
  | 0 => unexpected
  | room + 1 => do
    blanks
    replaceAliases
    if ← acceptWordIf ((← dialect) = .bash) "time" then
      blanks
      let portable ← acceptWord "-p"
      if ← atEnd then return .timed portable (.group [])
      return .timed portable (← pipelineWithin room)
    else
      let marks ← many do
        blanks
        return if ← acceptWord "!" then some () else none
      let negated := marks.length % 2 = 1
      if marks.length ≠ 0 ∧ (← dialect) = .bash ∧ (← atEnd) then return .pipeline negated []
      if marks.length ≠ 0 ∧ (← dialect) = .bash ∧ (← seesWord "time") then
        return .pipeline negated [← pipelineWithin room]
      let first ← command nested
      let more ← many (stage? nested)
      if more.isEmpty then
        return if marks.isEmpty then first else .pipeline negated [first]
      let stages := (first :: more.map (·.2)).zipWith
        (fun c withErrors? => if withErrors? then withErrors c else c) (more.map (·.1) ++ [false])
      return .pipeline negated stages

def pipeline : Reader Command := do pipelineWithin nested ((← get).rest.length + 1)

/-- Reads pipelines that depend on each other. -/
def conditional : Reader Command := do
  let first ← pipeline nested
  let more ← many do
    blanks
    if ← accept "&&" then
      lineEnds
      return some (true, ← pipeline nested)
    else if ← accept "||" then
      lineEnds
      return some (false, ← pipeline nested)
    else return none
  return more.foldl (fun c (isBoth, d) => if isBoth then .both c d else .either c d) first

/-- Reads a command with the sign behind it, which says whether it runs in the background. -/
def terminated (stops : List String) : Reader Command := do
  let c ← conditional nested
  blanks
  if ← atStop stops then return c
  else if (← sees ";;") || ((← sees ";&") && (← dialect) = .bash) then unexpectedFor stops.getLast?
  else if ← accept ";" then return c
  else if ← accept "&" then return .background c
  else
    modify (·.skipComment)
    match ← peek with
    | none | some '\n' => return c
    | _ => unexpectedFor stops.getLast?

/-- Reads commands up to one of the given words. -/
def commandsWith (stops : List String) : Reader (List Command) :=
  many do
    lineEnds
    replaceAliases
    lineEnds
    let s ← get
    if s.rest.isEmpty || (← atStop stops) then return none
    if closingWords.any (·.toList = s.rawWord) then
      unexpectedFor stops.getLast?
    return some (← terminated nested stops)

/-- The readers for what stands inside a script up to a depth. -/
def nestedWithin : Nat → Nested
  | 0 => ⟨fun _ => fail (.unfinished none), fun _ => fail (.unfinished none), fail (.unfinished none)⟩
  | room + 1 =>
    let inner := nestedWithin room
    ⟨commandsWith inner, partsWith inner, conditionWith inner⟩

/-- So deep things may stand inside one another. -/
def maxNesting : Nat := 1000

/-- Reads the commands of the next line that holds some. -/
def line : Reader (List Command) := do
  lineEnds
  let nested := nestedWithin maxNesting
  let commands ← many do
    modify (·.skipBlanks.skipComment)
    replaceAliases
    modify (·.skipBlanks.skipComment)
    match ← peek with
    | none | some '\n' => return none
    | _ => return some (← terminated nested [])
  return commands

end Reader

/-- Reads the next commands of a script. At the end there are none. -/
def Source.next (s : Source) : Except SyntaxError (List Command × Source) :=
  (Reader.line.run s)

/-- A script that begins on a line. Its last line is ended if it is not, unless the smaller shell is
meant. -/
def Source.ofChars (d : Dialect) (line : Nat) (cs : Chars) : Source :=
  let isEnded := d = .dash || cs.isEmpty || cs.getLast? = some '\n'
  ⟨if isEnded then cs else cs ++ ['\n'], 0, line, 0, [], d, false, ∅, []⟩

end Provision.Shell
