import Provision.Editing.Basic
import Provision.Regular.Reader

/-!
How scripts that edit lines are read, and what can be wrong with them.
-/

namespace Provision.Editing

/-- What is wrong with a script. -/
inductive Fault
  | twiceNegated
  | loneComma
  | relativeStart
  | unclosedBlock
  | unopenedBlock
  | extraText
  | missingText
  | scopedBlockEnd
  | scopedLabel
  | scopedComment
  | missingCommand
  | tooManyAddresses
  | unendedAddress
  | unendedSubstitution
  | unendedTranslation
  | unknownFlag
  | twice (flag : String)
  | zerothMatch
  | unequalTexts
  | newerVersion
  | lineZero
  | unknownCommand (c : Char)
  | missingLabel
  | forbidden
  | missingFile
  | recursiveEscape
  | changedNothing
  | noReference (n : Nat)
  | expression (e : RegularError)
  | noLastExpression
  deriving DecidableEq, Repr

/-- A mark that opens a quotation. -/
def openQuote : String := String.singleton (Char.ofNat 96)

def Fault.message : Fault → String
  | .twiceNegated => "multiple " ++ openQuote ++ "!'s"
  | .loneComma => "unexpected " ++ openQuote ++ ",'"
  | .relativeStart => "invalid usage of +N or ~N as first address"
  | .unclosedBlock => "unmatched " ++ openQuote ++ "\x7b'"
  | .unopenedBlock => "unexpected " ++ openQuote ++ "\x7d'"
  | .extraText => "extra characters after command"
  | .missingText =>
    "expected \\ after " ++ openQuote ++ "a', " ++ openQuote ++ "c' or " ++ openQuote ++ "i'"
  | .scopedBlockEnd => openQuote ++ "\x7d' doesn't want any addresses"
  | .scopedLabel => ": doesn't want any addresses"
  | .scopedComment => "comments don't accept any addresses"
  | .missingCommand => "missing command"
  | .tooManyAddresses => "command only uses one address"
  | .unendedAddress => "unterminated address regex"
  | .unendedSubstitution => "unterminated " ++ openQuote ++ "s' command"
  | .unendedTranslation => "unterminated " ++ openQuote ++ "y' command"
  | .unknownFlag => "unknown option to " ++ openQuote ++ "s'"
  | .twice flag => "multiple " ++ flag ++ " options to " ++ openQuote ++ "s' command"
  | .zerothMatch => "number option to " ++ openQuote ++ "s' command may not be zero"
  | .unequalTexts => "strings for " ++ openQuote ++ "y' command are different lengths"
  | .newerVersion => "expected newer version of sed"
  | .lineZero => "invalid usage of line address 0"
  | .unknownCommand c => "unknown command: " ++ openQuote ++ Bytes.toText [c] ++ "'"
  | .missingLabel => "\":\" lacks a label"
  | .forbidden => "e/r/w commands disabled in sandbox mode"
  | .missingFile => "missing filename in r/R/w/W commands"
  | .recursiveEscape => "recursive escaping after \\c not allowed"
  | .changedNothing => "cannot specify modifiers on empty regexp"
  | .noReference n =>
    "invalid reference \\" ++ toString n ++ " on " ++ openQuote ++ "s' command's RHS"
  | .expression e => e.message
  | .noLastExpression => "no previous regular expression"

/-- What has been read of a script: what is left of the present piece of it, the commands and labels,
the blocks that are not closed with the pieces in which they begin and how much of these was left,
a command whose text goes on, and whether lines are shown only when that is asked for. -/
structure Reading where
  rest : Chars := []
  piece : Nat := 0
  commands : Array Command := #[]
  labels : List (Chars × Nat) := []
  blocks : List (Nat × Nat × Nat) := []
  pending : Option (Nat × Chars) := none
  silent : Bool := false

/-- How a script is read: in which style expressions are written, and whether it can neither run
commands nor use files. -/
structure Manner where
  extended : Bool
  confined : Bool

/-- Something that is read from a piece of a script. A problem comes with how much of the piece is
left behind it. -/
abbrev Reader := StateT Reading (Except (Fault × Nat))

namespace Reader

def fail {α : Type} (p : Fault) : Reader α := do throw (p, (← get).rest.length)

def peek? : Reader (Option Char) := do return (← get).rest.head?

def take? : Reader (Option Char) := do
  let s ← get
  set { s with rest := s.rest.drop 1 }
  return s.rest.head?

/-- Takes characters as long as they are of a kind. -/
def takeWhile (f : Char → Bool) : Reader Chars := do
  let s ← get
  let found := s.rest.takeWhile f
  set { s with rest := s.rest.drop found.length }
  return found

def skipBlanks : Reader Unit := do let _ ← takeWhile fun c => c = ' ' || c = '\t'

def isSpace (c : Char) : Bool := c = ' ' || ('\t' ≤ c && c ≤ '\r')

/-- The number that comes next. Where there is none, it is zero. -/
def number : Reader Nat := do return (Text.readNat? 10 (← takeWhile Char.isDigit)).getD 0

/-- Passes over the end of a command. -/
def finish : Reader Unit := do
  skipBlanks
  match ← peek? with
  | none | some '\x7d' | some '#' => return
  | some c =>
    let _ ← take?
    if c ≠ '\n' && c ≠ ';' then fail .extraText

/-! ## Texts and what is written for characters in them -/

/-- The number that is written with up to so many digits behind a backslash and a letter. -/
def codeDigits (base count : Nat) (cs : Chars) : Chars :=
  (cs.take count).takeWhile fun c => (Text.digitValue? c).any (· < base)

/-- The kinds of texts in which characters are written by escapes. -/
inductive Kind
  | plain
  | expression
  | replacement
  deriving DecidableEq

/-- A character that is given by its number, as it stands in a text of a kind. -/
def numbered (k : Kind) (n : Nat) : Chars :=
  let c := Char.ofNat (n % 256)
  if k = .replacement && (c = '&' || c = '\\' || c = '\n') then ['\\', c] else [c]

/-- Puts characters in the place of escapes. -/
def unescaped (k : Kind) : (room : Nat) → Chars → Except Fault Chars
  | 0, cs => .ok cs
  | room + 1, '\\' :: c :: cs => do
    let one (x : Char) : Except Fault Chars := return x :: (← unescaped k room cs)
    let code (base count : Nat) : Except Fault Chars :=
      let digits := codeDigits base count cs
      match Text.readNat? base digits with
      | some n => return numbered k n ++ (← unescaped k room (cs.drop digits.length))
      | none => if k = .plain then one c else return '\\' :: c :: (← unescaped k room cs)
    match c with
    | 'a' => one '\x07'
    | 'f' => one '\x0c'
    | 'n' => if k = .replacement then return '\\' :: '\n' :: (← unescaped k room cs) else one '\n'
    | 'r' => one '\r'
    | 't' => one '\t'
    | 'v' => one '\x0b'
    | 'd' => code 10 3
    | 'o' => code 8 3
    | 'x' => code 16 2
    | 'c' =>
      match cs with
      | [] => if k = .plain then one c else return ['\\']
      | '\\' :: '\\' :: cs => return '\x1c' :: (← unescaped k room cs)
      | '\\' :: _ => .error .recursiveEscape
      | x :: cs =>
        let n := x.toUpper.toNat
        return numbered k (if n < 64 then n + 64 else n - 64) ++ (← unescaped k room cs)
    | c =>
      if k = .plain then one c else return '\\' :: c :: (← unescaped k room cs)
  | room + 1, c :: cs => return c :: (← unescaped k room cs)
  | _ + 1, [] => .ok []

def unescape (k : Kind) (cs : Chars) : Reader Chars :=
  match unescaped k cs.length cs with
  | .ok t => return t
  | .error p => fail p

/-- Reads the inside of a set behind its opening bracket, through its closing one, as it is. -/
def setText : (room : Nat) → (first : Bool) → Chars → Chars × Chars
  | 0, _, cs => ([], cs)
  | _ + 1, _, [] => ([], [])
  | room + 1, first, c :: cs =>
    let go (found rest : Chars) : Chars × Chars :=
      let (more, rest) := setText room false rest
      (found ++ more, rest)
    if c = '\n' then ([], c :: cs)
    else if c = ']' && !first then ([c], cs)
    else
      match c, cs with
      | '[', mark :: inner =>
        if mark = ':' || mark = '.' || mark = '=' then
          let name := inner.takeWhile fun d => d ≠ mark && d ≠ '\n'
          match inner.drop name.length with
          | m :: ']' :: rest =>
            if m = mark then go ('[' :: mark :: name ++ [mark, ']']) rest else go [c] cs
          | _ => go [c] cs
        else go [c] cs
      | '^', _ =>
        if first then
          let (more, rest) := setText room true cs
          (c :: more, rest)
        else go [c] cs
      | _, _ => go [c] cs

/-- Reads a text up to a mark, which can stand in it behind a backslash, or in a set if it is an
expression. There is none if the line ends before. -/
def delimited? (mark : Char) (isExpression : Bool) :
    (room : Nat) → Chars → Option Chars × Chars
  | 0, cs => (none, cs)
  | _ + 1, [] => (none, [])
  | room + 1, c :: cs =>
    let go (found rest : Chars) : Option Chars × Chars :=
      let (more, rest) := delimited? mark isExpression room rest
      (more.map (found ++ ·), rest)
    if c = mark && c ≠ '\n' then (some [], cs)
    else if c = '\n' then (none, c :: cs)
    else if c = '\\' then
      match cs with
      | [] => (none, [])
      | d :: rest =>
        if d = mark && (isExpression || d ≠ '&') then go [d] rest
        else if d = 'n' && isExpression then go ['\n'] rest
        else if d = '\n' then go (if isExpression then [d] else ['\\', d]) rest
        else go ['\\', d] rest
    else if c = '[' && isExpression then
      let (inner, rest) := setText cs.length true cs
      go (c :: inner) rest
    else go [c] cs

def delimited (mark : Char) (isExpression : Bool) (p : Fault) : Reader Chars := do
  let s ← get
  let (found, rest) := delimited? mark isExpression (s.rest.length + 1) s.rest
  set { s with rest }
  match found with
  | some t => return t
  | none => fail p

/-! ## Expressions -/

/-- Reads an expression from its text. An empty one stands for the last one. -/
def wanted (m : Manner) (t : Chars) (fold perLine : Bool) : Reader (Option Wanted) := do
  if t.isEmpty then
    if fold || perLine then fail .changedNothing
    return none
  match Regular.ofChars (.editing m.extended perLine) (← unescape .expression t) with
  | .ok expression => return some ⟨expression, fold⟩
  | .error e => fail (.expression e)

/-! ## Lines that are meant -/

/-- Reads letters behind an expression that change what fits it. -/
def marks : (room : Nat) → (fold perLine : Bool) → Reader (Bool × Bool)
  | 0, fold, perLine => return (fold, perLine)
  | room + 1, fold, perLine => do
    skipBlanks
    match ← peek? with
    | some 'I' =>
      let _ ← take?
      marks room true perLine
    | some 'M' =>
      let _ ← take?
      marks room fold true
    | _ => return (fold, perLine)

/-- Reads which line is meant, if that is told. -/
def address? (m : Manner) : Reader (Option Address) := do
  match ← peek? with
  | some '$' =>
    let _ ← take?
    return some .last
  | some '+' =>
    let _ ← take?
    skipBlanks
    return some (.more (← number))
  | some '~' =>
    let _ ← take?
    skipBlanks
    return some (.multiple (← number))
  | some c =>
    if c = '/' || c = '\\' then
      let _ ← take?
      let mark ← if c = '/' then pure c else do pure ((← take?).getD '\n')
      let text ← delimited mark true .unendedAddress
      let (fold, perLine) ← marks (← get).rest.length false false
      return some (.fits (← wanted m text fold perLine))
    else if c.isDigit then
      let n ← number
      skipBlanks
      if (← peek?) = some '~' then
        let _ ← take?
        skipBlanks
        let step ← number
        return some (if step = 0 then .line n else .every n step)
      else return some (.line n)
    else return none
  | none => return none

/-- Reads for which lines a command is meant. -/
def scope (m : Manner) : Reader Scope := do
  match ← address? m with
  | none => return .always
  | some a =>
    match a with
    | .more _ | .multiple _ =>
      fail .relativeStart
    | _ =>
      skipBlanks
      let whole ← if (← peek?) = some ',' then do
          let _ ← take?
          skipBlanks
          match ← address? m with
          | some b => pure (Scope.between a b)
          | none =>
            let _ ← take?
            fail .loneComma
        else pure (Scope.at a)
      skipBlanks
      let isFits := match whole with
        | .between _ (.fits _) => true
        | _ => false
      if a = .line 0 && !isFits then
        let _ ← take?
        fail .lineZero
      return whole

/-! ## Replacements -/

/-- How letters are changed at present, how they are again behind the next group, and whether the
first one is changed in another way. -/
structure Changing where
  casing : Casing := .kept
  first : Option Casing := none

/-- Takes a replacement apart. -/
def parts : (room : Nat) → Changing → (text : Chars) → Chars → List Part
  | 0, _, _, _ => []
  | _ + 1, c, text, [] => if text.isEmpty then [] else [⟨text.reverse, c.casing, c.first, none⟩]
  | room + 1, c, text, x :: rest =>
    let part (group : Option Nat) : Part := ⟨text.reverse, c.casing, c.first, group⟩
    let plain : Changing := { c with first := none }
    match x, rest with
    | '&', rest => part (some 0) :: parts room plain [] rest
    | '\\', [] => [⟨(x :: text).reverse, c.casing, c.first, none⟩]
    | '\\', d :: rest =>
      if d.isDigit then part (some (d.toNat - 48)) :: parts room plain [] rest
      else
        match d with
        | 'L' => part none :: parts room ⟨.lower, none⟩ [] rest
        | 'U' => part none :: parts room ⟨.upper, none⟩ [] rest
        | 'E' => part none :: parts room ⟨.kept, none⟩ [] rest
        | 'l' => part none :: parts room { c with first := some .lower } [] rest
        | 'u' => part none :: parts room { c with first := some .upper } [] rest
        | d =>
          ⟨(d :: text).reverse, c.casing, c.first, none⟩ :: parts room plain [] rest
    | x, rest => parts room c (x :: text) rest

/-- What is told behind a replacement. -/
structure Flags where
  all : Bool := false
  start : Option Nat := none
  fold : Bool := false
  perLine : Bool := false
  runs : Bool := false
  showsBefore : Bool := false
  showsBehind : Bool := false
  goal : Option Chars := none

/-- Reads the name of a file, which goes up to the end of the line. -/
def fileName : Reader Chars := do
  skipBlanks
  let name ← takeWhile (· ≠ '\n')
  let _ ← take?
  if name.isEmpty then fail .missingFile
  return name

def flags (m : Manner) : (room : Nat) → Flags → Reader Flags
  | 0, f => return f
  | room + 1, f => do
    match ← peek? with
    | none | some '\x7d' | some '#' => return f
    | some c =>
      if c.isDigit then
        if f.start.isSome then
          let _ ← take?
          fail (.twice "number")
        let n ← number
        if n = 0 then fail .zerothMatch
        return ← flags m room { f with start := some n }
      let _ ← take?
      match c with
      | 'i' | 'I' => flags m room { f with fold := true }
      | 'm' | 'M' => flags m room { f with perLine := true }
      | 'e' =>
        if m.confined then fail .forbidden
        flags m room { f with runs := true }
      | 'p' =>
        if f.showsBefore || f.showsBehind then fail (.twice (openQuote ++ "p'"))
        flags m room (if f.runs then { f with showsBehind := true }
          else { f with showsBefore := true })
      | 'g' =>
        if f.all then fail (.twice (openQuote ++ "g'"))
        flags m room { f with all := true }
      | 'w' =>
        if m.confined then fail .forbidden
        return { f with goal := some (← fileName) }
      | '\n' | ';' => return f
      | ' ' => flags m room f
      | '\r' =>
        if (← take?) = some '\n' then return f
        fail .unknownFlag
      | _ => fail .unknownFlag

def substitution (m : Manner) : Reader Action := do
  let mark ← match ← take? with
    | some c => pure c
    | none => fail .unendedSubstitution
  let text ← delimited mark true .unendedSubstitution
  let by' ← delimited mark false .unendedSubstitution
  let by' ← unescape .replacement by'
  let parts := parts (by'.length + 1) {} [] by'
  let f ← flags m ((← get).rest.length + 1) {}
  let w ← wanted m text f.fold f.perLine
  let highest := parts.foldl (fun n p => max n (p.group.getD 0)) 0
  if w.any (·.expression.groupCount < highest) then fail (.noReference highest)
  return .substitute {
    wanted := w, parts, all := f.all, start := f.start.getD 1, runs := f.runs
    showsBefore := f.showsBefore && !f.runs
    showsBehind := f.showsBehind || (f.showsBefore && f.runs), goal := f.goal }

/-- The characters of a text for which others stand or which stand for others. -/
def single : Chars → Chars
  | '\\' :: 'n' :: cs => '\n' :: single cs
  | '\\' :: c :: cs => c :: single cs
  | c :: cs => c :: single cs
  | [] => []

def translation : Reader Action := do
  let mark ← match ← take? with
    | some c => pure c
    | none => fail .unendedTranslation
  let old ← delimited mark false .unendedTranslation
  let new ← delimited mark false .unendedTranslation
  let old := single (← unescape .expression old)
  let new := single (← unescape .expression new)
  if old.length ≠ new.length then fail .unequalTexts
  finish
  return .translate (old.zip new).reverse

/-! ## Commands -/

/-- Takes a text up to the end of a line that no backslash protects. The answer tells whether the
text goes on in the next piece of the script. -/
def rawText : (room : Nat) → Chars → Chars × Chars × Bool
  | 0, cs => ([], cs, false)
  | _ + 1, [] => (['\n'], [], false)
  | _ + 1, ['\\'] => (['\n'], [], true)
  | room + 1, '\\' :: c :: cs =>
    let (text, rest, goesOn) := rawText room cs
    ('\\' :: c :: text, rest, goesOn)
  | room + 1, c :: cs =>
    if c = '\n' then (['\n'], cs, false)
    else
      let (text, rest, goesOn) := rawText room cs
      (c :: text, rest, goesOn)

/-- Reads a text that a command has. The text so far is given. -/
def textBehind (index : Nat) (old : Chars) : Reader Chars := do
  let s ← get
  let (text, rest, goesOn) := rawText (s.rest.length + 1) s.rest
  let whole := old ++ text
  set { s with rest, pending := if goesOn then some (index, whole) else none }
  unescape .plain whole

/-- Reads the text of a command behind its letter. -/
def givenText : Reader Chars := do
  let index := (← get).commands.size
  skipBlanks
  match ← peek? with
  | none => fail .missingText
  | some '\\' =>
    let _ ← take?
    let s ← get
    let behind := s.rest.dropWhile fun c => c = ' ' || c = '\t'
    match behind with
    | [] =>
      set { s with rest := [], pending := some (index, []) }
      return []
    | '\n' :: rest =>
      set { s with rest }
      textBehind index []
    | _ => textBehind index []
  | some _ => textBehind index []

def label : Reader Chars := do
  skipBlanks
  takeWhile fun c => !isSpace c && c ≠ ';' && c ≠ '\x7d'

/-- A number behind a command, if there is one. -/
def optionalNumber : Reader (Option Nat) := do
  skipBlanks
  match ← peek? with
  | some c => if c.isDigit then return some (← number) else return none
  | none => return none

/-- The version up to which scripts are understood. -/
def version : List Nat := [4, 9, 0]

/-- Whether a version that is asked for is not newer. -/
def isKnown (t : Chars) : Bool :=
  let numbers := (t.splitOn '.').map (Text.readNat? 10)
  numbers.all Option.isSome &&
    let wanted := numbers.map (·.getD 0)
    !(decide (version < wanted ++ List.replicate (3 - wanted.length) 0))

/-- Reads the letter of a command and what belongs to it. -/
def action (m : Manner) (s : Scope) : Reader (Option Action) := do
  let isScoped := s ≠ .always
  let plain (a : Action) : Reader (Option Action) := do
    finish
    return some a
  let guarded (r : Reader Action) : Reader (Option Action) := do
    if m.confined then fail .forbidden
    return some (← r)
  match ← take? with
  | none => fail .missingCommand
  | some c =>
    match c with
    | '#' =>
      if isScoped then fail .scopedComment
      let _ ← takeWhile (· ≠ '\n')
      let _ ← take?
      return none
    | ':' =>
      if isScoped then fail .scopedLabel
      let name ← label
      if name.isEmpty then fail .missingLabel
      modify fun r => { r with labels := r.labels ++ [(name, r.commands.size)] }
      return none
    | '\x7b' =>
      modify fun r =>
        { r with blocks := (r.commands.size, r.piece, r.rest.length) :: r.blocks }
      return some (.block 0)
    | '\x7d' =>
      match (← get).blocks with
      | [] => fail .unopenedBlock
      | (start, _) :: blocks =>
        if isScoped then fail .scopedBlockEnd
        finish
        modify fun r =>
          { r with
            blocks
            commands := r.commands.modify start fun c =>
              { c with action := .block r.commands.size } }
        return none
    | '=' => plain .number
    | 'a' => return some (.append (← givenText))
    | 'i' => return some (.insert (← givenText))
    | 'c' => return some (.change (← givenText))
    | 'b' => return some (.jump .always (← label))
    | 't' => return some (.jump .replaced (← label))
    | 'T' => return some (.jump .unreplaced (← label))
    | 'd' => plain .delete
    | 'D' => plain .deleteFirst
    | 'e' =>
      guarded do
        skipBlanks
        let (text, rest, _) := rawText ((← get).rest.length + 1) (← get).rest
        modify fun r => { r with rest }
        return .run text.dropLast
    | 'F' => plain .fileName
    | 'g' => plain .take
    | 'G' => plain .takeMore
    | 'h' => plain .keep
    | 'H' => plain .keepMore
    | 'x' => plain .exchange
    | 'l' =>
      let width ← optionalNumber
      plain (.list width)
    | 'n' => plain .next
    | 'N' => plain .nextMore
    | 'p' => plain .print
    | 'P' => plain .printFirst
    | 'q' | 'Q' =>
      match s with
      | .between .. => fail .tooManyAddresses
      | _ =>
        let status ← optionalNumber
        plain (.quit (status.getD 0) (c = 'q'))
    | 'r' => guarded do return .readFile (← fileName)
    | 'R' => guarded do return .readLine (← fileName)
    | 'w' => guarded do return .write (← fileName)
    | 'W' => guarded do return .writeFirst (← fileName)
    | 's' => return some (← substitution m)
    | 'y' => return some (← translation)
    | 'z' => plain .clear
    | 'v' =>
      let wanted ← label
      if !wanted.isEmpty && !isKnown wanted then fail .newerVersion
      plain .none
    | c => fail (.unknownCommand c)

/-- Reads the commands of a piece. -/
def commands (m : Manner) : (room : Nat) → Reader Unit
  | 0 => return
  | room + 1 => do
    let _ ← takeWhile fun c => isSpace c || c = ';'
    match ← peek? with
    | none => return
    | some _ =>
      let s ← scope m
      skipBlanks
      let negated := (← peek?) = some '!'
      if negated then
        let _ ← take?
        skipBlanks
        if (← peek?) = some '!' then
          let _ ← take?
          fail .twiceNegated
      match ← action m s with
      | some a => modify fun r => { r with commands := r.commands.push ⟨s, negated, a⟩ }
      | none => pure ()
      commands m room

/-- The command with another text. -/
def withText (t : Chars) (c : Command) : Command :=
  match c.action with
  | .append _ => { c with action := .append t }
  | .insert _ => { c with action := .insert t }
  | .change _ => { c with action := .change t }
  | _ => c

/-- Reads a piece of a script. -/
def piece (m : Manner) (t : Chars) : Reader Unit := do
  let isFirst := (← get).piece = 0
  modify fun r => { r with rest := t, piece := r.piece + 1 }
  if isFirst && (t = ['#', 'n'] || ['#', 'n', '\n'].isPrefixOf t) then
    modify fun r => { r with silent := true }
  match (← get).pending with
  | some (index, old) =>
    let text ← textBehind index old
    modify fun r => { r with commands := r.commands.modify index (withText text) }
  | none => pure ()
  commands m (t.length + 1)

end Reader

/-- Where a problem is: in which piece, and how much of it is read up to there. -/
structure Spot where
  piece : Nat
  read : Nat

/-- Reads a script from its pieces. -/
def Script.ofPieces (m : Manner) (pieces : List Chars) : Except (Fault × Spot) Script :=
  let rec go : List Chars → Reading → Except (Fault × Spot) Reading
    | [], r => .ok r
    | t :: ts, r =>
      match (Reader.piece m t).run r with
      | .ok (_, r) => go ts r
      | .error (p, left) => .error (p, ⟨r.piece + 1, t.length - left⟩)
  match go pieces {} with
  | .error e => .error e
  | .ok r =>
    match r.blocks with
    | (_, piece, left) :: _ =>
      .error (.unclosedBlock, ⟨piece, ((pieces[piece - 1]?).getD []).length - left⟩)
    | [] => .ok ⟨r.commands, r.labels, r.silent⟩

/-- A label to which a command jumps that is nowhere. -/
def Script.missingLabel? (s : Script) : Option Chars :=
  s.commands.toList.findSome? fun c =>
    match c.action with
    | .jump _ label =>
      if label.isEmpty || s.labels.any (·.1 = label) then none else some label
    | _ => none

end Provision.Editing
