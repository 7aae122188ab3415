import Provision.Program.Input
import Provision.Program.Lines
import Provision.Regular.Reader
import Provision.Shell.Pattern

/-!
Programs that look for lines in their inputs.
-/

namespace Provision.Program

open Bytes (toText ofText)
open Files (FileError Tree)
open Shell (Run)

/-! ## What is looked for -/

/-- Which names are told in the place of lines: none, those of inputs with a hit, or of those
without. -/
inductive Told
  | lines
  | counts
  | hit
  | missed
  deriving DecidableEq

/-- What is looked for, and how hits are shown. -/
structure Search where
  patterns : List Regular
  fold : Bool
  inverted : Bool
  told : Told
  quiet : Bool
  onlyParts : Bool
  numbered : Bool
  offsets : Bool
  named : Bool
  before : Nat
  after : Nat
  hasContext : Bool
  separator : Option Chars
  most : Option Nat
  mark : Char
  zeroBehindNames : Bool
  tabbed : Bool
  /-- So wide are numbers at least. -/
  width : Nat
  colors : Bool
  asText : Bool
  skipsBinary : Bool

namespace Search

/-- The first part of a line that fits, from a place on: of those that begin there, the longest. -/
def find? (s : Search) (x : Subject) (i : Nat) : Option (Nat × Nat) :=
  s.patterns.foldl (fun best r =>
    match best, r.findFrom x i with
    | none, some m => some (m.start, m.stop)
    | some (a, b), some m =>
      if m.start < a || (m.start = a && b < m.stop) then some (m.start, m.stop) else best
    | best, none => best) none

def finds (s : Search) (x : Subject) : Bool := s.patterns.any (·.finds x)

/-- All parts of a line that fit and are not empty. -/
def parts (s : Search) (x : Subject) : (room start : Nat) → List (Nat × Nat)
  | 0, _ => []
  | room + 1, i =>
    match s.find? x i with
    | none => []
    | some (a, b) => if a < b then (a, b) :: parts s x room b else parts s x room (a + 1)

/-! ## How it is shown -/

def painted (s : Search) (code : String) (t : Chars) : Chars :=
  if s.colors then ("\x1b[" ++ code ++ "m\x1b[K").toList ++ t ++ "\x1b[m\x1b[K".toList else t

/-- What stands before a line: the name of its input, its number, and its place. -/
def head (s : Search) (name : Chars) (sign : Char) (line offset : Nat) : Chars :=
  let sign := s.painted "36" [sign]
  let name := if s.named then
      s.painted "35" name ++ if s.zeroBehindNames then ['\x00'] else sign
    else []
  let number (n : Nat) : Chars :=
    s.painted "32" ((Nat.toDigits 10 n).leftpad s.width ' ') ++ sign
  let whole := name ++ (if s.numbered then number line else []) ++
    if s.offsets then number offset else []
  if s.tabbed && !whole.isEmpty then whole ++ ['\t'] else whole

/-- A line that fits, in which the parts that fit can be painted. -/
def shown (s : Search) (x : Subject) (text : Chars) : Chars :=
  if !s.colors || s.inverted then text
  else
    let found := s.parts x (x.text.size + 1) 0
    let (done, last) := found.foldl (fun (done, last) (a, b) =>
      (done ++ x.part last a ++ s.painted "01;31" (x.part a b), b)) ([], 0)
    done ++ x.part last x.text.size

/-! ## Going through an input -/

/-- How far one has come in an input: the number and the place of the next line, the hits so far, the
lines before that have not been shown, the last one first, how many more are to be shown behind a
hit, the number behind the last line shown, whether anything has been shown at all, and how much
of the input there was up to the last hit. -/
structure Scan where
  line : Nat := 1
  offset : Nat := 0
  hits : Nat := 0
  held : List (Nat × Nat × Chars) := []
  after : Nat := 0
  last : Nat := 0
  used : Bool
  binary : Bool := false
  throughHit : Nat := 0

/-- Whether no more hits are wanted. -/
def Scan.isFull (s : Search) (p : Scan) : Bool :=
  s.most.any (· ≤ p.hits) || (0 < p.hits && (s.quiet || s.told = .hit || s.told = .missed ||
    (p.binary && s.told = .lines)))

/-- Whether nothing more is to be read. -/
def Scan.isOver (s : Search) (p : Scan) : Bool :=
  p.isFull s && (p.after = 0 || s.quiet || s.told ≠ .lines || (p.binary && !s.asText))

/-- Goes on by a line. The answer has what is to be written. -/
def Scan.step (s : Search) (name : Chars) (p : Scan) (text : Chars) (width : Nat) : Scan × Chars :=
  let next := { p with line := p.line + 1, offset := p.offset + width }
  let x := Subject.ofChars s.fold text
  let shows := !s.quiet && s.told = .lines && !p.binary
  let isHit := !p.isFull s && s.finds x != s.inverted
  let context (n offset : Nat) (t : Chars) : Chars :=
    if s.onlyParts then [] else s.head name '-' n offset ++ t ++ [s.mark]
  if isHit then
    let next := { next with hits := p.hits + 1, throughHit := next.offset }
    if !shows then (next, [])
    else
      let first := (p.held.getLast?.map (·.1)).getD p.line
      let rule : Chars := match s.separator with
        | some t => if s.hasContext && p.used && first ≠ p.last then
            s.painted "36" t ++ ['\n'] else []
        | none => []
      let before := p.held.reverse.flatMap fun (n, offset, t) => context n offset t
      let body : Chars :=
        if s.onlyParts then
          if s.inverted then []
          else (s.parts x (x.text.size + 1) 0).flatMap fun (a, b) =>
            s.head name ':' p.line (p.offset + a) ++ s.painted "01;31" (x.part a b) ++ [s.mark]
        else s.head name ':' p.line p.offset ++ s.shown x text ++ [s.mark]
      ({ next with held := [], after := s.after, last := p.line + 1, used := true },
        rule ++ before ++ body)
  else if !shows then (next, [])
  else if 0 < p.after then
    ({ next with after := p.after - 1, last := p.line + 1 }, context p.line p.offset text)
  else if s.before = 0 then (next, [])
  else ({ next with held := ((p.line, p.offset, text) :: p.held).take s.before }, [])

/-- Goes on by several lines, of which each is ended, up to the end of what is looked for. -/
def Scan.steps (s : Search) (name : Chars) : Scan → List Chars → Scan × List Chars
  | p, [] => (p, [])
  | p, t :: ts =>
    if p.isOver s then (p, [])
    else
      let (p, text) := p.step s name t (t.length + 1)
      let (p, more) := Scan.steps s name p ts
      (p, if text.isEmpty then more else text :: more)

/-- So much of an input is read at once. -/
def chunkSize : Nat := 32768

/-- Goes through an input. -/
def scan (s : Search) (name : Chars) (descriptor : Nat) :
    (room : Nat) → (consumed : Nat) → (rest : Chars) → Scan → Run (Except FileError (Scan × Nat))
  | 0, consumed, _, p => return .ok (p, consumed)
  | room + 1, consumed, rest, p => do
    if p.isOver s then return .ok (p, consumed)
    match ← Run.readSome descriptor chunkSize with
    | .error e => return .error e
    | .ok [] =>
      if rest.isEmpty then return .ok (p, consumed)
      let (p, text) := p.step s name rest rest.length
      let _ ← Run.write 1 text
      return .ok (p, consumed)
    | .ok chunk =>
      let isBinary := p.binary || (!s.asText && s.mark ≠ '\x00' && chunk.contains '\x00')
      let consumed := consumed + chunk.length
      if isBinary && s.skipsBinary then return .ok ({ p with hits := 0, binary := true }, consumed)
      let chunk := if isBinary then chunk.map fun c => if c = '\x00' then s.mark else c else chunk
      let parts := (rest ++ chunk).splitOn s.mark
      let (p, texts) := { p with binary := isBinary }.steps s name parts.dropLast
      match ← Run.write 1 texts.flatten with
      | .ok () => scan s name descriptor room consumed (parts.getLastD []) p
      | .error e => return .error e

/-- What has come of all inputs: whether there was a hit, whether something went wrong, and whether
anything has been shown. -/
structure Outcome where
  hit : Bool := false
  failed : Bool := false
  used : Bool := false

/-- The size of the file behind a descriptor. -/
def sizeBehind? (descriptor : Nat) : Run (Option Nat) :=
  Run.observe fun s y =>
    (y.stream? s.process descriptor).bind fun stream =>
      match stream.target with
      | .node id => (y.tree.node? id).bind fun n => if n.isFile then some n.size else none
      | .pipe .. => none

/-- Whether the output goes into the file behind a descriptor. -/
def isAlsoOutput (descriptor : Nat) : Run Bool :=
  Run.observe fun s y =>
    match y.stream? s.process descriptor, y.stream? s.process 1 with
    | some a, some b =>
      match a.target with
      | .node id => decide (a.target = b.target) && (y.tree.node? id).any Files.Node.isFile
      | .pipe .. => false
    | _, _ => false

/-- Looks through an open input. -/
def through (s : Search) (program : String) (name : Chars) (descriptor : Nat) (isInput : Bool)
    (o : Outcome) : Run Outcome := do
  let size ← sizeBehind? descriptor
  let most := size.getD 18446744073709551615 + if s.numbered then 1 else 0
  let s := if s.tabbed then { s with width := (Nat.toDigits 10 most).length } else s
  match ← scan s name descriptor maxLines 0 [] { used := o.used } with
  | .error e =>
    let _ ← complain program (toText name ++ ": " ++ e.reason)
    return { o with failed := true }
  | .ok (p, consumed) =>
    if isInput && (← Run.isSeekable descriptor) && p.isOver s then
      if s.quiet || s.told = .hit || s.told = .missed then
        let _ ← Run.takeAll descriptor
      else Run.putBack descriptor (consumed - p.throughHit)
    let hit := 0 < p.hits
    let start : Chars := if s.named then
        s.painted "35" name ++ if s.zeroBehindNames then ['\x00'] else s.painted "36" [':']
      else []
    let listed := s.painted "35" name ++ [if s.zeroBehindNames then '\x00' else '\n']
    if !s.quiet then
      match s.told with
      | .counts =>
        let _ ← out program (start ++ Nat.toDigits 10 p.hits ++ ['\n'])
      | .hit => if hit then let _ ← out program listed
      | .missed => if !hit then let _ ← out program listed
      | .lines =>
        if hit && p.binary then
          let _ ← complain program (toText name ++ ": binary file matches")
    return { o with hit := o.hit || hit, used := p.used }

/-! ## Which inputs -/

/-- Which files are looked through. -/
structure Choice where
  included : List Shell.Pattern
  excluded : List Shell.Pattern
  excludedDirectories : List Shell.Pattern
  deep : Bool
  follows : Bool
  skipsDirectories : Bool
  silent : Bool

/-- The ends of a path that begin behind a slash, and the path itself. -/
def suffixes (path : Chars) : List Chars :=
  let rec go : Chars → List Chars
    | [] => []
    | c :: cs => if c = '/' then cs :: go cs else go cs
  path :: go path

namespace Choice

/-- Whether a file is passed over. -/
def passesOver (ch : Choice) (names : List Chars) : Bool :=
  let fits (ps : List Shell.Pattern) : Bool := ps.any fun p => names.any p.fits
  fits ch.excluded || (!ch.included.isEmpty && !fits ch.included)

def passesOverDirectory (ch : Choice) (names : List Chars) : Bool :=
  ch.excludedDirectories.any fun p => names.any p.fits

end Choice

/-- Looks through what is at a path, and below it. -/
def throughPath (s : Search) (ch : Choice) (program : String) (isOperand : Bool) :
    (room : Nat) → (path : Chars) → Outcome → Run Outcome
  | 0, _, o => return o
  | room + 1, path, o => do
    if s.quiet && o.hit then return o
    let t ← Run.tree
    let fail (e : FileError) : Run Outcome := do
      if !ch.silent then let _ ← complain program (toText path ++ ": " ++ e.reason)
      return { o with failed := true }
    let follows := isOperand || ch.follows
    let isDescriptor := (Host.descriptorOf? (toText path)).isSome
    let node := if follows then t.locate (toText path) else t.locateEntry (toText path)
    match node with
    | .error e => if isDescriptor then readFile s path o else fail e
    | .ok id =>
      match t.node? id with
      | none => return o
      | some n =>
        if n.isDirectory then
          if !ch.deep then
            if ch.skipsDirectories then return o
            else return ← fail .isADirectory
          let base := lastName path
          if ch.passesOverDirectory (if isOperand then suffixes (trimmed path) else [base]) then
            return o
          let mut o := o
          for (name, _) in t.entries id do
            let below := if path.isEmpty then ofText name else pathIn path name
            o ← throughPath s ch program false room below o
          return o
        else if !isOperand && (n.isLink || !n.isFile) then return o
        else if ch.passesOver (if isOperand then suffixes path else [lastName path]) then return o
        else readFile s path o
where
  trimmed (path : Chars) : Chars :=
    let t := path.reverse.dropWhile (· == '/')
    if t.isEmpty then path else t.reverse
  lastName (path : Chars) : Chars :=
    ((trimmed path).reverse.takeWhile (· != '/')).reverse
  readFile (s : Search) (path : Chars) (o : Outcome) : Run Outcome := do
    let result ← Run.withFile path .read fun d => do
      if !s.quiet && s.told = .lines && s.most ≠ some 1 && (← isAlsoOutput d) then
        let _ ← complain program (toText path ++ ": input file is also the output")
        return { o with failed := true }
      else through s program path d false o
    match result with
    | .ok o => return o
    | .error e =>
      if !ch.silent then let _ ← complain program (toText path ++ ": " ++ e.reason)
      return { o with failed := true }

/-- Looks through all operands. -/
def throughAll (s : Search) (ch : Choice) (program : String) (label : Chars) :
    List Chars → Outcome → Run Outcome
  | [], o => return o
  | path :: rest, o => do
    if s.quiet && o.hit then return o
    let o ← if path = ['-'] then
        do
          if !s.quiet && s.told = .lines && s.most ≠ some 1 && (← isAlsoOutput 0) then
            let _ ← complain program (toText label ++ ": input file is also the output")
            pure { o with failed := true }
          else through s program label 0 true o
      else throughPath s ch program true maxDepth path o
    throughAll s ch program label rest o

/-! ## Patterns -/

/-- The signs that stand where there is nothing to repeat. -/
def misplaced : (room : Nat) → (atStart : Bool) → Chars → List String
  | 0, _, _ => []
  | _, _, [] => []
  | room + 1, atStart, c :: cs =>
    if c = '\\' then misplaced room false (cs.drop 1)
    else if c = '[' then
      let cs := if cs.head? = some '^' then cs.drop 1 else cs
      let cs := if cs.head? = some ']' then cs.drop 1 else cs
      misplaced room false ((cs.dropWhile (· != ']')).drop 1)
    else if c = '(' || c = '|' || c = '^' then misplaced room true cs
    else if atStart && (c = '*' || c = '+' || c = '?') then
      String.singleton c :: misplaced room false cs
    else if atStart && c = '\x7b' then
      let digits := cs.takeWhile fun d => d.isDigit || d = ','
      if !digits.isEmpty && (cs.drop digits.length).head? = some '\x7d' then
        "\x7b...\x7d" :: misplaced room false (cs.drop (digits.length + 1))
      else misplaced room false cs
    else misplaced room false cs

/-- How patterns are written. -/
inductive Dialect
  | basic
  | extended
  | fixed
  deriving DecidableEq

/-- Reads a pattern, to which only words or only whole lines fit if that is wanted. -/
def readPattern (d : Dialect) (words lines : Bool) (t : Chars) : Except RegularError Regular := do
  let r ← match d with
    | .fixed => pure (Regular.ofLiteral t)
    | .extended => Regular.ofChars (.searching true) t
    | .basic => Regular.ofChars (.searching false) t
  return if lines then .sequence (.edge .start) (.sequence r (.edge .finish))
    else if words then .sequence (.edge .noWordBefore) (.sequence r (.edge .noWordBehind))
    else r

/-! ## The programs -/

def spec : Spec :=
  .ofString "0123456789A:B:C:D:EFGHILPTUVX:abcd:e:f:hiLlm:noqrRsuvwxyZz"
    ["basic-regexp|G", "extended-regexp|E", "fixed-regexp|F", "fixed-strings|F", "perl-regexp|P",
     "after-context=|A", "before-context=|B", "binary-files=", "binary|U", "byte-offset|b",
     "context=|C", "color?", "colour?|color", "count|c", "devices=|D", "directories=|d", "exclude=",
     "exclude-from=", "exclude-dir=", "file=|f", "files-with-matches|l", "files-without-match|L",
     "group-separator=", "include=", "ignore-case|i", "no-ignore-case", "initial-tab|T", "label=",
     "line-buffered", "line-number|n", "line-regexp|x", "max-count=|m", "no-filename|h",
     "no-group-separator", "no-messages|s", "null|Z", "null-data|z", "only-matching|o", "quiet|q",
     "recursive|r", "dereference-recursive|R", "regexp=|e", "invert-match|v", "silent|q", "text|a",
     "unix-byte-offsets|u", "version|V", "with-filename|H", "word-regexp|w", "help"]

def usage : Run Nat := do
  Run.complain "Usage: grep [OPTION]... PATTERNS [FILE]..."
  pointToHelp "grep" 2

/-- The number that digits among the options form. -/
def digitsOf (a : Arguments) : Option Nat :=
  let digits := a.options.filterMap fun (key, _) =>
    match key.toList with
    | [c] => if c.isDigit then some c else none
    | _ => none
  if digits.isEmpty then none else Text.readNat? 10 digits

/-- The search that options ask for, with the patterns for it. -/
def ofArguments (a : Arguments) (patterns : List Regular) (count : Nat) : Search :=
  let context (key : String) : Option Nat := (a.value? key).bind (Text.readNat? 10)
  let both := (context "C").or (digitsOf a)
  let after := (context "A").or both
  let before := (context "B").or both
  { patterns
    fold := a.lastOf? ["i", "y", "no-ignore-case"] = some "i" ||
      a.lastOf? ["i", "y", "no-ignore-case"] = some "y"
    inverted := a.has "v"
    told := match a.lastOf? ["l", "L"] with
      | some "l" => .hit
      | some _ => .missed
      | none => if a.has "c" then .counts else .lines
    quiet := a.has "q"
    onlyParts := a.has "o", numbered := a.has "n", offsets := a.has "b"
    named := match a.lastOf? ["H", "h"] with
      | some "H" => true
      | some _ => false
      | none => 1 < count
    before := if a.has "o" then 0 else before.getD 0
    after := after.getD 0
    hasContext := after.isSome || before.isSome
    separator := match a.lastOf? ["group-separator", "no-group-separator"] with
      | some "no-group-separator" => none
      | some _ => a.value? "group-separator"
      | none => some ['-', '-']
    most := (a.value? "m").bind (Text.readNat? 10)
    mark := if a.has "z" then '\x00' else '\n'
    zeroBehindNames := a.has "Z", tabbed := a.has "T", width := 0
    colors := a.values "color" |>.getLast? |>.any fun w =>
      ["always", "yes", "force"].contains (toText w)
    asText := a.has "a" || a.value? "binary-files" = some "text".toList
    skipsBinary := a.has "I" || a.value? "binary-files" = some "without-match".toList }

/-- Reads patterns from files. -/
def patternsFrom (program : String) : List Chars → Run (Except Nat (List Chars))
  | [] => return .ok []
  | path :: rest => do
    match ← readOperand path with
    | .error e =>
      let _ ← complain program (toText path ++ ": " ++ e.reason)
      return .error 2
    | .ok text =>
      match ← patternsFrom program rest with
      | .ok more => return .ok (linesOf '\n' text ++ more)
      | .error status => return .error status

/-- What is done with directories. -/
inductive DirectoryWay
  | read
  | deep
  | skipped
  deriving DecidableEq

def directoryWays : List (List String × DirectoryWay) :=
  [(["read"], .read), (["recurse"], .deep), (["skip"], .skipped)]

/-- Whether options have arguments that cannot be. -/
def wrongValue? (a : Arguments) : Option (Run Nat) :=
  let fail (message : String) : Run Nat := do
    let _ ← complain "grep" message
    return 2
  a.options.findSome? fun (key, value) =>
    let isNumber := (Text.readNat? 10 value).isSome
    match key with
    | "A" | "B" | "C" =>
      if isNumber then none else some (fail (toText value ++ ": invalid context length argument"))
    | "m" =>
      if isNumber || (value.head? = some '-' && (Text.readNat? 10 (value.drop 1)).isSome) then none
      else some (fail "invalid max count")
    | "binary-files" =>
      if ["binary", "text", "without-match"].contains (toText value) then none
      else some (fail "unknown binary-files type")
    | "d" =>
      match choose "--directories" directoryWays value with
      | .ok _ => none
      | .error message => some do
        Run.complain ("grep: " ++ message)
        let _ ← usage
        return 1
    | "D" => if ["read", "skip"].contains (toText value) then none
      else some (fail "unknown devices method")
    | _ => none

/-- Looks for lines with patterns of a dialect, unless an option names another one. -/
def searching (usual : Dialect) : Program := fun _ args => do
  match readArguments spec false args.length args with
  | .error e =>
    Run.complain ("grep: " ++ e.message)
    usage
  | .ok a =>
    if a.has "V" then return ← out "grep" (ofText (versionOf "grep" ++ "\n"))
    if a.has "help" then
      return ← out "grep" (ofText ("Usage: grep [OPTION]... PATTERNS [FILE]...\n" ++
        "Search for PATTERNS in each FILE.\n"))
    match wrongValue? a with
    | some act => act
    | none =>
      let given := a.values "e"
      let listed ← patternsFrom "grep" (a.values "f")
      match listed with
      | .error status => return status
      | .ok listed =>
        let isGiven := a.has "e" || a.has "f"
        match isGiven, a.operands with
        | false, [] => usage
        | _, operands =>
          let texts := if isGiven then given.flatMap (·.splitOn '\n') ++ listed
            else (operands.headD []).splitOn '\n'
          let paths := if isGiven then operands else operands.drop 1
          let dialect := match a.lastOf? ["E", "F", "G", "P"] with
            | some "E" | some "P" => .extended
            | some "F" => .fixed
            | some _ => .basic
            | none => usual
          let read := texts.mapM (readPattern dialect (a.has "w") (a.has "x"))
          if dialect = .extended && !a.has "P" then
            for t in texts do
              for sign in misplaced (t.length + 1) true t do
                let _ ← complain "grep" ("warning: " ++ sign ++ " at start of expression")
          match read with
          | .error e =>
            let _ ← complain "grep" e.message
            return 2
          | .ok patterns =>
            let way := match a.options.reverse.find? fun o => ["d", "r", "R"].contains o.1 with
              | some ("d", value) => (choose "" directoryWays value).toOption
              | some _ => some .deep
              | none => none
            let deep := way = some .deep
            let t ← Run.tree
            let count := if deep && (paths.isEmpty || paths.any fun p => t.isDirectory (toText p))
              then 2 else paths.length
            let s := ofArguments a patterns count
            if s.most = some 0 then return 1
            let pattern (t : Chars) : Shell.Pattern := .ofMarked false (t.map (·, false))
            let excludeFiles ← patternsFrom "grep" (a.values "exclude-from")
            match excludeFiles with
            | .error status => return status
            | .ok fromFiles =>
              let ch : Choice := {
                included := (a.values "include").map pattern
                excluded := (a.values "exclude" ++ fromFiles).map pattern
                excludedDirectories := (a.values "exclude-dir").map fun t =>
                  pattern (throughPath.trimmed t)
                deep, follows := a.lastOf? ["r", "R"] = some "R"
                skipsDirectories := way = some .skipped
                silent := a.has "s" }
              let label := (a.value? "label").getD "(standard input)".toList
              let o ← if paths.isEmpty && deep then
                  (do
                    let t ← Run.tree
                    let mut o : Outcome := {}
                    for (name, _) in t.entries t.working do
                      o ← throughPath s ch "grep" false maxDepth (ofText name) o
                    pure o)
                else throughAll s ch "grep" label (orInput paths) {}
              if s.quiet && o.hit then return 0
              return if o.failed then 2 else if o.hit then 0 else 1

end Search

def grep : Program := Search.searching .basic

def egrep : Program := Search.searching .extended

def fgrep : Program := Search.searching .fixed

end Provision.Program
