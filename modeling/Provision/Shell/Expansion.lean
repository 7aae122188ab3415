import Provision.Shell.Arithmetic
import Provision.Shell.Brace
import Provision.Shell.Field
import Provision.Shell.Globbing
import Provision.Shell.Grammar
import Provision.Shell.Quoted
import Provision.Shell.Reckoning

namespace Provision.Shell

open Bytes (toText ofText)

/-- What runs the commands that stand inside words: as they are, and in a shell of their own. -/
structure Runner where
  commands : List Command → Run Unit
  subshell : Run Unit → Run Unit

/-- The parts of a text that is read as it stands between double quotes. -/
def Source.parts (d : Dialect) (text : Chars) : List Part :=
  match ((Reader.nestedWithin Reader.maxNesting).parts .here).run
      { Source.ofChars d 1 [] with rest := text } with
  | .ok (parts, _) => parts
  | .error _ => [.literal true text]

namespace Run

def separators : Run Chars := do return (← textOf? "IFS").getD " \t\n".toList

/-- The value of a parameter: one text, if there is one, or a list, which can be one that is joined
when it is quoted. -/
inductive Fetched
  | single (text : Option Chars)
  | list (joined : Bool) (texts : List Chars)

/-- The letters of the settings that are on. -/
def settingLetters : Run Chars := do
  let s ← get
  return Setting.letters s.settings ++ match s.dialect, s.origin with
    | .bash, .text => ['c']
    | _, .input => ['s']
    | _, _ => []

def special? (name : String) : Run (Option Fetched) := do
  let s ← get
  match name with
  | "?" => return some (.single (some (digits s.status)))
  | "$" => return some (.single (some (digits s.shellProcess)))
  | "#" => return some (.single (some (digits s.arguments.length)))
  | "!" => return some (.single (s.lastJob.map digits))
  | "-" => return some (.single (some (← settingLetters)))
  | "0" => return some (.single (some s.name))
  | "@" => return some (.list false s.arguments)
  | "*" => return some (.list true s.arguments)
  | _ =>
    match Text.readNat? 10 name.toList with
    | some n => return some (.single s.arguments[n - 1]?)
    | none => return none

/-! ## Giving up -/

/-- Gives up the present line of the script because of a word that cannot be expanded. -/
def abandon {α : Type} (message : String) : Run α := do
  report message
  if (← get).dialect = .dash then leave 2
  setStatus 1
  throw .abandon

/-- Leaves the shell because of a word that cannot be expanded. -/
def refuse {α : Type} (message : String) : Run α := do
  report message
  leave (if (← get).dialect = .dash then 2 else 127)

/-- Leaves the shell because a parameter has no value. -/
def refuseUnset {α : Type} (shown : String) : Run α := do
  if (← get).dialect = .dash then refuse (shown ++ ": parameter not set")
  else
    let isPlain := match shown.toList with
      | c :: _ => isNameStart c
      | [] => true
    refuse ((if isPlain then shown else "$" ++ shown) ++ ": unbound variable")

/-! ## Parts of texts -/

/-- Makes the case of letters another one: of the letters that fit, of all such or of the first
character alone. -/
def recase (how : Recasing) (all : Bool) (asked : Char → Bool) (cs : Chars) : Chars :=
  let f (c : Char) : Char :=
    if !asked c then c
    else match how with
      | .upper => c.toUpper
      | .lower => c.toLower
      | .toggle => Text.otherCase c
  if all then cs.map f
  else match cs with
    | [] => []
    | c :: rest => f c :: rest

/-- The text that comes in the place of another one. A sign that is not quoted stands for that. -/
def substituted (by' : List Marked) (matched : Chars) : Chars :=
  match by' with
  | [] => []
  | ('\\', false) :: (c, _) :: rest =>
    if c = '&' || c = '\\' then c :: substituted rest matched
    else '\\' :: c :: substituted rest matched
  | ('&', false) :: rest => matched ++ substituted rest matched
  | (c, _) :: rest => c :: substituted rest matched

/-- The part of some elements from an offset on. -/
def cut {α : Type} (count : Nat) (offset : Int) (length : Option Int) (xs : List (Nat × α)) :
    List (Nat × α) :=
  let start : Int := if offset < 0 then count + offset else offset
  if start < 0 then []
  else
    let rest := xs.filter fun x => start ≤ x.1
    match length with
    | none => rest
    | some n => rest.take n.toNat

/-- What a prompt shows for what backslashes stand for. -/
def prompted : Chars → Run Chars
  | '\\' :: c :: rest => do
    let text ← match c with
      | 'u' => pure "root".toList
      | 'h' | 'H' => return (← textOf "HOSTNAME") ++ (← prompted rest)
      | 'w' | 'W' => textOf "PWD"
      | 's' => pure "bash".toList
      | '$' => pure ['#']
      | 'n' => pure ['\n']
      | 'r' => pure ['\r']
      | 'a' => pure ['\x07']
      | 'e' => pure ['\x1b']
      | 'v' => pure "5.2".toList
      | 'V' => pure "5.2.15".toList
      | 'j' => pure (digits (← get).jobs.length)
      | '[' | ']' => pure []
      | '\\' => pure ['\\']
      | c => pure ['\\', c]
    return text ++ (← prompted rest)
  | c :: rest => return c :: (← prompted rest)
  | [] => return []

/-- The letters of what holds for a variable. -/
def markLetters (v : Variable) : Chars :=
  (match v.value with
    | .array _ => ['a']
    | .table _ => ['A']
    | _ => []) ++
  (if v.marks.integer then ['i'] else []) ++
  (if v.marks.reference then ['n'] else []) ++
  (if v.marks.constant then ['r'] else []) ++
  (if v.marks.traced then ['t'] else []) ++
  (if v.marks.exported then ['x'] else []) ++
  (match v.marks.recasing with
    | some .lower => ['l']
    | some .upper => ['u']
    | some .toggle => ['c']
    | none => [])

/-- The elements of an array or a table between parentheses. -/
def elementsText (v : Value) : Chars :=
  match v with
  | .array es => '(' :: List.intercalate [' '] (es.map fun (i, t) =>
      '[' :: digits i ++ "]=".toList ++ Quoted.double t) ++ [')']
  | .table ps => '(' :: (ps.flatMap fun (k, t) =>
      let key := if Quoted.isActiveIn none k || k.isEmpty then Quoted.double k else k
      '[' :: key ++ "]=".toList ++ Quoted.double t ++ [' ']) ++ [')']
  | _ => []

/-- An assignment that gives a variable what it has. -/
def assignmentText (name : String) (v : Variable) (whole : Bool) (t : Option Chars) : Chars :=
  let letters := markLetters v
  let start := if letters.isEmpty then [] else "declare -".toList ++ letters ++ [' ']
  let value := match v.value, whole, t with
    | .array _, true, _ | .table _, true, _ => '=' :: elementsText v.value
    | _, _, some t => '=' :: Quoted.shown t
    | _, _, none => []
  if letters.isEmpty && t.isNone then [] else start ++ ofText name ++ value

variable (runner : Runner)

/-! ## Commands in words -/

/-- What some commands write, and how they end. -/
def outputOf (body : Run Unit) : Run (Chars × Nat) := do
  let (r, w) ← newPipe
  let reading ← putAside r
  let writing ← putAside w
  let child ← startWith [(1, some w)] (runner.subshell body)
  setDescriptor writing none
  let text ← takeAll reading
  setDescriptor reading none
  return (text, (← await child).status)

/-- The file that is all a body reads. -/
def onlyFile? : List Command → Option Word
  | [.simple _ [] [] [.mk (.number 0) .input w]] => some w
  | [.simple _ [] [] [.mk .usual .input w]] => some w
  | _ => none

/-- The output of commands, without zero bytes and without the line feeds at its end. -/
def capture (file : Word → Run Unit) (body : List Command) : Run Chars := do
  let s ← get
  let (text, status) ← outputOf runner do
    unless s.extras.contains "inherit_errexit" || s.dialect = .dash do
      modify fun s => { s with settings := s.settings.filter (· ≠ .exitOnError) }
    match onlyFile? body with
    | some w => file w
    | none => runner.commands body
  modify fun s => { s with status, captured := true }
  if text.contains '\x00' then
    if s.dialect = .bash then
      report "warning: command substitution: ignored null byte in input"
  return ((text.filter (· != '\x00')).reverse.dropWhile (· == '\n')).reverse

/-- Lets commands run beside the shell with a pipe to them. The answer is the path of its end. -/
def feed (reading : Bool) (body : List Command) : Run Chars := do
  let (r, w) ← newPipe
  let used := (← descriptors).map (·.1)
  let d := (((List.range 54).map (63 - ·)).find? (!used.contains ·)).getD 63
  let (own, given, turned) := if reading then (r, w, 1) else (w, r, 0)
  setDescriptor d (some own)
  let hold ← putAside given
  let child ← startWith [(turned, some given), (d, none)]
    (runner.subshell (runner.commands body))
  setDescriptor hold none
  modify fun s => { s with feeds := d :: s.feeds, lastJob := some child }
  return ofText ("/dev/fd/" ++ toString d)

/-- The pieces of a list of texts. -/
def listed (quoted joined : Bool) (texts : List Chars) : Run (List Piece) := do
  let joint := (← separators).take 1
  if quoted && joined then return [.kept true (List.intercalate joint texts)]
  else
    let pieces := texts.map fun t => if quoted then Piece.kept true t else .loose t
    return pieces.intersperse (.border (if joined then joint else [' ']))

/-- The text that a variable takes, behind its old one or in the place of it. If it has to be a number
and is none, the shell gives up, with a complaint in the name of a command. -/
def takenText (command : Option String) (marks : Marks) (append : Bool) (old new : Chars) :
    Run Chars := do
  if marks.integer then
    let start := match command with
      | some c => c ++ ": "
      | none => ""
    let m ← calculated start new
    let n ← if append then calculated start old else pure 0
    return integerText (Formula.wrap (m + n))
  else
    let whole := if append then old ++ new else new
    return match marks.recasing with
      | some .toggle => recase .upper false (fun _ => true) (whole.map Char.toLower)
      | r => Value.recase r whole

/-- Gives a text to a variable as its marks want it. -/
def give (command : Option String) (name : String) (text : Chars) : Run Bool := do
  let marks := ((← lookup? name).map (·.marks)).getD {}
  storeText name (← takenText command marks false [] text)

/-! ## Parameters -/

section

variable (inner : List Part → Run (List Piece))

def innerText (w : List Part) : Run Chars := return Piece.flat (← inner w)

def innerPattern (w : List Part) : Run Pattern := do
  let extended ← hasExtra "extglob"
  return .ofMarked extended (Piece.marked (← inner w))

/-- The value of the arithmetic expression in a word. Without one the shell gives up, with a complaint
that begins with a text. -/
def innerNumber (start : String) (w : List Part) : Run Int := do
  let text ← innerText inner w
  match (← get).dialect with
  | .bash => calculated start text
  | .dash => reckoned text

/-- The index of an element as it is counted. -/
def place? (name : String) (v : Value) (n : Int) : Run (Option Nat) := do
  let size : Nat := (v.elements.getLast?.map (·.1 + 1)).getD 0
  let n := if n < 0 then size + n else n
  if n < 0 then
    report (name ++ ": bad array subscript")
    return none
  return some n.toNat

/-- The value of a parameter at an index. -/
def element (name : String) (v : Value) (index : List Part) : Run (Option Chars) := do
  let text ← innerText inner index
  match v with
  | .table ps => return (ps.find? (·.1 = text)).map (·.2)
  | v =>
    match ← place? name v (← calculated "" text) with
    | some n => return (v.elements.find? (·.1 = n)).map (·.2)
    | none => return none

/-- Whether an index stands for all elements. -/
def isWhole (index : List Part) : Option Bool :=
  match index with
  | [.literal _ ['@']] => some false
  | [.literal _ ['*']] => some true
  | _ => none

/-- The value of a parameter, at an index if there is one. -/
def fetch (name : String) (index : Option (List Part)) : Run Fetched := do
  match index with
  | some i =>
    match isWhole i with
    | some joined => return .list joined (← valueOf name).texts
    | none => return .single (← element inner name (← valueOf name) i)
  | none =>
    match ← special? name with
    | some f => return f
    | none => return .single (← textOf? name)

/-- What an operation makes of each text of a value. -/
def transform (op : Operation) : Run (Chars → Chars) := do
  match op with
  | .trim side longest w =>
    let p ← innerPattern inner w
    return p.trim side longest
  | .replace all side w by' =>
    let p ← innerPattern inner w
    let new := Piece.marked (← inner by')
    let fold ← hasExtra "nocasematch"
    let f : Chars → Chars ←
      if ← hasExtra "patsub_replacement" then pure (substituted new)
      else pure fun _ => new.map (·.1)
    if w.isEmpty && side.isNone then return id
    return fun cs =>
      match side with
      | none => p.replace fold all f (cs.length + 1) cs
      | some side => p.replaceAt fold side f cs
  | .recase how all w =>
    let p ← innerPattern inner w
    return recase how all fun c => w.isEmpty || p.fits [c]
  | _ => return id

/-- The part of a text or of a list. -/
def sliced (single : Chars → List Piece) (quoted : Bool) (name shown : String) (value : Fetched)
    (offset : List Part) (length : Option (List Part)) : Run (List Piece) := do
  let start ← innerNumber inner (shown ++ ": ") offset
  let count ← length.mapM (innerNumber inner (shown ++ ": "))
  let refuseLength {α : Type} : Run α := do
    abandon (toText (← innerText inner (length.getD [])) ++ ": substring expression < 0")
  match value with
  | .single t =>
    let t := t.getD []
    let first : Int := if start < 0 then t.length + start else start
    if first < 0 || t.length < first then return single []
    match count with
    | none => return single (t.drop first.toNat)
    | some n =>
      if 0 ≤ n then return single ((t.drop first.toNat).take n.toNat)
      else if t.length + n < first then refuseLength
      else return single ((t.drop first.toNat).take (t.length + n - first : Int).toNat)
  | .list joined ts =>
    if count.any (· < 0) then refuseLength
    if name = "@" || name = "*" then
      let all := ((← get).name :: ts).mapIdx fun i t => (i, t)
      listed quoted joined ((cut all.length start count all).map (·.2))
    else
      match ← valueOf name with
      | .table ps =>
        let all := (ps.map (·.2)).mapIdx fun i t => (i + 1, t)
        listed quoted joined ((cut (all.length + 1) start count all).map (·.2))
      | v =>
        let size := (v.elements.getLast?.map (·.1 + 1)).getD 0
        listed quoted joined ((cut size start count v.elements).map (·.2))

/-- A parameter in one of the forms that a letter asks for. -/
def shownAs (letter : Char) (single : Chars → List Piece) (quoted : Bool) (name : String)
    (index : Option (List Part)) (value : Fetched) : Run (List Piece) := do
  let whole := (← lookup? name).getD ⟨← valueOf name, {}⟩
  let each (f : Chars → Run Chars) : Run (List Piece) := do
    match value with
    | .single none => return single []
    | .single (some t) => return single (← f t)
    | .list joined ts => listed quoted joined (← ts.mapM f)
  match letter with
  | 'U' => each fun t => return t.map Char.toUpper
  | 'L' => each fun t => return t.map Char.toLower
  | 'u' => each fun t => return recase .upper false (fun _ => true) t
  | 'Q' => each fun t => return Quoted.shown t
  | 'E' => each fun t => return (unescape .quoted t).1
  | 'P' => each fun t => do
      let d := (← get).dialect
      innerText inner (Source.parts d (← prompted t))
  | 'a' =>
    match value with
    | .list joined ts => listed quoted joined (ts.map fun _ => markLetters whole)
    | .single _ => return single (markLetters whole)
  | 'A' =>
    match value, index with
    | .list _ ts, some _ =>
      return if ts.isEmpty then single [] else
        single (assignmentText name whole true (some []))
    | .list _ ts, none =>
      return single ("set --".toList ++ ts.flatMap fun t => ' ' :: Quoted.shown t)
    | .single t, _ => return single (assignmentText name whole false t)
  | _ =>
    match value, whole.value with
    | .list joined _, .array es =>
      if letter = 'K' then
        return single (List.intercalate [' '] (es.map fun (i, t) =>
          digits i ++ ' ' :: Quoted.double t))
      else listed quoted joined (es.flatMap fun (i, t) => [digits i, t])
    | .list joined _, .table ps =>
      if letter = 'K' then
        return single (ps.flatMap fun (k, t) =>
          (if Quoted.isActiveIn none k || k.isEmpty then Quoted.double k else k) ++
            ' ' :: Quoted.double t ++ [' '])
      else listed quoted joined (ps.flatMap fun (k, t) => [k, t])
    | _, _ => each fun t => return Quoted.shown t

/-- How a parameter is written. -/
def shownName (name : String) (index : Option (List Part)) : Run String := do
  match index with
  | none => return name
  | some i => return name ++ "[" ++ toText (← innerText inner i) ++ "]"

/-- The pieces of a parameter. -/
def parameter (quoted : Bool) (name : String) (index : Option (List Part)) (op : Operation) :
    Run (List Piece) := do
  let single (t : Chars) : List Piece := [if quoted then .kept true t else .loose t]
  let word (w : List Part) : Run (List Piece) := do
    let ps ← inner w
    return if quoted then .kept true [] :: ps else Piece.loosen ps
  let value ← fetch inner name index
  let present : Bool := match value with
    | .single t => t.isSome
    | .list _ ts => !ts.isEmpty
  let nonEmpty : Bool := match value with
    | .single t => t.any (!·.isEmpty)
    | .list _ ts => ts.any (!·.isEmpty) || 1 < ts.length
  let usable (whenEmpty : Bool) : Bool := if whenEmpty then nonEmpty else present
  let requireSet : Run Unit := do
    if !present && (← isOn .refuseUnset) then
      match value with
      | .single _ => refuseUnset (← shownName inner name index)
      | .list .. => pure ()
  let plain : Run (List Piece) := do
    requireSet
    match value with
    | .single t => return single (t.getD [])
    | .list joined ts => listed quoted joined ts
  match op with
  | .value => plain
  | .length =>
    requireSet
    match value with
    | .single t => return single (digits (t.getD []).length)
    | .list _ ts => return single (digits ts.length)
  | .keys => listed quoted ((index.bind isWhole).getD false) (← valueOf name).keys
  | .names joined =>
    let names := (← variableNames).filter fun n => name.toList.isPrefixOf n.toList
    listed quoted joined (names.map ofText)
  | .fallback whenEmpty w => if usable whenEmpty then plain else word w
  | .default whenEmpty w =>
    if usable whenEmpty then plain
    else if !isName name.toList then abandon ("$" ++ name ++ ": cannot assign in this way")
    else
      let t ← innerText inner w
      let stored ← match index with
        | none => give none name t
        | some i => do
          match ← valueOf name with
          | .table ps => store name (.table (insertPair (← innerText inner i) t ps))
          | v =>
            match ← place? name v (← innerNumber inner "" i) with
            | some n => store name (.array (insertElement n t v.elements))
            | none => pure false
      unless stored do
        setStatus 1
        throw .abandon
      return single t
  | .require whenEmpty w =>
    if usable whenEmpty then plain
    else
      let t ← innerText inner w
      let usual := match (← get).dialect, whenEmpty with
        | .bash, true => "parameter null or not set"
        | .dash, true => "parameter not set or null"
        | _, false => "parameter not set"
      let shown ← shownName inner name index
      refuse (shown ++ ": " ++ if w.isEmpty then usual else toText t)
  | .instead whenEmpty w => if usable whenEmpty then word w else return single []
  | .slice offset length =>
    requireSet
    sliced inner single quoted name (← shownName inner name index) value offset length
  | .shown letter =>
    match letter with
    | 'a' | 'A' => pure ()
    | _ => requireSet
    shownAs inner letter single quoted name index value
  | .invalid text =>
    if (← get).dialect = .dash then refuse "Bad substitution"
    else abandon ("$\x7b" ++ toText text ++ "\x7d: bad substitution")
  | _ =>
    requireSet
    let f ← transform inner op
    match value with
    | .single t => return single (f (t.getD []))
    | .list joined ts => listed quoted joined (ts.map f)

/-- The pieces of a parameter whose name another one holds. -/
def indirect (quoted : Bool) (name : String) (index : Option (List Part)) (op : Operation) :
    Run (List Piece) := do
  let isReference := ((find? name (← get).scopes).map (·.marks.reference)).getD false
  if isReference && index.isNone then
    let (goal, _) ← target name maxReferences
    return [if quoted then .kept true (ofText goal) else .loose (ofText goal)]
  match ← fetch inner name index with
  | .single (some t) =>
    let (goal, i) := splitName t
    if isName goal.toList && (i.isSome || goal.length = t.length) then
      parameter inner quoted goal (i.map fun i => [.literal true i]) op
    else if (t.all Char.isDigit && !t.isEmpty) || ["@", "*", "#", "?", "-", "$", "!"].contains goal
    then parameter inner quoted (toText t) none op
    else abandon (toText t ++ ": invalid variable name")
  | .single none =>
    match op with
    | .value | .length => abandon (name ++ ": invalid indirect expansion")
    | .fallback .. | .instead .. | .default .. | .require .. =>
      parameter inner quoted name index op
    | _ => abandon (name ++ ": invalid indirect expansion")
  | .list _ ts =>
    match ts with
    | [t] => parameter inner quoted (toText t) none op
    | _ => abandon (toText (List.intercalate [' '] ts) ++ ": invalid variable name")

end

/-! ## Tildes -/

/-- The home directory of somebody. -/
def homeOf? (name : Chars) : Run (Option Chars) := do
  match name with
  | [] => return some ((← textOf? "HOME").getD "/root".toList)
  | ['+'] => textOf? "PWD"
  | ['-'] => textOf? "OLDPWD"
  | _ =>
    match (← tree).read "/etc/passwd" with
    | .error _ => return none
    | .ok bytes =>
      let lines := (Bytes.ofBytes bytes).splitOn '\n'
      return lines.findSome? fun line =>
        match line.splitOn ':' with
        | n :: _ :: _ :: _ :: _ :: home :: _ => if n = name then some home else none
        | _ => none

/-- A text that begins with a tilde, with the home directory in its place. If the text is open at
its end, the name of somebody may go on behind it. -/
def fromHome (openEnd : Bool) (text : Chars) : Run (List Part) := do
  match text with
  | '~' :: rest =>
    let name := rest.takeWhile (· != '/')
    let after := rest.drop name.length
    if openEnd && after.isEmpty then return [.literal false text]
    else
      match ← homeOf? name with
      | some home =>
        return .literal true home :: if after.isEmpty then [] else [.literal false after]
      | none => return [.literal false text]
  | _ => return [.literal false text]

/-- The parts of a value that is assigned, with home directories in the place of tildes. -/
def withHomes (first : Bool) : List Part → Run (List Part)
  | [] => return []
  | .literal false text :: more => do
    let segments := text.splitOn ':'
    let last := segments.length - 1
    let expanded ← (segments.mapIdx fun i t => (i, t)).mapM fun (i, t) => do
      let parts ← if i = 0 && !first then pure [Part.literal false t]
        else fromHome (i = last && !more.isEmpty) t
      return if i = 0 then parts else .literal false [':'] :: parts
    return expanded.flatten ++ (← withHomes false more)
  | p :: more => return p :: (← withHomes false more)

/-- Puts the home directory in the place of a tilde. -/
def withHome (w : List Part) : Run (List Part) := do
  match w with
  | .literal false ('~' :: text) :: more =>
    return (← fromHome (!more.isEmpty) ('~' :: text)) ++ more
  | .literal false text :: more =>
    let name := text.takeWhile (· != '=')
    if isName name && text.contains '=' && text.contains '~' && (← get).dialect = .bash then
      let start := text.take (name.length + 1)
      return .literal false start ::
        (← withHomes true (.literal false (text.drop (name.length + 1)) :: more))
    else return w
  | _ => return w

/-! ## Words -/

/-- The pieces of a part of a word, where `inner` expands the words in it. -/
def part (file : Word → Run Unit) (inner : List Part → Run (List Piece)) :
    Part → Run (List Piece)
  | .literal quoted t => return [.kept quoted t]
  | .capture quoted body => do
    let t ← capture runner file body
    return [if quoted then .kept true t else .loose t]
  | .arithmetic quoted w => do
    let t := integerText (← innerNumber inner "" w)
    return [if quoted then .kept true t else .loose t]
  | .feed reading body => do return [.kept true (← feed runner reading body)]
  | .parameter quoted (.mk isIndirect name index op) =>
    let inner (w : List Part) : Run (List Piece) := do
      if quoted then inner w else inner (← withHome w)
    if isIndirect then indirect inner quoted name index op
    else parameter inner quoted name index op

/-- Copies a file to the output. -/
def copyFile (path : Chars) : Run Unit := do
  match ← readFile path with
  | .ok text => print text
  | .error e =>
    report (toText path ++ ": " ++ e.reason)
    setStatus 1

/-- The pieces of a word, in which words may stand up to a depth. -/
def pieces : Nat → List Part → Run (List Piece)
  | 0, _ => return []
  | room + 1, w => do
    let file (w : Word) : Run Unit := do
      setStatus 0
      copyFile (Piece.flat (← pieces room (← withHome w.parts)))
    return (← w.mapM (part runner file (pieces room))).flatten

/-- So deep words may stand inside words. -/
def maxWordNesting : Nat := 100

/-- The text of a word that is not split. -/
def expandText (w : List Part) : Run Chars := do
  return Piece.flat (← pieces runner maxWordNesting (← withHome w))

/-- The text of a value that is assigned. -/
def expandValue (w : List Part) : Run Chars := do
  return Piece.flat (← pieces runner maxWordNesting (← withHomes true w))

/-- The pattern of a word that is not split. -/
def expandPattern (extended : Bool) (w : List Part) : Run Pattern := do
  return .ofMarked extended (Piece.marked (← pieces runner maxWordNesting (← withHome w)))

/-- The fields of a word. -/
def expandWord (w : Word) : Run (List Chars) := do
  let s ← get
  let words := if s.settings.contains .braceExpand && s.dialect = .bash then braced w.parts
    else [w.parts]
  let found ← words.mapM fun w => do
    let fields := Piece.split (← separators) (← pieces runner maxWordNesting (← withHome w))
    return (← fields.mapM globbed).flatten
  return found.flatten

def expandWords (ws : List Word) : Run (List Chars) := do
  return (← ws.mapM (expandWord runner)).flatten

/-! ## Traces -/

/-- What stands before all that a trace shows. Its first character tells how deep commands are inside
others. -/
def traceStart : Run Chars := do
  let s ← get
  let text ← textOf "PS4"
  modify fun s => { s with settings := s.settings.filter (· ≠ .trace) }
  let parts := Source.parts s.dialect text
  let shown := Piece.flat (← pieces runner maxWordNesting parts)
  modify fun t => { t with settings := s.settings, status := s.status, captured := s.captured }
  return match shown with
    | c :: rest => List.replicate s.level c ++ rest
    | [] => []

/-- Shows what is about to run, if that is asked for. -/
def trace (t : Chars) : Run Unit := do
  if ← isOn .trace then
    let start ← traceStart runner
    let descriptor := (Text.readNat? 10 (← textOf "BASH_XTRACEFD")).getD 2
    let _ ← emit descriptor (start ++ t ++ ['\n'])

def traceWords (ws : List Chars) : Run Unit :=
  trace runner (List.intercalate [' '] (ws.map Quoted.traced))

/-- Shows what a variable is given. -/
def traceGiven (name index : Chars) (append : Bool) (shown : Chars) : Run Unit :=
  trace runner (name ++ index ++ (if append then ['+', '='] else ['=']) ++ shown)

/-- A pattern as a trace shows it. What is quoted stands behind backslashes. -/
def tracedPattern (ms : List Marked) : Chars :=
  ms.flatMap fun (c, quoted) => if quoted then ['\\', c] else [c]

end Run

end Provision.Shell
