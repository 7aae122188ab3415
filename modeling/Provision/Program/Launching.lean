import Provision.Program.System

/-!
Programs that run other programs.
-/

namespace Provision.Program

open Bytes (toText ofText)
open Files (FileError)
open Shell (Run)

/-- Takes the form of another program. -/
def become (c : Caller) (refuse : Obstacle → Run Unit) (words : List Chars) : Run Nat := do
  match ← c.become words with
  | .ok status => return status
  | .error o =>
    refuse o
    return o.status

/-- Complains that another program cannot be run. -/
def failToRun (c : Caller) (words : List Chars) (o : Obstacle) : Run Unit :=
  Run.complain (c.name ++ ": failed to run command " ++ quoted (words.headD []) ++ ": " ++ o.reason)

/-! ## Surroundings -/

/-- Gives a variable to all that the process becomes. -/
def exportText (name value : Chars) : Run Unit :=
  modify fun s => { s with scopes := match s.scopes with
    | scope :: rest => scope.insert (toText name) ⟨.text value, { exported := true }⟩ :: rest
    | [] => [OrderedMap.ofList [(toText name, ⟨.text value, { exported := true }⟩)]] }

/-- Takes a variable away. -/
def dropVariable (name : Chars) : Run Unit :=
  modify fun s => { s with scopes := s.scopes.map (·.erase (toText name)) }

/-- What is wrong with a text that is to be taken apart into words. -/
inductive SplitProblem
  | expansion (at' : Chars)
  | quote

/-- Takes a text apart into words, between quotes and with the values of variables. -/
def splitWords (value : Chars → Chars) : Nat → Option Chars → Chars →
    Except SplitProblem (List Chars)
  | 0, _, _ => .ok []
  | _ + 1, held, [] => .ok held.toList
  | room + 1, held, c :: rest => do
    if c = ' ' || ('\t' ≤ c && c ≤ '\r') then
      return held.toList ++ (← splitWords value room none rest)
    else
      let word := held.getD []
      match c, rest with
      | '#', _ => if held.isNone then return [] else splitWords value room (some (word ++ [c])) rest
      | '\'', rest =>
        let inner := rest.takeWhile (· != '\'')
        if inner.length = rest.length then throw .quote
        splitWords value room (some (word ++ inner)) (rest.drop (inner.length + 1))
      | '\x22', rest =>
        let inner := rest.takeWhile (· != '\x22')
        if inner.length = rest.length then throw .quote
        splitWords value room (some (word ++ inner)) (rest.drop (inner.length + 1))
      | '\\', '_' :: rest => return held.toList ++ (← splitWords value room none rest)
      | '\\', x :: rest =>
        let x := match x with
          | 'n' => '\n'
          | 't' => '\t'
          | x => x
        splitWords value room (some (word ++ [x])) rest
      | '$', '\x7b' :: more =>
        let name := more.takeWhile (· != '\x7d')
        splitWords value room (some (word ++ value name)) (more.drop (name.length + 1))
      | '$', rest => throw (.expansion ('$' :: rest))
      | c, rest => splitWords value room (some (word ++ [c])) rest

/-- The arguments of a call in which a text is taken apart into further ones. -/
def splitArguments (value : Chars → Chars) : List Chars → Except SplitProblem (List Chars)
  | ('-' :: 'S' :: text) :: rest => do
    match text, rest with
    | [], text :: rest => return (← splitWords value (text.length + 1) none text) ++ rest
    | text, rest => return (← splitWords value (text.length + 1) none text) ++ rest
  | args =>
    let long := "--split-string=".toList
    match args with
    | a :: rest =>
      if long.isPrefixOf a then do
        let text := a.drop long.length
        return (← splitWords value (text.length + 1) none text) ++ rest
      else .ok args
    | [] => .ok []

def env : Program := fun c args => do
  let shown ← Run.environment
  let value (name : Chars) : Chars := (shown.lookup (toText name)).getD []
  match splitArguments value args with
  | .error (.expansion t) =>
    let _ ← complain c.name ("only $\x7bVARNAME\x7d expansion is supported, error at: " ++ toText t)
    return 125
  | .error .quote =>
    let _ ← complain c.name "no terminating quote in -S string"
    return 125
  | .ok args =>
    withArguments c.name (.ofString "C:iS:u:v0"
      ["ignore-environment|i", "null|0", "unset=|u", "chdir=|C", "default-signal?",
       "ignore-signal?", "block-signal?", "list-signal-handling", "debug|v", "split-string=|S"])
      125 true args fun a => do
      let (bare, words) := match a.operands with
        | ['-'] :: rest => (true, rest)
        | words => (a.has "i", words)
      if bare then modify fun s => { s with scopes := [∅], functions := ∅ }
      for name in a.values "u" do
        if name.isEmpty || name.contains '=' then
          let _ ← complain c.name ("cannot unset " ++ cited name ++ ": Invalid argument")
          return 125
        dropVariable name
      let given := words.takeWhile (·.contains '=')
      for w in given do
        let name := w.takeWhile (· != '=')
        exportText name (w.drop (name.length + 1))
      let command := words.drop given.length
      if a.has "0" && !command.isEmpty then
        return ← misuse c.name "cannot specify --null (-0) with command" 125
      match a.value? "C" with
      | none => pure ()
      | some d =>
        if command.isEmpty then
          return ← misuse c.name "must specify command with --chdir (-C)" 125
        let t ← Run.tree
        match t.locate (toText d) with
        | .ok id =>
          if (t.node? id).any Files.Node.isDirectory then
            modify fun s => { s with directory := id }
          else
            let _ ← complain c.name ("cannot change directory to " ++ quoted d ++
              ": Not a directory")
            return 125
        | .error e =>
          let _ ← complain c.name ("cannot change directory to " ++ quoted d ++ ": " ++ e.reason)
          return 125
      if command.isEmpty then
        let mark := if a.has "0" then '\x00' else '\n'
        out c.name ((← Run.environment).flatMap fun (n, t) => ofText n ++ '=' :: t ++ [mark])
      else
        if a.has "v" then
          Run.complain ("executing: " ++ toText (command.headD []))
          for (w, i) in command.zipIdx do
            Run.complain ("   arg[" ++ toString i ++ "]= " ++ cited w)
        become c (fun o => do
          let _ ← complain c.name (cited (command.headD []) ++ ": " ++ o.reason)) command

def printenv : Program := fun c args =>
  withArguments c.name (.ofString "0" ["null|0"]) 2 true args fun a => do
    let all ← Run.environment
    let mark := if a.has "0" then '\x00' else '\n'
    if a.operands.isEmpty then
      out c.name (all.flatMap fun (n, t) => ofText n ++ '=' :: t ++ [mark])
    else
      let mut status := 0
      for name in a.operands do
        match all.lookup (toText name) with
        | some t => let _ ← out c.name (t ++ [mark])
        | none => status := 1
      return status

/-! ## Ways to run -/

def nice : Program := fun c args => do
  let plain : List Chars := match args with
    | ('-' :: d :: digits) :: rest =>
      if d.isDigit || ((d = '-' || d = '+') && digits.head?.any Char.isDigit) then
        "-n".toList :: (d :: digits) :: rest
      else args
    | args => args
  withArguments c.name (.ofString "n:" ["adjustment=|n"]) 125 true plain fun a => do
    let own ← Run.observe fun s y => ((y.process? s.process).map (·.niceness)).getD 0
    let step? : Option Int := match a.value? "n" with
      | none => some 10
      | some ('-' :: digits) => (Text.readNat? 10 digits).map fun n => -(n : Int)
      | some ('+' :: digits) => (Text.readNat? 10 digits).map fun n => (n : Int)
      | some digits => (Text.readNat? 10 digits).map fun n => (n : Int)
    match step?, a.operands with
    | none, _ =>
      let _ ← complain c.name ("invalid adjustment " ++ cited ((a.value? "n").getD []))
      return 125
    | some _, [] =>
      if (a.value? "n").isSome then
        misuse c.name "a command must be given with an adjustment" 125
      else out c.name (Run.integerText own ++ ['\n'])
    | some n, words =>
      Run.share fun s y => ((), y.alterProcess s.process fun p =>
        { p with niceness := max (-20) (min 19 (p.niceness + n)) })
      become c (fun o => do
        let _ ← complain c.name (cited (words.headD []) ++ ": " ++ o.reason)) words

def nohup : Program := fun c args =>
  withArguments c.name ⟨[], []⟩ 125 true args fun a => do
    match a.operands with
    | [] =>
      let _ ← missOperand c.name []
      return 125
    | words =>
      Run.share fun s y => ((), y.alterProcess s.process fun p =>
        { p with ignored := 1 :: p.ignored })
      become c (failToRun c words) words

def setsid : Program := fun c args =>
  withArguments c.name (.ofString "cfw" ["ctty|c", "fork|f", "wait|w"]) 1 true args fun a => do
    match a.operands with
    | [] => misuse c.name "no command specified"
    | words => become c (fun o => do
        let _ ← complain c.name ("failed to execute " ++ toText (words.headD []) ++ ": " ++
          o.reason)) words

def stdbuf : Program := fun c args =>
  withArguments c.name (.ofString "i:o:e:" ["input=|i", "output=|o", "error=|e"]) 125 true args
    fun a => do
    match a.operands with
    | [] =>
      let _ ← missOperand c.name []
      return 125
    | words =>
      for (key, mode) in a.options do
        if key = "i" && mode.head? = some 'L' then
          return ← misuse c.name "line buffering stdin is meaningless" 125
        if mode.head? ≠ some 'L' && (readSize? mode).isNone then
          let _ ← complain c.name ("invalid mode " ++ cited mode)
          return 125
      if a.options.isEmpty then
        return ← misuse c.name "you must specify a buffering mode option" 125
      become c (fun o => do
        let _ ← complain c.name ("failed to run command " ++ cited (words.headD []) ++ ": " ++
          o.reason)) words

def ionice : Program := fun c args =>
  withArguments c.name (.ofString "c:n:t" ["class=|c", "classdata=|n", "ignore|t"]) 1 true args
    fun a => do
    match a.operands with
    | [] => out c.name "none: prio 0\n".toList
    | words => become c (failToRun c words) words

/-! ## Arguments from the input -/

namespace Feed

/-- How input is taken apart: between a mark, as a whole or by blanks and quotes. -/
structure Style where
  mark : Char
  raw : Bool
  whole : Bool

/-- Why input cannot be taken apart. -/
inductive Fault
  | single
  | double

def Fault.message : Fault → String
  | .single => "unmatched single quote; by default quotes are special to xargs unless you use the " ++
    "-0 option"
  | .double => "unmatched double quote; by default quotes are special to xargs unless you use the " ++
    "-0 option"

def isBlank (c : Char) : Bool := c == ' ' || c == '\t'

/-- Takes a line apart into words. -/
def words (whole : Bool) : Nat → Option Chars → Chars → Except Fault (List Chars)
  | 0, _, _ => .ok []
  | _ + 1, held, [] => .ok held.toList
  | room + 1, held, c :: rest => do
    if isBlank c && (!whole || held.isNone) then
      return held.toList ++ (← words whole room none rest)
    else
      let word := held.getD []
      match c, rest with
      | '\'', rest =>
        let inner := rest.takeWhile (· != '\'')
        if inner.length = rest.length then throw .single
        words whole room (some (word ++ inner)) (rest.drop (inner.length + 1))
      | '\x22', rest =>
        let inner := rest.takeWhile (· != '\x22')
        if inner.length = rest.length then throw .double
        words whole room (some (word ++ inner)) (rest.drop (inner.length + 1))
      | '\\', x :: rest => words whole room (some (word ++ [x])) rest
      | c, rest => words whole room (some (word ++ [c])) rest

/-- The next words of the input, and whether their line goes on. There are none behind the end. -/
def next (descriptor : Nat) (s : Style) : Run (Option (Except Fault (List Chars × Bool))) := do
  match ← Run.takeThrough descriptor s.mark with
  | .error _ => return none
  | .ok ([], false) => return none
  | .ok (line, _) =>
    if s.raw then return some (.ok ([line], false))
    else
      match words s.whole (line.length + 1) none line with
      | .error p => return some (.error p)
      | .ok ws => return some (.ok (ws, line.getLast?.any isBlank))

/-- How many words and lines a call takes, how long it may be, and what the words stand for. -/
structure Plan where
  style : Style
  last : Option Chars
  words : Option Nat
  lines : Option Nat
  width : Nat
  place : Option Chars
  command : List Chars

/-- Puts a text in the place of another one. -/
def replaced (place text : Chars) : Nat → Chars → Chars
  | 0, t => t
  | _ + 1, [] => []
  | room + 1, c :: cs =>
    if !place.isEmpty && place.isPrefixOf (c :: cs) then
      text ++ replaced place text room ((c :: cs).drop place.length)
    else c :: replaced place text room cs

/-- The width of words with what stands behind each. -/
def widthOf (ws : List Chars) : Nat := ws.foldl (fun n w => n + w.length + 1) 0

/-- What is to be done with calls: the statuses so far, and whether they have come to an end. -/
structure Progress where
  failed : Bool
  stopped : Option Nat

/-- Runs the command with words. -/
def call (c : Caller) (a : Arguments) (p : Plan) (input : Option Nat) (given : List Chars)
    (state : Progress) : Run Progress := do
  let words := match p.place, given with
    | some place, text :: _ =>
      p.command.mapIdx fun i w => if i = 0 then w else replaced place text (w.length + 1) w
    | _, given => p.command ++ given
  let name := toText (words.headD [])
  if a.has "t" then
    Run.complain (String.intercalate " " (words.map shownPath))
  let refused (o : Obstacle) : Run Nat := do
    let _ ← complain c.name (name ++ ": " ++ o.reason)
    return o.status
  let (fate, began) ← c.call (match input with
    | some d => [(0, some d)]
    | none => []) refused words
  if !began then return { state with stopped := some fate.status }
  match fate with
  | .exited 255 =>
    let _ ← complain c.name (name ++ ": exited with status 255; aborting")
    return { state with stopped := some 124 }
  | .killed n =>
    let _ ← complain c.name (name ++ ": terminated by signal " ++ toString n)
    return { state with stopped := some 125 }
  | fate => return { state with failed := state.failed || fate.status ≠ 0 }

/-- Goes through the input. What is held has the words of a call that is not full yet, those that come
after it, and the lines that it has taken. -/
def run (c : Caller) (a : Arguments) (p : Plan) (descriptor : Nat) (input : Option Nat) :
    Nat → List Chars → List Chars → Nat → Bool → Bool → Progress → Run Progress
  | 0, _, _, _, _, _, state => return state
  | room + 1, held, coming, count, ended, ran, state => do
    if state.stopped.isSome then return state
    let isFull := p.words.any (held.length = ·) || p.lines.any (count = ·)
    match coming with
    | w :: rest =>
      if p.last = some w then run c a p descriptor input room held [] count true ran state
      else
        let isWide := !held.isEmpty && p.width < widthOf (p.command ++ held ++ [w])
        if (p.words.any (held.length = ·)) || isWide then
          let state ← call c a p input held state
          run c a p descriptor input room [] (w :: rest) 0 ended true state
        else run c a p descriptor input room (held ++ [w]) rest count ended ran state
    | [] =>
      if isFull && !held.isEmpty then
        let state ← call c a p input held state
        run c a p descriptor input room [] [] 0 ended true state
      else if ended then
        if !held.isEmpty || (!ran && !a.has "r" && p.place.isNone) then call c a p input held state
        else return state
      else
        match ← next descriptor p.style with
        | none => run c a p descriptor input room held [] count true ran state
        | some (.error problem) =>
          let state ← if held.isEmpty then pure state else call c a p input held state
          let _ ← complain c.name problem.message
          return { state with stopped := some (state.stopped.getD 1) }
        | some (.ok (ws, goesOn)) =>
          let count := if ws.isEmpty || goesOn then count else count + 1
          run c a p descriptor input room held ws count ended ran state

/-- The mark that an argument describes. -/
def markOf? (t : Chars) : Option Char :=
  match t with
  | [c] => some c
  | ['\\', c] =>
    match c with
    | 'n' => some '\n'
    | 't' => some '\t'
    | '0' => some '\x00'
    | 'r' => some '\r'
    | '\\' => some '\\'
    | _ => none
  | '\\' :: digits => (Text.readNat? 8 digits).map Char.ofNat
  | _ => none

end Feed

open Feed in
def xargs : Program := fun c args =>
  withArguments c.name (.ofString "0a:d:E:e::I:i::L:l::n:oP:prs:tx"
    ["null|0", "arg-file=|a", "delimiter=|d", "eof?|E", "replace?|i", "max-lines?|l",
     "max-args=|n", "open-tty|o", "max-procs=|P", "interactive|p", "process-slot-var=",
     "no-run-if-empty|r", "max-chars=|s", "show-limits", "verbose|t", "exit|x"]) 1 true args
    fun a => do
    let number (key : String) (least : Nat) : Run (Except Nat (Option Nat)) := do
      match a.value? key with
      | none => return .ok none
      | some [] => return .ok (some 1)
      | some t =>
        match Text.readNat? 10 t with
        | none =>
          return .error (← misuse c.name ("invalid number \"" ++ toText t ++ "\" for -" ++ key ++
            " option"))
        | some n =>
          if n < least then
            return .error (← misuse c.name ("value " ++ toText t ++ " for -" ++ key ++
              " option should be >= " ++ toString least))
          return .ok (some n)
    match ← number "n" 1, ← number "L" 1, ← number "l" 1, ← number "s" 1 with
    | .error status, _, _, _ | _, .error status, _, _ | _, _, .error status, _
    | _, _, _, .error status => return status
    | .ok words, .ok lines, .ok shortLines, .ok width =>
      let mark? : Option Char := match a.value? "d" with
        | none => some '\n'
        | some t => markOf? t
      match mark? with
      | none =>
        let t := (a.value? "d").getD []
        complain c.name ("Invalid input delimiter specification " ++ toText t ++
          ": the delimiter must be either a single character or an escape sequence " ++
          "starting with \\.")
      | some mark =>
        let limiting := a.lastOf? ["n", "I", "i", "L", "l"]
        let replaces := a.has "I" || a.has "i"
        if replaces && words.isSome && (words ≠ some 1 || limiting ≠ some "n") then
          Run.complain (c.name ++ (if limiting = some "n" then
              ": warning: options --replace and --max-args/-n are mutually exclusive, " ++
                "ignoring previous --replace value"
            else ": warning: options --max-args and --replace/-I/-i are mutually exclusive, " ++
              "ignoring previous --max-args value"))
        let replaces := replaces && (limiting ≠ some "n" || words = some 1)
        let place : Option Chars := if !replaces then none
          else match a.value? ((a.lastOf? ["I", "i"]).getD "I") with
            | some [] | none => some "\x7b\x7d".toList
            | some t => some t
        let raw := a.has "0" || a.has "d"
        let plan : Plan :=
          { style := ⟨if a.has "0" then '\x00' else mark, raw, place.isSome⟩
            last := if raw then none else ((a.value? "E").or (a.value? "e")).filter (!·.isEmpty)
            words := if place.isSome then some 1 else words
            lines := if place.isSome || words.isSome then none else lines.or shortLines
            width := min (width.getD 131072) 131072
            place
            command := if a.operands.isEmpty then ["echo".toList] else a.operands }
        let go (descriptor : Nat) (input : Option Nat) : Run Nat := do
          let state ← run c a plan descriptor input maxLines [] [] 0 false false ⟨false, none⟩
          return match state.stopped with
            | some n => n
            | none => if state.failed then 123 else 0
        match a.value? "a" with
        | some path =>
          match ← Run.withFile path .read fun d => go d none with
          | .ok status => return status
          | .error e =>
            complain c.name ("Cannot open input file " ++ cited path ++ ": " ++ e.reason)
        | none =>
          let input ← match ← Run.openPath "/dev/null" .read with
            | .ok stream => do
              let _ ← Run.putAside stream
              pure (some stream)
            | .error _ => pure none
          go 0 input

end Provision.Program
