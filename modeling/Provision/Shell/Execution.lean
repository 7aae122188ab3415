import Provision.Shell.Call
import Provision.Shell.Store

/-!
How commands are carried out.
-/

namespace Provision.Shell

open Bytes (toText ofText)

/-! ## Menus -/

/-- A text that is brought to a width by tabs and blanks, from a column on. -/
def padding (column goal : Nat) : Nat → Chars
  | 0 => []
  | room + 1 =>
    if goal ≤ column then []
    else if column / 8 < goal / 8 then '\t' :: padding ((column / 8 + 1) * 8) goal room
    else ' ' :: padding (column + 1) goal room

/-- The width of what a menu is shown on. -/
def menuWidth : Nat := 80

/-- Texts with their numbers in columns. -/
def menu (texts : List Chars) : Chars :=
  let numberWidth := (Run.digits texts.length).length
  let widest := (texts.map (·.length)).foldl max 0 + numberWidth + 2
  let cellWidth := widest + 2
  let across := max 1 (menuWidth / max 1 cellWidth)
  let deep := (texts.length + across - 1) / across
  let across := if deep = 0 then 1 else (texts.length + deep - 1) / deep
  let deep := if deep = 1 then across else deep
  let firstWidth := (Run.digits deep).length
  let row (r : Nat) : Chars :=
    let indices := (List.range texts.length).filter fun i => i % deep = r
    let cells := indices.mapIdx fun column i =>
      let width := if column = 0 then firstWidth else numberWidth
      let text := (Run.digits (i + 1)).leftpad width ' ' ++ ") ".toList ++ texts.getD i []
      let start := column * cellWidth
      if column + 1 = indices.length then text
      else text ++ padding (start + text.length) (start + cellWidth) cellWidth
    cells.flatten ++ ['\n']
  (List.range deep).flatMap row

/-- A command that has got a process of its own, with the next number. -/
def Session.newJob (s : Session) (process : Nat) (c : Command) : Job :=
  ⟨(s.jobs.map (·.number)).foldl max 0 + 1, process, c.shown⟩

namespace Run

variable (e : Engine)

/-! ## Lists -/

/-- Carries out commands one after the other. The last one may be all that is left to do. -/
def sequence (act : Command → Run Unit) (isLast : Bool) : List Command → Run Unit
  | [] => return
  | [c] => do
    modify fun s => { s with isLast }
    act c
  | c :: cs => do
    modify fun s => { s with isLast := false }
    act c
    sequence act isLast cs

/-- Carries out commands behind which something is left to do. -/
def inside (cs : List Command) : Run Unit := do
  modify fun s => { s with isLast := false }
  e.commands cs

/-- Does something as a shell in a process of its own. -/
def ownShell (raised : Bool) (body : Run Unit) : Run Unit := do
  separate raised
  modify fun s => { s with isLast := true, isStage := false }
  let _ ← attempt body
  let _ ← attempt (exitTrap e.toRunner)

/-- Closes the ends of the pipes to commands that stand beside a command. -/
def closeFeeds (before : List Nat) : Run Unit := do
  let s ← get
  for d in s.feeds do
    unless before.contains d do setDescriptor d none
  set { s with feeds := before }

/-- Lets a command count as the whole of a pipe. -/
def alone : Run Unit := do
  modify fun s => { s with stageStatuses := [s.status] }
  settle e.toRunner

/-! ## Simple commands -/

/-- The elements of an array as a trace shows them where a variable is declared. -/
def tracedElements (ws : List (Option (List Part) × Word)) (text : Chars) : Run Chars := do
  if ws.any (·.1.isSome) then return text
  let isPlain (p : Part) : Bool := match p with
    | .literal .. | .parameter .. => true
    | _ => false
  if ws.all fun w => w.2.parts.all isPlain then
    let texts ← expandWords e.toRunner (ws.map (·.2))
    return '(' :: List.intercalate [' '] (texts.map Quoted.single) ++ [')']
  else return text

/-- Shows a command that declares variables. -/
def traceDeclaration (as : List Assignment) (words : List Chars) : Run Unit := do
  let r := e.toRunner
  if ← isOn .trace then
    let mut shown := words.map Quoted.traced
    for a in as do
      match a with
      | .mk name index indexText append value =>
        let start := ofText name ++ indexText ++ if append then ['+', '='] else ['=']
        match value with
        | .elements ws text =>
          trace r (start ++ (← tracedElements e ws text))
          shown := shown ++ [ofText name]
        | .word w =>
          let isPlain := w.parts.all fun
            | .literal .. | .parameter .. => true
            | _ => false
          let text ← if isPlain && index.isNone then expandValue r w.parts else pure w.text
          shown := shown ++ [Quoted.traced (start ++ text)]
    trace r (List.intercalate [' '] shown)

/-- Gives variables what assignments say that stand by themselves. -/
def assignAlone (as : List Assignment) (rs : List Redirection) : Run Unit := do
  let r := e.toRunner
  for a in as do assignOrAbandon r a
  let done ← if rs.isEmpty then pure true else keepingDescriptors (touched rs) (redirectAll r rs)
  let s ← get
  if !done then setStatus (if s.dialect = .dash then 2 else 1)
  else unless s.captured do setStatus 0

def simple (line : Nat) (as : List Assignment) (ws : List Word) (rs : List Redirection) :
    Run Unit := do
  let r := e.toRunner
  atLine line
  share fun _ y => ((), y)
  pendingTraps r
  let text := (Command.simple line as ws rs).shown
  debugTrap r text
  modify fun s => { s with captured := false }
  let before := (← get).feeds
  match ← expandWords r ws with
  | [] =>
    assignAlone e as rs
    modify fun s => { s with lastArgument := [] }
  | name :: args =>
    let key := toText name
    let s ← get
    let isDeclaration := Reader.declarations.contains key && !s.functions.contains key &&
      (← isBuiltin key)
    if isDeclaration then
      traceDeclaration e as (name :: args)
      redirected r rs do
        let status ← declare r key as args
        if status ≠ 0 && s.dialect = .dash && Builtin.specials.contains key then leave 2
        setStatus status
    else
      let scope ←
        if as.isEmpty then pure ∅
        else if s.dialect = .dash && Builtin.specials.contains key then
          for a in as do assignOrAbandon r a
          pure ∅
        else do pure (← inScope ∅ (temporary e as)).2
      traceWords r (name :: args)
      invoke e maxInvocations true ⟨name, args, scope, rs, text⟩
    modify fun s => { s with lastArgument := (name :: args).getLastD [] }
  closeFeeds before
  pendingTraps r

/-! ## Pipes -/

/-- Runs a command in a process that has nothing else to do. -/
def stage (piped : Bool) (c : Command) : Run Unit :=
  match c with
  | .simple .. => ownShell e false do
    modify fun s => { s with isStage := piped }
    e.commands [c]
  | .subshell body => ownShell e true (e.commands body)
  | .redirected line (.subshell body) rs =>
    ownShell e true do
      atLine line
      redirected e.toRunner rs (e.commands body)
  | c => ownShell e true (e.commands [c])

/-- Starts commands with pipes between them, the first one with an input of its own if it is given.
The answer are the processes, with the input of the last command if that runs in the shell
itself. -/
def startStages (inShell : Bool) : Option Nat → List Command → Run (List Nat × Option Nat)
  | input, [] => return ([], input)
  | input, c :: rest => do
    match c with
    | .simple .. => if (← get).traps.contains "DEBUG" then debugTrap e.toRunner c.shown
    | _ => pure ()
    if rest.isEmpty then
      if inShell then return ([], input)
      let reading := match input with
        | some d => do pure [(0, ← stream? d)]
        | none => pure []
      let child ← startWith (← reading) (stage e true c)
      if let some d := input then setDescriptor d none
      return ([child], none)
    else
      let (r, w) ← newPipe
      let source ← match input with
        | some d => do pure [(0, ← stream? d)]
        | none => pure []
      let next ← putAside r
      let writing ← putAside w
      let child ← startWith (source ++ [(1, some w)]) (stage e true c)
      if let some d := input then setDescriptor d none
      setDescriptor writing none
      let (more, left) ← startStages inShell (some next) rest
      return (child :: more, left)

/-- Waits for processes one after the other. -/
def awaitAll : List Nat → Run (List (Nat × Host.Fate))
  | [] => return []
  | pid :: rest => do
    let fate ← await pid
    return (pid, fate) :: (← awaitAll rest)

/-- Runs commands with pipes between them. -/
def pipeline (cs : List Command) : Run Unit := do
  let inShell := (← get).extras.contains "lastpipe"
  modify fun s => { s with isLast := false }
  let (pids, input) ← startStages e inShell none cs
  let own ← match input, cs.getLast? with
    | some d, some c => do
      let reading ← stream? d
      setDescriptor d none
      keepingDescriptors [0] do
        setDescriptor 0 reading
        e.commands [c]
      pure [(← get).status]
    | _, _ => pure []
  let fates ← awaitAll pids
  match fates.getLast? with
  | some (pid, fate) => reportFate true pid (Command.pipeline false cs).shown fate
  | none => pure ()
  let statuses := fates.map (·.2.status) ++ own
  let failed := (statuses.reverse.find? (· ≠ 0)).getD 0
  let status := if ← isOn .failInPipe then failed else statuses.getLastD 0
  modify fun s => { s with stageStatuses := statuses }
  setStatus status

/-! ## Processes beside the shell -/

/-- Starts a command in the background. -/
def inBackground (c : Command) : Run Unit := do
  let nothing ← openPath "/dev/null" .read
  let hidden ← match nothing with
    | .ok stream => do pure (some (← putAside stream))
    | .error _ => pure none
  let input ← match hidden with
    | some d => stream? d
    | none => pure none
  let child ← startWith [(0, input)] do
    share fun s y => ((), y.alterProcess s.process fun p => { p with ignored := 2 :: 3 :: p.ignored })
    stage e false c
  if let some d := hidden then setDescriptor d none
  let s ← get
  set { s with jobs := s.jobs ++ [s.newJob child c], lastJob := some child }
  setStatus 0

/-- Starts a command beside the shell with pipes to it and from it, whose ends an array holds. -/
def accompany (name : String) (c : Command) : Run Unit := do
  let (r, given) ← newPipe
  let (taken, w) ← newPipe
  let used := (← descriptors).map (·.1)
  let free (n : Nat) : Nat := ((List.range 54).map (n - ·)).find? (!used.contains ·) |>.getD n
  let reading := free 63
  let writing := free 60
  setDescriptor reading (some r)
  setDescriptor writing (some w)
  let a ← putAside given
  let b ← putAside taken
  let child ← startWith [(0, some taken), (1, some given), (reading, none), (writing, none)]
    (stage e true c)
  setDescriptor a none
  setDescriptor b none
  let _ ← store name (.array [(0, digits reading), (1, digits writing)])
  setText (name ++ "_PID") (digits child)
  modify fun s => { s with jobs := s.jobs ++ [s.newJob child c], lastJob := some child }
  setStatus 0

/-- A time in one of the forms of a text: seconds with places, or minutes and seconds. -/
def timeText (duration places : Nat) (long : Bool) : Chars :=
  let seconds := duration / 1000000000
  let part := (digits (duration % 1000000000)).leftpad 9 '0' |>.take places
  let fraction := if places = 0 then [] else '.' :: part
  if long then digits (seconds / 60) ++ 'm' :: digits (seconds % 60) ++ fraction ++ ['s']
  else digits seconds ++ fraction

/-- What is told of a time by the form that is asked for. -/
def timeTold (duration : Nat) : Chars → Chars
  | [] => ['\n']
  | '%' :: '%' :: rest => '%' :: timeTold duration rest
  | '%' :: rest =>
    let number := rest.takeWhile Char.isDigit
    let places := min 3 ((Text.readNat? 10 number).getD 3)
    let behind := rest.drop number.length
    let long := behind.head? = some 'l'
    match if long then behind.drop 1 else behind with
    | 'R' :: more => timeText duration places long ++ timeTold duration (rest.drop (rest.length - more.length))
    | 'P' :: more => "0.00".toList ++ timeTold duration (rest.drop (rest.length - more.length))
    | _ :: more => timeText 0 places long ++ timeTold duration (rest.drop (rest.length - more.length))
    | [] => ['%', '\n']
  | c :: rest => c :: timeTold duration rest
termination_by t => t.length
decreasing_by
  all_goals simp only [List.length_cons, List.length_drop]
  all_goals omega

/-- Tells how long a command takes. -/
def timed (portable : Bool) (c : Command) : Run Unit := do
  let start ← now
  inside e [c]
  let duration := (← now) - start
  let form ← if portable then pure "real %2R\nuser %2U\nsys %2S".toList else do
    pure ((← textOf? "TIMEFORMAT").getD "\nreal\t%3lR\nuser\t%3lU\nsys\t%3lS".toList)
  unless form.isEmpty do
    let _ ← emit 2 (timeTold duration form)

/-! ## Loops and choices -/

/-- Goes round as long as a condition holds, or does not hold. -/
def rounds (negated : Bool) (condition body : List Command) : Nat → Nat → Run Unit
  | 0, last => setStatus last
  | room + 1, last => do
    let result ← attempt (do
      share fun _ y => ((), y)
      guarded (inside e condition)
      if ((← get).status = 0) = negated then return none
      inside e body
      return some (← get).status)
    match result with
    | .ok none => setStatus last
    | .ok (some status) => rounds negated condition body room status
    | .error (.stop n) => if n ≤ 1 then return else throw (.stop (n - 1))
    | .error (.again n) =>
      if n ≤ 1 then rounds negated condition body room (← get).status else throw (.again (n - 1))
    | .error h => throw h

/-- The texts over which a loop goes. -/
def itemsOf (items : Option (List Word)) : Run (List Chars) := do
  match items with
  | some ws => expandWords e.toRunner ws
  | none => return (← get).arguments

/-- A loop over words as it is written. -/
def loopHead (kind name : String) (items : Option (List Word)) : Chars :=
  ofText (kind ++ " " ++ name ++ " in ") ++ match items with
    | some ws => Printer.words ws
    | none => "\"$@\"".toList

/-- Says that a loop cannot have a variable. -/
def refuseName (name : String) : Run Unit := do
  report ("`" ++ name ++ "': not a valid identifier")
  setStatus 1
  alone e

/-- Gives a text to the variable of a loop. One that stands for another name stands for the text
then. -/
def offer (name : String) (text : Chars) : Run Bool := do
  match find? name (← get).scopes with
  | some v =>
    if v.marks.reference then
      put name { v with value := .text text }
      return true
    give none name text
  | none => give none name text

def each (line : Nat) (name : String) (items : Option (List Word)) (body : List Command) :
    Run Unit := do
  let r := e.toRunner
  atLine line
  modify fun s => { s with isLast := false }
  if !isName name.toList then return ← refuseName e name
  let texts ← itemsOf e items
  let head := loopHead "for" name items
  setStatus 0
  looping <| forEach (fun text => do
    atLine line
    debugTrap r head
    trace r head
    if ← offer name text then oneRound (inside e body)
    else
      if (← get).dialect = .dash then leave 2
      setStatus 1
      return false) texts

/-- Lets somebody choose a text again and again. -/
def choices (name : String) (texts : List Chars) (body : List Command) : Nat → Bool → Run Unit
  | 0, _ => return
  | room + 1, shows => do
    if shows then
      let _ ← emit 2 (menu texts)
    let _ ← emit 2 ((← textOf? "PS3").getD "#? ".toList)
    let status ← Builtin.read ["-r".toList]
    if status ≠ 0 then
      let _ ← emit 1 ['\n']
      setStatus 1
      return
    let reply ← textOf "REPLY"
    if reply.isEmpty then choices name texts body room true
    else
      let chosen := ((Text.readNat? 10 reply).bind fun n =>
        if n = 0 then none else texts[n - 1]?).getD []
      let _ ← give none name chosen
      if ← oneRound (inside e body) then
        choices name texts body room ((← textOf "REPLY").isEmpty)

def select (line : Nat) (name : String) (items : Option (List Word)) (body : List Command) :
    Run Unit := do
  atLine line
  modify fun s => { s with isLast := false }
  if !isName name.toList then return ← refuseName e name
  let texts ← itemsOf e items
  let head := loopHead "select" name items
  debugTrap e.toRunner head
  trace e.toRunner head
  setStatus 0
  unless texts.isEmpty do looping (choices e name texts body 1000000 true)

/-- The value of an arithmetic expression in the head of a loop, which may be left out. -/
def clause (line : Nat) (w : Word) : Run (Option Int) := do
  let r := e.toRunner
  atLine line
  if w.text.all isBlankChar then
    debugTrap r "((1))".toList
    trace r "(( 1 ))".toList
    return some 1
  debugTrap r ("((".toList ++ w.text.dropWhile isBlankChar ++ "))".toList)
  let text ← expandText r w.parts
  trace r ("(( ".toList ++ text.dropWhile isBlankChar ++ " ))".toList)
  calculate "((: " text

/-- Goes round as long as a number is not zero. -/
def count (line : Nat) (start condition step : Word) (body : List Command) : Run Unit := do
  atLine line
  modify fun s => { s with isLast := false }
  match ← clause e line start with
  | none =>
    setStatus 1
    alone e
  | some _ =>
    setStatus 0
    looping <| iterate (do
      let status := (← get).status
      match ← clause e line condition with
      | none =>
        setStatus 1
        return false
      | some 0 =>
        setStatus status
        return false
      | some _ =>
        unless ← oneRound (inside e body) do return false
        let status := (← get).status
        match ← clause e line step with
        | none =>
          setStatus 1
          return false
        | some _ =>
          setStatus status
          return true) maxRounds

/-- Runs the arms of a choice from the first one that fits. -/
def choose (subject : Chars) (fold falling : Bool) :
    List (List Word × List Command × String) → Run Unit
  | [] => return
  | (patterns, body, ending) :: rest => do
    let extended ← hasExtra "extglob"
    let mut fits := falling
    for w in patterns do
      unless fits do
        fits := (← expandPattern e.toRunner extended w.parts).fitsWith fold subject
    if !fits then choose subject fold false rest
    else
      setStatus 0
      inside e body
      if ending = ";&" then choose subject fold true rest
      else if ending = ";;&" then choose subject fold false rest

def choice (line : Nat) (subject : Word) (arms : List (List Word × List Command × String)) :
    Run Unit := do
  atLine line
  modify fun s => { s with isLast := false }
  let head := "case ".toList ++ subject.text ++ " in".toList
  debugTrap e.toRunner head
  trace e.toRunner head
  let text ← expandText e.toRunner subject.parts
  let fold ← hasExtra "nocasematch"
  setStatus 0
  choose e text fold false arms

/-! ## All commands -/

/-- Carries out a command. -/
def execute (c : Command) : Run Unit := do
  let r := e.toRunner
  match c with
  | .simple line as ws rs =>
    simple e line as ws rs
    alone e
  | .redirected line c rs =>
    if line ≠ 0 then atLine line
    let before := (← get).feeds
    modify fun s => { s with isLast := false }
    if ← keepingDescriptors (touched rs) (do
        if ← redirectAll r rs then
          e.commands [c]
          return true
        else return false) then closeFeeds before
    else
      closeFeeds before
      setStatus (if (← get).dialect = .dash then 2 else 1)
      alone e
  | .pipeline negated cs =>
    let body : Run Unit := match cs with
      | [] => setStatus 0
      | [c] => inside e [c]
      | cs => pipeline e cs
    if negated then
      guarded body
      setStatus (if (← get).status = 0 then 1 else 0)
    else
      body
      settle r
  | .timed portable c => timed e portable c
  | .both a b =>
    let last := (← get).isLast
    guarded (inside e [a])
    if (← get).status = 0 then
      modify fun s => { s with isLast := last }
      e.commands [b]
  | .either a b =>
    let last := (← get).isLast
    guarded (inside e [a])
    if (← get).status ≠ 0 then
      modify fun s => { s with isLast := last }
      e.commands [b]
  | .background c => inBackground e c
  | .subshell body =>
    let child ← startWith [] (ownShell e true (e.commands body))
    let fate ← await child
    reportFate true child c.shown fate
    setStatus fate.status
    pendingTraps r
    alone e
  | .group body => inside e body
  | .branch condition body otherwise =>
    guarded (inside e condition)
    if (← get).status = 0 then inside e body
    else
      setStatus 0
      inside e otherwise
  | .loop negated condition body => looping (rounds e negated condition body maxRounds 0)
  | .each line name items body => each e line name items body
  | .select line name items body => select e line name items body
  | .count line start condition step body => count e line start condition step body
  | .choice line subject arms => choice e line subject arms
  | .test line condition =>
    atLine line
    debugTrap r c.shown
    setStatus (← conditionStatus r 1000 condition)
    alone e
  | .arithmetic line w =>
    atLine line
    debugTrap r c.shown
    let text ← expandText r w.parts
    trace r ("(( ".toList ++ text ++ " ))".toList)
    setStatus (match ← calculate "((: " text with
      | some n => if n = 0 then 1 else 0
      | none => 1)
    alone e
  | .function line name body =>
    let s ← get
    match s.functions.get? name with
    | some ⟨_, _, _, _, true⟩ =>
      report (name ++ ": readonly function")
      setStatus 1
    | old =>
      let f := ⟨line, s.definingSource, body, old.any (·.exported), false⟩
      set { s with functions := s.functions.insert name f }
      setStatus 0
  | .companion name c => accompany e name c

end Run

end Provision.Shell
