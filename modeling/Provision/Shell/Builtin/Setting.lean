import Provision.Shell.Builtin.Output
import Provision.Shell.Declaration

/-!
Builtins for settings, arguments, variables and names of commands.
-/

namespace Provision.Shell.Builtin

open Bytes (toText ofText)
open Run (report digits setText)

/-! ## Settings -/

def put (on : Bool) (x : Setting) : Run Unit :=
  modify fun s =>
    let others := s.settings.filter (· ≠ x)
    { s with settings := if on then others ++ [x] else others }

/-- Shows the settings that have a name. -/
def showSettings (asCommands : Bool) : Run Nat := do
  let s ← get
  let lines := match s.dialect with
    | .bash => Setting.list asCommands s.settings
    | .dash => Setting.plainList asCommands fun x => x.any s.settings.contains
  say "set" (ofText (String.join (lines.map (· ++ "\n"))))

/-- The settings that a list of arguments asks for, up to what is no setting. The answer has what
follows, if it replaces the arguments of the shell. -/
def applySettings : Nat → List Chars → Run (Except Nat (Option (List Chars)))
  | 0, _ => return .ok none
  | _ + 1, [] => return .ok none
  | room + 1, arg :: rest => do
    match arg with
    | ['-', '-'] => return .ok (some rest)
    | ['-'] =>
      put false .trace
      put false .verbose
      return .ok (if rest.isEmpty then none else some rest)
    | sign :: c :: cs =>
      if sign ≠ '-' && sign ≠ '+' then return .ok (some (arg :: rest))
      let on := sign == '-'
      let letters := c :: cs
      match letters.find? fun l => l != 'o' && (Setting.ofLetter? l).isNone with
      | some bad =>
        if (← get).dialect = .dash then
          report ("set: Illegal option " ++ String.ofList [sign, bad])
          return .error 2
        report ("set: " ++ String.ofList [sign, bad] ++ ": invalid option")
        return .error (← usage "set")
      | none =>
        for l in letters do
          match Setting.ofLetter? l with
          | some x => put on x
          | none => pure ()
        if !letters.contains 'o' then applySettings room rest
        else
          match rest with
          | [] =>
            let _ ← showSettings (!on)
            return .ok none
          | name :: rest =>
            let known := match (← get).dialect with
              | .bash => (Setting.ofName? (toText name)).map some
              | .dash => Setting.plainNamed? (toText name)
            match known, (← get).dialect with
            | some x, _ =>
              if let some x := x then put on x
              applySettings room rest
            | none, .dash =>
              report ("set: Illegal option " ++ String.ofList [sign] ++ "o " ++ toText name)
              return .error 2
            | none, .bash =>
              report ("set: " ++ toText name ++ ": invalid option name")
              return .error 2
    | _ => return .ok (some (arg :: rest))

def configure (args : List Chars) : Run Nat := do
  if args.isEmpty then
    Run.printAll
    return 0
  match ← applySettings (args.length + 1) args with
  | .error status => if (← get).dialect = .dash then Run.leave status else return status
  | .ok none => return 0
  | .ok (some arguments) =>
    modify fun s => { s with arguments }
    return 0

def shopt (args : List Chars) : Run Nat :=
  withOptions "shopt" "pqsuo" args fun o => do
    if o.has 's' && o.has 'u' then
      return ← complain "shopt" "cannot set and unset shell options simultaneously"
    let s ← get
    let table : List (String × Bool) :=
      if o.has 'o' then Setting.table.map fun (x, name, _) => (name, s.settings.contains x)
      else extraSettings.map fun (name, _) => (name, s.extras.contains name)
    let line (name : String) (on : Bool) : Chars :=
      if o.has 'p' then
        if o.has 'o' then ((if on then "set -o " else "set +o ") ++ name ++ "\n").toList
        else ((if on then "shopt -s " else "shopt -u ") ++ name ++ "\n").toList
      else (stateLine 15 name on ++ "\n").toList
    if o.operands.isEmpty then
      let wanted := table.filter fun (_, on) =>
        if o.has 's' then on else if o.has 'u' then !on else true
      return ← say "shopt" (wanted.flatMap fun (name, on) => line name on)
    let mut status := 0
    for t in o.operands do
      let name := toText t
      match table.lookup name with
      | none =>
        report ("shopt: " ++ name ++ if o.has 'o' then ": invalid option name"
          else ": invalid shell option name")
        status := 1
      | some on =>
        if o.has 's' || o.has 'u' then
          if o.has 'o' then
            match Setting.ofName? name with
            | some x => put (o.has 's') x
            | none => pure ()
          else
            modify fun s => { s with
              extras := s.extras.filter (· ≠ name) ++ if o.has 's' then [name] else [] }
        else
          unless on do status := 1
          unless o.has 'q' do
            let _ ← say "shopt" (line name on)
    return status

/-! ## Arguments -/

def shift (args : List Chars) : Run Nat := do
  let s ← get
  match args with
  | _ :: _ :: _ =>
    if s.dialect = .bash then
      report "shift: too many arguments"
      Run.setStatus 1
      throw .abandon
  | _ => pure ()
  let count := args.head?.map number?
  if s.dialect = .dash && count.any fun n => !(n.any (0 ≤ ·)) then
    Run.leave (← refuseNumber "shift" (args.headD []))
  match count with
  | some none => complain "shift" (toText (args.headD []) ++ ": numeric argument required")
  | n =>
    let n : Int := (n.bind id).getD 1
    if n < 0 then complain "shift" (toText (args.headD []) ++ ": shift count out of range")
    else if s.arguments.length < n.toNat then
      if s.dialect = .dash then
        report "shift: can't shift that many"
        Run.leave 2
      if s.extras.contains "shift_verbose" then
        complain "shift" (toString n ++ ": shift count out of range")
      else return 1
    else
      set { s with arguments := s.arguments.drop n.toNat }
      return 0

def getopts (args : List Chars) : Run Nat := do
  match args with
  | spec :: name :: rest =>
    let s ← get
    let given := if rest.isEmpty then s.arguments else rest
    let start := ((Text.readNat? 10 (← Run.textOf "OPTIND")).getD 1)
    let quiet := spec.head? = some ':'
    let loud := !quiet && (← Run.textOf "OPTERR") ≠ ['0']
    let storeName (t : Chars) : Run Nat := do
      if !isName name then refuseName "getopts" name
      else
        let done ← Run.give (some "getopts") (toText name) t
        return if done then 0 else 2
    let place (index offset : Nat) : Run Unit := do
      setText "OPTIND" (digits index)
      modify fun s => { s with optionOffset := offset }
    let finish (index : Nat) : Run Nat := do
      place index 0
      Run.remove "OPTARG"
      let _ ← storeName ['?']
      return 1
    let word := given.getD (start - 1) []
    let offset := if s.optionOffset = 0 then 1 else s.optionOffset
    if start - 1 < given.length && word = ['-', '-'] then return ← finish (start + 1)
    if given.length ≤ start - 1 || word.head? ≠ some '-' || word.length ≤ 1 then
      return ← finish start
    match word.drop offset with
    | [] => finish start
    | c :: more =>
      let next : Nat × Nat := if more.isEmpty then (start + 1, 0) else (start, offset + 1)
      let known := c ≠ ':' && spec.contains c
      let asks := (spec.dropWhile (· != c)).drop 1 |>.head? |>.any (· == ':')
      if !known then
        place next.1 next.2
        if quiet then setText "OPTARG" [c]
        else
          Run.remove "OPTARG"
          if loud then
            Run.complain (if s.dialect = .dash then "Illegal option -" ++ String.singleton c
              else toText s.name ++ ": illegal option -- " ++ String.singleton c)
        storeName ['?']
      else if !asks then
        place next.1 next.2
        Run.remove "OPTARG"
        storeName [c]
      else if !more.isEmpty then
        place (start + 1) 0
        setText "OPTARG" more
        storeName [c]
      else
        match given[start]? with
        | some value =>
          place (start + 2) 0
          setText "OPTARG" value
          storeName [c]
        | none =>
          place (start + 1) 0
          if quiet then
            setText "OPTARG" [c]
            storeName [':']
          else
            Run.remove "OPTARG"
            if loud then
              Run.complain (if s.dialect = .dash then "No arg for -" ++ String.singleton c ++ " option"
                else toText s.name ++ ": option requires an argument -- " ++ String.singleton c)
            storeName ['?']
  | _ => usage "getopts"

/-! ## Variables -/

/-- Takes an element out of an array or a table. -/
def unsetElement (name : String) (index : Chars) : Run Nat := do
  match ← Run.valueOf name with
  | .table ps =>
    let done ← Run.store name (.table (ps.filter (·.1 ≠ index)))
    return if done then 0 else 1
  | .unset => return 0
  | v =>
    if index = ['@'] || index = ['*'] then
      Run.remove name
      return 0
    let n ← Run.calculated "" index
    let size : Nat := (v.elements.getLast?.map (·.1 + 1)).getD 0
    let n := if n < 0 then size + n else n
    if n < 0 then complain "unset" ("[" ++ toText index ++ "]: bad array subscript")
    else
      match v with
      | .text _ =>
        if n = 0 then Run.remove name
        return 0
      | _ =>
        let done ← Run.store name (.array (v.elements.filter fun e => (e.1 : Int) ≠ n))
        return if done then 0 else 1

/-- Takes a function away. -/
def unsetFunction (name : String) : Run Nat := do
  match (← get).functions.get? name with
  | some f =>
    if f.constant then complain "unset" (name ++ ": cannot unset: readonly function")
    else
      modify fun s => { s with functions := s.functions.erase name }
      return 0
  | none => return 0

/-- Takes a variable away, or one of its elements. If there is none of that name, a function may be
meant. -/
def unsetVariable (isReference orFunction : Bool) (name : String) (index : Option Chars) :
    Run Nat := do
  let s ← get
  let (goal, inner) ← if isReference then pure (name, none) else Run.target name Run.maxReferences
  match Run.find? goal s.scopes with
  | some v =>
    if v.marks.constant then
      if s.dialect = .dash then
        report ("unset: " ++ goal ++ ": is read only")
        Run.leave 2
      complain "unset" (goal ++ ": cannot unset: readonly variable")
    else
      match index.or inner with
      | some i => unsetElement goal i
      | none =>
        Run.remove goal
        return 0
  | none => if orFunction && index.isNone then unsetFunction goal else return 0

def unset (args : List Chars) : Run Nat :=
  withOptions "unset" "fvn" args fun o => do
    let isPlain := (← get).dialect = .dash
    if o.has 'f' && o.has 'v' && !isPlain then
      return ← complain "unset" "cannot simultaneously unset a function and a variable"
    let orFunction := !(o.has 'v' || o.has 'n' || isPlain)
    let mut status := 0
    for t in o.operands do
      let (name, index) := Run.splitName t
      let failed ←
        if o.has 'f' then unsetFunction (toText t)
        else if isPlain && !isName t then do Run.leave (← refuseName "unset" t)
        else if !isName name.toList then
          if o.has 'v' || o.has 'n' then refuseName "unset" t else unsetFunction (toText t)
        else unsetVariable (o.has 'n') orFunction name index
      status := max status failed
    return status

def reckon (args : List Chars) : Run Nat := do
  let args := if args.head? = some "--".toList then args.drop 1 else args
  if args.isEmpty then return ← complain "let" "expression expected"
  let mut last : Int := 0
  for t in args do
    match ← Run.calculate "let: " t with
    | some n => last := n
    | none => return 1
  return if last = 0 then 1 else 0

/-! ## Other names of commands -/

def shownAlias (d : Dialect) (name : String) (t : Chars) : Chars :=
  match d with
  | .bash => "alias ".toList ++ ofText name ++ '=' :: Quoted.single t ++ ['\n']
  | .dash => ofText name ++ '=' :: Quoted.plain t ++ ['\n']

/-- Says that there is no other name of a command. -/
def missesAlias (command : String) (name : Chars) : Run Nat := do
  match (← get).dialect with
  | .bash => complain command (toText name ++ ": not found")
  | .dash =>
    Run.complain (command ++ ": " ++ toText name ++ " not found")
    return 1

/-- The other names of commands in the order in which they are listed. -/
def aliasNames (s : Session) : List String :=
  let place (n : String) : Nat := Run.nameHash .dash n % Run.groupCount .dash true 0
  match s.dialect with
  | .bash => s.aliases.keys.mergeSort
  | .dash => s.aliases.keys.mergeSort fun a b => place a ≤ place b

def nameTexts (args : List Chars) : Run Nat :=
  withOptions "alias" "p" args fun o => do
    let s ← get
    if o.operands.isEmpty || o.has 'p' then
      let _ ← say "alias" ((aliasNames s).flatMap fun n =>
        shownAlias s.dialect n ((s.aliases.get? n).getD []))
    let mut status := 0
    for t in o.operands do
      let name := t.takeWhile (· != '=')
      match t.drop name.length with
      | _ :: value =>
        modify fun s => { s with aliases := s.aliases.insert (toText name) value }
      | [] =>
        match s.aliases.get? (toText name) with
        | some value => let _ ← say "alias" (shownAlias s.dialect (toText name) value)
        | none => status ← missesAlias "alias" name
    return status

def unalias (args : List Chars) : Run Nat :=
  withOptions "unalias" "a" args fun o => do
    if o.has 'a' then
      modify fun s => { s with aliases := ∅ }
      return 0
    if o.operands.isEmpty then return ← usage "unalias"
    let mut status := 0
    for t in o.operands do
      if (← get).aliases.contains (toText t) then
        modify fun s => { s with aliases := s.aliases.erase (toText t) }
      else status ← missesAlias "unalias" t
    return status

end Provision.Shell.Builtin
