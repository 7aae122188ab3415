import Provision.Shell.Assignment
import Provision.Shell.Inventory

/-!
Commands that declare variables.
-/

namespace Provision.Shell

open Bytes (toText ofText)

/-- What a command for declarations is asked for: the letters of what is to hold and of what is to
hold no more, names alone, and assignments. -/
structure Declared where
  on : Chars
  off : Chars
  names : List Chars
  assignments : List Assignment

namespace Run

/-- What happens to the case of letters. Two ways at once are none. -/
def recasingOf (d : Declared) (old : Option Recasing) : Option Recasing :=
  match ['u', 'l', 'c'].filter d.on.contains with
  | [] => if d.off.any "ulc".toList.contains then none else old
  | ['u'] => some .upper
  | ['l'] => some .lower
  | ['c'] => some .toggle
  | _ => none

/-- The marks after some are set or taken off. -/
def remarked (d : Declared) (m : Marks) : Marks :=
  let change (letter : Char) (old : Bool) : Bool :=
    (old || d.on.contains letter) && !d.off.contains letter
  { exported := change 'x' m.exported
    constant := m.constant || d.on.contains 'r'
    integer := change 'i' m.integer
    recasing := recasingOf d m.recasing
    reference := change 'n' m.reference
    traced := change 't' m.traced
    bare := m.bare }

/-- A variable that is to be an array or a table. -/
def shaped (d : Declared) (v : Variable) : Variable :=
  let bare := match v.value with
    | .unset => true
    | _ => v.marks.bare
  if d.on.contains 'A' then
    match v.value with
    | .table _ => v
    | .text t => { v with value := .table [(['0'], t)] }
    | _ => { v with value := .table [], marks := { v.marks with bare } }
  else if d.on.contains 'a' then
    match v.value with
    | .table _ => v
    | value => { v with value := .array value.elements, marks := { v.marks with bare } }
  else v

/-- Whether a variable cannot become an array or a table, with the words for that. -/
def misshape? (d : Declared) (v : Value) : Option String :=
  match v with
  | .table _ =>
    if d.on.contains 'a' then some "cannot convert associative to indexed array" else none
  | .array _ =>
    if d.on.contains 'A' then some "cannot convert indexed to associative array" else none
  | _ => none

/-- Changes what holds for a function. The answer is whether there is such a one. -/
def markFunction (d : Declared) (name : String) : Run Bool := do
  let s ← get
  match s.functions.get? name with
  | some f =>
    let f := { f with
      exported := (f.exported || d.on.contains 'x') && !d.off.contains 'x'
      constant := f.constant || d.on.contains 'r' }
    set { s with functions := s.functions.insert name f }
    return true
  | none => return false

/-- Lets a variable belong to the function that is running, with what holds for it outside, if that is
asked for. -/
def localize (command : String) (inherited : Bool) (name : String) : Run Bool := do
  let s ← get
  match find? name s.scopes with
  | some v =>
    if v.marks.constant then
      refuseConstant (some command) name
      return false
  | none => pure ()
  match s.scopes with
  | [] => return true
  | scope :: rest =>
    if scope.contains name then return true
    let outer := find? name rest
    let inherited := inherited || s.extras.contains "localvar_inherit" || s.dialect = .dash
    let fresh : Variable := match outer, inherited with
      | some v, true => v
      | some v, false => ⟨.unset, { exported := v.marks.exported }⟩
      | none, _ => ⟨.unset, {}⟩
    set { s with scopes := scope.insert name fresh :: rest }
    return true

/-- Lets the settings belong to the function that is running. -/
def localizeSettings : Run Unit :=
  modify fun s =>
    match s.frames with
    | f :: rest => { s with frames := { f with settings := f.settings.or (some s.settings) } :: rest }
    | [] => s

/-- What is said of options that a command does not have. -/
def declarationUsage (command : String) : String :=
  match command with
  | "export" => "export [-fn] [name[=value] ...] or export -p"
  | "readonly" => "readonly [-aAf] [name[=value] ...] or readonly -p"
  | "local" => "local [option] name[=value] ..."
  | "typeset" =>
    "typeset [-aAfFgiIlnrtux] name[=value] ... or typeset -p [-aAfFilnrtux] [name ...]"
  | _ => "declare [-aAfFgiIlnrtux] [name[=value] ...] or declare -p [-aAfFilnrtux] [name ...]"

/-- The options of a command. -/
def declarationLetters (command : String) : Chars :=
  match command with
  | "export" => "fnp".toList
  | "readonly" => "aAfp".toList
  | _ => "aAfFgiIlnrtucxp".toList

/-- Reads the options of a command for declarations. The answer may be a letter that it does not
have. -/
def declarationFlags (letters : Chars) (d : Declared) : List Chars → Except String Declared
  | [] => .ok d
  | ['-', '-'] :: rest => .ok { d with names := rest }
  | ('-' :: c :: cs) :: rest =>
    match (c :: cs).find? (!letters.contains ·) with
    | some bad => .error (String.ofList ['-', bad])
    | none => declarationFlags letters { d with on := d.on ++ c :: cs } rest
  | ('+' :: c :: cs) :: rest =>
    match (c :: cs).find? (!letters.contains ·) with
    | some bad => .error (String.ofList ['+', bad])
    | none => declarationFlags letters { d with off := d.off ++ c :: cs } rest
  | names => .ok { d with names }

/-- The assignment that a word is which has been expanded. -/
def wordAssignment? (t : Chars) : Option Assignment :=
  match Reader.assigned? t with
  | none => none
  | some (name, rest) =>
    let start := rest.takeWhile (· != '=')
    let value := rest.drop (start.length + 1)
    let append := start.getLast? = some '+'
    let indexText := if append then start.dropLast else start
    let index : Option (List Part) := match indexText with
      | '[' :: i => some [.literal true i.dropLast]
      | _ => none
    some (.mk name index indexText append (.word (.mk [.literal true value] value)))

/-- An assignment of a text in parentheses as one of the elements in it. -/
def compounded (a : Assignment) : Assignment :=
  match a with
  | .mk name none _ append (.word (.mk [.literal _ t] _)) =>
    if t.head? = some '(' && t.getLast? = some ')' then
      let sign := if append then "+=" else "="
      (Assignment.ofChars? (ofText (name ++ sign) ++ t)).getD a
    else a
  | a => a

variable (runner : Runner)

/-- Lets a name stand for another one, if that is given. -/
def declareReference (command : String) (d : Declared) (name : String) (a : Option Assignment) :
    Run Bool := do
  let old := (find? name (← get).scopes).getD ⟨.unset, {}⟩
  match a with
  | some (.mk _ none _ _ (.word w)) =>
    let t ← expandValue runner w.parts
    let (goal, _) := splitName t
    if t.isEmpty then
      report (command ++ ": `': not a valid identifier")
      return false
    if !isName goal.toList then
      report (command ++ ": `" ++ toText t ++ "': invalid variable name for name reference")
      return false
    if goal = name then
      if (← get).scopes.length = 1 then
        report (command ++ ": " ++ name ++ ": nameref variable self references not allowed")
        return false
      report (command ++ ": warning: " ++ name ++ ": circular name reference")
      report ("warning: " ++ name ++ ": circular name reference")
    put name ⟨.text t, remarked d old.marks⟩
  | _ => put name ⟨old.value, remarked d old.marks⟩
  return true

/-- Declares a variable, with a value if there is one. -/
def declareOne (command : String) (isLocal : Bool) (d : Declared) (name : String)
    (a : Option Assignment) : Run Bool := do
  if isLocal then
    unless ← localize command (d.on.contains 'I') name do return false
  if (d.on.contains 'n' && command != "export") || d.off.contains 'n' then
    return ← declareReference runner command d name a
  let (goal, _) ← target name maxReferences
  let old := find? goal (← get).scopes
  match old with
  | some v =>
    if v.marks.constant && (a.isSome || d.off.contains 'r') then
      refuseConstant (if command = "export" || command = "readonly" then none else some command)
        goal
      return false
    if let some reason := misshape? d v.value then
      report (command ++ ": " ++ goal ++ ": " ++ reason)
      return false
  | none => pure ()
  let before := old.getD ⟨.unset, {}⟩
  let marks := { remarked d before.marks with constant := before.marks.constant }
  let fresh := shaped d ⟨before.value, marks⟩
  put goal fresh
  match a with
  | some a =>
    let isList := match fresh.value with
      | .array _ | .table _ => true
      | _ => false
    let traced := command = "export" || command = "readonly"
    unless ← assign runner (some command) (some command) traced (if isList then compounded a else a)
      do return false
  | none => pure ()
  if d.on.contains 'r' then mark goal fun m => { m with constant := true }
  return true

/-- Shows functions, or changes what holds for them. -/
def declareFunctions (command : String) (d : Declared) : Run Nat := do
  let d : Declared :=
    if command = "export" then
      if d.on.contains 'n' then { d with on := ['f'], off := ['x'] } else { d with on := d.on ++ ['x'] }
    else if command = "readonly" then { d with on := d.on ++ ['r'] }
    else d
  let letters := d.on.filter "rx".toList.contains
  let isChange := !d.names.isEmpty && !(letters.isEmpty && d.off.isEmpty)
  if isChange then
    let mut status := 0
    for n in d.names do
      unless ← markFunction d (toText n) do
        unless command = "declare" || command = "typeset" do
          report (command ++ ": " ++ toText n ++ ": not a function")
        status := 1
    return status
  else
    let full := d.on.contains 'p' || command = "export" || command = "readonly"
    printFunctions (d.on.contains 'F') full letters d.names

/-- Shows what is asked for by a command without names. -/
def showDeclared (command : String) (d : Declared) : Run Nat := do
  if command = "export" then printMarked ['x']
  else if command = "readonly" then printMarked ('r' :: d.on.filter "aA".toList.contains)
  else if command = "local" then
    let own := ((← get).scopes.headD ∅).entries
    for (name, v) in own.mergeSort fun a b => a.1 ≤ b.1 do print (declaration name v)
  else if d.on.isEmpty then printAll
  else printMarked (d.on.filter (· != 'p'))
  return 0

/-- Declares variables in the smaller shell. -/
def declarePlainly (command : String) (args : List Chars) : Run Nat := do
  let s ← get
  let isLocal := command = "local"
  if isLocal && !s.frames.any (·.isFunction) then
    report "local: not in a function"
    return 2
  let letter := if command = "export" then 'x' else 'r'
  let d : Declared := ⟨if isLocal then [] else [letter], [], [], []⟩
  let (options, names) : List Chars × List Chars := match args with
    | ['-', '-'] :: rest => ([], rest)
    | ('-' :: c :: cs) :: rest => if isLocal then ([], args) else ([c :: cs], rest)
    | names => ([], names)
  if let some bad := options.flatten.find? (· != 'p') then
    report (command ++ ": Illegal option -" ++ String.singleton bad)
    return 2
  if !isLocal && (names.isEmpty || !options.isEmpty) then
    for (name, v) in ← visible do
      let own := markLetters v
      if own.contains letter then print (plainVariable (command ++ " ") name v)
    return 0
  for t in names do
    let name := t.takeWhile (· != '=')
    if isLocal && t = ['-'] then localizeSettings
    else if !isName name then
      report (command ++ ": " ++ toText name ++ ": bad variable name")
      return 2
    else
      unless ← declareOne runner command isLocal d (toText name) (wordAssignment? t) do return 2
  return 0

/-- Declares variables. The answer is the status. -/
def declare (command : String) (as : List Assignment) (args : List Chars) : Run Nat := do
  let s ← get
  let as ← as.mapM (settled runner)
  if s.dialect = .dash then
    let given := as.map fun a => match a with
      | .mk name _ _ _ (.word w) => ofText name ++ '=' :: w.parts.flatMap fun
        | .literal _ t => t
        | _ => []
      | .mk name .. => ofText name
    return ← declarePlainly runner command (args ++ given)
  let inFunction := s.frames.any (·.isFunction)
  if command = "local" && !inFunction then
    report "local: can only be used in a function"
    return 1
  match declarationFlags (declarationLetters command) ⟨[], [], [], as⟩ args with
  | .error option =>
    report (command ++ ": " ++ option ++ ": invalid option")
    complain (command ++ ": usage: " ++ declarationUsage command)
    return 2
  | .ok d =>
    let isExport := command = "export"
    if d.on.contains 'f' || d.on.contains 'F' then return ← declareFunctions command d
    if d.names.isEmpty && as.isEmpty then return ← showDeclared command d
    if d.on.contains 'p' && command != "export" && command != "readonly" then
      let mut status := 0
      for n in d.names do
        match ← seen? (toText n) with
        | some v => print (declaration (toText n) v)
        | none =>
          report (command ++ ": " ++ toText n ++ ": not found")
          status := 1
      return status
    let d : Declared :=
      if isExport then
        if d.on.contains 'n' then { d with on := [], off := ['x'] } else { d with on := ['x'] }
      else if command = "readonly" then { d with on := d.on.filter (· != 'f') ++ ['r'] }
      else d
    let isLocal := command = "local" ||
      ((command = "declare" || command = "typeset") && inFunction && !d.on.contains 'g')
    let mut status := 0
    for n in d.names do
      let done ← match wordAssignment? n with
        | some a => declareOne runner command isLocal d (assignedName a) (some a)
        | none => do
          let (name, _) := splitName n
          if isName name.toList then declareOne runner command isLocal d name none
          else if isLocal && n = ['-'] then do
            localizeSettings
            pure true
          else do
            report (command ++ ": `" ++ toText n ++ "': not a valid identifier")
            pure false
      unless done do status := 1
    for a in as do
      unless ← declareOne runner command isLocal d (assignedName a) (some a) do status := 1
    return status

end Run

end Provision.Shell
