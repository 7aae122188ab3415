import Provision.Shell.Expansion
import Provision.Shell.Printer

/-!
The variables and functions of a shell as it lists them.
-/

namespace Provision.Shell.Run

open Bytes (toText ofText)

/-- A variable as a command that declares it anew. -/
def declaration (name : String) (v : Variable) : Chars :=
  let letters := markLetters v
  let value : Chars := match v.value with
    | .unset => []
    | .text t => '=' :: Quoted.double t
    | .array [] | .table [] => if v.marks.bare then [] else ['=', '(', ')']
    | v => '=' :: elementsText v
  "declare -".toList ++ (if letters.isEmpty then ['-'] else letters) ++ ' ' :: ofText name ++
    value ++ ['\n']

/-- A variable as it is listed by the side of others. -/
def listedVariable (name : String) (v : Variable) : Chars :=
  match v.value with
  | .unset => []
  | .text t => ofText name ++ '=' :: (if t.isEmpty then [] else Quoted.listed t) ++ ['\n']
  | value => if v.marks.bare then [] else ofText name ++ '=' :: elementsText value ++ ['\n']

/-- A variable as the smaller shell lists it, behind a command if one is given. -/
def plainVariable (command : String) (name : String) (v : Variable) : Chars :=
  let value : Chars := match v.value.text? with
    | some t => '=' :: Quoted.plain t
    | none => []
  ofText (command ++ name) ++ value ++ ['\n']

/-- The variable of a name, be it kept by the shell. -/
def seen? (name : String) : Run (Option Variable) := do
  match find? name (← get).scopes with
  | some v => return some v
  | none => return (← kept? name).map (⟨·, {}⟩)

/-- The variables that are seen, with their names. -/
def visible : Run (List (String × Variable)) := do
  let s ← get
  return (← variableNames).filterMap fun name => (find? name s.scopes).map fun v => (name, v)

/-- Shows all variables and functions. -/
def printAll : Run Unit := do
  let s ← get
  match s.dialect with
  | .dash =>
    for (name, v) in ← visible do
      if v.value.text?.isSome then print (plainVariable "" name v)
  | .bash =>
    for (name, v) in ← visible do print (listedVariable name v)
    unless s.settings.contains .posix do
      for name in s.functions.keys.mergeSort do
        match s.functions.get? name with
        | some f => print (f.body.definition name)
        | none => pure ()

/-- Shows the variables that have some marks. -/
def printMarked (letters : Chars) : Run Unit := do
  for (name, v) in ← visible do
    let own := markLetters v
    if letters.all own.contains then print (declaration name v)

/-- The letters of what holds for a function. -/
def functionLetters (f : Function) : Chars :=
  (if f.constant then ['r'] else []) ++ if f.exported then ['x'] else []

/-- The command that gives a function what holds for it. -/
def functionMarks (name : String) (f : Function) : Chars :=
  "declare -f".toList ++ functionLetters f ++ ' ' :: ofText name ++ ['\n']

/-- Shows functions for which some letters hold, or no more than their names. What holds for them is
told too, if that is asked for. -/
def printFunctions (brief full : Bool) (letters : Chars) (names : List Chars) : Run Nat := do
  let s ← get
  let definition (name : String) (f : Function) : Chars :=
    f.body.definition name ++
      if full && !(functionLetters f).isEmpty then functionMarks name f else []
  if names.isEmpty then
    for name in s.functions.keys.mergeSort do
      match s.functions.get? name with
      | some f =>
        let own := functionLetters f
        if letters.all own.contains then
          print (if brief then functionMarks name f else definition name f)
      | none => pure ()
    return 0
  let mut status := 0
  for name in names do
    match s.functions.get? (toText name) with
    | some f =>
      if !brief then print (definition (toText name) f)
      else if s.extras.contains "extdebug" then
        print (name ++ ' ' :: digits f.line ++ ' ' :: ofText f.source ++ ['\n'])
      else print (name ++ ['\n'])
    | none => status := 1
  return status

end Provision.Shell.Run
