import Provision.Shell.Assignment

namespace Provision.Shell

open Bytes (toText ofText)

namespace Run

variable (runner : Runner)

/-- What a shell says of a path that cannot be opened. -/
def openComplaint (d : Dialect) (writing : Bool) (path : String) (e : Files.FileError) : String :=
  match d, writing, e with
  | .bash, _, .exists => path ++ ": cannot overwrite existing file"
  | .bash, _, e => path ++ ": " ++ e.reason
  | .dash, true, .notFound => "cannot create " ++ path ++ ": Directory nonexistent"
  | .dash, true, e => "cannot create " ++ path ++ ": " ++ e.reason
  | .dash, false, .notFound => "cannot open " ++ path ++ ": No such file"
  | .dash, false, e => "cannot open " ++ path ++ ": " ++ e.reason

/-- The path that a word of a redirection names. -/
def redirectionPath (w : Word) : Run (Option Chars) := do
  if (← get).dialect = .dash then return some (← expandText runner w.parts)
  match ← expandWord runner w with
  | [path] => return some path
  | _ =>
    report (toText w.text ++ ": ambiguous redirect")
    return none

/-- Opens the file of a redirection. The answer is a stream. -/
def openFor (o : Host.Opening) (w : Word) : Run (Option Nat) := do
  let some path ← redirectionPath runner w | return none
  match ← openPath (toText path) o with
  | .ok stream => return some stream
  | .error e =>
    report (openComplaint (← get).dialect o.writes (toText path) e)
    return none

/-- The descriptor that a redirection turns, with the name of a variable that is to hold it. -/
def turned (descriptor : Descriptor) (d : Direction) : Run (Nat × Option String) := do
  match descriptor with
  | .number n => return (n, none)
  | .variable name => return (← freeDescriptor 10, some name)
  | .usual =>
    return (match d with
      | .input | .inputOutput | .duplicateInput | .hereString | .hereDocument .. => 0
      | _ => 1, none)

/-- Lets a descriptor lead to a stream, and gives its number to a variable. -/
def turn (place : Nat × Option String) (stream : Option Nat) : Run Bool := do
  match stream with
  | none => return false
  | some s =>
    setDescriptor place.1 (some s)
    match place.2 with
    | some name => storeText name (digits place.1)
    | none => return true

/-- Lets a descriptor lead where another one leads, or closes it. -/
def duplicate (place : Nat × Option String) (output usual : Bool) (w : Word) : Run Bool := do
  let text ← expandText runner w.parts
  let (moved, number) := match text.getLast? with
    | some '-' => (true, text.dropLast)
    | _ => (false, text)
  if text = ['-'] then
    match place.2 with
    | some name =>
      match Text.readNat? 10 (← textOf name) with
      | some d =>
        setDescriptor d none
        return true
      | none =>
        report (name ++ ": Bad file descriptor")
        return false
    | none =>
      setDescriptor place.1 none
      return true
  match Text.readNat? 10 number with
  | some d =>
    match ← stream? d with
    | some s =>
      let done ← turn place (some s)
      if moved && d != place.1 then setDescriptor d none
      return done
    | none =>
      report (toText (digits d) ++ ": Bad file descriptor")
      return false
  | none =>
    if output && usual && !text.isEmpty && (← get).dialect = .bash then
      match ← openFor runner (if ← isOn .noClobber then .fresh else .write) w with
      | some s =>
        setDescriptor 1 (some s)
        setDescriptor 2 (some s)
        return true
      | none => return false
    else
      report (toText w.text ++ ": ambiguous redirect")
      return false

/-- Turns a descriptor to its target. The answer is whether that is possible. -/
def redirect (r : Redirection) : Run Bool := do
  match r with
  | .mk descriptor d w =>
    let place ← turned descriptor d
    let usual := match descriptor with
      | .usual => true
      | _ => false
    match d with
    | .input => turn place (← openFor runner .read w)
    | .inputOutput => turn place (← openFor runner .both w)
    | .output => turn place (← openFor runner (if ← isOn .noClobber then .fresh else .write) w)
    | .clobber => turn place (← openFor runner .write w)
    | .append => turn place (← openFor runner .append w)
    | .both | .bothAppend =>
      let o : Host.Opening ←
        if d = .bothAppend then pure .append
        else if ← isOn .noClobber then pure .fresh
        else pure .write
      match ← openFor runner o w with
      | some s =>
        setDescriptor 1 (some s)
        setDescriptor 2 (some s)
        return true
      | none => return false
    | .duplicateInput => duplicate runner place false usual w
    | .duplicateOutput => duplicate runner place true usual w
    | .hereString =>
      turn place (some (← textStream ((← expandText runner w.parts) ++ ['\n'])))
    | .hereDocument .. => turn place (some (← textStream (← expandText runner w.parts)))

/-- Turns descriptors to their targets, up to one for which that is impossible. -/
def redirectAll : List Redirection → Run Bool
  | [] => return true
  | r :: rs => do if ← redirect runner r then redirectAll rs else return false

/-- The descriptors that redirections turn for a time. -/
def touched (rs : List Redirection) : List Nat :=
  rs.flatMap fun
    | .mk descriptor d w =>
      let moved : List Nat := match d with
        | .duplicateInput | .duplicateOutput =>
          if w.text.getLast? = some '-' then (Text.readNat? 10 w.text.dropLast).toList else []
        | _ => []
      moved ++ match descriptor, d with
      | .variable _, _ => []
      | _, .both | _, .bothAppend => [1, 2]
      | .number n, _ => [n]
      | .usual, .duplicateOutput => [1, 2]
      | .usual, .input | .usual, .inputOutput | .usual, .duplicateInput | .usual, .hereString
      | .usual, .hereDocument .. => [0]
      | .usual, _ => [1]

/-- Does something with descriptors turned elsewhere. -/
def redirected (rs : List Redirection) (act : Run Unit) : Run Unit :=
  if rs.isEmpty then act
  else keepingDescriptors (touched rs) do
    if ← redirectAll runner rs then act
    else setStatus (if (← get).dialect = .dash then 2 else 1)

end Run

end Provision.Shell
