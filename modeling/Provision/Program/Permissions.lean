import Provision.Files.Mode
import Provision.Program.Accounts
import Provision.Program.Input

/-!
Who may do what with files, and to whom they belong.
-/

namespace Provision.Program

open Bytes (toText ofText)
open Files (FileError Tree ModeChange modeLetters modeDigits)
open Shell (Run)

/-- Permissions in both ways in which they are written. -/
def modeText (mode : Nat) : String :=
  String.ofList (modeDigits 4 mode) ++ " (" ++ String.ofList (modeLetters mode) ++ ")"

/-- What is changed: the node at a path, or all below it too. -/
def goals (t : Tree) (deep : Bool) (path : Chars) (id : Nat) : List Found :=
  if deep then walk t 0 path id maxDepth else [⟨path, id, 0⟩]

/-- The node of a path whose links are followed, unless they are to be changed themselves. -/
def goalNode (t : Tree) (itself : Bool) (path : Chars) : Except FileError Nat :=
  if itself then t.locateEntry (toText path) else t.locate (toText path)

def chmod : Program := fun c args => do
  let letters := "rwxXstugoa,+=01234567"
  let spec := Spec.ofString
    ("Rcfv" ++ String.ofList (letters.toList.flatMap fun l => [l, ':', ':']))
    ["changes|c", "recursive|R", "no-preserve-root", "preserve-root", "quiet|f", "reference=",
     "silent|f", "verbose|v"]
  withArguments c.name spec 1 false args fun a => do
    let given := a.options.filter fun o => o.1.length = 1 && letters.toList.contains (o.1.toList.headD ' ')
    let byOption := !given.isEmpty
    let fromOptions := List.intercalate [','] (given.map fun o => '-' :: o.1.toList ++ o.2)
    let (mode, paths) : Option Chars × List Chars :=
      if (a.value? "reference").isSome then (none, a.operands)
      else if byOption then (some fromOptions, a.operands)
      else match a.operands with
        | m :: paths => (some m, paths)
        | [] => (none, [])
    if paths.isEmpty then return ← missOperand c.name a.operands
    let t ← Run.tree
    let mask := (← get).mask
    let changes : Except (Run Nat) (List ModeChange) :=
      match a.value? "reference" with
      | some path =>
        match t.find (toText path) with
        | .ok n => .ok [.ofNumber 5 n.mode]
        | .error e => .error (complain c.name
            ("failed to get attributes of " ++ quoted path ++ ": " ++ e.reason))
      | none =>
        match ModeChange.ofChars? (mode.getD []) with
        | some changes => .ok changes
        | none => .error (misuse c.name ("invalid mode: " ++ cited (mode.getD [])))
    match changes with
    | .error refuse => refuse
    | .ok changes =>
      let tells := a.lastOf? ["v", "c", "f"]
      let mut status := 0
      for path in paths do
        match t.locate (toText path) with
        | .error e =>
          status := 1
          unless tells = some "f" do
            let isLink := (t.locateEntry (toText path)).toOption.isSome
            let _ ← complain c.name (if isLink then
                "cannot operate on dangling symlink " ++ quoted path
              else "cannot access " ++ quoted path ++ ": " ++ e.reason)
          if a.has "v" then
            let _ ← out c.name (ofText (quoted path ++ " could not be accessed\n"))
        | .ok id =>
          for goal in goals t (a.has "R") path id do
            match t.node? goal.id with
            | none => pure ()
            | some n =>
              if n.isLink then
                if tells = some "v" then
                  let _ ← out c.name (ofText ("neither symbolic link " ++ quoted goal.path ++
                    " nor referent has been changed\n"))
              else
                let mode := ModeChange.applyAll n.isDirectory mask changes n.mode
                let _ ← Run.changeTree fun t => .ok (t.modify goal.id fun n =>
                  { n with mode, changed := t.time })
                let naive := ModeChange.applyAll n.isDirectory 0 changes n.mode
                if mode ≠ n.mode && (tells = some "v" || tells = some "c") then
                  let _ ← out c.name (ofText ("mode of " ++ quoted goal.path ++ " changed from " ++
                    modeText n.mode ++ " to " ++ modeText mode ++ "\n"))
                else if tells = some "v" then
                  let _ ← out c.name (ofText ("mode of " ++ quoted goal.path ++ " retained as " ++
                    modeText mode ++ "\n"))
                if byOption && mode - (mode &&& naive) ≠ 0 then
                  status ← complain c.name (toText goal.path ++ ": new permissions are " ++
                    String.ofList (modeLetters mode) ++ ", not " ++
                    String.ofList (modeLetters naive))
      return status

/-! ## Owners -/

/-- Whom something is given to: a user, a group, or both, with the text that is told of that. -/
structure Owners where
  user : Option Nat
  group : Option Nat
  told : Chars

/-- The owners that a text between its colon names. The answer tells if a point stands for the
colon. -/
def Owners.ofChars (t : Tree) (text : Chars) : Except String (Owners × Bool) := do
  let found (entries : List (List Chars)) (kind : String) (name : Chars) :
      Except String (Nat × Chars) :=
    let isNumber := name.head? = some '+'
    match if isNumber then none else numberOf? entries name with
    | some n => .ok (n, name)
    | none =>
      match Text.readNat? 10 (if isNumber then name.drop 1 else name) with
      | some n => .ok (n, Run.digits n)
      | none => .error ("invalid " ++ kind ++ ": " ++ cited text)
  let split (mark : Char) : Except String Owners := do
    let name := text.takeWhile (· != mark)
    let user ← if name.isEmpty then pure none else some <$> found (accounts t) "user" name
    let told := (user.map (·.2)).getD []
    match text.drop name.length with
    | [] => return ⟨user.map (·.1), none, told⟩
    | _ :: [] =>
      if user.isSome && (numberOf? (accounts t) name).isNone then
        throw ("invalid spec: " ++ cited text)
      let group := user.map fun u => firstGroup t u.1
      let shown := group.toList.flatMap fun g => ':' :: nameOrNumber (userGroups t) g
      return ⟨user.map (·.1), group, told ++ shown⟩
    | _ :: group =>
      let (group, shown) ← found (userGroups t) "group" group
      return ⟨user.map (·.1), some group, told ++ ':' :: shown⟩
  match split ':' with
  | .ok o => return (o, false)
  | .error e =>
    if !text.contains ':' && text.contains '.' then
      match split '.' with
      | .ok o => return (o, true)
      | .error _ => throw e
    else throw e

/-- Gives files to others. -/
def giveTo (c : Caller) (a : Arguments) (isGroup : Bool) (t : Tree) (o : Owners)
    (paths : List Chars) : Run Nat := do
  let tells := a.lastOf? ["v", "c", "f"]
  let only? := (a.value? "from").bind fun f => ((Owners.ofChars t f).toOption).map (·.1)
  let mut status := 0
  for path in paths do
    match goalNode t (a.has "h") path with
    | .error e =>
      status := 1
      unless tells = some "f" do
        let isLink := (t.locateEntry (toText path)).toOption.isSome
        let _ ← complain c.name (if isLink then "cannot dereference " ++ quoted path ++ ": " ++ e.reason
          else "cannot access " ++ quoted path ++ ": " ++ e.reason)
    | .ok id =>
      for goal in goals t (a.has "R") path id do
        match t.node? goal.id with
        | none => pure ()
        | some n =>
          let wanted := only?.all fun f =>
            f.user.all (· = n.owner) && f.group.all (· = n.group)
          let owner := o.user.getD n.owner
          let group := o.group.getD n.group
          if wanted then
            let _ ← Run.changeTree fun t => .ok (t.modify goal.id fun n =>
              { n with owner, group, changed := t.time })
            let user (u : Nat) : String := toText (nameOrNumber (accounts t) u)
            let groupName (g : Nat) : String := toText (nameOrNumber (userGroups t) g)
            let old :=
              if isGroup then groupName n.group
              else if o.group.isSome then user n.owner ++ ":" ++ groupName n.group
              else user n.owner
            let isNothing := o.user.isNone && o.group.isNone
            let what := if isGroup then "group" else "ownership"
            let changed := owner ≠ n.owner || group ≠ n.group
            if changed && (tells = some "v" || tells = some "c") then
              let _ ← out c.name (ofText ("changed " ++ what ++ " of " ++ quoted goal.path ++
                " from " ++ old ++ " to " ++ toText o.told ++ "\n"))
            else if tells = some "v" then
              let _ ← out c.name (ofText (what ++ " of " ++ quoted goal.path ++ " retained" ++
                (if isNothing then "" else " as " ++ old) ++ "\n"))
  return status

def ownerSpec : Spec :=
  .ofString "HLPRcfhv"
    ["recursive|R", "changes|c", "dereference", "from=", "no-dereference|h", "no-preserve-root",
     "preserve-root", "quiet|f", "silent|f", "reference=", "verbose|v"]

/-- Changes owners or groups. -/
def changeOwners (isGroup : Bool) : Program := fun c args =>
  withArguments c.name ownerSpec 1 false args fun a => do
    let t ← Run.tree
    match a.value? "reference" with
    | some path =>
      if a.operands.isEmpty then return ← missOperand c.name []
      match t.find (toText path) with
      | .ok n =>
        let group := nameOrNumber (userGroups t) n.group
        let told := if isGroup then group else nameOrNumber (accounts t) n.owner ++ ':' :: group
        giveTo c a isGroup t ⟨if isGroup then none else some n.owner, some n.group, told⟩ a.operands
      | .error e =>
        complain c.name ("failed to get attributes of " ++ quoted path ++ ": " ++ e.reason)
    | none =>
      match a.operands with
      | text :: path :: more =>
        if isGroup then
          let group? := (numberOf? (userGroups t) text).or (Text.readNat? 10 text)
          if group?.isNone && !text.isEmpty then
            return ← complain c.name ("invalid group: " ++ cited text)
          giveTo c a true t ⟨none, group?, text⟩ (path :: more)
        else
          match Owners.ofChars t text with
          | .error message => complain c.name message
          | .ok (o, byPoint) =>
            if byPoint then
              Run.complain (c.name ++ ": warning: '.' should be ':': " ++ cited text)
            giveTo c a false t o (path :: more)
      | operands => missOperand c.name operands

def chown : Program := changeOwners false

def chgrp : Program := changeOwners true

end Provision.Program
