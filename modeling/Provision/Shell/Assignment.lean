import Provision.Shell.Expansion

namespace Provision.Shell

open Bytes (toText ofText)

/-- Reads an assignment that is written as one text. -/
def Assignment.ofChars? (text : Chars) : Option Assignment :=
  match (Reader.assignment? (Reader.nestedWithin Reader.maxNesting)).run
      { Source.ofChars .bash 1 [] with rest := text } with
  | .ok (some a, s) => if s.rest.isEmpty then some a else none
  | _ => none

namespace Run

/-- Says in the name of a command that a variable does not change. -/
def refuseConstant (command : Option String) (name : String) : Run Unit := do
  let start := match command with
    | some c => c ++ ": "
    | none => ""
  match (← get).dialect with
  | .bash => report (start ++ name ++ ": readonly variable")
  | .dash => report (start ++ name ++ ": is read only")

/-- The text of a value at a number. -/
def oldText (v : Value) (n : Nat) : Chars := ((v.elements.find? (·.1 = n)).map (·.2)).getD []

/-- The value with a text at an index. The answer is missing if there cannot be such a one. -/
def withElement? (command : Option String) (name : String) (v : Variable) (index shown : Chars)
    (append : Bool) (text : Chars) : Run (Option Value) := do
  let refuse : Run (Option Value) := do
    report (name ++ toText shown ++ ": bad array subscript")
    return none
  if index.isEmpty then return ← refuse
  match v.value with
  | .table ps =>
    let old := ((ps.find? (·.1 = index)).map (·.2)).getD []
    return some (.table (insertPair index (← takenText command v.marks append old text) ps))
  | value =>
    let n ← calculated "" index
    let size : Nat := (value.elements.getLast?.map (·.1 + 1)).getD 0
    let n := if n < 0 then size + n else n
    if n < 0 then return ← refuse
    let t ← takenText command v.marks append (oldText value n.toNat) text
    return some (.array (insertElement n.toNat t value.elements))

variable (runner : Runner)

/-- The elements that are written between parentheses, behind those that are there. -/
def elements (command : Option String) (name : String) (marks : Marks) (start : List (Nat × Chars)) :
    List (Option (List Part) × Word) → Nat → Run (List (Nat × Chars))
  | [], _ => return start
  | (some i, w) :: rest, _ => do
    let index ← expandText runner i
    let n ← calculated "" index
    let size : Nat := (start.getLast?.map (·.1 + 1)).getD 0
    let n := if n < 0 then size + n else n
    if n < 0 then
      report ("[" ++ toText index ++ "]=" ++ toText w.text ++ ": bad array subscript")
      elements command name marks start rest size
    else
      let t ← takenText command marks false [] (← expandValue runner w.parts)
      elements command name marks (insertElement n.toNat t start) rest (n.toNat + 1)
  | (none, w) :: rest, next => do
    let texts ← (← expandWord runner w).mapM fun t => takenText command marks false [] t
    elements command name marks (insertElements next texts start) rest (next + texts.length)

/-- The pairs of a table that are written one after the other. -/
def alternating (command : Option String) (marks : Marks) : List Chars → List (Chars × Chars) → Run (List (Chars × Chars))
  | [], ps => return ps
  | [k], ps => return insertPair k [] ps
  | k :: t :: rest, ps => do
    alternating command marks rest (insertPair k (← takenText command marks false [] t) ps)

/-- The pairs of a table that are written between parentheses. -/
def pairs (command : Option String) (name : String) (marks : Marks) :
    List (Option (List Part) × Word) → List (Chars × Chars) → Run (List (Chars × Chars))
  | [], ps => return ps
  | (some i, w) :: rest, ps => do
    let key ← expandText runner i
    let t ← takenText command marks false [] (← expandValue runner w.parts)
    pairs command name marks rest (insertPair key t ps)
  | (none, w) :: rest, ps => do
    report (name ++ ": " ++ toText w.text ++
      ": must use subscript when assigning associative array")
    pairs command name marks rest ps

/-- An assignment whose words are expanded. -/
def settled (a : Assignment) : Run Assignment := do
  match a with
  | .mk name index indexText append value =>
    let whole (t shown : Chars) : Word := .mk [.literal true t] shown
    let index ← index.mapM fun i => return [.literal true (← expandText runner i)]
    match value with
    | .word w =>
      return .mk name index indexText append (.word (whole (← expandValue runner w.parts) w.text))
    | .elements ws shown =>
      let ws ← ws.mapM fun (i, w) => do
        match i with
        | some i =>
          let i ← expandText runner i
          return [(some [.literal true i], whole (← expandValue runner w.parts) w.text)]
        | none => return (← expandWord runner w).map fun t => (none, whole t t)
      return .mk name index indexText append (.elements ws.flatten shown)

/-- Gives a variable what an assignment says, with complaints in the name of one command about what
cannot change, and of another one about numbers. That can be shown in a trace. -/
def assign (refuser command : Option String) (traced : Bool) (a : Assignment) : Run Bool := do
  match a with
  | .mk written index indexText append value =>
    let (name, goal) ← target written maxReferences
    if name.isEmpty then return false
    let v := (find? name (← get).scopes).getD ⟨.unset, {}⟩
    if v.marks.constant then
      refuseConstant refuser name
      return false
    match value with
    | .word w =>
      let text ← expandValue runner w.parts
      if traced then
        traceGiven runner (ofText written) indexText append
          (if text.isEmpty then [] else Quoted.traced text)
      let index ← match index with
        | some i => pure (some (← expandText runner i))
        | none => pure goal
      match index, v.value with
      | some i, _ =>
        match ← withElement? command name v i indexText append text with
        | some new => store name new
        | none => return false
      | none, old =>
        let old' := (old.text?).getD []
        storeText name (← takenText command v.marks append old' text)
    | .elements ws shown =>
      if traced then traceGiven runner (ofText written) indexText append shown
      match v.value with
      | .table ps =>
        let start := if append then ps else []
        if ws.head?.any (·.1.isNone) then
          let texts ← ws.mapM fun (i, w) => do
            match i with
            | none => expandWord runner w
            | some i =>
              let key := '[' :: (← expandText runner i) ++ [']', '=']
              return [key ++ (← expandValue runner w.parts)]
          store name (.table (← alternating command v.marks texts.flatten start))
        else store name (.table (← pairs runner command name v.marks ws start))
      | old =>
        let start := if append then old.elements else []
        let next := (start.getLast?.map (·.1 + 1)).getD 0
        store name (.array (← elements runner command name v.marks start ws next))

/-- Gives a variable what an assignment says, or gives up. -/
def assignOrAbandon (a : Assignment) : Run Unit := do
  unless ← assign runner none none true a do
    if (← get).dialect = .dash then leave 2
    setStatus 1
    throw .abandon

def assignedName : Assignment → String
  | .mk name .. => name

end Run

end Provision.Shell
