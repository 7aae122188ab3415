import Provision.Program.Input

/-!
Programs that go through two texts with sorted lines side by side.
-/

namespace Provision.Program

open Bytes (toText ofText)
open Shell (Run)

/-- Whether the order of lines is looked at: always, never, or once a line has no partner. -/
inductive OrderCheck
  | always
  | never
  | unpaired
  deriving DecidableEq

def OrderCheck.ofArguments (a : Arguments) : OrderCheck :=
  match a.lastOf? ["check-order", "nocheck-order"] with
  | some "check-order" => .always
  | some _ => .never
  | none => .unpaired

/-- A text of which lines are taken: its name, the lines that are left, the number of the last line
that was taken, that line and the one before it, and whether something was said of its order. -/
structure SideText where
  name : Chars
  rest : List Chars
  number : Nat := 0
  last? : Option Chars := none
  before? : Option Chars := none
  isWarned : Bool := false

/-- How far two texts are gone through. What is written is held back, the last piece first. -/
structure SideBySide where
  one : SideText
  two : SideText
  hasUnpaired : Bool := false
  held : List Chars := []
  count : Nat := 0

namespace SideBySide

/-- Work on two texts. It ends early if an order is wrong that has to be right. -/
abbrev Work := ExceptT Unit (StateT SideBySide Run)

def side (isFirst : Bool) (s : SideBySide) : SideText := if isFirst then s.one else s.two

def alter (isFirst : Bool) (f : SideText → SideText) : Work Unit :=
  modify fun s => if isFirst then { s with one := f s.one } else { s with two := f s.two }

/-- Writes what is held back. -/
def flush : Work Unit := do
  let text := (← get).held.reverse.flatten
  modify fun s => { s with held := [], count := 0 }
  unless text.isEmpty do
    let _ ← (Run.write 1 text : Run _)

/-- Writes a text, with many others at a time. -/
def put (text : Chars) : Work Unit := do
  modify fun s => { s with held := text :: s.held, count := s.count + 1 }
  if 512 ≤ (← get).count then flush

/-- Says that lines are not in their order. -/
def warn (name : String) (check : OrderCheck) (isFirst : Bool) (message : String) : Work Unit := do
  flush
  let _ ← (complain name message : Run _)
  if check = .always then throw ()
  alter isFirst fun t => { t with isWarned := true }

/-- Looks at the order of two lines if that is wanted. -/
def checkOrder (check : OrderCheck) (isFirst : Bool) (isRight : Bool) (warning : Work Unit) :
    Work Unit := do
  let s ← get
  if check ≠ .never && (check = .always || s.hasUnpaired) && !(s.side isFirst).isWarned &&
      !isRight then
    warning

/-- Takes the next line of a text. -/
def take (isFirst : Bool) : Work (Option Chars) := do
  let t := (← get).side isFirst
  match t.rest with
  | [] => return none
  | l :: rest =>
    alter isFirst fun t =>
      { t with rest, number := t.number + 1, last? := some l, before? := t.last? }
    return some l

/-- Complains at the end of all if something was said of an order. -/
def finish (name : String) (s : SideBySide) : Run Nat := do
  if s.one.isWarned || s.two.isWarned then complain name "input is not in sorted order"
  else return 0

end SideBySide

/-! ## Lines that are common -/

namespace Common

open SideBySide

/-- Takes the next line of a text and looks at the order. At the end the last two lines count again,
as an order may be wanted by now that was not before. -/
def next (name : String) (check : OrderCheck) (isFirst : Bool) : Work (Option Chars) := do
  let old := (← get).side isFirst
  let l? ← take isFirst
  let pair := match l? with
    | some l => (old.last?, some l)
    | none => (old.before?, old.last?)
  match pair with
  | (some x, some y) =>
    checkOrder check isFirst (Bytes.precedes x y)
      (warn name check isFirst
        ("file " ++ (if isFirst then "1" else "2") ++ " is not in sorted order"))
  | _ => pure ()
  return l?

/-- Goes through the lines, with the numbers of those in each column. -/
def through (name : String) (check : OrderCheck) (write : Nat → Chars → Work Unit) :
    (room : Nat) → Option Chars → Option Chars → Nat × Nat × Nat → Work (Nat × Nat × Nat)
  | 0, _, _, n => return n
  | room + 1, x?, y?, (a, b, c) => do
    match x?, y? with
    | none, none => return (a, b, c)
    | some x, y? =>
      match y? with
      | some y =>
        if x = y then
          write 3 y
          let x? ← next name check true
          let y? ← next name check false
          through name check write room x? y? (a, b, c + 1)
        else if Bytes.precedes x y then first room x (some y) (a, b, c)
        else second room (some x) y (a, b, c)
      | none => first room x none (a, b, c)
    | none, some y => second room none y (a, b, c)
where
  first (room : Nat) (x : Chars) (y? : Option Chars) (n : Nat × Nat × Nat) :
      Work (Nat × Nat × Nat) := do
    modify fun s => { s with hasUnpaired := true }
    write 1 x
    let x? ← next name check true
    through name check write room x? y? (n.1 + 1, n.2)
  second (room : Nat) (x? : Option Chars) (y : Chars) (n : Nat × Nat × Nat) :
      Work (Nat × Nat × Nat) := do
    modify fun s => { s with hasUnpaired := true }
    write 2 y
    let y? ← next name check false
    through name check write room x? y? (n.1, n.2.1 + 1, n.2.2)

end Common

open SideBySide in
def comm : Program := fun c args =>
  withArguments c.name (.ofString "123z"
    ["output-delimiter=", "check-order", "nocheck-order", "total", "zero-terminated|z"]) 1 false args
    fun a => do
    let mark := if a.has "z" then '\x00' else '\n'
    let delimiters := a.values "output-delimiter"
    if !(delimiters.all fun d => some d = delimiters.head?) then
      return ← complain c.name "multiple output delimiters specified"
    let delimiter := match delimiters.head? with
      | some [] => ['\x00']
      | some d => d
      | none => ['\t']
    match a.operands with
    | [x, y] =>
      match ← readOperand x with
      | .error e => complainOf c.name x e
      | .ok first =>
        match ← readOperand y with
        | .error e => complainOf c.name y e
        | .ok second =>
          let check := OrderCheck.ofArguments a
          let write (n : Nat) (l : Chars) : Work Unit := do
            if a.has (toString n) then return
            let before := (List.range (n - 1)).filter fun i => !a.has (toString (i + 1))
            put ((before.flatMap fun _ => delimiter) ++ l ++ [mark])
          let as := linesOf mark first
          let bs := linesOf mark second
          let work : Work Unit := do
            let x? ← take true
            let y? ← take false
            let (n, m, k) ← Common.through c.name check write (as.length + bs.length + 1) x? y?
              (0, 0, 0)
            if a.has "total" then
              put (List.intercalate delimiter
                ([n, m, k].map (Nat.toDigits 10) ++ ["total".toList]) ++ [mark])
            flush
          let (r, s) ← work.run.run ⟨{ name := x, rest := as }, { name := y, rest := bs }, false, [], 0⟩
          match r with
          | .ok () => s.finish c.name
          | .error () => return 1
    | x :: y :: z :: _ =>
      let _ := (x, y)
      refuseOperand c.name z
    | operands => missOperand c.name operands

/-! ## Lines with equal keys -/

/-- A line with its fields. -/
structure FieldLine where
  text : Chars
  fields : List Chars

/-- How lines are joined: by which fields, what stands between fields and for those that are missing,
which lines are written, in which form, and whether all have as many fields as the first ones. -/
structure Joining where
  name : String
  check : OrderCheck
  fields : Nat × Nat := (1, 1)
  separator : Option Char := none
  filler : Chars := []
  folds : Bool := false
  form : List (Nat × Nat) := []
  takesCounts : Bool := false
  counts : Option (Nat × Nat) := none
  alone : List Nat := []
  pairs : Bool := true
  mark : Char := '\n'

namespace Joining

open SideBySide

def isBlank (c : Char) : Bool := c = ' ' || c = '\t' || c = '\n'

/-- Words between blanks, with an empty one behind blanks at the end. -/
def wordsOf : (room : Nat) → Chars → List Chars
  | 0, _ => []
  | room + 1, t =>
    let word := t.takeWhile (!isBlank ·)
    match t.drop word.length with
    | [] => [word]
    | rest => word :: wordsOf room (rest.dropWhile isBlank)

/-- The fields of a line. -/
def fieldsOf (separator : Option Char) (line : Chars) : List Chars :=
  match separator with
  | some '\n' => if line.isEmpty then [] else [line]
  | some s => if line.isEmpty then [] else line.splitOn s
  | none =>
    let t := line.dropWhile isBlank
    if t.isEmpty then [] else wordsOf (t.length + 1) t

def row (j : Joining) (text : Chars) : FieldLine := ⟨text, fieldsOf j.separator text⟩

/-- The number of the field by which lines of a text are joined. -/
def field (j : Joining) (isFirst : Bool) : Nat := if isFirst then j.fields.1 else j.fields.2

/-- The key of a line. -/
def key (j : Joining) (isFirst : Bool) (r : FieldLine) : Chars :=
  let k := r.fields.getD (j.field isFirst - 1) []
  if j.folds then k.map Char.toLower else k

/-- A field as it is written. -/
def shown (j : Joining) (n : Nat) (r : Option FieldLine) : Chars :=
  let t := (r.bind fun r => r.fields[n - 1]?).getD []
  if t.isEmpty then j.filler else t

/-- The fields of a line but its key, each behind what stands between fields. -/
def others (j : Joining) (isFirst : Bool) (r : Option FieldLine) : Chars :=
  let has := (r.map (·.fields.length)).getD 0
  let count := match j.counts with
    | some (n, m) => if isFirst then n else m
    | none => has
  ((List.range count).filter (· + 1 ≠ j.field isFirst)).flatMap fun i =>
    j.separator.getD ' ' :: j.shown (i + 1) r

/-- Two lines as one, of which one may be missing. -/
def line (j : Joining) (x y : Option FieldLine) : Chars :=
  let key := if x.isSome then j.shown j.fields.1 x else j.shown j.fields.2 y
  let text :=
    if j.form.isEmpty then key ++ j.others true x ++ j.others false y
    else
      List.intercalate [j.separator.getD ' '] (j.form.map fun (side, n) =>
        if side = 0 then key else j.shown n (if side = 1 then x else y))
  text ++ [j.mark]

/-- Takes the next line of a text and looks at the order. -/
def next (j : Joining) (isFirst : Bool) : Work (Option FieldLine) := do
  let old := (← get).side isFirst
  match ← take isFirst with
  | none => return none
  | some l =>
    let r := j.row l
    match old.last? with
    | some x =>
      checkOrder j.check isFirst
        (Bytes.precedes (j.key isFirst (j.row x)) (j.key isFirst r))
        (warn j.name j.check isFirst (toText old.name ++ ":" ++ toString (old.number + 1) ++
          ": is not sorted: " ++ toText l))
    | none => pure ()
    return some r

/-- Takes lines as long as they have a key. The answer are those, and the first other one. -/
def takeEqual (j : Joining) (isFirst : Bool) (k : Chars) :
    (room : Nat) → List FieldLine → Work (List FieldLine × Option FieldLine)
  | 0, found => return (found.reverse, none)
  | room + 1, found => do
    match ← j.next isFirst with
    | none => return (found.reverse, none)
    | some r =>
      if j.key isFirst r = k then j.takeEqual isFirst k room (r :: found)
      else return (found.reverse, some r)

/-- Goes through both texts up to the end of one of them. -/
def through (j : Joining) : (room : Nat) → Option FieldLine → Option FieldLine →
    Work (Option FieldLine × Option FieldLine)
  | 0, x?, y? => return (x?, y?)
  | room + 1, some x, some y => do
    let a := j.key true x
    let b := j.key false y
    if a = b then
      let (xs, x?) ← j.takeEqual true a maxLines [x]
      let (ys, y?) ← j.takeEqual false a maxLines [y]
      if j.pairs then
        for x in xs do
          for y in ys do
            put (j.line (some x) (some y))
      j.through room x? y?
    else if Bytes.precedes a b then
      if j.alone.contains 1 then put (j.line (some x) none)
      let x? ← j.next true
      modify fun s => { s with hasUnpaired := true }
      j.through room x? (some y)
    else
      if j.alone.contains 2 then put (j.line none (some y))
      let y? ← j.next false
      modify fun s => { s with hasUnpaired := true }
      j.through room (some x) y?
  | _ + 1, x?, y? => return (x?, y?)

/-- Goes through what is left of one text. -/
def throughRest (j : Joining) (isFirst : Bool) : (room : Nat) → FieldLine → Work Unit
  | 0, _ => return
  | room + 1, r => do
    let writes := j.alone.contains (if isFirst then 1 else 2)
    if writes then put (if isFirst then j.line (some r) none else j.line none (some r))
    match ← j.next isFirst with
    | none => return
    | some r =>
      if ((← get).side isFirst).isWarned && !writes then return
      j.throughRest isFirst room r

/-- Joins both texts. -/
def whole (j : Joining) (isHeaded : Bool) : Work Unit := do
  let x? ← j.next true
  let y? ← j.next false
  let j := if j.takesCounts then
      { j with counts := some ((x?.map (·.fields.length)).getD 0, (y?.map (·.fields.length)).getD 0) }
    else j
  let (x?, y?) ←
    if isHeaded && (x?.isSome || y?.isSome) then do
      put (j.line x? y?)
      for isFirst in [true, false] do
        alter isFirst fun t => { t with last? := none }
      pure (← j.next true, ← j.next false)
    else pure (x?, y?)
  let (x?, y?) ← j.through maxLines x? y?
  match x?, y? with
  | some x, none => j.throughRest true maxLines x
  | none, some y => j.throughRest false maxLines y
  | _, _ => pure ()
  flush

/-- Reads the number of a field. -/
def readField (t : Chars) : Except String Nat :=
  match Text.readNat? 10 t with
  | some (n + 1) => .ok (n + 1)
  | _ => .error ("invalid field number: " ++ cited t)

/-- Reads a part of a form. -/
def readPart (t : Chars) : Except String (Nat × Nat) :=
  match t with
  | ['0'] => .ok (0, 0)
  | '1' :: '.' :: n => (readField n).map (1, ·)
  | '2' :: '.' :: n => (readField n).map (2, ·)
  | '0' :: _ | '1' :: _ | '2' :: _ => .error ("invalid field specifier: " ++ cited t)
  | _ => .error ("invalid file number in field spec: " ++ cited t)

/-- Reads the form in which joined lines are written. -/
def readForm (t : Chars) : Except String (List (Nat × Nat)) :=
  (t.splitOnP fun c => c = ',' || c = ' ' || c = '\t').mapM readPart

/-- Sets the fields by which lines are joined. They must not be set twice. -/
def setField (isFirst : Bool) (n : Nat) (fs : Option Nat × Option Nat) :
    Except String (Option Nat × Option Nat) :=
  let check (old : Option Nat) : Except String Unit :=
    match old with
    | some m =>
      if m = n then .ok ()
      else .error ("incompatible join fields " ++ toString (m - 1) ++ ", " ++ toString (n - 1))
    | none => .ok ()
  if isFirst then (check fs.1).map fun _ => (some n, fs.2)
  else (check fs.2).map fun _ => (fs.1, some n)

/-- What one option changes. -/
def withOption (s : Joining × (Option Nat × Option Nat) × List Chars) (o : String × Chars) :
    Except String (Joining × (Option Nat × Option Nat) × List Chars) := do
  let (j, fs, fillers) := s
  match o.1 with
  | "1" => return (j, ← setField true (← readField o.2) fs, fillers)
  | "2" => return (j, ← setField false (← readField o.2) fs, fillers)
  | "j" =>
    let n ← readField o.2
    return (j, ← setField false n (← setField true n fs), fillers)
  | "a" | "v" =>
    match Text.readNat? 10 o.2 with
    | some n =>
      if n = 1 || n = 2 then
        return ({ j with alone := n :: j.alone, pairs := j.pairs && o.1 = "a" }, fs, fillers)
      else throw ("invalid field number: " ++ cited o.2)
    | none => throw ("invalid field number: " ++ cited o.2)
  | "e" =>
    if fillers.any (· ≠ o.2) then throw "conflicting empty-field replacement strings"
    return ({ j with filler := o.2 }, fs, [o.2])
  | "o" =>
    if o.2 = "auto".toList then return ({ j with takesCounts := true }, fs, fillers)
    return ({ j with form := j.form ++ (← readForm o.2) }, fs, fillers)
  | "t" =>
    let sign ← match o.2 with
      | [] => pure '\n'
      | [c] => pure c
      | ['\\', '0'] => pure '\x00'
      | t => throw ("multi-character tab " ++ cited t)
    if j.separator.any (· ≠ sign) then throw "incompatible tabs"
    return ({ j with separator := some sign }, fs, fillers)
  | "i" => return ({ j with folds := true }, fs, fillers)
  | "z" => return ({ j with mark := '\x00' }, fs, fillers)
  | _ => return s

end Joining

open Joining SideBySide in
def join : Program := fun c args =>
  withArguments c.name (.ofString "a:e:i1:2:j:o:t:v:z"
    ["ignore-case|i", "check-order", "nocheck-order", "zero-terminated|z", "header"]) 1 false args
    fun a => do
    let refuse (path : Chars) (e : Files.FileError) : Run Nat :=
      if e = .isADirectory then complain c.name ("read error: " ++ e.reason)
      else complainOf c.name path e
    let start : Joining := { name := c.name, check := .ofArguments a }
    match a.options.foldlM withOption (start, (none, none), []) with
    | .error message => complain c.name message
    | .ok (j, fs, _) =>
      let extra := if a.has "o" then a.operands.length - 2 else 0
      match (a.operands.take extra).mapM readForm with
      | .error message => complain c.name message
      | .ok more =>
        let j := { j with
          fields := (fs.1.getD 1, fs.2.getD 1), form := j.form ++ more.flatten }
        match a.operands.drop extra with
        | [x, y] =>
          if x = ['-'] && y = ['-'] then
            return ← complain c.name "both files cannot be standard input"
          match ← readOperand x with
          | .error e => refuse x e
          | .ok first =>
            match ← readOperand y with
            | .error e => refuse y e
            | .ok second =>
              let (r, s) ← ((j.whole (a.has "header")).run).run
                ⟨{ name := x, rest := linesOf j.mark first },
                  { name := y, rest := linesOf j.mark second }, false, [], 0⟩
              match r with
              | .ok () => s.finish c.name
              | .error () => return 1
        | x :: y :: z :: _ =>
          let _ := (x, y)
          refuseOperand c.name z
        | operands => missOperand c.name operands

end Provision.Program
