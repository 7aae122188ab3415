import Provision.Program.Tabulation

/-!
The program that goes through records and does with them what a program in its language says.
-/

namespace Provision.Program

open Bytes (toText ofText)
open Records (Value Table Name Separator Sink Expr Place Statement Arithmetic Relation)
open Shell (Run)

namespace Tabulation

namespace Work

/-! ## Formats -/

/-- Complains while records are gone through, and tells where. -/
def fault {α : Type} (message : String) : Work α := do
  let name ← keptText "FILENAME"
  let fnr ← keptText "FNR"
  let nr ← keptText "NR"
  abandon ("run time error: " ++ message ++ "\n\tFILENAME=\"" ++ toText name ++ "\" FNR=" ++
    toText fnr ++ " NR=" ++ toText nr)

/-- What is wrong with a format. -/
inductive FormatFault
  | missing
  | improper (n : Nat)

/-- Writes arguments by a format. -/
def formatted (numbers : Chars) : (room : Nat) → (n : Nat) → Chars → List Value → List Chars →
    Chars × Option FormatFault
  | 0, _, _, _, written => (written.reverse.flatten, none)
  | _ + 1, _, [], _, written => (written.reverse.flatten, none)
  | room + 1, n, '%' :: '%' :: rest, args, written =>
    formatted numbers room n rest args (['%'] :: written)
  | room + 1, n, '%' :: rest, args, written =>
    let stop (e : FormatFault) : Chars × Option FormatFault := (written.reverse.flatten, some e)
    let flags := rest.takeWhile "-+ #0".toList.contains
    let rest := rest.drop flags.length
    let extent (rest : Chars) (args : List Value) : Option (Option Int × Chars × List Value) :=
      match rest with
      | '*' :: more =>
        match args with
        | v :: args => some (some (Records.toInt v.toNumber), more, args)
        | [] => none
      | rest =>
        let ds := rest.takeWhile Char.isDigit
        some ((Text.readNat? 10 ds).map Int.ofNat, rest.drop ds.length, args)
    match extent rest args with
    | none => stop .missing
    | some (width, rest, args) =>
      let second : Option (Option Int × Chars × List Value) := match rest with
        | '.' :: more =>
          (extent more args).map fun (p : Option Int × Chars × List Value) =>
            (some (p.1.getD 0), p.2)
        | rest => some (none, rest, args)
      match second with
      | none => stop .missing
      | some (precision, rest, args) =>
        match args with
        | [] => stop .missing
        | v :: args =>
          let flags := if width.any (· < 0) then '-' :: flags else flags
          let width := (width.map Int.natAbs).getD 0
          let precision : Option Nat := precision.bind fun (p : Int) =>
            if p < 0 then none else some p.toNat
          let rest := rest.dropWhile "hlL".toList.contains
          match rest with
          | [] => stop (.improper n)
          | c :: rest =>
            let cut (t : Chars) : Chars := (precision.map t.take).getD t
            let digits (base : Nat) (k : Nat) : Chars :=
              (if precision = some 0 && k = 0 then [] else Nat.toDigits base k).leftpad
                (precision.getD 1) '0'
            let k := Records.toInt v.toNumber
            let bits := (k % (Nat.pow 2 64 : Int)).toNat
            let marked := flags.contains '#'
            let text? : Option Chars := match c with
              | 's' => some (Shell.pad flags width (cut (v.toText numbers)))
              | 'c' =>
                let t : Chars := match v with
                  | .number x | .seeming _ x => [Char.ofNat ((Records.toInt x) % 256).toNat]
                  | .text t => if t.isEmpty then ['\x00'] else t.take 1
                  | .unset => []
                some (Shell.pad flags width t)
              | 'd' | 'i' =>
                some (Shell.padNumber flags precision.isNone width (Shell.signOf flags (k < 0))
                  (digits 10 k.natAbs))
              | 'u' => some (Shell.padNumber flags precision.isNone width [] (digits 10 bits))
              | 'o' =>
                let ds := digits 8 bits
                let ds := if marked && ds.head? ≠ some '0' then '0' :: ds else ds
                some (Shell.padNumber flags precision.isNone width [] ds)
              | 'x' =>
                some (Shell.padNumber flags precision.isNone width (Shell.hexSign flags c bits)
                  (digits 16 bits))
              | 'X' =>
                some (Shell.padNumber flags precision.isNone width (Shell.hexSign flags c bits)
                  ((digits 16 bits).map Char.toUpper))
              | 'e' | 'f' | 'g' | 'E' | 'F' | 'G' =>
                some (Shell.writeQuantity flags width precision c
                  (Decimal.Quantity.ofFloat v.toNumber))
              | _ => none
            match text? with
            | some t => formatted numbers room (n + 1) rest args (t :: written)
            | none => stop (.improper n)
  | room + 1, n, c :: rest, args, written => formatted numbers room n rest args ([c] :: written)

/-- Writes arguments by a format, and complains if that is impossible. What is written before comes
out if it has somewhere to go. -/
def format (name : String) (goal : Option Chars) (format : Chars) (args : List Value) :
    Work Chars := do
  let (t, e) := formatted (← numberFormat) (format.length + 1) 1 format args []
  match e with
  | none => return t
  | some e =>
    match goal with
    | some o => put o t
    | none => pure ()
    match e with
    | .missing =>
      fault ("not enough arguments passed to " ++ name ++ "(\"" ++ toText format ++ "\")")
    | .improper n =>
      fault ("improper conversion(number " ++ toString n ++ ") in " ++ name ++ "(\"" ++
        toText format ++ "\")")

/-! ## Functions that there are always -/

def truth (b : Bool) : Value := .number (if b then 1 else 0)

/-- The remainder of a division that is cut off behind the point. -/
def remainder (x y : Float) : Float :=
  if y == 0 then 0.0 / 0.0
  else if Records.isWhole x && Records.isWhole y && x.abs < 9007199254740992 &&
      y.abs < 9007199254740992 then
    Float.ofInt ((Records.toInt x).tmod (Records.toInt y))
  else
    let q := x / y
    x - (if q < 0 then q.ceil else q.floor) * y

def calculate (op : Arithmetic) (x y : Float) : Float :=
  match op with
  | .add => x + y
  | .subtract => x - y
  | .multiply => x * y
  | .divide => x / y
  | .remainder => remainder x y
  | .power => x.pow y

/-- The first place at which a text stands in another one, from one on. -/
def indexOf (part : Chars) : (i : Nat) → Chars → Nat
  | i, [] => if part.isEmpty then i else 0
  | i, c :: cs => if part.isPrefixOf (c :: cs) then i else indexOf part (i + 1) cs

/-- A part of a text from a place on, of so many characters if that is told. -/
def substring (t : Chars) (start : Float) (count : Option Float) : Chars :=
  let first := Records.toInt start
  let stop : Int := match count with
    | none => t.length + 1
    | some n => first + Records.toInt n
  let from' := max 1 first
  if stop ≤ from' then [] else (t.drop (from' - 1).toNat).take (stop - from').toNat

/-- The next of a sequence of numbers that seem to come by chance, between zero and one. -/
def chance : Work Float := do
  let s := (← get).state * 6364136223846793005 + 1442695040888963407
  modify fun m => { m with state := s }
  return Float.ofNat (s >>> 33).toNat / 2147483648

/-- The seconds since the start of the epoch. -/
def seconds : Work Nat := return (← run' Run.now) / 1000000000

/-- The point in time that six numbers tell. -/
def momentOf (t : Chars) : Float :=
  let ns := (Records.words (t.length + 1) t).map fun w => Records.toInt (Records.leadingNumber w)
  match ns with
  | year :: month :: day :: hour :: minute :: second :: _ =>
    Float.ofInt (Moment.secondsOf year month day hour minute second)
  | _ => -1

/-- Runs a command, and gives its status. -/
def system (command : Chars) : Work Value := do
  flushAll
  let child ← run' ((← get).caller.launch none (commandWords command))
  return .number (Float.ofInt (close.statusOf (← run' (Run.await child))))

/-- The key that subscripts are. -/
def keyOf (vs : List Value) : Work Table.Key := do
  match vs with
  | [.number x] =>
    if Records.isWhole x && x.abs < 9007199254740992 then return .whole (Records.toInt x)
    else return .text (← textOf (.number x))
  | [v] => return .text (← textOf v)
  | vs =>
    let ts ← vs.mapM textOf
    return .text ((ts.intersperse (← keptText "SUBSEP")).flatten)

/-! ## Evaluation -/

/-- What comes after a statement. -/
inductive Flow
  | on
  | stop
  | again
  | give (v : Value)

/-- Goes round until there is an end. -/
def turns (step : Work (Option Flow)) : Nat → Work Flow
  | 0 => return .on
  | room + 1 => do
    match ← step with
    | some f => return f
    | none => turns step room

/-- So often a loop goes round at most. -/
def maxRounds : Nat := 1000000000000

/-- What a statement in a loop means for the loop. -/
def Flow.inLoop : Flow → Option Flow
  | .stop => some .on
  | .give v => some (.give v)
  | _ => none

/-- So deep statements and calls may stand in one another. -/
def maxNesting : Nat := 1000000

mutual

/-- The expression with which something is compared. -/
def expressionOf : (room : Nat) → Expr → Work Regular
  | 0, _ => fault "function call nesting too deep"
  | room + 1, e => do
    match e with
    | .regular r => return r
    | e => regularOf (← textOf (← eval room e))

def evalAll : (room : Nat) → List Expr → Work (List Value)
  | 0, _ => fault "function call nesting too deep"
  | _ + 1, [] => return []
  | room + 1, e :: es => do
    let v ← eval room e
    return v :: (← evalAll room es)

/-- The number of a field. -/
def fieldNumber : (room : Nat) → Expr → Work Nat
  | 0, _ => fault "function call nesting too deep"
  | room + 1, e => do
    let x := (← eval room e).toNumber
    if x < 0 then fault ("negative field index $" ++ toText (Records.integerText (Records.toInt x)))
    else return x.toUInt64.toNat

def getPlace : (room : Nat) → Place → Work Value
  | 0, _ => fault "function call nesting too deep"
  | room + 1, p => do
    match p with
    | .variable v => value v
    | .field e => field (← fieldNumber room e)
    | .element a subscripts =>
      let k ← keyOf (← evalAll room subscripts)
      onTable a fun t => t.get k

def setPlace : (room : Nat) → Place → Value → Work Unit
  | 0, _, _ => fault "function call nesting too deep"
  | room + 1, p, v => do
    match p with
    | .variable n => setValue n v
    | .field e => setField (← fieldNumber room e) v
    | .element a subscripts =>
      let k ← keyOf (← evalAll room subscripts)
      onTable a fun t => (t.put k v, ())

/-- Changes what stands at a place. The answer holds the old and the new value. -/
def alter : (room : Nat) → Place → (Value → Work Value) → Work (Value × Value)
  | 0, _, _ => fault "function call nesting too deep"
  | room + 1, p, f => do
    match p with
    | .variable n =>
      let old ← value n
      let new ← f old
      setValue n new
      return (old, new)
    | .field e =>
      let i ← fieldNumber room e
      let old ← field i
      let new ← f old
      setField i new
      return (old, new)
    | .element a subscripts =>
      let k ← keyOf (← evalAll room subscripts)
      let old ← onTable a fun t => t.get k
      let new ← f old
      onTable a fun t => (t.put k new, ())
      return (old, new)

/-- The value of an expression. -/
def eval : (room : Nat) → Expr → Work Value
  | 0, _ => fault "function call nesting too deep"
  | room + 1, e => do
    match e with
    | .number x => return .number x
    | .text t => return .text t
    | .group e => eval room e
    | .regular r => return truth (r.finds (.ofChars false (← textOf (← wholeRecord))))
    | .place p => getPlace room p
    | .assign p none e =>
      match p with
      | .variable n =>
        let v ← eval room e
        setValue n v
        return v
      | p => return (← alter room p fun _ => eval room e).2
    | .assign p (some op) e =>
      let (_, new) ← alter room p fun old => do
        let y := (← eval room e).toNumber
        return .number (calculate op old.toNumber y)
      return new
    | .choose c a b => if (← eval room c).isTrue then eval room a else eval room b
    | .both a b =>
      if (← eval room a).isTrue then return truth (← eval room b).isTrue else return truth false
    | .either a b =>
      if (← eval room a).isTrue then return truth true else return truth (← eval room b).isTrue
    | .negated e => return truth (!(← eval room e).isTrue)
    | .minus e => return .number (-(← eval room e).toNumber)
    | .plus e => return .number (← eval room e).toNumber
    | .arithmetic op a b =>
      let x := (← eval room a).toNumber
      let y := (← eval room b).toNumber
      return .number (calculate op x y)
    | .join a b =>
      let x ← textOf (← eval room a)
      let y ← textOf (← eval room b)
      return .text (x ++ y)
    | .compare r a b =>
      let x ← eval room a
      let y ← eval room b
      let (less, same) := Records.order (← numberFormat) x y
      return truth (match r with
        | .less => less
        | .lessOrEqual => less || same
        | .equal => same
        | .unequal => !same
        | .more => !less && !same
        | .moreOrEqual => !less)
    | .fits isNegated a b =>
      let t ← textOf (← eval room a)
      let r ← expressionOf room b
      return truth (r.finds (.ofChars false t) != isNegated)
    | .step p up before =>
      let (old, new) ← alter room p fun old =>
        return .number (old.toNumber + if up then 1 else -1)
      return if before then new else .number old.toNumber
    | .member subscripts a =>
      let k ← keyOf (← evalAll room subscripts)
      return truth (← onTable a fun t => t.seek k false)
    | .call f args => call room f args
    | .builtin f args => builtin room f args
    | .fetch source from' into => fetch room source from' into

/-- Fetches a record. The value tells whether there was one, or that there is no such file. -/
def fetch : (room : Nat) → Records.Source → Option Expr → Option Place → Work Value
  | 0, _, _, _ => fault "function call nesting too deep"
  | room + 1, source, from', into => do
    let found : Option (Option Chars) ← match source, from' with
      | .main, _ | _, none => do pure (some (← mainRecord maxFiles))
      | .file, some e => do fedRecord false (← textOf (← eval room e))
      | .command, some e => do fedRecord true (← textOf (← eval room e))
    match found with
    | none => return .number (-1)
    | some none => return .number 0
    | some (some t) =>
      match into with
      | some p => setPlace room p (Value.given t)
      | none => setRecord (Value.given t)
      return .number 1

/-- Calls a function. A variable that stands alone can be that of a table. -/
def call : (room : Nat) → String → List Expr → Work Value
  | 0, _, _ => fault "function call nesting too deep"
  | room + 1, f, args => do
    match (← get).program.functions.find? (·.name = f) with
    | none => fault ("function " ++ f ++ " never defined")
    | some g =>
      let slots ← slotsOf room args
      let outer := (← get).own
      let own := (slots ++ List.replicate (g.arity - slots.length) (Slot.single .unset)).toArray
      modify fun m => { m with own }
      let flow ← execAll room g.body
      modify fun m => { m with own := outer }
      return match flow with
        | .give v => v
        | _ => .unset

/-- What is handed over to a function. -/
def slotsOf : (room : Nat) → List Expr → Work (List Slot)
  | 0, _ => fault "function call nesting too deep"
  | _ + 1, [] => return []
  | room + 1, e :: es => do
    let s ← match e with
      | .place (.variable v) => do
        match ← slot v with
        | .table id => pure (Slot.table id)
        | .single .unset =>
          if v == .shared "NF" then pure (Slot.single (← value v))
          else pure (Slot.table (← tableOf v))
        | .single x => pure (Slot.single x)
      | e => do pure (Slot.single (← eval room e))
    return s :: (← slotsOf room es)

/-- Calls a function that there is always. -/
def builtin : (room : Nat) → String → List Expr → Work Value
  | 0, _, _ => fault "function call nesting too deep"
  | room + 1, f, args => do
    let number (e : Expr) : Work Float := do return (← eval room e).toNumber
    let text (e : Expr) : Work Chars := do textOf (← eval room e)
    match f, args with
    | "length", [] => return .number (Float.ofNat (← textOf (← wholeRecord)).length)
    | "length", [.place (.variable v)] =>
      match ← slot v with
      | .table _ => return .number (Float.ofNat (← onTable v fun t => (t, t.size)))
      | .single _ => return .number (Float.ofNat (← textOf (← value v)).length)
    | "length", [e] => return .number (Float.ofNat (← text e).length)
    | "index", [a, b] =>
      let t ← text a
      return .number (Float.ofNat (indexOf (← text b) 1 t))
    | "substr", [a, b] =>
      let t ← text a
      return .text (substring t (← number b) none)
    | "substr", [a, b, c] =>
      let t ← text a
      let start ← number b
      return .text (substring t start (some (← number c)))
    | "split", a :: .place (.variable v) :: by' =>
      let t ← text a
      let s : Separator ← match by' with
        | .regular r :: _ => pure (.fitting r)
        | e :: _ => do separatorOf (← text e)
        | [] => do separatorOf (← keptText "FS")
      let ps := s.split t
      onTable v fun _ => (Table.ofPieces (ps.map Value.given), ())
      return .number (Float.ofNat ps.length)
    | "match", [a, b] =>
      let t ← text a
      let r ← expressionOf room b
      let (start, size) : Float × Float := match r.findFrom (.ofChars false t) 0 with
        | some m => (Float.ofNat (m.start + 1), Float.ofNat (m.stop - m.start))
        | none => (0, -1)
      setNumber "RSTART" start
      setNumber "RLENGTH" size
      return .number start
    | "sub", a :: b :: c | "gsub", a :: b :: c =>
      let r ← expressionOf room a
      let with' ← text b
      let ps := Records.readParts (with'.length + 1) with'
      let p := match c with
        | .place p :: _ => p
        | _ => .field (.number 0)
      let old ← textOf (← getPlace room p)
      let (new, n) := Records.replace r ps (f = "gsub") old
      if n ≠ 0 then setPlace room p (.text new)
      return .number (Float.ofNat n)
    | "sprintf", e :: es =>
      let t ← text e
      let vs ← evalAll room es
      return .text (← format "sprintf" none t vs)
    | "tolower", [e] => return .text ((← text e).map Char.toLower)
    | "toupper", [e] => return .text ((← text e).map Char.toUpper)
    | "sin", [e] => return .number (← number e).sin
    | "cos", [e] => return .number (← number e).cos
    | "atan2", [a, b] =>
      let y ← number a
      return .number (y.atan2 (← number b))
    | "exp", [e] => return .number (← number e).exp
    | "log", [e] => return .number (← number e).log
    | "sqrt", [e] => return .number (← number e).sqrt
    | "int", [e] =>
      let x ← number e
      return .number (if x < 0 then x.ceil else x.floor)
    | "rand", _ => return .number (← chance)
    | "srand", es =>
      let old := (← get).seed
      let new ← match es with
        | e :: _ => number e
        | [] => do pure (Float.ofNat (← seconds))
      modify fun m => { m with seed := new, state := new.abs.toUInt64 * 2862933555777941757 + 3037000493 }
      return .number old
    | "close", [e] => return .number (Float.ofInt (← close (← text e)))
    | "system", [e] => system (← text e)
    | "fflush", es =>
      let name ← match es with
        | e :: _ => text e
        | [] => pure printed
      let isOpen := (← get).outlets.any fun o => o.name = name
      flushAll
      return .number (if isOpen then 0 else -1)
    | "systime", _ => return .number (Float.ofNat (← seconds))
    | "mktime", [e] => return .number (momentOf (← text e))
    | "strftime", es =>
      let vs ← evalAll room es
      let pattern ← match vs with
        | v :: _ => textOf v
        | [] => pure "%c".toList
      let at' : Int ← match vs with
        | _ :: v :: _ => pure (Records.toInt v.toNumber)
        | _ => do pure ((← seconds) : Int)
      return .text ((Moment.ofSeconds at').write pattern)
    | f, _ => fault ("function " ++ f ++ " never defined")

/-- Opens where output goes. -/
def goalOf : (room : Nat) → Option (Sink × Expr) → Work Chars
  | 0, _ => fault "function call nesting too deep"
  | _ + 1, none => return printed
  | room + 1, some (sink, e) => do
    let name ← textOf (← eval room e)
    openOutlet sink name
    return name

def execAll : (room : Nat) → List Statement → Work Flow
  | 0, _ => fault "function call nesting too deep"
  | _ + 1, [] => return .on
  | room + 1, s :: ss => do
    match ← exec room s with
    | .on => execAll room ss
    | f => return f

def exec : (room : Nat) → Statement → Work Flow
  | 0, _ => fault "function call nesting too deep"
  | room + 1, s => do
    match s with
    | .expr e =>
      let _ ← eval room e
      return .on
    | .print args goal =>
      let vs ← match args with
        | [] => do pure [← wholeRecord]
        | args => evalAll room args
      let name ← goalOf room goal
      let numbers ← keptText "OFMT"
      let ts := vs.map (·.toText numbers)
      let ofs ← keptText "OFS"
      let ors ← keptText "ORS"
      put name ((ts.intersperse ofs).flatten ++ ors)
      return .on
    | .printFormatted args goal =>
      let vs ← evalAll room args
      let name ← goalOf room goal
      match vs with
      | v :: vs =>
        let t ← format "printf" (some name) (← textOf v) vs
        put name t
      | [] => pure ()
      return .on
    | .block body => execAll room body
    | .choice c yes no =>
      if (← eval room c).isTrue then exec room yes
      else
        match no with
        | some s => exec room s
        | none => return .on
    | .whileTrue c body =>
      turns (do
        if (← eval room c).isTrue then return (← exec room body).inLoop
        else return some .on) maxRounds
    | .doWhile body c =>
      turns (do
        match (← exec room body).inLoop with
        | some f => return some f
        | none => if (← eval room c).isTrue then return none else return some .on) maxRounds
    | .loop start c step body =>
      match start with
      | some s => let _ ← exec room s
      | none => pure ()
      turns (do
        let goesOn ← match c with
          | some e => do pure (← eval room e).isTrue
          | none => pure true
        if !goesOn then return some .on
        match (← exec room body).inLoop with
        | some f => return some f
        | none =>
          match step with
          | some s => let _ ← exec room s
          | none => pure ()
          return none) maxRounds
    | .each v a body =>
      let keys ← onTable a Table.keys
      eachKey room v body keys
    | .delete a subscripts =>
      match subscripts with
      | [] => onTable a fun _ => ({}, ())
      | es =>
        let k ← keyOf (← evalAll room es)
        onTable a fun t => (t.delete k, ())
      return .on
    | .next => throw .next
    | .nextFile => throw .nextFile
    | .exit e =>
      match e with
      | some e =>
        let x := (← eval room e).toNumber
        modify fun m => { m with status := (Records.toInt x % 256).toNat }
      | none => pure ()
      throw .exit
    | .give e =>
      match e with
      | some e => return .give (← eval room e)
      | none => return .give .unset
    | .stop => return .stop
    | .again => return .again

/-- Does something for each of some keys. -/
def eachKey : (room : Nat) → Name → Statement → List Chars → Work Flow
  | 0, _, _, _ => fault "function call nesting too deep"
  | _ + 1, _, _, [] => return .on
  | room + 1, v, body, k :: ks => do
    setValue v (.text k)
    match (← exec room body).inLoop with
    | some f => return f
    | none => eachKey room v body ks

end

/-! ## Programs -/

/-- Whether something is done for the present record by its rule, which has a number. -/
def applies (i : Nat) (c : Records.Condition) : Work Bool := do
  match c with
  | .always => return true
  | .when e => return (← eval maxNesting e).isTrue
  | .between first last =>
    let began ← if (← get).begun.contains i then pure true
      else do pure (← eval maxNesting first).isTrue
    if !began then return false
    let ends := (← eval maxNesting last).isTrue
    modify fun m => { m with begun := if ends then m.begun.filter (· ≠ i) else i :: m.begun.erase i }
    return true

/-- Goes through the rules for the present record. -/
def applyRules : Nat → List (Records.Condition × Option (List Statement)) → Work Unit
  | _, [] => return
  | i, (c, body) :: rest => do
    if ← applies i c then
      let _ ← match body with
        | some b => execAll maxNesting b
        | none => exec maxNesting (.print [] none)
    applyRules (i + 1) rest

/-- Goes through all records. -/
def throughRecords : Nat → Work Unit
  | 0 => return
  | room + 1 => do
    match ← mainRecord maxFiles with
    | none => return
    | some t =>
      setRecord (Value.given t)
      try applyRules 0 (← get).program.rules
      catch h =>
        match h with
        | .next => pure ()
        | .nextFile => closeMain
        | .exit => throw .exit
      throughRecords room

/-- Does something, unless all ends before. The answer tells whether it does. -/
def endsIn (w : Work Unit) : Work Bool := do
  try
    w
    return false
  catch _ => return true

/-- Runs a program from the first to the last. -/
def whole : Work Unit := do
  let p := (← get).program
  let isOver ← endsIn do
    let _ ← execAll maxNesting p.beginning
  if !(isOver || (p.rules.isEmpty && !p.hasEnding)) then
    let _ ← endsIn (throughRecords maxRounds)
  if p.hasEnding then
    let _ ← endsIn do
      let _ ← execAll maxNesting p.ending
  leave (← get).status

end Work

/-! ## Arguments -/

/-- What arguments say: a separator, values, files with the program, and the other arguments. -/
structure Call where
  separator : Option Chars := none
  vain : List Chars := []
  values : List Chars := []
  files : List Chars := []
  rest : List Chars := []

/-- Why arguments cannot be read. -/
inductive CallFault
  | unknown (t : Chars)
  | lacking (c : Char)
  | version
  | usage

/-- The words of long options. -/
def longWords : List String :=
  ["version", "dump", "exec", "help", "interactive", "posix", "random", "sprintf", "usage"]

/-- Reads arguments. -/
def readCall : (room : Nat) → Call → List Chars → Except CallFault Call
  | 0, c, _ => .ok c
  | _ + 1, c, [] => .ok c
  | room + 1, c, a :: rest =>
    let with' (letter : Char) (more : Chars) (f : Chars → Call) : Except CallFault Call :=
      match more, rest with
      | [], [] => .error (.lacking letter)
      | [], t :: rest => readCall room (f t) rest
      | t, rest => readCall room (f t) rest
    match a with
    | ['-', '-'] => .ok { c with rest }
    | '-' :: 'F' :: more => with' 'F' more fun t => { c with separator := some t }
    | '-' :: 'v' :: more => with' 'v' more fun t => { c with values := c.values ++ [t] }
    | '-' :: 'f' :: more => with' 'f' more fun t => { c with files := c.files ++ [t] }
    | '-' :: 'W' :: more =>
      match more, rest with
      | [], [] => .error (.lacking 'W')
      | [], t :: rest => readWord room c false t rest
      | t, rest => readWord room c false t rest
    | '-' :: '-' :: more => readWord room c true more rest
    | '-' :: _ :: _ => .error (.unknown a)
    | _ => .ok { c with rest := a :: rest }
where
  readWord (room : Nat) (c : Call) (isLong : Bool) (t : Chars) (rest : List Chars) :
      Except CallFault Call :=
    let word := (t.takeWhile (· ≠ '=')).map Char.toLower
    let known? := if word.isEmpty then none else longWords.find? (word.isPrefixOf ·.toList)
    match known?, rest with
    | some "version", _ => .error .version
    | some "usage", _ | some "help", _ => .error .usage
    | some "exec", f :: rest => .ok { c with files := c.files ++ [f], rest }
    | some "exec", [] => .error (.lacking 'W')
    | some _, _ => readCall room c rest
    | none, _ =>
      if isLong then .error (.unknown (ofText "--" ++ t))
      else readCall room { c with vain := c.vain ++ [t] } rest

def usage : String :=
  "Usage: mawk [Options] [Program] [file ...]\n\nProgram:\n" ++
  "    The -f option value is the name of a file containing program text.\n" ++
  "    If no -f option is given, a \"--\" ends option processing; the following\n" ++
  "    parameters are the program text.\n\nOptions:\n" ++
  "    -f program-file  Program  text is read from file instead of from the\n" ++
  "                     command-line.  Multiple -f options are accepted.\n" ++
  "    -F value         sets the field separator, FS, to value.\n" ++
  "    -v var=value     assigns value to program variable var.\n" ++
  "    --               unambiguous end of options.\n\n" ++
  "    Implementation-specific options are prefixed with \"-W\".  They can be\n" ++
  "    abbreviated:\n\n" ++
  "    -W version       show version information and exit.\n" ++
  "    -W dump          show assembler-like listing of program and exit.\n" ++
  "    -W help          show this message and exit.\n" ++
  "    -W interactive   set unbuffered output, line-buffered input.\n" ++
  "    -W exec file     use file as program as well as last option.\n" ++
  "    -W posix_space   do not consider \"\\n\" a space.\n" ++
  "    -W random=number set initial random seed.\n" ++
  "    -W sprintf=number adjust size of sprintf buffer.\n" ++
  "    -W usage         show this message and exit."

/-- The texts of program files, one behind the other. -/
def programTexts (name : String) : List Chars → Run (Option Chars)
  | [] => return some []
  | path :: rest => do
    match ← readOperand path with
    | .error e =>
      let _ ← complain name ("cannot open \"" ++ toText path ++ "\" (" ++ e.reason ++ ")")
      return none
    | .ok t =>
      match ← programTexts name rest with
      | some more => return some (t ++ (if t.getLast? = some '\n' || rest.isEmpty then [] else ['\n']) ++ more)
      | none => return none

/-- The machine before all work. -/
def Machine.fresh (c : Caller) (p : Records.Program) (environment : List (String × Chars))
    (args : List Chars) : Machine :=
  let text (t : String) : Slot := .single (.text t.toList)
  let number (x : Float) : Slot := .single (.number x)
  let given := (ofText c.name :: args).zipIdx
  let arguments : Table := given.foldl (fun t (a, i) =>
    t.put (.whole (i : Nat)) (Value.given a)) {}
  let surroundings : Table := environment.foldl (fun t (k, v) =>
    t.put (.text (ofText k)) (Value.given v)) {}
  let shared : List (String × Slot) :=
    [("NR", number 0), ("FNR", number 0), ("FS", text " "), ("OFS", text " "), ("RS", text "\n"),
     ("ORS", text "\n"), ("SUBSEP", text "\x1c"), ("CONVFMT", text "%.6g"), ("OFMT", text "%.6g"),
     ("RSTART", number 0), ("RLENGTH", number (-1)), ("FILENAME", .single .unset),
     ("ARGC", number (Float.ofNat given.length)), ("ARGV", .table 0), ("ENVIRON", .table 1)]
  { name := c.name, caller := c, program := p
    shared := shared.foldl (fun m (k, v) => m.insert k v) {}
    tables := #[arguments, surroundings]
    outlets := [⟨Work.printed, .file, 1, [], 0, none⟩] }

end Tabulation

open Tabulation in
def awk : Program := fun c args => do
  match readCall (args.length + 1) {} args with
  | .error .version => out c.name (ofText "mawk 1.3.4 20200120\n")
  | .error .usage => out c.name (ofText (usage ++ "\n"))
  | .error (.unknown t) =>
    let _ ← complain c.name ("not an option: " ++ toText t)
    return 2
  | .error (.lacking l) =>
    let _ ← complain c.name ("option -" ++ String.singleton l ++ " lacks argument")
    return 2
  | .ok call =>
    for t in call.vain do
      let _ ← complain c.name ("vacuous option: -W \"" ++ toText t ++ "\"")
    let source? : Option (Chars × List Chars) ← match call.files, call.rest with
      | [], [] => do
        Run.complain usage
        return 0
      | [], t :: rest => pure (some (t, rest))
      | files, rest => do pure ((← programTexts c.name files).map (·, rest))
    match source? with
    | none => return 2
    | some (text, rest) =>
      match Records.Program.ofChars text with
      | .error es =>
        for e in es do
          let _ ← complain c.name e.message
        return 2
      | .ok p =>
        for v in call.values do
          if (Work.assignment? v).isNone then
            let _ ← complain c.name ("improper assignment: -v " ++ toText v)
            return 2
        let m := Machine.fresh c p (← Run.environment) rest
        let work : Work Unit := do
          match call.separator with
          | some t => Work.setSlot (.shared "FS") (.single (.text (Records.Token.unescaped (t.length + 1) t)))
          | none => pure ()
          for v in call.values do
            match Work.assignment? v with
            | some (name, t) => Work.assign name t
            | none => pure ()
          Work.whole
        let (_, m) ← (work.run).run m
        return m.status

end Provision.Program
