import Provision.Difference.Page
import Provision.Program.Input
import Provision.Program.Inspection
import Provision.Program.Paths
import Provision.Regular.Reader
import Provision.Shell.Pattern

/-!
Programs that compare files: line by line, or byte by byte.
-/

namespace Provision.Program

open Bytes (toText ofText)
open Difference (Page Tolerance)
open Files (FileError Node Tree)
open Shell (Run)

namespace Comparison

/-- How differences are written. -/
inductive Form
  | plain
  | unified
  | contextual
  | script
  | numbered
  | sides
  deriving DecidableEq

/-- How files are compared. -/
structure Style where
  form : Form
  context : Nat
  tolerance : Tolerance
  brief : Bool
  tellsSame : Bool
  deep : Bool
  fillsMissing : Bool × Bool
  asText : Bool
  labels : List Chars
  passesOver : List Shell.Pattern
  heads : Option (Chars → Bool)
  indents : Bool
  width : Nat
  expands : Bool
  onlyChanges : Bool
  leftOnly : Bool
  /-- The options as they are repeated above the changes of each file. -/
  told : Chars

/-- A name as heads show it: between quotes if it could be misread. -/
def headName (t : Chars) : Chars :=
  let isHard (c : Char) : Bool := c ≤ ' ' || c = '\x22' || c = '\\' || '\x7f' ≤ c
  if t.any isHard then
    '\x22' :: t.flatMap (fun c =>
      if c = '\x22' then ['\\', c] else if c = ' ' then [c] else (escapedChar? c).getD [c]) ++
      ['\x22']
  else t

/-- A file that is compared. One that is not there counts as empty. -/
structure Side where
  name : Chars
  content : Chars
  time : Int
  id : Option Nat

/-- What one side is called in a head. -/
def headOf (f : Form) (s : Side) (label : Option Chars) : Chars :=
  let time := if f = .contextual then
      (Moment.ofSeconds (s.time.fdiv 1000000000)).write "%a %b %e %H:%M:%S %Y".toList
    else Inspection.timeText s.time
  label.getD (headName s.name ++ '\t' :: time)

/-- Whether bytes are no text. -/
def isBinary (t : Chars) : Bool := (t.take 4096).contains '\x00'

/-- Compares two files. The answer is the status. -/
def compareContents (program : String) (st : Style) (isDeep : Bool) (a b : Side) : Run Nat := do
  let names := toText a.name ++ " and " ++ toText b.name
  let same : Run Nat := do
    if st.tellsSame then
      let _ ← out program (ofText ("Files " ++ names ++ " are identical\n"))
    return 0
  if a.content = b.content && (st.form ≠ .sides || st.brief) then return ← same
  if !st.asText && (isBinary a.content || isBinary b.content) then
    let _ ← out program (ofText (if st.brief then "Files " ++ names ++ " differ\n"
      else "Binary files " ++ names ++ " differ\n"))
    return if st.brief then 1 else 2
  let horizon := match st.form with
    | .unified | .contextual => st.context
    | _ => 0
  let p := Page.ofTexts st.tolerance horizon a.content b.content
  if !p.differs && st.form ≠ .sides then return ← same
  if st.brief then
    if !p.differs then return ← same
    let _ ← out program (ofText ("Files " ++ names ++ " differ\n"))
    return 1
  let heads (x y : String) : Chars :=
    x.toList ++ headOf st.form a st.labels[0]? ++ '\n' :: y.toList ++ headOf st.form b st.labels[1]? ++ ['\n']
  let body := match st.form with
    | .plain => p.plain (if st.indents then "\t" else " ")
    | .unified => heads "--- " "+++ " ++ p.unified st.context st.heads
    | .contextual => heads "*** " "--- " ++ p.contextual st.context st.heads
    | .script => p.script
    | .numbered => p.numbered
    | .sides => p.sides st.width (!st.expands) st.onlyChanges st.leftOnly
  let above := if isDeep && p.differs then
      "diff".toList ++ st.told ++ ' ' :: headName a.name ++ ' ' :: headName b.name ++ ['\n']
    else []
  let _ ← out program (above ++ body)
  return if p.differs then 1 else 0

/-- Complains of a file by its name as it is given. -/
def complainPlainly (name : String) (path : Chars) (e : FileError) : Run Nat :=
  complain name (toText path ++ ": " ++ e.reason)

/-- Reads a file that is compared. -/
def readSide (program : String) (path : Chars) : Run (Option Side) := do
  match ← readOperand path with
  | .error e =>
    let _ ← complainPlainly program path e
    return none
  | .ok content =>
    let t ← Run.tree
    let found := t.locate (toText path)
    let node := found.toOption.bind t.node?
    let time : Int ← match node with
      | some n => pure n.modified
      | none => do pure ((← Run.now) : Int)
    return some ⟨path, content, time, found.toOption⟩

/-- Compares two files by their paths. -/
def compareFiles (program : String) (st : Style) (isDeep : Bool) (x y : Chars) : Run Nat := do
  if x = ['-'] && y = ['-'] then return 0
  match ← readSide program x, ← readSide program y with
  | some a, some b =>
    if a.id.isSome && a.id = b.id then
      compareContents program st isDeep a { b with content := a.content }
    else compareContents program st isDeep a b
  | _, _ => return 2

/-- Tells that something is in one directory only. -/
def tellAlone (program : String) (directory name : Chars) : Run Nat := do
  let _ ← out program ("Only in ".toList ++ directory ++ ": ".toList ++ name ++ ['\n'])
  return 1

/-- Compares nodes under two paths, of which one may be missing. -/
def compareNodes (program : String) (st : Style) : (room : Nat) → (depth : Nat) →
    (x y : Chars) → Run Nat
  | 0, _, _, _ => return 2
  | room + 1, depth, x, y => do
    let t ← Run.tree
    let nodeAt (p : Chars) : Option Node := (t.find (toText p)).toOption
    let names (p : Chars) : List Chars :=
      match t.locate (toText p) with
      | .ok id =>
        let all := (t.entries id).map fun (e : String × Nat) => ofText e.1
        all.filter fun n => !st.passesOver.any (·.fits n)
      | .error _ => []
    match nodeAt x, nodeAt y with
    | some a, some b =>
      if a.isDirectory && b.isDirectory then
        if depth ≠ 0 && !st.deep then
          let _ ← out program ("Common subdirectories: ".toList ++ x ++ " and ".toList ++ y ++ ['\n'])
          return 0
        let left := names x
        let right := names y
        let mut status := 0
        for name in Bytes.sorted (left ++ right.filter fun n => !left.contains n) do
          let px := pathIn x (toText name)
          let py := pathIn y (toText name)
          let found ←
            if !right.contains name && !st.fillsMissing.2 then tellAlone program x name
            else if !left.contains name && !st.fillsMissing.1 then tellAlone program y name
            else compareNodes program st room (depth + 1) px py
          status := max status found
        return status
      else if a.isDirectory || b.isDirectory then
        let _ ← out program (ofText ("File " ++ toText x ++ " is a " ++ Inspection.kindName a ++
          " while file " ++ toText y ++ " is a " ++ Inspection.kindName b ++ "\n"))
        return 1
      else compareFiles program st (depth ≠ 0) x y
    | some a, none | none, some a =>
      let isLeft := (nodeAt x).isSome
      if a.isDirectory then
        if st.deep then
          let mut status := 0
          for name in Bytes.sorted (names (if isLeft then x else y)) do
            let found ← compareNodes program st room (depth + 1) (pathIn x (toText name))
              (pathIn y (toText name))
            status := max status found
          return status
        else if depth ≠ 0 then
          let _ ← out program ("Common subdirectories: ".toList ++ x ++ " and ".toList ++ y ++ ['\n'])
          return 0
        else
          let (d, n) := if isLeft then (withoutLastPart x, lastPart x)
            else (withoutLastPart y, lastPart y)
          tellAlone program d n
      else
        match ← readSide program (if isLeft then x else y) with
        | none => return 2
        | some s =>
          let empty : Side := ⟨if isLeft then y else x, [], 0, none⟩
          if isLeft then compareContents program st (depth ≠ 0) s empty
          else compareContents program st (depth ≠ 0) empty s
    | none, none => compareFiles program st (depth ≠ 0) x y
termination_by structural room => room

/-- Compares what two operands name. A file is compared with the one of its name in a directory. -/
def compareOperands (program : String) (st : Style) (x y : Chars) : Run Nat := do
  let t ← Run.tree
  let isDirectory (p : Chars) : Bool := p ≠ ['-'] && t.isDirectory (toText p)
  match isDirectory x, isDirectory y with
  | true, true => if x = y then return 0 else compareNodes program st maxDepth 0 x y
  | true, false =>
    if y = ['-'] then complain program "cannot compare '-' to a directory" >>= fun _ => return 2
    else if (t.find (toText y)).toOption.isNone && !"/dev/fd".toList.isPrefixOf y then
      let _ ← complainPlainly program y .notFound
      return 2
    else compareFiles program st false (pathIn x (toText (lastPart y))) y
  | false, true =>
    if x = ['-'] then complain program "cannot compare '-' to a directory" >>= fun _ => return 2
    else if (t.find (toText x)).toOption.isNone && !"/dev/fd".toList.isPrefixOf x then
      let _ ← complainPlainly program x .notFound
      return 2
    else compareFiles program st false x (pathIn y (toText (lastPart x)))
  | false, false =>
    let there (p : Chars) : Bool :=
      p = ['-'] || "/dev/fd".toList.isPrefixOf p || t.exists? (toText p)
    match there x, there y with
    | true, false =>
      if st.fillsMissing.2 then compareNodes program st maxDepth 0 x y
      else compareFiles program st false x y
    | false, true =>
      if st.fillsMissing.1 then compareNodes program st maxDepth 0 x y
      else compareFiles program st false x y
    | _, _ => compareFiles program st false x y

/-! ## Options -/

def letters : String := "0123456789abBcC:dEeF:fhHiI:lL:nNpPqrsS:tTuU:vwW:x:X:yZ"

def names : List String :=
  ["normal", "brief|q", "report-identical-files|s", "context?", "unified?", "ed|e",
   "rcs|n", "side-by-side|y", "width=|W", "left-column", "suppress-common-lines",
   "show-c-function|p", "show-function-line=|F", "label=|L", "expand-tabs|t", "initial-tab|T",
   "tabsize=", "suppress-blank-empty", "paginate|l", "recursive|r", "no-dereference",
   "new-file|N", "unidirectional-new-file|P", "ignore-file-name-case", "no-ignore-file-name-case",
   "exclude=|x", "exclude-from=|X", "starting-file=|S", "from-file=", "to-file=", "ignore-case|i",
   "ignore-tab-expansion|E", "ignore-trailing-space|Z", "ignore-space-change|b",
   "ignore-all-space|w", "ignore-blank-lines|B", "ignore-matching-lines=|I", "text|a",
   "strip-trailing-cr", "minimal|d", "horizon-lines=", "speed-large-files|H", "color?", "palette="]

/-- The form that an option asks for. -/
def formOf? (key : String) : Option Form :=
  match key with
  | "c" | "C" | "context" => some .contextual
  | "u" | "U" | "unified" => some .unified
  | "e" => some .script
  | "n" => some .numbered
  | "y" => some .sides
  | "normal" => some .plain
  | _ => none

/-- The words of the arguments that are no operands. -/
def optionWords (args operands : List Chars) : List Chars :=
  let rec drop : List Chars → List Chars → List Chars
    | [], ws => ws
    | o :: os, ws => drop os (ws.erase o)
  (drop operands.reverse args.reverse).reverse

/-- Whether a line fits an expression. -/
def fitter? (t : Chars) : Except RegularError (Chars → Bool) := do
  let r ← Regular.ofChars .basic t
  return fun l => r.finds (.ofChars false l)

/-- Reads what options say. -/
def styleOf (a : Arguments) (args : List Chars) (lists : List Chars) : Except String Style := do
  let forms := (a.options.filterMap fun o => formOf? o.1).eraseDups
  if 1 < forms.length then throw "conflicting output style options"
  let form := forms.headD .plain
  let counts := a.options.filter fun o =>
    ["C", "U"].contains o.1 || (["context", "unified"].contains o.1 && !o.2.isEmpty)
  let numbers ← counts.mapM fun o =>
    match Text.readNat? 10 o.2 with
    | some n => pure n
    | none => throw ("invalid context length '" ++ toText o.2 ++ "'")
  let isDigit (key : String) : Bool := (key.toList.head?).any Char.isDigit
  let digits := (a.options.filter fun o => isDigit o.1).flatMap fun o => o.1.toList
  let numbers := numbers ++ (Text.readNat? 10 digits).toList
  let context := if numbers.isEmpty then 3 else numbers.foldl max 0
  let width ← match a.value? "W" with
    | none => pure 130
    | some t =>
      match Text.readNat? 10 t with
      | some n => if 0 < n then pure n else throw ("invalid width '" ++ toText t ++ "'")
      | none => throw ("invalid width '" ++ toText t ++ "'")
  let ignored ← (a.values "I").mapM fun t =>
    match fitter? t with
    | .ok f => pure f
    | .error e => throw (toText t ++ ": " ++ e.message)
  let heads ← match a.value? "F" with
    | some t =>
      match fitter? t with
      | .ok f => pure (some f)
      | .error e => throw (toText t ++ ": " ++ e.message)
    | none =>
      let isNameStart (c : Char) : Bool := c.isAlpha || c = '_' || c = '$'
      pure (if a.has "p" then some fun (l : Chars) => l.head?.any isNameStart else none)
  let words := optionWords args a.operands
  return {
    form := if a.has "p" && forms.isEmpty then .contextual else form
    context
    tolerance := {
      folds := a.has "i", spaceAmounts := a.has "b", allSpace := a.has "w"
      trailingSpace := a.has "Z", tabs := a.has "E", returns := a.has "strip-trailing-cr"
      blankLines := a.has "B", ignored }
    brief := a.has "q"
    tellsSame := a.has "s"
    deep := a.has "r"
    fillsMissing := (a.has "N" || a.has "P", a.has "N")
    asText := a.has "a"
    labels := a.values "L"
    passesOver := (a.values "x" ++ lists).map fun t => .ofMarked false (t.map (·, false))
    heads
    indents := a.has "T"
    width
    expands := a.has "t"
    onlyChanges := a.has "suppress-common-lines"
    leftOnly := a.has "left-column"
    told := words.flatMap fun w => ' ' :: ofText (shownPath w) }

end Comparison

/-- Points to the help of a program in its own name. -/
def misuseNamed (name message : String) : Run Nat := do
  Run.complain (name ++ ": " ++ message)
  Run.complain (name ++ ": Try '" ++ name ++ " --help' for more information.")
  return 2

/-- Does the work of a program that points to its help in its own name. -/
def withNamedArguments (name : String) (letters : String) (names : List String) (args : List Chars)
    (f : Arguments → Run Nat) : Run Nat := do
  match readArguments (.ofString letters (names ++ ["help", "version|v"])) false args.length args with
  | .ok a =>
    if a.has "v" then out name (ofText (versionOf name ++ "\n"))
    else if a.has "help" then out name (ofText ("Usage: " ++ name ++ " [OPTION]... FILES\n"))
    else f a
  | .error e => misuseNamed name e.message

open Comparison in
def diff : Program := fun c args =>
  withNamedArguments c.name letters names args fun a => do
    let lists ← (a.values "X").mapM fun p => do
      return (linesOf '\n' ((← readOperand p).toOption.getD []))
    match styleOf a args lists.flatten with
    | .error message => misuseNamed c.name message
    | .ok st =>
      let each (pairs : List (Chars × Chars)) : Run Nat := do
        let mut status := 0
        for (x, y) in pairs do
          status := max status (← compareOperands c.name st x y)
        return status
      match a.value? "from-file", a.value? "to-file", a.operands with
      | some x, _, operands => each (operands.map (x, ·))
      | _, some y, operands => each (operands.map (·, y))
      | _, _, [x, y] => compareOperands c.name st x y
      | _, _, [] => misuseNamed c.name ("missing operand after '" ++
          toText ((args.getLast?).getD (ofText c.name)) ++ "'")
      | _, _, [_] => misuseNamed c.name ("missing operand after '" ++
          toText ((args.getLast?).getD (ofText c.name)) ++ "'")
      | _, _, _ :: _ :: extra :: _ => misuseNamed c.name ("extra operand '" ++ toText extra ++ "'")

/-! ## Bytes -/

namespace Comparison

/-- A byte as it can be shown. -/
def shownByte (c : Char) : Chars :=
  let n := c.toNat
  let low (n : Nat) : Chars :=
    if n < 32 then ['^', Char.ofNat (n + 64)] else if n = 127 then ['^', '?'] else [Char.ofNat n]
  if n < 128 then low n else 'M' :: '-' :: low (n - 128)

/-- The first place at which two texts differ, and the line there. -/
def firstDifference : (byte line : Nat) → Chars → Chars → Option (Nat × Nat × Char × Char)
  | byte, line, a :: as, b :: bs =>
    if a = b then firstDifference (byte + 1) (if a = '\n' then line + 1 else line) as bs
    else some (byte, line, a, b)
  | _, _, _, _ => none

end Comparison

open Comparison in
def cmp : Program := fun c args =>
  withNamedArguments c.name "bi:ln:sv"
      ["print-bytes|b", "ignore-initial=|i", "verbose|l", "bytes=|n", "silent|s", "quiet|s"] args
      fun a => do
    let skips := ((a.value? "i").getD ['0']).splitOn ':'
    match skips.mapM readSize?, (a.value? "n").map readSize?, a.operands with
    | none, _, _ => misuseNamed c.name ("invalid --ignore-initial value '" ++
        toText ((a.value? "i").getD []) ++ "'")
    | _, some none, _ => misuseNamed c.name ("invalid --bytes value '" ++
        toText ((a.value? "n").getD []) ++ "'")
    | some ns, limit, x :: rest =>
      if a.has "l" && a.has "s" then
        return ← misuseNamed c.name "options -l and -s are incompatible"
      let y := rest.headD ['-']
      let given (i : Nat) : Option Nat := (rest[i]?).bind readSize?
      match rest[3]?, rest[1]?, rest[2]? with
      | some extra, _, _ => misuseNamed c.name ("extra operand '" ++ toText extra ++ "'")
      | none, one, two =>
        if one.isSome && (given 1).isNone then
          return ← misuseNamed c.name ("invalid --ignore-initial value '" ++
            toText (one.getD []) ++ "'")
        if two.isSome && (given 2).isNone then
          return ← misuseNamed c.name ("invalid --ignore-initial value '" ++
            toText (two.getD []) ++ "'")
        let skipX := (given 1).getD (ns.headD 0)
        let skipY := (given 2).getD ((ns[1]?).getD (if rest.length ≤ 1 then ns.headD 0 else 0))
        let limit := limit.join
        let fail (path : Chars) (e : FileError) : Run Nat := do
          if !a.has "s" then
            let _ ← complainPlainly c.name path e
          return 2
        match ← readOperand x, ← (if x = y then pure (.ok []) else readOperand y) with
        | .error e, _ => fail x e
        | _, .error e => fail y e
        | .ok as, .ok bs =>
          if x = y then return 0
          let cut (n : Nat) (t : Chars) : Chars :=
            let t := t.drop n
            match limit with
            | some m => t.take m
            | none => t
          let as := cut skipX as
          let bs := cut skipY bs
          if as = bs then return 0
          if a.has "s" then return 1
          let names := toText x ++ " " ++ toText y
          let octal (c : Char) : Chars := (Nat.toDigits 8 c.toNat).leftpad 3 ' '
          let ended : Run Nat := do
            let isFirst := as.length < bs.length
            let short := if isFirst then as else bs
            let name := toText (if isFirst then x else y)
            if short.isEmpty then Run.complain (c.name ++ ": EOF on " ++ name ++ " which is empty")
            else
              let lines := short.count '\n'
              let whole := short.getLast? = some '\n'
              Run.complain (c.name ++ ": EOF on " ++ name ++ " after byte " ++
                toString short.length ++
                if a.has "l" then "" else
                  (if whole then ", line " else ", in line ") ++
                    toString (if whole then lines else lines + 1))
            return 1
          if a.has "l" then
            let t ← Run.tree
            let size (path text : Chars) : Nat :=
              if (t.find (toText path)).toOption.any Node.isFile then text.length
              else Nat.pow 2 63 - 1
            let all := min (min (size x as) (size y bs)) (limit.getD (Nat.pow 2 63 - 1))
            let width := (Nat.toDigits 10 all).length
            let rows := ((as.zip bs).zipIdx).filter fun ((p, q), _) => p ≠ q
            let _ ← out c.name (rows.flatMap fun ((p, q), i) =>
              (Nat.toDigits 10 (i + 1)).leftpad width ' ' ++ ' ' :: octal p ++
                (if a.has "b" then
                  ' ' :: (shownByte p).rightpad 4 ' ' ++ ' ' :: octal q ++ ' ' :: shownByte q
                else ' ' :: octal q) ++ ['\n'])
            if as.length = bs.length then return 1 else ended
          else
            match firstDifference 1 1 as bs with
            | none => ended
            | some (byte, line, p, q) =>
              let _ ← out c.name (ofText (names ++ " differ: " ++
                (if a.has "b" then "byte " else "char ") ++ toString byte ++ ", line " ++
                toString line) ++
                (if a.has "b" then
                  " is ".toList ++ octal p ++ ' ' :: shownByte p ++ ' ' :: octal q ++ ' ' :: shownByte q
                else []) ++ ['\n'])
              return 1
    | _, _, [] => misuseNamed c.name ("missing operand after '" ++
        toText ((args.getLast?).getD (ofText c.name)) ++ "'")

end Provision.Program
