import Provision.Program.Input
import Provision.Shell.Format

/-!
Programs whose output their arguments describe: texts, numbers in a row, prime factors.
-/

namespace Provision.Program

open Bytes (toText ofText)
open Decimal (Quantity Ratio)
open Shell (Run FormatStyle FormatProblem unescape formatted)

def echo : Program := fun c args => do
  if args = ["--version".toList] || args = ["--help".toList] then
    return ← withArguments c.name ⟨[], []⟩ 1 false args fun _ => return 0
  let isOption (a : Chars) : Bool :=
    match a with
    | '-' :: x :: xs => (x :: xs).all "neE".toList.contains
    | _ => false
  let letters := (args.takeWhile isOption).flatten
  let text := List.intercalate [' '] (args.dropWhile isOption)
  let escapes := letters.foldl (fun on x => if x = 'e' then true else if x = 'E' then false else on)
    false
  let (text, stop) := if escapes then unescape .programEchoed text else (text, false)
  out c.name (text ++ if letters.contains 'n' || stop then [] else ['\n'])

/-- How programs read formats. -/
def formatStyle : FormatStyle where
  known := "diouxXscbqfFeEgGaA".toList
  modifiers := "hlLjtzq".toList
  format := .programFormat
  argument := .programEchoed
  quote t := ofText (shownPath t)

/-- How a program tells of a problem with a format. -/
def problemMessage : FormatProblem → String
  | .partly t => cited t ++ ": value not completely converted"
  | .noNumber t => cited t ++ ": expected a numeric value"
  | .outOfRange t => cited t ++ ": Numerical result out of range"
  | .unended field | .unknown field _ => toText field ++ ": invalid conversion specification"

def printf : Program := fun c args => do
  if args = ["--version".toList] || args = ["--help".toList] then
    return ← withArguments c.name ⟨[], []⟩ 1 false args fun _ => return 0
  let args := if args.head? = some "--".toList then args.drop 1 else args
  match args with
  | [] => missOperand c.name []
  | format :: arguments =>
    let (text, f) := formatted formatStyle 0 0 format arguments
    for p in f.problems do Run.complain (c.name ++ ": " ++ problemMessage p)
    let status ← out c.name text
    if f.problems.isEmpty && !f.stopped then
      match f.arguments with
      | extra :: _ =>
        Run.complain (c.name ++ ": warning: ignoring excess arguments, starting with " ++
          cited extra)
      | [] => pure ()
    return if f.problems.isEmpty then status else 1

/-- Writes a text again and again. -/
def repeatText (text : Chars) : Nat → Run Unit
  | 0 => return
  | room + 1 => do
    match ← Run.write 1 text with
    | .ok () => repeatText text room
    | .error _ => return

def yes : Program := fun c args =>
  withArguments c.name ⟨[], []⟩ 1 false args fun a => do
    let line := (if a.operands.isEmpty then ['y'] else List.intercalate [' '] a.operands) ++ ['\n']
    repeatText ((List.replicate (blockSize / line.length + 1) line).flatten) maxLines
    return 1

/-- Opens all of some paths. The answer are the descriptors, and whether all could be opened. -/
def openAll (name : String) (o : Host.Opening) : List Chars → Run (List Nat × Bool)
  | [] => return ([], true)
  | path :: rest => do
    match ← Run.openPath (toText path) o with
    | .ok stream =>
      let d ← Run.freeDescriptor 3
      Run.setDescriptor d (some stream)
      let (more, good) ← openAll name o rest
      return (d :: more, good)
    | .error e =>
      let _ ← complainOf name path e
      let (more, _) ← openAll name o rest
      return (more, false)

/-- Copies the input to descriptors. Those that do not take it are left out from there on. -/
def copyTo (name : String) : Nat → List Nat → Bool → Run Bool
  | 0, _, good => return good
  | room + 1, ds, good => do
    match ← Run.readSome 0 65536 with
    | .error e =>
      let _ ← complain name ("read error: " ++ e.reason)
      return false
    | .ok [] => return good
    | .ok text =>
      let taking ← ds.filterM fun d => do return (← Run.write d text).toOption.isSome
      copyTo name room taking (good && taking.length = ds.length)

def tee : Program := fun c args =>
  withArguments c.name (.ofString "aip" ["append|a", "ignore-interrupts|i", "output-error?|p"])
    1 false args fun a => do
    let o : Host.Opening := if a.has "a" then .append else .write
    let (ds, good) ← openAll c.name o a.operands
    return if ← copyTo c.name maxLines (1 :: ds) good then 0 else 1

namespace Sequence

/-- A number with the width in which it is written and the digits behind its point, where that can be
said. -/
structure Operand where
  value : Quantity
  width : Nat
  places : Option Nat

def Operand.one : Operand := ⟨.finite false ⟨1, 1⟩, 1, some 0⟩

/-- The width and the places of a number from how it is written. -/
def extentOf (t : Chars) : Nat × Option Nat :=
  if t.any fun c => c = 'x' || c = 'X' then
    (0, if t.contains '.' || t.contains 'p' then none else some 0)
  else
    let mantissa := t.takeWhile fun c => c != 'e' && c != 'E'
    let whole := mantissa.takeWhile (· != '.')
    let pointed := whole.length < mantissa.length
    let fraction := mantissa.drop (whole.length + 1)
    let fill := if !pointed then 0
      else if !fraction.isEmpty && !(whole.getLast?.any Char.isDigit) then 1 else 0
    let width := mantissa.length + fill - if pointed && fraction.isEmpty then 1 else 0
    match t.drop mantissa.length with
    | [] => (width, some fraction.length)
    | _ :: exponent =>
      let negative := exponent.head? = some '-'
      let digits := exponent.dropWhile fun c => c = '-' || c = '+'
      let e := (Text.readNat? 10 digits).getD 0
      if negative then
        let point := if !pointed || fraction.isEmpty then 1 else 0
        (width + point + e, some (fraction.length + e))
      else
        let places := fraction.length - e
        let point := if pointed && places = 0 && !fraction.isEmpty then 1 else 0
        (width - point + (e - fraction.length), some places)

/-- Reads a number. -/
def Operand.ofChars (t : Chars) : Except String Operand := do
  let t := t.dropWhile fun c => c == ' ' || c == '+' || ('\t' ≤ c && c ≤ '\r')
  match Quantity.read? t with
  | none => throw ("invalid floating point argument: " ++ cited t)
  | some (.notANumber _) => throw ("invalid 'not-a-number' argument: " ++ cited t)
  | some q =>
    let (width, places) := extentOf t
    return ⟨q, width, places⟩

/-- How numbers are written: texts around them, and the field for them. -/
structure Format where
  before : Chars
  flags : Chars
  width : Nat
  places : Option Nat
  conversion : Char
  after : Chars

/-- A text in which two percent signs stand for one. -/
def unescaped : Chars → Chars
  | '%' :: '%' :: rest => '%' :: unescaped rest
  | c :: rest => c :: unescaped rest
  | [] => []

/-- The text before the first field. -/
def beforeField : Chars → Chars
  | '%' :: '%' :: rest => '%' :: '%' :: beforeField rest
  | '%' :: _ => []
  | c :: rest => c :: beforeField rest
  | [] => []

/-- Reads a format, which has one field. -/
def Format.ofChars (t : Chars) : Except String Format := do
  let before := beforeField t
  match t.drop before.length with
  | [] => throw ("format " ++ cited t ++ " has no % directive")
  | _ :: rest =>
    let flags := rest.takeWhile "-+#0 '".toList.contains
    let rest := rest.drop flags.length
    let width := rest.takeWhile Char.isDigit
    let rest := rest.drop width.length
    let (places, rest) : Option Nat × Chars := match rest with
      | '.' :: rest =>
        let digits := rest.takeWhile Char.isDigit
        (some ((Text.readNat? 10 digits).getD 0), rest.drop digits.length)
      | _ => (none, rest)
    let rest := if rest.head? = some 'L' then rest.drop 1 else rest
    match rest with
    | [] => throw ("format " ++ cited t ++ " ends in %")
    | c :: after =>
      if !"efgaEFGA".toList.contains c then
        throw ("format " ++ cited t ++ " has unknown %" ++ String.ofList [c] ++ " directive")
      if (beforeField after).length < after.length then
        throw ("format " ++ cited t ++ " has too many % directives")
      return ⟨unescaped before, flags, (Text.readNat? 10 width).getD 0, places, c,
        unescaped after⟩

def Format.write (f : Format) (q : Quantity) : Chars :=
  f.before ++ Shell.writeQuantity f.flags f.width f.places f.conversion q ++ f.after

/-- The format for numbers from one operand to another one. -/
def usualFormat (equal : Bool) (first step last : Operand) : Format :=
  match first.places, step.places, last.places with
  | some p, some s, some l =>
    let places := max p s
    if equal then
      let firstWidth := first.width + (places - p) + if p = 0 && places ≠ 0 then 1 else 0
      let lastWidth := last.width + places - l
      let lastWidth := if l ≠ 0 && places = 0 then lastWidth - 1 else lastWidth
      let lastWidth := if l = 0 && places ≠ 0 then lastWidth + 1 else lastWidth
      ⟨[], ['0'], max firstWidth lastWidth, some places, 'f', []⟩
    else ⟨[], [], 0, some places, 'f', []⟩
  | _, _, _ => ⟨[], [], 0, none, 'g', []⟩

/-- A number as a whole number of parts. -/
def parts (den : Nat) : Quantity → Int
  | .finite n r => let m : Int := r.num * (den / r.den); if n then -m else m
  | _ => 0

def denominator : Quantity → Nat
  | .finite _ r => r.den
  | _ => 1

/-- Writes numbers with a separator before each but the first one, and a line feed at the end. -/
def writeNumbers (f : Format) (separator : Chars) (den : Nat) (goesOn : Int → Bool) (step : Int) :
    Nat → Int → Bool → List Chars → Nat → Run Unit
  | 0, _, _, _, _ => return
  | room + 1, x, isFirst, held, size => do
    if !goesOn x then
      unless isFirst do
        let _ ← Run.write 1 ((['\n'] :: held).reverse.flatten)
    else
      let text := f.write (.finite (x < 0) ⟨x.natAbs, den⟩)
      let held := text :: if isFirst then held else separator :: held
      let size := size + text.length + 1
      if blockSize ≤ size then
        match ← Run.write 1 held.reverse.flatten with
        | .ok () => writeNumbers f separator den goesOn step room (x + step) false [] 0
        | .error _ => return
      else writeNumbers f separator den goesOn step room (x + step) false held size

/-- Arguments in which what begins like a negative number is no option. -/
def sparingNumbers : List Chars → List Chars
  | ['-', '-'] :: rest => ['-', '-'] :: rest
  | ('-' :: c :: cs) :: rest =>
    if c.isDigit || c = '.' then "--".toList :: ('-' :: c :: cs) :: rest
    else
      match ['s', 'f'].contains ((c :: cs).getLastD ' ') && c ≠ '-' , rest with
      | true, value :: rest => ('-' :: c :: cs) :: value :: sparingNumbers rest
      | _, rest => ('-' :: c :: cs) :: sparingNumbers rest
  | args => args

end Sequence

open Sequence in
def seq : Program := fun c args =>
  withArguments c.name (.ofString "f:s:w" ["equal-width|w", "format=|f", "separator=|s"]) 1 true
    (sparingNumbers args) fun a => do
    match a.operands with
    | [] => return ← missOperand c.name []
    | _ :: _ :: _ :: extra :: _ => return ← refuseOperand c.name extra
    | _ => pure ()
    let given : Option (Except String Format) := (a.value? "f").map Format.ofChars
    match given with
    | some (.error message) => return ← complain c.name message
    | _ => pure ()
    if given.isSome && a.has "w" then
      return ← misuse c.name "format string may not be specified when printing equal width strings"
    let operands : Except String (Operand × Operand × Operand) := do
      match a.operands with
      | [last] => return (.one, .one, ← Operand.ofChars last)
      | [first, last] => return (← Operand.ofChars first, .one, ← Operand.ofChars last)
      | first :: step :: last :: _ =>
        let first ← Operand.ofChars first
        let by' ← Operand.ofChars step
        if parts 1 by'.value = 0 && (by'.value.digits 'e' none false).all fun ch => !ch.isDigit ||
            ch = '0' then
          throw ("invalid Zero increment value: " ++ cited step)
        return (first, by', ← Operand.ofChars last)
      | [] => throw ""
    match operands with
    | .error message => misuse c.name message
    | .ok (first, step, last) =>
      let format := match given with
        | some (.ok f) => f
        | _ => usualFormat (a.has "w") first step last
      let den := [first, step, last].foldl (fun d o => Nat.lcm d (denominator o.value)) 1
      let by' := parts den step.value
      let goal := parts den last.value
      let goesOn (x : Int) : Bool := match last.value with
        | .finite .. => if by' < 0 then goal ≤ x else x ≤ goal
        | q => q.isNegative = decide (by' < 0)
      let separator := (a.value? "s").getD ['\n']
      writeNumbers format separator den goesOn by' maxLines (parts den first.value) true [] 0
      return 0

/-! ## Factors -/

/-- The prime factors of a number from some candidate on. -/
def primeFactors : Nat → Nat → Nat → List Nat
  | 0, _, n => [n]
  | room + 1, d, n =>
    if n < 2 then []
    else if n < d * d then [n]
    else if n % d = 0 then d :: primeFactors room d (n / d)
    else primeFactors room (if d = 2 then 3 else d + 2) n

/-- The factors of a number in a line. -/
def factorLine (powers : Bool) (n : Nat) : Chars :=
  let fs := primeFactors 100000000 2 n
  let text (f : Nat) : Chars := Nat.toDigits 10 f
  let words := if powers then
      fs.eraseDups.map fun f =>
        let k := fs.count f
        if k = 1 then text f else text f ++ '^' :: text k
    else fs.map text
  text n ++ ':' :: words.flatMap (' ' :: ·) ++ ['\n']

def factor : Program := fun c args =>
  withArguments c.name (.ofString "h" ["exponents|h"]) 1 false args fun a => do
    let words ← if a.operands.isEmpty then
        do pure ((← Run.takeAll 0).splitOnP (fun ch => ch = ' ' || ch = '\t' || ch = '\n') |>.filter
          (!·.isEmpty))
      else pure a.operands
    let mut status := 0
    for w in words do
      let trimmed := w.dropWhile (· == ' ')
      let digits := if trimmed.head? = some '+' then trimmed.drop 1 else trimmed
      match Text.readNat? 10 digits with
      | some n => let _ ← out c.name (factorLine (a.has "h") n)
      | none => status ← complain c.name (cited w ++ " is not a valid positive integer")
    return status

end Provision.Program
