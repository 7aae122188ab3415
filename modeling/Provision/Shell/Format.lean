import Provision.Decimal.Quantity
import Provision.Moment.Basic
import Provision.Shell.Arithmetic
import Provision.Shell.Escape
import Provision.Shell.Quoted

namespace Provision.Shell

open Bytes (toText)
open Decimal (Quantity)

/-- A width or a precision, which an argument can give. -/
inductive Extent
  | none
  | fixed (n : Nat)
  | argument
  deriving DecidableEq, Repr

/-- What can be wrong with a format or with an argument for it: a number that is followed by something
else, no number, one that is too large, a field without a conversion, or one with an unknown
conversion. -/
inductive FormatProblem
  | partly (t : Chars)
  | noNumber (t : Chars)
  | outOfRange (t : Chars)
  | unended (field : Chars)
  | unknown (field : Chars) (c : Char)

namespace FormatProblem

/-- Whether a narrow shell ends by a problem. -/
def isFatal : FormatProblem → Bool
  | .unended _ | .unknown .. => true
  | _ => false

/-- Whether output fails by a problem. -/
def isFailure : FormatProblem → Bool
  | .outOfRange _ => false
  | _ => true

/-- How a shell tells of a problem. -/
def message : Dialect → FormatProblem → String
  | .bash, .partly t | .bash, .noNumber t => toText t ++ ": invalid number"
  | .dash, .partly t => toText t ++ ": not completely converted"
  | .dash, .noNumber t => toText t ++ ": expected numeric value"
  | .bash, .outOfRange t => "warning: " ++ toText t ++ ": Numerical result out of range"
  | .dash, .outOfRange t => toText t ++ ": Numerical result out of range"
  | .bash, .unended field => "`" ++ toText field ++ "': missing format character"
  | .dash, .unended _ => "missing format character"
  | .bash, .unknown _ c => "`" ++ toText [c] ++ "': invalid format character"
  | .dash, .unknown field _ => toText field ++ ": invalid directive"

end FormatProblem

/-- A part of a format: a text, the end of all output, a field for an argument, or one for a point
in time, which has a format of its own. -/
inductive Directive
  | text (t : Chars)
  | stop
  | field (flags : Chars) (width precision : Extent) (conversion : Char)
  | moment (flags : Chars) (width precision : Extent) (format : Chars)
  | invalid (problem : FormatProblem)

def readExtent (cs : Chars) : Extent × Chars :=
  match cs with
  | '*' :: rest => (.argument, rest)
  | _ =>
    let digits := cs.takeWhile Char.isDigit
    match Text.readNat? 10 digits with
    | some n => (.fixed n, cs.drop digits.length)
    | none => (.none, cs)

/-- Reads a field behind its percent sign, which can ask for known conversions. -/
def readField (known modifiers : List Char) (cs : Chars) : Directive × Chars :=
  let flags := cs.takeWhile "-+ 0#'".toList.contains
  let (width, rest) := readExtent (cs.drop flags.length)
  let (precision, rest) : Extent × Chars := match rest with
    | '.' :: rest =>
      match readExtent rest with
      | (.none, rest) => (.fixed 0, rest)
      | found => found
    | _ => (.none, rest)
  let part (left : Nat) : Chars := '%' :: cs.take (cs.length - left)
  match rest.dropWhile modifiers.contains, rest with
  | _, 'q' :: after =>
    if known.contains 'q' then (.field flags width precision 'q', after)
    else (.invalid (.unknown (part after.length) 'q'), [])
  | [], _ => (.invalid (.unended ('%' :: cs)), [])
  | '(' :: after, _ =>
    let text := after.takeWhile (· != ')')
    match known.contains '(', after.drop text.length with
    | true, ')' :: 'T' :: after => (.moment flags width precision text, after)
    | _, _ => (.invalid (.unknown (part after.length) '('), [])
  | c :: after, _ =>
    if known.contains c then (.field flags width precision c, after)
    else (.invalid (.unknown (part after.length) c), [])

/-- Reads a format. -/
def readFormat (known modifiers : List Char) (style : EscapeStyle) : Nat → Chars → List Directive
  | 0, _ => []
  | _ + 1, [] => []
  | room + 1, '%' :: '%' :: rest => .text ['%'] :: readFormat known modifiers style room rest
  | room + 1, '%' :: rest =>
    let (d, rest) := readField known modifiers rest
    d :: readFormat known modifiers style room rest
  | room + 1, '\\' :: rest =>
    match Escape.read style rest with
    | (.byte n, used) => .text [byte n] :: readFormat known modifiers style room (rest.drop used)
    | (.stop, _) => [.stop]
    | _ => .text ['\\'] :: readFormat known modifiers style room rest
  | room + 1, c :: rest => .text [c] :: readFormat known modifiers style room rest

/-- Fills a text up to a width. -/
def pad (flags : Chars) (width : Nat) (t : Chars) : Chars :=
  if flags.contains '-' then t.rightpad width ' ' else t.leftpad width ' '

/-- Fills a number up to a width, with zeros between the sign and the digits if that is asked
for. -/
def padNumber (flags : Chars) (zeros : Bool) (width : Nat) (sign digits : Chars) : Chars :=
  if zeros && flags.contains '0' && !flags.contains '-' then
    sign ++ digits.leftpad (width - sign.length) '0'
  else pad flags width (sign ++ digits)

/-- The whole number of an argument, with a complaint if it is none. -/
def integerArgument (t : Chars) : Int × Option FormatProblem :=
  match t with
  | [] => (0, none)
  | '\'' :: rest | '"' :: rest => (((rest.head?.map Char.toNat).getD 0 : Nat), none)
  | _ =>
    let trimmed := t.dropWhile fun c => c == ' ' || ('\t' ≤ c && c ≤ '\r')
    let (sign, rest) : Int × Chars := match trimmed with
      | '-' :: rest => (-1, rest)
      | '+' :: rest => (1, rest)
      | _ => (1, trimmed)
    let (base, skipped) := match rest with
      | '0' :: 'x' :: _ | '0' :: 'X' :: _ => (16, 2)
      | '0' :: _ => (8, 0)
      | _ => (10, 0)
    let digits := leadingDigits base rest.length (rest.drop skipped)
    let n : Int := sign * ((Text.readNat? base digits).getD 0 : Nat)
    if digits.isEmpty then (n, some (.noNumber t))
    else if digits.length + skipped < rest.length then (n, some (.partly t))
    else if n > greatestInteger then (greatestInteger, some (.outOfRange t))
    else if n < -greatestInteger - 1 then (-greatestInteger - 1, some (.outOfRange t))
    else (n, none)

/-- The whole number without a sign of an argument. -/
def unsignedArgument (t : Chars) : Nat × Option FormatProblem :=
  match integerArgument t with
  | (n, some problem) =>
    match Text.readNat? 10 t with
    | some m => if m < wordSpan then (m, none) else (wordSpan - 1, some problem)
    | none => (Formula.toBits n, some problem)
  | (n, none) => (Formula.toBits n, none)

/-- The number of an argument, with a complaint if it is none. -/
def quantityArgument (t : Chars) : Quantity × Option FormatProblem :=
  match t with
  | [] => (.finite false ⟨0, 1⟩, none)
  | '\'' :: rest | '"' :: rest => (.finite false ⟨(rest.head?.map Char.toNat).getD 0, 1⟩, none)
  | _ =>
    match Quantity.readPart? t with
    | some (q, []) => (q.wide, none)
    | some (q, _) => (q.wide, some (.partly t))
    | none => (.finite false ⟨0, 1⟩, some (.noNumber t))

def signOf (flags : Chars) (negative : Bool) : Chars :=
  if negative then ['-'] else if flags.contains '+' then ['+']
  else if flags.contains ' ' then [' '] else []

/-- What stands before a number in the base of sixteen. -/
def hexSign (flags : Chars) (conversion : Char) (n : Nat) : Chars :=
  if !flags.contains '#' ∨ n = 0 then []
  else if conversion = 'x' then ['0', 'x'] else if conversion = 'X' then ['0', 'X'] else []

/-- Writes a number into a field. -/
def writeQuantity (flags : Chars) (width : Nat) (precision : Option Nat) (conversion : Char)
    (q : Quantity) : Chars :=
  let isFinite := match q with
    | .finite .. => true
    | _ => false
  padNumber flags isFinite width (signOf flags q.isNegative)
    (q.digits conversion precision (flags.contains '#'))

/-- The ways in which formats and texts for them are read: the known conversions and the letters that may stand
before them, what can stand behind a backslash in a format and in an argument, and how a text is quoted. -/
structure FormatStyle where
  known : List Char
  modifiers : List Char
  format : EscapeStyle
  argument : EscapeStyle
  quote : Chars → Chars

/-- How the shells read formats. -/
def FormatStyle.ofDialect : Dialect → FormatStyle
  | .bash => ⟨"diouxXscbqQfFeEgGaA(".toList, "hlLjtzq".toList, .format, .argument, Quoted.escaped⟩
  | .dash => ⟨"diouxXscbfFeEgGaA".toList, [], .narrowFormat, .narrowEchoed, id⟩

/-- Writes an argument into a field. The answer tells too what is wrong with it, and whether output
is to stop. -/
def writeField (style : FormatStyle) (flags : Chars) (width : Nat) (precision : Option Nat)
    (conversion : Char) (t : Chars) : Chars × Option FormatProblem × Bool :=
  let cut := fun (t : Chars) => (precision.map t.take).getD t
  match conversion with
  | 's' => (pad flags width (cut t), none, false)
  | 'c' => (pad flags width (if t.isEmpty then ['\x00'] else t.take 1), none, false)
  | 'q' => (pad flags width (cut (style.quote t)), none, false)
  | 'Q' => (pad flags width (style.quote (cut t)), none, false)
  | 'b' =>
    let (t, stop) := unescape style.argument t
    (pad flags width (cut t), none, stop)
  | 'd' | 'i' =>
    let (n, problem) := integerArgument t
    let digits := if precision = some 0 ∧ n = 0 then []
      else Text.padded (precision.getD 1) n.natAbs
    (padNumber flags precision.isNone width (signOf flags (n < 0)) digits, problem, false)
  | 'o' | 'x' | 'X' | 'u' =>
    let (n, problem) := unsignedArgument t
    let base := if conversion = 'o' then 8 else if conversion = 'u' then 10 else 16
    let digits := if precision = some 0 ∧ n = 0 then [] else Nat.toDigits base n
    let digits := if conversion = 'X' then digits.map Char.toUpper else digits
    let digits := digits.leftpad (precision.getD 1) '0'
    let digits := if conversion = 'o' ∧ flags.contains '#' ∧ digits.head? ≠ some '0' then
      '0' :: digits else digits
    (padNumber flags precision.isNone width (hexSign flags conversion n) digits, problem, false)
  | _ =>
    let (q, problem) := quantityArgument t
    (writeQuantity flags width precision conversion q, problem, false)

/-- A format on its way: the output, the last texts first, the arguments that are left, the
complaints, and whether something has failed and output has stopped. -/
structure Formatting where
  output : List Chars
  arguments : List Chars
  problems : List FormatProblem
  failed : Bool
  stopped : Bool

namespace Formatting

/-- Takes the next argument. If there is none, it counts as empty. -/
def take (f : Formatting) : Chars × Formatting :=
  match f.arguments with
  | [] => ([], f)
  | a :: rest => (a, { f with arguments := rest })

def extent (e : Extent) (f : Formatting) : Option Int × Formatting :=
  match e with
  | .none => (none, f)
  | .fixed n => (some n, f)
  | .argument =>
    let (t, f) := f.take
    (some (integerArgument t).1, f)

/-- Takes the width, the precision and the argument of a field. -/
def fieldOf (flags : Chars) (width precision : Extent) (f : Formatting) :
    Chars × Nat × Option Nat × Chars × Formatting :=
  let (width, f) := f.extent width
  let (precision, f) := f.extent precision
  let width := width.getD 0
  let flags := if width < 0 then '-' :: flags else flags
  let precision := precision.bind fun p => if p < 0 then none else some p.toNat
  let (t, f) := f.take
  (flags, width.natAbs, precision, t, f)

/-- What is done for a part of a format. `now` and `start` are times in seconds. -/
def step (style : FormatStyle) (now start : Nat) (f : Formatting) (d : Directive) : Formatting :=
  if f.stopped then f
  else
    match d with
    | .text t => { f with output := t :: f.output }
    | .stop => { f with stopped := true, arguments := [] }
    | .invalid p =>
      { f with problems := p :: f.problems, failed := true, stopped := true }
    | .moment flags width precision format =>
      let missing := f.arguments.isEmpty
      let (flags, width, precision, t, f) := f.fieldOf flags width precision
      let (n, problem) := if missing then (-1, none) else integerArgument t
      let seconds : Int := if n = -1 then now else if n = -2 then start else n
      let text := (Moment.ofSeconds seconds).write
        (if format.isEmpty then "%H:%M:%S".toList else format)
      { f with
        output := pad flags width ((precision.map text.take).getD text) :: f.output
        problems := problem.toList ++ f.problems
        failed := f.failed || problem.isSome }
    | .field flags width precision conversion =>
      let (flags, width, precision, t, f) := f.fieldOf flags width precision
      let (text, problem, stop) := writeField style flags width precision conversion t
      { f with
        output := text :: f.output
        problems := problem.toList ++ f.problems
        failed := f.failed || problem.any (·.isFailure)
        stopped := stop }

/-- Goes through a format again and again, as long as it uses up arguments. -/
def run (style : FormatStyle) (now start : Nat) (ds : List Directive) :
    Nat → Formatting → Formatting
  | 0, f => f
  | room + 1, f =>
    let g := ds.foldl (step style now start) f
    if g.stopped || g.arguments.isEmpty || g.arguments.length = f.arguments.length then g
    else run style now start ds room g

end Formatting

/-- Writes arguments by a format. -/
def formatted (style : FormatStyle) (now start : Nat) (format : Chars) (arguments : List Chars) :
    Chars × Formatting :=
  let ds := readFormat style.known style.modifiers style.format (format.length + 1) format
  let f := Formatting.run style now start ds (arguments.length + 1)
    ⟨[], arguments, [], false, false⟩
  (f.output.reverse.flatten, { f with problems := f.problems.reverse })

end Provision.Shell
