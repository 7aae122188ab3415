import Provision.Program.Input
import Provision.Regular.Reader

/-!
The program that writes numbers before lines, in pages with a header, a body and a footer.
-/

namespace Provision.Program

open Bytes (toText ofText)
open Files (FileError)
open Shell (Run)

namespace Numbering

/-- Which lines get numbers. -/
inductive Choice
  | all
  | filled
  | none
  | fitting (r : Regular)

/-- How numbers are written. -/
inductive Form
  | left
  | right
  | zeros

/-- How lines get numbers. -/
structure Style where
  header : Choice := .none
  body : Choice := .filled
  footer : Choice := .none
  first : Int := 1
  step : Int := 1
  goesOn : Bool := false
  joined : Int := 1
  separator : Chars := ['\t']
  width : Nat := 6
  form : Form := .right
  delimiter : Chars := ['\\', ':']

/-- A number as it is written before a line. -/
def Style.written (s : Style) (n : Int) : Chars :=
  let digits := Nat.toDigits 10 n.natAbs
  let sign : Chars := if n < 0 then ['-'] else []
  match s.form with
  | .left => (sign ++ digits).rightpad s.width ' '
  | .zeros => sign ++ digits.leftpad (s.width - sign.length) '0'
  | .right => (sign ++ digits).leftpad s.width ' '

/-- What is known while lines get numbers: the next number, which lines get one in this part of a
page, and how many empty lines have come since one of them got a number. -/
structure State where
  next : Int
  choice : Choice
  empty : Int := 0

/-- The part of a page that a line begins, if it is one that does so. -/
def Style.part? (s : Style) (line : Chars) : Option Choice :=
  let d := s.delimiter
  if d.length < 2 then none
  else if line = d ++ d ++ d then some s.header
  else if line = d ++ d then some s.body
  else if line = d then some s.footer
  else none

/-- A line with what is written before it. -/
def Style.line (s : Style) (st : State) (line : Chars) (_ : Bool) : State × Chars × Bool :=
  match s.part? line with
  | some choice =>
    ({ st with next := if s.goesOn then st.next else s.first, choice }, ['\n'], true)
  | none =>
    let (counts, empty) : Bool × Int := match st.choice with
      | .all =>
        if s.joined ≤ 1 then (true, st.empty)
        else if !line.isEmpty || st.empty + 1 = s.joined then (true, 0)
        else (false, st.empty + 1)
      | .filled => (!line.isEmpty, st.empty)
      | .none => (false, st.empty)
      | .fitting r => ((r.findFrom (.ofChars false line) 0).isSome, st.empty)
    if counts then
      ({ st with next := st.next + s.step, empty },
        s.written st.next ++ s.separator ++ line ++ ['\n'], true)
    else
      ({ st with empty }, List.replicate (s.width + s.separator.length) ' ' ++ line ++ ['\n'], true)

/-- Why an option is refused: at once, or when all options are known. -/
inductive Refusal
  | now (message : String)
  | later (message : String)

/-- Reads which lines get numbers. Only the first letter counts, but for an expression behind it. -/
def readChoice (what : String) (t : Chars) : Except Refusal Choice :=
  match t with
  | 'a' :: _ => .ok .all
  | 't' :: _ => .ok .filled
  | 'n' :: _ => .ok .none
  | 'p' :: pattern =>
    match Regular.ofChars .basic pattern with
    | .ok r => .ok (.fitting r)
    | .error e => .error (.now e.message)
  | t => .error (.later ("invalid " ++ what ++ " numbering style: " ++ cited t))

/-- Reads a number between limits. -/
def readNumber (what : String) (low high : Int) (t : Chars) : Except Refusal Int :=
  let (isNegative, digits) : Bool × Chars := match t.dropWhile fun c => c == ' ' with
    | '-' :: rest => (true, rest)
    | t => (false, t)
  let refuse (reason : String) : Except Refusal Int :=
    .error (.now ("invalid " ++ what ++ ": " ++ cited t ++ reason))
  match if isNegative && digits.head? = some '+' then none else leadingCount? digits with
  | some (n, []) =>
    let n : Int := if isNegative then -n else n
    if low ≤ n && n ≤ high then .ok n
    else if n.natAbs ≤ 1073741823 then refuse ": Numerical result out of range"
    else refuse ": Value too large for defined data type"
  | _ => refuse ""

def greatest : Int := 9223372036854775807

/-- Takes an option into a style. -/
def take (s : Style) (option : String × Chars) : Except Refusal Style := do
  let (key, value) := option
  match key with
  | "h" => return { s with header := ← readChoice "header" value }
  | "b" => return { s with body := ← readChoice "body" value }
  | "f" => return { s with footer := ← readChoice "footer" value }
  | "v" =>
    return { s with first := ← readNumber "starting line number" (-greatest - 1) greatest value }
  | "i" =>
    return { s with step := ← readNumber "line number increment" (-greatest - 1) greatest value }
  | "p" => return { s with goesOn := true }
  | "l" => return { s with joined := ← readNumber "line number of blank lines" 1 greatest value }
  | "s" => return { s with separator := value }
  | "w" =>
    let n ← readNumber "line number field width" 1 2147483647 value
    return { s with width := n.toNat }
  | "n" =>
    match value with
    | ['l', 'n'] => return { s with form := .left }
    | ['r', 'n'] => return { s with form := .right }
    | ['r', 'z'] => return { s with form := .zeros }
    | t => throw (.later ("invalid line numbering format: " ++ cited t))
  | "d" =>
    let delimiter := match value with
      | [x] => x :: s.delimiter.drop 1
      | t => t
    return { s with delimiter }
  | _ => return s

end Numbering

open Provision.Program.Numbering in
def nl : Program := fun c args =>
  withArguments c.name (.ofString "b:d:f:h:i:l:n:ps:v:w:"
    ["body-numbering=|b", "section-delimiter=|d", "footer-numbering=|f", "header-numbering=|h",
     "line-increment=|i", "join-blank-lines=|l", "number-format=|n", "no-renumber|p",
     "number-separator=|s", "starting-line-number=|v", "number-width=|w"]) 1 false args fun a => do
    let mut s : Style := {}
    let mut good := true
    for o in a.options do
      match take s o with
      | .ok t => s := t
      | .error (.now message) => return ← complain c.name message
      | .error (.later message) =>
        let _ ← complain c.name message
        good := false
    if !good then return ← pointToHelp c.name 1
    let (_, isRead) ← throughLines (complainOf c.name) '\n' s.line (orInput a.operands)
      { next := s.first, choice := s.body } true
    return if isRead then 0 else 1

end Provision.Program
