import Provision.Shell.Store
import Provision.Text.Digits

namespace Provision.Shell

/-- A piece of an arithmetic expression, or what is wrong where none can be read, with the text that is
not even looked at. -/
inductive Token
  | number (n : Int)
  | name (x : String) (index : Option Chars)
  | sign (s : String)
  | wrong (reason : String) (unread : Chars)
  deriving DecidableEq, Repr

/-- An arithmetic expression. An index is a text, since only the variable tells what it means. -/
inductive Formula
  | number (n : Int)
  | name (x : String) (index : Option Chars)
  | unary (sign : String) (a : Formula)
  | binary (sign : String) (a b : Formula) (tail : Chars)
  | choose (condition yes no : Formula)
  | assign (sign : String) (x : String) (index : Option Chars) (a : Formula) (tail : Chars)
  | step (before : Bool) (delta : Int) (x : String) (index : Option Chars)

/-- Why an expression has no value, with the text of it and the part at which that shows. -/
structure FormulaError where
  reason : String
  tail : Chars
  whole : Chars := []

/-- The whole numbers of a shell have sixty-four bits. -/
def wordSpan : Nat := 0x10000000000000000

/-- The greatest whole number of a shell. -/
def greatestInteger : Int := 0x7FFFFFFFFFFFFFFF

namespace Formula

/-- The number of a shell that stands for a number. -/
def wrap (n : Int) : Int := Int.bmod n wordSpan

/-- The signs of expressions. Of two that fit, the first one is meant. -/
def signs : List String :=
  ["<<=", ">>=", "**", "++", "--", "<<", ">>", "<=", ">=", "==", "!=", "&&", "||", "+=", "-=",
   "*=", "/=", "%=", "&=", "^=", "|=", "+", "-", "*", "/", "%", "<", ">", "!", "~", "&", "|", "^",
   "?", ":", "=", "(", ")", ","]

/-- The value of a digit in bases up to sixty-four. -/
def digit? (base : Nat) (c : Char) : Option Nat :=
  let d :=
    if c.isDigit then some (c.toNat - 48)
    else if 'a' ≤ c ∧ c ≤ 'z' then some (c.toNat - 87)
    else if 'A' ≤ c ∧ c ≤ 'Z' then some (c.toNat - (if base ≤ 36 then 55 else 29))
    else if c = '@' then some 62
    else if c = '_' then some 63
    else none
  d.filter (· < base)

def readDigits (base : Nat) (cs : Chars) : Except String Int :=
  if base < 2 ∨ 64 < base then .error "invalid arithmetic base"
  else
    match cs.foldl (fun n c => do return (← n) * base + (← digit? base c)) (some 0) with
    | some n => .ok (wrap n)
    | none => .error "value too great for base"

/-- The value of a written number. -/
def readNumber (cs : Chars) : Except String Int :=
  match cs with
  | '0' :: 'x' :: rest | '0' :: 'X' :: rest => readDigits 16 rest
  | '0' :: d :: rest => readDigits 8 (d :: rest)
  | _ =>
    let base := cs.takeWhile (· != '#')
    match cs.drop base.length with
    | ['#'] => .error "invalid integer constant"
    | '#' :: rest => readDigits ((Text.readNat? 10 base).getD 0) rest
    | _ => readDigits 10 cs

/-- The text of an index behind its opening bracket, and what follows the closing one. -/
def indexText : (depth : Nat) → Chars → Option (Chars × Chars)
  | _, [] => none
  | depth, ']' :: rest =>
    match depth with
    | 0 => some ([], rest)
    | depth + 1 => (indexText depth rest).map fun (t, rest) => (']' :: t, rest)
  | depth, c :: rest =>
    (indexText (if c = '[' then depth + 1 else depth) rest).map fun (t, rest) => (c :: t, rest)

/-- Takes an expression apart. Each piece comes with the text that begins at it. What is no piece ends
the list, as an operator that is wrong behind an operand, and else as a missing operand. -/
def scan : (room : Nat) → (behind : Option Token) → Chars → List (Token × Chars)
  | 0, _, _ => []
  | _ + 1, _, [] => []
  | room + 1, before, c :: rest =>
    let goOn (t : Token) (after : Chars) : List (Token × Chars) :=
      (t, c :: rest) :: scan room (some t) after
    if [' ', '\t', '\n'].contains c then scan room before rest
    else if c.isDigit then
      let text := (c :: rest).takeWhile fun d => isNameChar d || d == '#' || d == '@'
      match readNumber text with
      | .error reason => [(.wrong reason (rest.drop (text.length - 1)), c :: rest)]
      | .ok n => goOn (.number n) (rest.drop (text.length - 1))
    else if isNameStart c then
      let name := (c :: rest).takeWhile isNameChar
      match rest.drop (name.length - 1) with
      | '[' :: behind =>
        match indexText 0 behind with
        | none => [(.wrong "bad array subscript" [], c :: rest)]
        | some (index, behind) => goOn (.name (String.ofList name) (some index)) behind
      | behind => goOn (.name (String.ofList name) none) behind
    else
      match signs.find? fun s => s.toList.isPrefixOf (c :: rest), before with
      | some s, before =>
        let isStep := s = "++" || s = "--"
        let after := rest.drop (s.length - 1)
        match before with
        | some (.name ..) =>
          (.sign s, c :: rest) :: scan room (some (if isStep then .number 0 else .sign s)) after
        | _ =>
          let isName := (after.dropWhile [' ', '\t', '\n'].contains).head?.any isNameStart
          if isStep && !isName then goOn (.sign (String.singleton c)) rest
          else goOn (.sign s) after
      | none, some (.number _) | none, some (.name ..) =>
        [(.wrong "syntax error: invalid arithmetic operator" [], c :: rest)]
      | none, _ => [(.wrong "syntax error: operand expected" [], c :: rest)]

abbrev Parser := StateT (List (Token × Chars)) (Except FormulaError)

namespace Parser

/-- The pieces that are left. If the next one is wrong, reading ends, and so it does if that stands
behind a name, which is not known to be one before what follows. -/
def ahead : Parser (List (Token × Chars)) := do
  let ts ← get
  match ts with
  | (.wrong reason _, tail) :: _ | (.name .., _) :: (.wrong reason _, tail) :: _ =>
    throw ⟨reason, tail, []⟩
  | _ => return ts

def fail {α : Type} (reason : String) : Parser α := do
  throw ⟨reason, ((← get).head?.map (·.2)).getD [], []⟩

def sees (s : String) : Parser Bool := return (← ahead).head?.map (·.1) = some (.sign s)

def accept (s : String) : Parser Bool := do
  if ← sees s then
    modify (·.drop 1)
    return true
  else return false

/-- Takes one of some signs, with the text behind it. -/
def oneOf? (signs : List String) : Parser (Option (String × Chars)) := do
  match ← ahead with
  | (.sign s, _) :: rest =>
    if signs.contains s then
      set rest
      return some (s, (rest.head?.map (·.2)).getD [])
    else return none
  | _ => return none

/-- The signs between two operands, from those that bind weakly to those that bind strongly. -/
def levels : List (List String) :=
  [["||"], ["&&"], ["|"], ["^"], ["&"], ["==", "!="], ["<=", ">=", "<", ">"], ["<<", ">>"],
   ["+", "-"], ["*", "/", "%"]]

def assigning : List String :=
  ["=", "+=", "-=", "*=", "/=", "%=", "<<=", ">>=", "&=", "^=", "|="]

/-- Reads an operand without signs around it, where `inner` reads what stands in parentheses. -/
def operand (inner : Parser Formula) : Parser Formula := do
  match ← ahead with
  | (.number n, _) :: rest =>
    set rest
    return .number n
  | (.name x i, _) :: rest =>
    set rest
    if ← accept "++" then return .step false 1 x i
    if ← accept "--" then return .step false (-1) x i
    return .name x i
  | (.sign "(", _) :: rest =>
    set rest
    let a ← inner
    unless ← accept ")" do fail "missing `)'"
    return a
  | _ => fail "syntax error: operand expected"

/-- Reads an operand with the signs before it. -/
def signed (inner : Parser Formula) : Nat → Parser Formula
  | 0 => fail "syntax error: operand expected"
  | room + 1 => do
    match ← oneOf? ["+", "-", "!", "~", "++", "--"] with
    | some (s, _) =>
      let a ← signed inner room
      match s, a with
      | "++", .name x i => return .step true 1 x i
      | "--", .name x i => return .step true (-1) x i
      | "++", a => return a
      | "--", a => return a
      | s, a => return .unary s a
    | none => operand inner

/-- Reads a power. Powers are taken from the right. -/
def power (inner : Parser Formula) : Nat → Parser Formula
  | 0 => fail "syntax error: operand expected"
  | room + 1 => do
    let a ← signed inner (room + 1)
    match ← oneOf? ["**"] with
    | some (s, tail) => return .binary s a (← power inner room) tail
    | none => return a

/-- Reads the operands on the right. -/
def chain (signs : List String) (next : Parser Formula) : Nat → Formula → Parser Formula
  | 0, a => return a
  | room + 1, a => do
    match ← oneOf? signs with
    | some (s, tail) => chain signs next room (.binary s a (← next) tail)
    | none => return a

/-- Reads operands with signs of some levels between them. -/
def ladder (inner : Parser Formula) : List (List String) → Parser Formula
  | [] => do power inner ((← get).length + 1)
  | signs :: stronger => do
    let a ← ladder inner stronger
    chain signs (ladder inner stronger) (← get).length a

/-- Reads a formula with a choice or an assignment. -/
def formulaWithin : Nat → Parser Formula
  | 0 => fail "syntax error: operand expected"
  | room + 1 => do
    let listed : Parser Formula := do
      let a ← formulaWithin room
      chain [","] (formulaWithin room) (← get).length a
    let a ← ladder listed levels
    if ← accept "?" then
      if ← sees ":" then fail "expression expected"
      let before := ((← get).head?.map (·.2)).getD []
      let yes ← listed
      unless ← accept ":" do
        let tail := ((← get).head?.map (·.2)).getD before
        throw ⟨"`:' expected for conditional expression", tail, []⟩
      if (← get).isEmpty then throw ⟨"expression expected", [':'], []⟩
      return .choose a yes (← formulaWithin room)
    match ← oneOf? assigning with
    | none => return a
    | some (s, tail) =>
      match a with
      | .name x i => return .assign s x i (← formulaWithin room) tail
      | _ => throw ⟨"attempted assignment to non-variable", s.toList ++ tail, []⟩

end Parser

/-- So deep a formula may be. -/
def maxNesting : Nat := 100

/-- Reads a formula. Nothing at all counts as zero. -/
def ofChars (cs : Chars) : Except FormulaError Formula := do
  let named (unread : Nat) (e : FormulaError) : FormulaError :=
    { e with whole := cs.take (cs.length - unread), tail := e.tail.take (e.tail.length - unread) }
  match scan (cs.length + 1) none cs with
  | [] => return .number 0
  | tokens =>
    let whole : Parser Formula := do
      let a ← Parser.formulaWithin maxNesting
      Parser.chain [","] (Parser.formulaWithin maxNesting) (← get).length a
    let last := (tokens.getLast?.map (·.2)).getD []
    let (a, rest) ← match whole.run tokens with
      | .ok found => pure found
      | .error e =>
        let unread := match tokens.getLast? with
          | some (.wrong reason unread, _) => if e.reason = reason then unread.length else 0
          | _ => 0
        throw (named unread { e with tail := if e.tail.isEmpty then last else e.tail })
    match rest with
    | [] => return a
    | (_, tail) :: _ => throw ⟨"syntax error in expression", tail, cs⟩

def ofBool (b : Bool) : Int := if b then 1 else 0

/-- The bits of a number. -/
def toBits (n : Int) : Nat := (n % wordSpan).toNat

/-- A power, of which only the lowest bits are kept. -/
def power (base : Int) : (room exponent : Nat) → Int
  | 0, _ => 1
  | room + 1, n =>
    if n = 0 then 1
    else
      let half := power (wrap (base * base)) room (n / 2)
      if n % 2 = 1 then wrap (base * half) else half

/-- The value of two operands. -/
def combine (sign : String) (a b : Int) (tail : Chars) : Except FormulaError Int :=
  match sign with
  | "+" | "+=" => .ok (wrap (a + b))
  | "-" | "-=" => .ok (wrap (a - b))
  | "*" | "*=" => .ok (wrap (a * b))
  | "/" | "/=" => if b = 0 then .error ⟨"division by 0", tail, []⟩ else .ok (wrap (a.tdiv b))
  | "%" | "%=" => if b = 0 then .error ⟨"division by 0", tail, []⟩ else .ok (wrap (a.tmod b))
  | "**" =>
    if b < 0 then .error ⟨"exponent less than 0", tail.drop (if tail.head? = some '-' then 1 else 0),
      []⟩
    else .ok (power a 64 b.toNat)
  | "<<" | "<<=" => .ok (wrap (a * Nat.pow 2 (toBits b % 64)))
  | ">>" | ">>=" => .ok (a.fdiv (Nat.pow 2 (toBits b % 64)))
  | "<=" => .ok (ofBool (a ≤ b))
  | ">=" => .ok (ofBool (b ≤ a))
  | "<" => .ok (ofBool (a < b))
  | ">" => .ok (ofBool (b < a))
  | "==" => .ok (ofBool (a = b))
  | "!=" => .ok (ofBool (a ≠ b))
  | "&" | "&=" => .ok (wrap (toBits a &&& toBits b : Nat))
  | "|" | "|=" => .ok (wrap (toBits a ||| toBits b : Nat))
  | "^" | "^=" => .ok (wrap (toBits a ^^^ toBits b : Nat))
  | _ => .ok b

/-- An evaluation changes variables, and may fail. -/
abbrev Evaluation := ExceptT FormulaError Run

/-- A text without the quotes in it. -/
def unquoted (t : Chars) : Chars := t.filter fun c => c != '"' && c != '\''

/-- The value of a formula in a text, where the text of a variable is a formula again, up to a number
of levels. -/
def value (whole : Chars) (room : Nat) (f : Formula) : Evaluation Int := do
  let named (e : FormulaError) : FormulaError :=
    if e.whole.isEmpty then { e with whole } else e
  let ofText (text : Chars) : Evaluation Int := do
    match room with
    | 0 =>
      let tail := match f with
        | .name x _ => Bytes.ofText x
        | _ => whole
      throw ⟨"expression recursion level exceeded", tail, whole⟩
    | room + 1 =>
      match ofChars text with
      | .error e => throw e
      | .ok f => value text room f
  let place (x : String) (v : Value) (i : Chars) : Evaluation (Option Nat) := do
    let n ← ofText i
    let size : Nat := (v.elements.getLast?.map (·.1 + 1)).getD 0
    let n := if n < 0 then size + n else n
    if n < 0 then
      Run.report (x ++ ": bad array subscript")
      return none
    return some n.toNat
  let fetch (x : String) (i : Option Chars) : Evaluation Int := do
    let v ← Run.valueOf x
    let text ← match i, v with
      | none, _ => Run.textOf? x
      | some i, .table ps => pure ((ps.find? (·.1 = unquoted i)).map (·.2))
      | some i, v => do
        match ← place x v i with
        | some n => pure ((v.elements.find? (·.1 = n)).map (·.2))
        | none => pure (some [])
    match text with
    | none =>
      if ← Run.isOn .refuseUnset then
        Run.report (x ++ ": unbound variable")
        Run.leave 127
      else return 0
    | some text => ofText text
  let store (x : String) (i : Option Chars) (n : Int) : Evaluation Unit := do
    let text := Run.integerText n
    let v ← Run.valueOf x
    let done ← match i, v with
      | none, _ => Run.storeText x text
      | some i, .table ps => Run.store x (.table (insertPair (unquoted i) text ps))
      | some i, v => do
        match ← place x v i with
        | some n => Run.store x (.array (insertElement n text v.elements))
        | none => pure false
    unless done do throw ⟨"", [], []⟩
  match f with
  | .number n => return n
  | .name x i => fetch x i
  | .unary s a =>
    let n ← value whole room a
    return match s with
      | "-" => wrap (-n)
      | "!" => ofBool (n = 0)
      | "~" => -n - 1
      | _ => n
  | .binary "&&" a b _ => do
    if (← value whole room a) = 0 then return 0
    else return ofBool ((← value whole room b) ≠ 0)
  | .binary "||" a b _ => do
    if (← value whole room a) ≠ 0 then return 1
    else return ofBool ((← value whole room b) ≠ 0)
  | .binary "," a b _ => do
    let _ ← value whole room a
    value whole room b
  | .binary s a b tail => do
    let m ← value whole room a
    let n ← value whole room b
    match combine s m n tail with
    | .ok n => return n
    | .error e => throw (named e)
  | .choose c a b => do
    if (← value whole room c) ≠ 0 then value whole room a else value whole room b
  | .assign s x i a tail => do
    let m ← if s = "=" then pure 0 else fetch x i
    let n ← value whole room a
    match combine s m n tail with
    | .ok n =>
      store x i n
      return n
    | .error e => throw (named e)
  | .step before delta x i => do
    let n ← fetch x i
    store x i (wrap (n + delta))
    return if before then wrap (n + delta) else n
termination_by (room, f)

/-- So deep the texts of variables may lead on. -/
def maxLevel : Nat := 1023

end Formula

namespace Run

open Bytes (toText)

/-- The value of an arithmetic expression. If it has none, the shell complains in the name of a
command. -/
def calculate (command : String) (text : Chars) : Run (Option Int) := do
  let result ← (do
    match Formula.ofChars text with
    | .ok f => Formula.value text Formula.maxLevel f
    | .error e => throw e : Formula.Evaluation Int).run
  match result with
  | .ok n => return some n
  | .error e =>
    if e.reason.isEmpty then return none
    let shown := e.whole.dropWhile fun c => c == ' ' || c == '\t'
    report (command ++ toText shown ++ ": " ++ e.reason ++ " (error token is \"" ++
      toText e.tail ++ "\")")
    return none

/-- The value of an arithmetic expression, without which the shell gives up the present line. -/
def calculated (command : String) (text : Chars) : Run Int := do
  match ← calculate command text with
  | some n => return n
  | none =>
    setStatus 1
    throw .abandon

end Run

end Provision.Shell
