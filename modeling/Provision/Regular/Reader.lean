import Provision.Regular.Basic
import Provision.Text.Digits

namespace Provision

/-- Why a text is no regular expression. -/
inductive RegularError
  | unmatchedBracket
  | unmatchedOpening
  | unmatchedClosing
  | unmatchedBrace
  | nothingToRepeat
  | badCount
  | badRange
  | badClass
  | badReference
  | badCollation
  | badPattern
  | misplacedClass
  | tooBig
  | trailingBackslash
  deriving DecidableEq, Repr

/-- The words for what is wrong with an expression. -/
def RegularError.message : RegularError → String
  | .unmatchedBracket => "Unmatched [, [^, [:, [., or [="
  | .unmatchedOpening => "Unmatched ( or \\("
  | .unmatchedClosing => "Unmatched ) or \\)"
  | .unmatchedBrace => "Unmatched \\\x7b"
  | .nothingToRepeat => "Invalid preceding regular expression"
  | .badCount => "Invalid content of \\\x7b\\\x7d"
  | .badRange => "Invalid range end"
  | .badClass => "Invalid character class name"
  | .badReference => "Invalid back reference"
  | .badCollation => "Invalid collation character"
  | .badPattern => "Invalid regular expression"
  | .misplacedClass => "character class syntax is [[:space:]], not [:space:]"
  | .tooBig => "Regular expression too big"
  | .trailingBackslash => "Trailing backslash"

/-- How an expression is written: whether signs have their meaning without a backslash, whether a
repetition of nothing is an error, whether a lone closing parenthesis stands for itself, whether
braces tell how often something is repeated, whether a backslash protects what is in a set and
stands before letters for other characters, whether the name of a class without its set around it is
an error, whether a repetition cannot be repeated, and whether the edges are those of each line. -/
structure RegularStyle where
  extended : Bool := false
  strict : Bool := false
  loneClosing : Bool := false
  counts : Bool := true
  escapes : Bool := false
  careful : Bool := false
  singly : Bool := false
  perLine : Bool := false

namespace RegularStyle

def basic : RegularStyle := { strict := true }

def extended' : RegularStyle := { extended := true }

/-- The style in which a sign that repeats nothing stands for itself, as one looks for lines. -/
def searching (extended : Bool) : RegularStyle := { extended, loneClosing := true, careful := true }

/-- The extended style in which a sign that repeats nothing is an error. -/
def posix : RegularStyle := { extended := true, strict := true, loneClosing := true }

/-- The style in which lines are edited. -/
def editing (extended perLine : Bool) : RegularStyle :=
  { extended, strict := true, singly := !extended, perLine }

/-- The style of patterns in a language with slashes around them. -/
def slashed : RegularStyle :=
  { extended := true, loneClosing := true, counts := false, escapes := true }

end RegularStyle

namespace Regular

/-- The character for a letter behind a backslash. -/
def escaped (c : Char) : Char :=
  match c with
  | 'n' => '\n'
  | 't' => '\t'
  | 'r' => '\r'
  | 'f' => '\x0c'
  | 'v' => '\x0b'
  | 'a' => '\x07'
  | 'b' => '\x08'
  | c => c

/-- Reads a named class or character behind the opening bracket inside a set. -/
def readNamed (cs : Chars) : Option (Except RegularError (Text.Ranges × Chars)) :=
  match cs with
  | ':' :: rest =>
    let name := rest.takeWhile Char.isAlpha
    match rest.drop name.length with
    | ':' :: ']' :: rest =>
      match Text.charClass? (String.ofList name) with
      | some ranges => some (.ok (ranges, rest))
      | none => some (.error .badClass)
    | _ => some (.error .unmatchedBracket)
  | '=' :: c :: '=' :: ']' :: rest | '.' :: c :: '.' :: ']' :: rest => some (.ok ([(c, c)], rest))
  | mark :: rest =>
    if mark ≠ '=' && mark ≠ '.' then none
    else if (rest.zip (rest.drop 1)).contains (mark, ']') then some (.error .badCollation)
    else some (.error .unmatchedBracket)
  | [] => none

/-- Reads the ranges of a set up to its closing bracket, with what follows. -/
def readRanges (style : RegularStyle) : (room : Nat) → (first : Bool) → Chars →
    Except RegularError (Text.Ranges × Chars)
  | 0, _, _ => .error .unmatchedBracket
  | _ + 1, _, [] => .error .unmatchedBracket
  | room + 1, first, c :: rest => do
    if c = ']' && !first then return ([], rest)
    match (if c = '[' then readNamed rest else none) with
    | some found =>
      let (ranges, rest) ← found
      let (more, rest) ← readRanges style room false rest
      return (ranges ++ more, rest)
    | none =>
      let (low, rest) : Char × Chars := match style.escapes, c, rest with
        | true, '\\', d :: rest => (escaped d, rest)
        | _, _, _ => (c, rest)
      match rest with
      | '-' :: d :: after =>
        if d = ']' then
          let (more, rest) ← readRanges style room false rest
          return ((low, low) :: more, rest)
        else
          let (high, after) : Char × Chars := match style.escapes, d, after with
            | true, '\\', e :: after => (escaped e, after)
            | _, '[', '.' :: e :: '.' :: ']' :: after => (e, after)
            | _, _, _ => (d, after)
          if high < low then throw .badRange
          let (more, rest) ← readRanges style room false after
          return ((low, high) :: more, rest)
      | _ =>
        let (more, rest) ← readRanges style room false rest
        return ((low, low) :: more, rest)

/-- Reads a set behind its opening bracket. -/
def readSet (style : RegularStyle) (cs : Chars) : Except RegularError (Regular × Chars) := do
  let (negated, cs) := match cs with
    | '^' :: rest => (true, rest)
    | _ => (false, cs)
  if cs.isEmpty then throw .badPattern
  if style.careful && !negated then
    let inside := cs.takeWhile (· != ']')
    let plain := !inside.contains '[' && !inside.contains '-' && inside.length < cs.length
    if plain && 2 < inside.length && inside.head? = some ':' && inside.getLast? = some ':' then
      throw .misplacedClass
  let (ranges, rest) ← readRanges style (cs.length + 1) true cs
  return (.set negated ranges, rest)

/-- How often something is repeated. -/
abbrev Times := Nat × Option Nat

/-- Reads how often something is repeated between braces, behind the opening one. -/
def readCount (style : RegularStyle) (cs : Chars) : Except RegularError (Times × Chars) := do
  let close : Chars := if style.extended then ['\x7d'] else ['\\', '\x7d']
  let low := cs.takeWhile Char.isDigit
  let rest := cs.drop low.length
  let (count, rest) : Option Times × Chars := match rest with
    | ',' :: rest =>
      let high := rest.takeWhile Char.isDigit
      (some ((Text.readNat? 10 low).getD 0, Text.readNat? 10 high), rest.drop high.length)
    | _ => ((Text.readNat? 10 low).map fun n => (n, some n), rest)
  match count, close.isPrefixOf rest with
  | some (low, high), true =>
    if high.any (· < low) then throw .badCount
    if 32767 < low || high.any (32767 < ·) then throw .tooBig
    return ((low, high), rest.drop close.length)
  | _, _ =>
    let closes := (List.range rest.length).any fun i => close.isPrefixOf (rest.drop i)
    throw (if closes then .badCount else .unmatchedBrace)

/-- Reads a sign that tells how often something is repeated, if there is one. -/
def readTimes (style : RegularStyle) (cs : Chars) : Except RegularError (Option (Times × Chars)) :=
  match cs, style.extended with
  | '*' :: rest, _ => .ok (some ((0, none), rest))
  | '+' :: rest, true | '\\' :: '+' :: rest, false => .ok (some ((1, none), rest))
  | '?' :: rest, true | '\\' :: '?' :: rest, false => .ok (some ((0, some 1), rest))
  | '\x7b' :: rest, true =>
    if !style.counts then .ok none
    else
      match readCount style rest with
      | .ok found => .ok (some found)
      | .error e =>
        let isWritten := (rest.takeWhile fun c => c.isDigit || c = ',').length < rest.length &&
          (rest.dropWhile fun c => c.isDigit || c = ',').head? = some '\x7d'
        if style.strict || isWritten then .error e else .ok none
  | '\\' :: '\x7b' :: rest, false => do return some (← readCount style rest)
  | _, _ => .ok none

/-- Whether a repetition of a repetition begins that is not allowed. -/
def isRepeatedAgain (style : RegularStyle) (cs : Chars) : Bool :=
  style.singly && (cs.head? = some '*' || ['\\', '\x7b'].isPrefixOf cs)

/-- Adds the signs behind an expression that tell how often it is repeated. -/
def withTimes (style : RegularStyle) : Nat → Regular → Chars → Except RegularError (Regular × Chars)
  | 0, r, cs => .ok (r, cs)
  | room + 1, r, cs => do
    match ← readTimes style cs with
    | some ((low, high), rest) =>
      if isRepeatedAgain style rest then throw .nothingToRepeat
      withTimes style room (.times low high r) rest
    | none => return (r, cs)

/-- The edges of what is looked at, or of each line of it. -/
def startEdge (style : RegularStyle) : Edge := if style.perLine then .lineStart else .start

def finishEdge (style : RegularStyle) : Edge := if style.perLine then .lineEnd else .finish

/-- Whether an expression, or an alternative of it, ends here. -/
def isEnd (style : RegularStyle) (inside : Bool) (cs : Chars) : Bool :=
  match cs, style.extended with
  | [], _ => true
  | '|' :: _, true | '\\' :: '|' :: _, false => true
  | ')' :: _, true => inside || !style.loneClosing
  | '\\' :: ')' :: _, false => true
  | _, _ => false

/-- What a letter behind a backslash stands for, beside the character itself. -/
def special? (c : Char) : Option Regular :=
  match c with
  | 'w' => some (.set false Text.wordRanges)
  | 'W' => some (.set true Text.wordRanges)
  | 's' => some (.set false Text.spaceRanges)
  | 'S' => some (.set true Text.spaceRanges)
  | 'b' => some (.edge .wordEdge)
  | 'B' => some (.edge .noWordEdge)
  | '<' => some (.edge .wordStart)
  | '>' => some (.edge .wordEnd)
  | '\'' => some (.edge .finish)
  | c => if c = Char.ofNat 96 then some (.edge .start) else none

def exactly (c : Char) : Regular := .set false [(c, c)]

mutual

/-- Reads alternatives, where groups are counted. -/
def readAll (style : RegularStyle) : (room : Nat) → (inside : Bool) → Chars → Nat →
    Except RegularError (Regular × Chars × Nat)
  | 0, _, _, _ => .error .unmatchedOpening
  | room + 1, inside, cs, n => do
    let (r, rest, n) ← readSequence style room inside true cs n
    match rest, style.extended with
    | '|' :: rest, true | '\\' :: '|' :: rest, false =>
      let (s, rest, n) ← readAll style room inside rest n
      return (.either r s, rest, n)
    | _, _ => return (r, rest, n)

/-- Reads expressions that follow each other. -/
def readSequence (style : RegularStyle) : (room : Nat) → (inside atStart : Bool) → Chars → Nat →
    Except RegularError (Regular × Chars × Nat)
  | 0, _, _, _, _ => .error .unmatchedOpening
  | room + 1, inside, atStart, cs, n => do
    if isEnd style inside cs then return (.empty, cs, n)
    let brace : Chars := if style.extended then ['\x7b'] else ['\\', '\x7b']
    if atStart && style.strict && style.counts && brace.isPrefixOf cs then throw .nothingToRepeat
    match style.extended && atStart, ← readTimes style cs with
    | true, some (_, rest) =>
      if style.strict then throw .nothingToRepeat
      readSequence style room inside true rest n
    | _, _ =>
      let (r, rest, n) ← readOne style room inside atStart cs n
      let isEdge := match r with
        | .edge _ => true
        | _ => false
      if isEdge && !style.extended && style.strict && ['\\', '\x7b'].isPrefixOf rest then
        throw .nothingToRepeat
      let (r, rest) ← if isEdge then pure (r, rest) else withTimes style rest.length r rest
      let (s, rest, n) ← readSequence style room inside (isEdge && style.extended) rest n
      return (if s = .empty then r else .sequence r s, rest, n)

/-- Reads an expression without the signs behind it. -/
def readOne (style : RegularStyle) : (room : Nat) → (inside atStart : Bool) → Chars → Nat →
    Except RegularError (Regular × Chars × Nat)
  | 0, _, _, _, _ => .error .unmatchedOpening
  | _ + 1, _, _, [], n => .ok (.empty, [], n)
  | room + 1, inside, atStart, c :: rest, n => do
    let group (rest : Chars) : Except RegularError (Regular × Chars × Nat) := do
      let (r, after, m) ← readAll style room true rest (n + 1)
      match after, style.extended with
      | ')' :: after, true | '\\' :: ')' :: after, false => return (.group (n + 1) r, after, m)
      | _, _ => throw .unmatchedOpening
    match c with
    | '\\' =>
      match rest with
      | [] => throw .trailingBackslash
      | d :: after =>
        if d = '(' && !style.extended then group after
        else if d = '\x7b' || d = '\x7d' then return (exactly d, after, n)
        else if style.escapes then return (exactly (escaped d), after, n)
        else if '1' ≤ d && d ≤ '9' then
          let k := d.toNat - 48
          if n < k then throw .badReference
          return (.back k, after, n)
        else
          match special? d with
          | some r => return (r, after, n)
          | none => return (exactly d, after, n)
    | '[' =>
      let (r, after) ← readSet style rest
      return (r, after, n)
    | '.' => return (.set true [], rest, n)
    | '(' => if style.extended then group rest else return (exactly c, rest, n)
    | '^' =>
      return (if style.extended || atStart then .edge (startEdge style) else exactly c, rest, n)
    | '$' =>
      return (if style.extended || isEnd style inside rest then .edge (finishEdge style)
        else exactly c, rest, n)
    | c => return (exactly c, rest, n)

end

/-- Reads an expression. -/
def ofChars (style : RegularStyle) (cs : Chars) : Except RegularError Regular := do
  let (r, rest, _) ← readAll style (2 * cs.length + 4) false cs 0
  if rest.isEmpty then return r else throw .unmatchedClosing

/-- An expression in the plain style, in which groups and alternatives need a backslash, as one in
which they need none. -/
def swapped : (room : Nat) → Chars → Chars
  | 0, t => t
  | _ + 1, [] => []
  | room + 1, '\\' :: c :: cs =>
    if "()|".toList.contains c then c :: swapped room cs else '\\' :: c :: swapped room cs
  | room + 1, '[' :: cs =>
    let start := cs.take (if cs.head? = some '^' then 2 else 1)
    let inner := (cs.drop start.length).takeWhile (· ≠ ']')
    '[' :: start ++ inner ++ swapped room (cs.drop (start.length + inner.length))
  | room + 1, c :: cs =>
    if "()|\x7b\x7d".toList.contains c then '\\' :: c :: swapped room cs else c :: swapped room cs

/-- Reads an expression in which groups and alternatives need a backslash and repetitions do not, and
whose edges are those of lines. -/
def ofSwapped (t : Chars) : Except RegularError Regular :=
  ofChars { extended := true, perLine := true } (swapped t.length t)

end Regular

end Provision
