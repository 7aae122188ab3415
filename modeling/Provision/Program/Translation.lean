import Provision.Program.Input
import Provision.Text.CharClass

/-!
Characters that are exchanged, dropped, or squeezed.
-/

namespace Provision.Program

open Bytes (toText ofText)
open Shell (Run)

namespace Translation

/-- A part of a list of characters: one alone, all from one to another one, a class, those that count
as equal to one, or one that is repeated so often. -/
inductive Element
  | single (c : Char)
  | range (first last : Char)
  | named (name : String) (members : Chars)
  | equal (c : Char)
  | repeated (c : Char) (count : Nat)

/-- Why a list of characters cannot be read or used. -/
inductive Fault
  | backward (first last : Char)
  | noClass
  | noEqual
  | unknownClass (t : Chars)
  | manyEqual (t : Chars)
  | count (t : Chars)
  | endlessFirst
  | endlessTwice
  | endlessSecond
  | equalSecond
  | classSecond
  | misaligned
  | empty
  | classAtEnd
  | complemented

/-- A character as messages show it. -/
def shownChar (c : Char) : Chars :=
  if ' ' ≤ c && c ≤ '~' then [c] else '\\' :: (Nat.toDigits 8 c.toNat).leftpad 3 '0'

def shownChars (t : Chars) : Chars := t.flatMap shownChar

def Fault.message : Fault → String
  | .backward c d =>
    "range-endpoints of '" ++ toText (shownChar c) ++ "-" ++ toText (shownChar d) ++
      "' are in reverse collating sequence order"
  | .noClass => "missing character class name '[::]'"
  | .noEqual => "missing equivalence class character '[==]'"
  | .unknownClass t => "invalid character class " ++ quoted (shownChars t)
  | .manyEqual t =>
    toText (shownChars t) ++ ": equivalence class operand must be a single character"
  | .count t => "invalid repeat count " ++ quoted (shownChars t) ++ " in [c*n] construct"
  | .endlessFirst => "the [c*] repeat construct may not appear in string1"
  | .endlessTwice => "only one [c*] repeat construct may appear in string2"
  | .endlessSecond => "the [c*] construct may appear in string2 only when translating"
  | .equalSecond => "[=c=] expressions may not appear in string2 when translating"
  | .classSecond =>
    "when translating, the only character classes that may appear in\n" ++
      "string2 are 'upper' and 'lower'"
  | .misaligned => "misaligned [:upper:] and/or [:lower:] construct"
  | .empty => "when not truncating set1, string2 must be non-empty"
  | .classAtEnd =>
    "when translating with string1 longer than string2,\n" ++
      "the latter string must not end with a character class"
  | .complemented =>
    "when translating with complemented character classes,\n" ++
      "string2 must map all characters in the domain to one"

/-! ## Reading -/

/-- A character that is written, and whether a backslash stood before it. -/
structure Sign where
  char : Char
  isEscaped : Bool

def Sign.is (s : Sign) (c : Char) : Bool := s.char = c && !s.isEscaped

/-- The signs of a text, and warnings. -/
def signsOf : (room : Nat) → Chars → List Sign × List String
  | 0, _ | _, [] => ([], [])
  | room + 1, '\\' :: rest =>
    let escaped (c : Char) (rest : Chars) (warnings : List String) : List Sign × List String :=
      let (signs, more) := signsOf room rest
      (⟨c, true⟩ :: signs, warnings ++ more)
    match rest with
    | [] =>
      ([⟨'\\', false⟩], ["warning: an unescaped backslash at end of string is not portable"])
    | 'a' :: rest => escaped '\x07' rest []
    | 'b' :: rest => escaped '\x08' rest []
    | 'f' :: rest => escaped '\x0c' rest []
    | 'n' :: rest => escaped '\n' rest []
    | 'r' :: rest => escaped '\r' rest []
    | 't' :: rest => escaped '\t' rest []
    | 'v' :: rest => escaped '\x0b' rest []
    | c :: rest =>
      let digits := ((c :: rest).take 3).takeWhile fun d => '0' ≤ d && d ≤ '7'
      let n := (Text.readNat? 8 digits).getD 0
      if digits.isEmpty then escaped c rest []
      else if n < 256 then escaped (Char.ofNat n) ((c :: rest).drop digits.length) []
      else
        let two := toText (digits.take 2)
        let third := toText (digits.drop 2)
        escaped (Char.ofNat (n / 8)) ((c :: rest).drop 2)
          ["warning: the ambiguous octal escape \\" ++ two ++ third ++
            " is being\n\tinterpreted as the 2-byte sequence \\0" ++ two ++ ", " ++ third]
  | room + 1, c :: rest =>
    let (signs, warnings) := signsOf room rest
    (⟨c, false⟩ :: signs, warnings)

/-- The characters of a class, in ascending order. -/
def classChars? (name : String) : Option Chars :=
  if name = "word" then none
  else (Text.charClass? name).map fun ranges =>
    ((List.range 256).map Char.ofNat).filter (Text.inRanges ranges)

/-- Takes signs up to a mark with a closing bracket behind it. -/
def takeClosed? (mark : Char) : List Sign → Option (Chars × List Sign)
  | [] => none
  | s :: rest =>
    match s.is mark, rest with
    | true, r :: more =>
      if r.is ']' then some ([], more)
      else (takeClosed? mark rest).map fun (t, left) => (s.char :: t, left)
    | _, _ => (takeClosed? mark rest).map fun (t, left) => (s.char :: t, left)

/-- Reads a character that is repeated so often, behind its opening bracket. -/
def readRepeated? : List Sign → Except Fault (Option (Element × List Sign))
  | c :: star :: rest =>
    if !star.is '*' then .ok none
    else
      let inner := rest.takeWhile fun s => !s.isEscaped && s.char ≠ ']'
      match rest.drop inner.length with
      | s :: more =>
        if !s.is ']' then .ok none
        else
          let digits := inner.map (·.char)
          if digits.isEmpty then .ok (some (.repeated c.char 0, more))
          else
            match Text.readNat? (if digits.head? = some '0' then 8 else 10) digits with
            | some n => .ok (some (.repeated c.char n, more))
            | none => .error (.count digits)
      | [] => .ok none
  | _ => .ok none

/-- Whether signs go on as a number of repetitions does. -/
def goesOnAsCount : List Sign → Bool
  | star :: rest =>
    star.is '*' &&
      ((rest.dropWhile fun s => s.char.isDigit && !s.isEscaped).head?.any (·.is ']'))
  | [] => false

/-- Reads a part between brackets, behind the opening one. -/
def readBracket? (signs : List Sign) : Except Fault (Option (Element × List Sign)) :=
  match signs with
  | m :: rest =>
    if m.is ':' || m.is '=' then
      match takeClosed? m.char rest with
      | none => readRepeated? signs
      | some ([], _) => .error (if m.char = ':' then .noClass else .noEqual)
      | some (t, more) =>
        if m.char = ':' then
          match classChars? (toText t) with
          | some members => .ok (some (.named (toText t) members, more))
          | none => if goesOnAsCount rest then readRepeated? signs else .error (.unknownClass t)
        else
          match t with
          | [c] => .ok (some (.equal c, more))
          | t => if goesOnAsCount rest then readRepeated? signs else .error (.manyEqual t)
    else readRepeated? signs
  | [] => .ok none

/-- Reads a list of characters. Less than three signs stand for themselves. -/
def readElements : (room : Nat) → List Sign → Except Fault (List Element)
  | 0, _ => .ok []
  | room + 1, signs =>
    match signs with
    | s :: next :: third :: rest => do
      let bracket ← if s.is '[' then readBracket? (next :: third :: rest) else .ok none
      match bracket with
      | some (e, more) => return e :: (← readElements room more)
      | none =>
        if next.is '-' then
          if third.char < s.char then throw (.backward s.char third.char)
          return .range s.char third.char :: (← readElements room rest)
        return .single s.char :: (← readElements room (next :: third :: rest))
    | few => .ok (few.map (Element.single ·.char))

/-! ## Using -/

/-- A character of a list: the class of capital or of small letters from which it is, and whether it
is the first one of its part. -/
structure Cell where
  char : Char
  case? : Option String
  isFirst : Bool

def Element.chars : Element → Chars
  | .single c | .equal c => [c]
  | .range c d => (List.range (d.toNat + 1 - c.toNat)).map fun i => Char.ofNat (c.toNat + i)
  | .named _ members => members
  | .repeated c n => List.replicate n c

def Element.isEndless : Element → Bool
  | .repeated _ 0 => true
  | _ => false

def Element.isNamed : Element → Bool
  | .named .. => true
  | _ => false

/-- The class of letters that can be exchanged for those of another case. -/
def Element.case? : Element → Option String
  | .named n _ => if n = "upper" || n = "lower" then some n else none
  | _ => none

def Element.cells (e : Element) : List Cell :=
  e.chars.mapIdx fun i c => ⟨c, e.case?, i = 0⟩

def charsOf (es : List Element) : Chars := es.flatMap Element.chars

/-- The cells behind the part that begins with the one before them. -/
def behindPart (cells : List Cell) : List Cell := cells.dropWhile (!·.isFirst)

/-- Whether classes of letters stand side by side in both lists. The answer has the lengths, where
each such class counts as one character. -/
def aligned : (room : Nat) → List Cell → List Cell → Nat × Nat → Except Fault (Nat × Nat)
  | 0, _, _, lengths => .ok lengths
  | room + 1, xs, ys, (n, m) =>
    match ys with
    | [] => .ok (n, m)
    | y :: ys =>
      let isMet := xs.head?.any fun x => x.isFirst && x.case?.isSome
      if y.isFirst && y.case?.isSome && !isMet then .error .misaligned
      else
        match xs with
        | [] => .ok (n, m)
        | _ :: xs =>
          if y.case?.isSome then aligned room (behindPart xs) (behindPart ys) (n - 25, m - 25)
          else aligned room xs ys (n, m)

/-- The second list with its endless part as long as is needed. -/
def settled (length : Nat) (es : List Element) : List Element :=
  let known := (charsOf es).length
  es.map fun
    | .repeated c 0 => .repeated c (length - known)
    | e => e

/-- The second list for an exchange, as long as the first one unless that is to be cut off. -/
def paired (complement truncates : Bool) (first second : List Element) :
    Except Fault (List Element) := do
  let length := if complement then 256 - (charsOf first).eraseDups.length
    else (charsOf first).length
  let second := settled length second
  if second.any fun | .equal _ => true | _ => false then throw .equalSecond
  if second.any fun e => e.isNamed && e.case?.isNone then throw .classSecond
  let xs := first.flatMap Element.cells
  let ys := second.flatMap Element.cells
  let (n, m) ←
    if complement || !second.any Element.isNamed then pure (length, ys.length)
    else aligned (xs.length + ys.length + 1) xs ys (length, ys.length)
  let second ←
    if n ≤ m || truncates then pure second
    else
      match second.getLast? with
      | none => throw .empty
      | some (.named ..) => throw .classAtEnd
      | some e =>
        if m = 0 then throw .empty
        pure (second ++ [.repeated (e.chars.getLastD ' ') (n - m)])
  let goals := charsOf second
  let isSame := goals.length = length && goals.all fun c => some c = goals.head?
  if complement && first.any Element.isNamed && !isSame then throw .complemented
  return second

/-- The exchanges of characters that two lists say. -/
def exchanges : (room : Nat) → List Cell → List Cell → List (Char × Char)
  | room + 1, x :: xs, y :: ys =>
    match x.case?, y.case? with
    | some "lower", some "upper" =>
      ((classChars? "lower").getD []).map (fun c => (c, c.toUpper)) ++
        exchanges room (behindPart xs) (behindPart ys)
    | some "upper", some "lower" =>
      ((classChars? "upper").getD []).map (fun c => (c, c.toLower)) ++
        exchanges room (behindPart xs) (behindPart ys)
    | _, _ => (x.char, y.char) :: exchanges room xs ys
  | _, _, _ => []

/-- The characters that stand for others, by the numbers of those. -/
def tableOf (pairs : List (Char × Char)) : Array Char :=
  pairs.foldl (fun t p => t.setIfInBounds p.1.toNat p.2) ((List.range 256).map Char.ofNat).toArray

/-- Keeps one of characters in a row that are the same and belong to a list. -/
def squeezed (members : Array Bool) (before : Option Char) : Chars → Chars × Option Char
  | [] => ([], before)
  | c :: cs =>
    let (rest, last) := squeezed members (some c) cs
    if before = some c && members.getD c.toNat false then (rest, last) else (c :: rest, last)

/-- Goes through all that can be read. -/
def stream (f : Option Char → Chars → Chars × Option Char) : Nat → Option Char → Run Unit
  | 0, _ => return
  | room + 1, before => do
    match ← Run.readSome 0 4096 with
    | .error _ | .ok [] => return
    | .ok text =>
      let (shown, before) := f before text
      match ← (if shown.isEmpty then pure (.ok ()) else Run.write 1 shown) with
      | .ok () => stream f room before
      | .error _ => return

end Translation

open Translation in
def tr : Program := fun c args =>
  withArguments c.name (.ofString "cCdst"
    ["complement|c", "delete|d", "squeeze-repeats|s", "truncate-set1|t"]) 1 true args fun a => do
    let usage (message : String) : Run Nat := do
      Run.complain (c.name ++ ": " ++ message)
      pointToHelp c.name 1
    let complement := a.has "c" || a.has "C"
    let deletes := a.has "d"
    let squeezes := a.has "s"
    let least : Nat := if deletes == squeezes then 2 else 1
    let most : Nat := if deletes && !squeezes then 1 else 2
    let count := a.operands.length
    let last := a.operands.getLastD []
    if count < least then
      if count = 0 then return ← usage "missing operand"
      Run.complain (c.name ++ ": missing operand after " ++ cited last)
      Run.complain (if squeezes then
          "Two strings must be given when both deleting and squeezing repeats."
        else "Two strings must be given when translating.")
      return ← pointToHelp c.name 1
    if most < count then
      Run.complain (c.name ++ ": extra operand " ++ cited (a.operands.getD most []))
      if count = 2 then
        Run.complain "Only one string may be given when deleting without squeezing repeats."
      return ← pointToHelp c.name 1
    let (signs, warnings) := signsOf ((a.operands.headD []).length + 1) (a.operands.headD [])
    for w in warnings do Run.complain (c.name ++ ": " ++ w)
    let fail (f : Fault) : Run Nat := complain c.name f.message
    match readElements (signs.length + 1) signs with
    | .error f => fail f
    | .ok first =>
      let written := a.operands.getD 1 []
      let (signs, warnings) := signsOf (written.length + 1) written
      for w in warnings do Run.complain (c.name ++ ": " ++ w)
      match readElements (signs.length + 1) signs with
      | .error f => fail f
      | .ok second =>
        if first.any Element.isEndless then return ← fail .endlessFirst
        if 1 < (second.filter Element.isEndless).length then return ← fail .endlessTwice
        let everything := (List.range 256).map Char.ofNat
        let inFirst := charsOf first
        let sources := if complement then everything.filter (!inFirst.contains ·) else inFirst
        let members (cs : Chars) : Array Bool :=
          cs.foldl (fun t c => t.setIfInBounds c.toNat true) (Array.replicate 256 false)
        let isIn (t : Array Bool) (ch : Char) : Bool := t.getD ch.toNat false
        if deletes || count = 1 then
          if second.any Element.isEndless then return ← fail .endlessSecond
          let dropped := members (if deletes then sources else [])
          let squeezing := members (if deletes then charsOf second else sources)
          stream (fun before text =>
            let text := if deletes then text.filter (!isIn dropped ·) else text
            if squeezes then squeezed squeezing before text else (text, before)) maxLines none
          return 0
        match paired complement (a.has "t") first second with
        | .error f => fail f
        | .ok second =>
          let goals := charsOf second
          let pairs := if complement then sources.zip goals
            else
              exchanges (sources.length + 1) (first.flatMap Element.cells)
                (second.flatMap Element.cells)
          let table := tableOf pairs
          let squeezing := members goals
          stream (fun before text =>
            let text := text.map fun ch => table.getD ch.toNat ch
            if squeezes then squeezed squeezing before text else (text, before)) maxLines none
          return 0

end Provision.Program
