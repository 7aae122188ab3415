import Provision.Shell.Script
import Provision.Text.CharClass

namespace Provision.Shell

/-- A character with the mark whether it is quoted. -/
abbrev Marked := Char × Bool

/-- What one place of a pattern stands for. A group stands for one of its alternatives, for none of
them, or for several one after the other, as its sign says. -/
inductive Glyph
  | exact (c : Char)
  | one
  | any
  | set (negated : Bool) (ranges : Text.Ranges)
  | group (sign : Char) (alternatives : List (List Glyph))

abbrev Pattern := List Glyph

/-- Reads a named class or a single character behind its opening bracket, with the number of
characters of it. -/
def namedClass? (cs : Chars) : Option (Text.Ranges × Nat) :=
  match cs with
  | ':' :: rest =>
    let name := rest.takeWhile Char.isAlpha
    match rest.drop name.length with
    | ':' :: ']' :: _ => (Text.charClass? (String.ofList name)).map (·, name.length + 3)
    | _ => none
  | '=' :: c :: '=' :: ']' :: _ => some ([(c, c)], 4)
  | '.' :: c :: '.' :: ']' :: _ => some ([(c, c)], 4)
  | _ => none

/-- Reads the ranges of a set up to its closing bracket, with what follows. The closing bracket
stands for itself at the start, as quoted characters do everywhere. -/
def readRanges (atStart : Bool) : (room : Nat) → List Marked →
    Option (Text.Ranges × List Marked)
  | 0, _ => none
  | room + 1, cs =>
    match cs with
    | [] => none
    | (c, quoted) :: rest =>
      if c = ']' ∧ !atStart ∧ !quoted then some ([], rest)
      else
        match (if c = '[' ∧ !quoted then namedClass? (rest.map (·.1)) else none) with
        | some (ranges, n) =>
          (readRanges false room (rest.drop n)).map fun (more, rest) => (ranges ++ more, rest)
        | none =>
          match rest with
          | ('-', false) :: (d, isQuoted) :: rest' =>
            if d = ']' ∧ !isQuoted then
              (readRanges false room rest).map fun (more, rest) => ((c, c) :: more, rest)
            else (readRanges false room rest').map fun (more, rest) => ((c, d) :: more, rest)
          | _ => (readRanges false room rest).map fun (more, rest) => ((c, c) :: more, rest)

/-- Reads a set behind its opening bracket. -/
def readSet (cs : List Marked) : Option (Bool × Text.Ranges × List Marked) :=
  match cs with
  | ('!', false) :: rest | ('^', false) :: rest =>
    (readRanges true (rest.length + 1) rest).map fun (ranges, rest) => (true, ranges, rest)
  | _ => (readRanges true (cs.length + 1) cs).map fun (ranges, rest) => (false, ranges, rest)

namespace Pattern

/-- The alternatives of a group behind its opening parenthesis, up to the closing one, and what
follows that. -/
def alternatives : (depth : Nat) → (present : List Marked) → List Marked →
    Option (List (List Marked) × List Marked)
  | _, _, [] => none
  | depth, present, m :: rest =>
    match m, depth with
    | (')', false), 0 => some ([present.reverse], rest)
    | ('|', false), 0 =>
      (alternatives 0 [] rest).map fun (more, rest) => (present.reverse :: more, rest)
    | (')', false), depth + 1 => alternatives depth (m :: present) rest
    | ('(', false), depth => alternatives (depth + 1) (m :: present) rest
    | _, depth => alternatives depth (m :: present) rest

/-- Reads a pattern. Quoted characters stand for themselves. -/
def ofMarkedWithin (extended : Bool) : Nat → List Marked → Pattern
  | 0, _ => []
  | _ + 1, [] => []
  | room + 1, (c, quoted) :: rest =>
    let plain : Pattern :=
      if quoted then .exact c :: ofMarkedWithin extended room rest
      else if c = '\\' then
        match rest with
        | (d, _) :: after => .exact d :: ofMarkedWithin extended room after
        | [] => [.exact c]
      else if c = '*' then .any :: ofMarkedWithin extended room rest
      else if c = '?' then .one :: ofMarkedWithin extended room rest
      else if c = '[' then
        match readSet rest with
        | some (negated, ranges, after) =>
          .set negated ranges :: ofMarkedWithin extended room after
        | none => .exact c :: ofMarkedWithin extended room rest
      else .exact c :: ofMarkedWithin extended room rest
    match rest with
    | ('(', false) :: inside =>
      if extended ∧ !quoted ∧ "?*+@!".toList.contains c then
        match alternatives 0 [] inside with
        | some (choices, after) =>
          .group c (choices.map (ofMarkedWithin extended room)) ::
            ofMarkedWithin extended room after
        | none => plain
      else plain
    | _ => plain

def ofMarked (extended : Bool) (cs : List Marked) : Pattern :=
  ofMarkedWithin extended (cs.length + 1) cs

/-- The pattern that a text fits alone. -/
def ofChars (cs : Chars) : Pattern := cs.map .exact

/-- The text of a pattern that is no more than a text. -/
def literal (p : Pattern) : Chars :=
  p.filterMap fun
    | .exact c => some c
    | _ => none

/-- Whether a pattern is more than a text. -/
def isOpen (p : Pattern) : Bool :=
  p.any fun
    | .exact _ => false
    | _ => true

/-- The ends of a text, the longest first. -/
def tails : Chars → List Chars
  | [] => [[]]
  | c :: cs => (c :: cs) :: tails cs

/-- Does something with what several rounds leave of a text, of which each takes some. -/
def rounds (one : Chars → (Chars → Bool) → Bool) (goOn : Chars → Bool) : Nat → Chars → Bool
  | 0, cs => goOn cs
  | room + 1, cs =>
    goOn cs || one cs fun rest => rest.length < cs.length && rounds one goOn room rest

mutual

/-- Whether the beginning of a text fits, so that `goOn` holds for the rest of it. -/
def fitsGlyph (fold : Bool) (goOn : Chars → Bool) : Glyph → Chars → Bool
  | .any, cs => (tails cs).any goOn
  | .exact d, c :: cs => (c = d || (fold && Text.otherCase c = d)) && goOn cs
  | .one, _ :: cs => goOn cs
  | .set negated ranges, c :: cs =>
    (Text.inRanges ranges c || (fold && Text.inRanges ranges (Text.otherCase c))) != negated && goOn cs
  | .group sign choices, cs =>
    let one (cs : Chars) (goOn : Chars → Bool) : Bool := fitsChoices fold goOn choices cs
    if sign = '@' then one cs goOn
    else if sign = '?' then goOn cs || one cs goOn
    else if sign = '*' then rounds one goOn cs.length cs
    else if sign = '+' then one cs fun rest => rounds one goOn rest.length rest
    else
      (tails cs).any fun rest =>
        goOn rest && !(one (cs.take (cs.length - rest.length)) List.isEmpty)
  | _, [] => false

def fitsAll (fold : Bool) (goOn : Chars → Bool) : List Glyph → Chars → Bool
  | [], cs => goOn cs
  | g :: p, cs => fitsGlyph fold (fitsAll fold goOn p) g cs

def fitsChoices (fold : Bool) (goOn : Chars → Bool) : List (List Glyph) → Chars → Bool
  | [], _ => false
  | p :: ps, cs => fitsAll fold goOn p cs || fitsChoices fold goOn ps cs

end

/-- Whether a pattern fits a whole text, where letters of both cases can be the same. -/
def fitsWith (p : Pattern) (fold : Bool) (cs : Chars) : Bool := fitsAll fold List.isEmpty p cs

/-- Whether a pattern fits a whole text. -/
def fits (p : Pattern) (cs : Chars) : Bool := p.fitsWith false cs

/-- The lengths at which a text can be cut, in ascending order. -/
def cuts (cs : Chars) : List Nat := List.range (cs.length + 1)

/-- Takes what fits off one end of a text. -/
def trim (p : Pattern) (side : Side) (longest : Bool) (cs : Chars) : Chars :=
  match side with
  | .front =>
    let order := if longest then (cuts cs).reverse else cuts cs
    match order.find? fun n => p.fits (cs.take n) with
    | some n => cs.drop n
    | none => cs
  | .back =>
    let order := if longest then cuts cs else (cuts cs).reverse
    match order.find? fun n => p.fits (cs.drop n) with
    | some n => cs.take n
    | none => cs

/-- How many characters a pattern takes, if that is the same for all texts. -/
def width? : Pattern → Option Nat
  | [] => some 0
  | .any :: _ | .group .. :: _ => none
  | _ :: p => (width? p).map (· + 1)

/-- The length of the longest beginning that fits. -/
def longest? (p : Pattern) (fold : Bool) (cs : Chars) : Option Nat :=
  match p.width? with
  | some n => if p.fitsWith fold (cs.take n) then some n else none
  | none => (cuts cs).reverse.find? fun n => p.fitsWith fold (cs.take n)

/-- Replaces what fits, each time the longest text, and only the first time if not all is asked
for. -/
def replace (p : Pattern) (fold all : Bool) (by' : Chars → Chars) : Nat → Chars → Chars
  | 0, cs => cs
  | _ + 1, [] => []
  | room + 1, c :: cs =>
    match p.longest? fold (c :: cs) with
    | some (n + 1) =>
      let rest := (c :: cs).drop (n + 1)
      by' ((c :: cs).take (n + 1)) ++ if all then replace p fold all by' room rest else rest
    | _ => c :: replace p fold all by' room cs

/-- Replaces what fits at one end of a text. -/
def replaceAt (p : Pattern) (fold : Bool) (side : Side) (by' : Chars → Chars) (cs : Chars) :
    Chars :=
  match side with
  | .front =>
    match p.longest? fold cs with
    | some n => by' (cs.take n) ++ cs.drop n
    | none => cs
  | .back =>
    match (cuts cs).find? fun n => p.fitsWith fold (cs.drop n) with
    | some n => cs.take n ++ by' (cs.drop n)
    | none => cs

end Pattern

end Provision.Shell
