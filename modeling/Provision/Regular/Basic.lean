import Provision.Text.CharClass
import Provision.Text.Utf8

/-!
Regular expressions and where they fit. The ends that an expression can reach from a set of places
are found for the whole set at once, so that a match is the longest of those that begin first, and
the groups in it are found again from its two ends.
-/

namespace Provision

/-- A condition on a place between two characters. -/
inductive Edge
  | start
  | finish
  | wordStart
  | wordEnd
  | wordEdge
  | noWordEdge
  | noWordBefore
  | noWordBehind
  | lineStart
  | lineEnd
  deriving DecidableEq, Repr

/-- A regular expression. -/
inductive Regular
  | empty
  | set (negated : Bool) (ranges : Text.Ranges)
  | edge (e : Edge)
  | group (n : Nat) (r : Regular)
  | back (n : Nat)
  | sequence (r s : Regular)
  | either (r s : Regular)
  | times (low : Nat) (high : Option Nat) (r : Regular)
  deriving DecidableEq, Repr

/-- The text in which an expression is looked for, and whether letters of both cases are the
same. -/
structure Subject where
  text : Array Char
  fold : Bool

namespace Subject

def ofChars (fold : Bool) (cs : Chars) : Subject := ⟨cs.toArray, fold⟩

def isWordAt (x : Subject) (i : Nat) : Bool := (x.text[i]?).any (Text.inRanges Text.wordRanges)

/-- Whether a condition holds at a place. -/
def holds (x : Subject) (i : Nat) (e : Edge) : Bool :=
  let before := i ≠ 0 && x.isWordAt (i - 1)
  let behind := x.isWordAt i
  match e with
  | .start => i = 0
  | .finish => i = x.text.size
  | .wordStart => !before && behind
  | .wordEnd => before && !behind
  | .wordEdge => before != behind
  | .noWordEdge => before == behind
  | .noWordBefore => !before
  | .noWordBehind => !behind
  | .lineStart => i = 0 || x.text[i - 1]? = some '\n'
  | .lineEnd => i = x.text.size || x.text[i]? = some '\n'

/-- Whether a character at a place is in a set. -/
def fits (x : Subject) (negated : Bool) (ranges : Text.Ranges) (i : Nat) : Bool :=
  match x.text[i]? with
  | none => false
  | some c =>
    (Text.inRanges ranges c || (x.fold && Text.inRanges ranges (Text.otherCase c))) != negated

/-- A part of the text. -/
def part (x : Subject) (i j : Nat) : Chars := (x.text.extract i j).toList

/-- Whether a part of the text stands at a place again. -/
def repeatsAt (x : Subject) (i j at' : Nat) : Bool :=
  let same (c d : Char) : Bool := c == d || (x.fold && Text.otherCase c == d)
  let again := x.part at' (at' + (j - i))
  again.length = j - i && ((x.part i j).zip again).all fun (c, d) => same c d

end Subject

/-- Places in a text in ascending order. -/
abbrev Places := List Nat

namespace Places

def union : Places → Places → Places
  | [], qs => qs
  | ps, [] => ps
  | p :: ps, q :: qs =>
    if p < q then p :: union ps (q :: qs)
    else if q < p then q :: union (p :: ps) qs
    else p :: union ps qs

def without : Places → Places → Places
  | [], _ => []
  | ps, [] => ps
  | p :: ps, q :: qs =>
    if p < q then p :: without ps (q :: qs)
    else if q < p then without (p :: ps) qs
    else without ps qs

/-- All places that are reached by up to so many steps. -/
def closure (f : Places → Places) : Nat → (seen last : Places) → Places
  | 0, seen, _ => seen
  | n + 1, seen, last =>
    let new := (f last).without seen
    if new.isEmpty then seen else closure f n (seen.union new) new

/-- The places that are reached by so many steps. -/
def steps (f : Places → Places) : Nat → Places → Places
  | 0, ps => ps
  | n + 1, ps => if ps.isEmpty then [] else steps f n (f ps)

end Places

namespace Regular

/-- Places from one on as long as the characters there fit. -/
def runFrom (fits : Nat → Bool) : Nat → Nat → Places
  | 0, i => [i]
  | room + 1, i => if fits i then i :: runFrom fits room (i + 1) else [i]

/-- The places that are reached from some by characters that fit. -/
def runs (fits : Nat → Bool) (size : Nat) : (covered : Nat) → Places → Places
  | _, [] => []
  | covered, p :: ps =>
    if p < covered then runs fits size covered ps
    else
      let found := runFrom fits (size - p) p
      found ++ runs fits size (p + found.length) ps

/-- The ends of the texts that begin at one of some places and fit. -/
def reach (x : Subject) : Regular → Places → Places
  | .empty, ps => ps
  | .set negated ranges, ps => (ps.filter (x.fits negated ranges)).map (· + 1)
  | .edge e, ps => ps.filter (x.holds · e)
  | .group _ r, ps => reach x r ps
  | .back _, _ => []
  | .sequence r s, ps =>
    let middle := reach x r ps
    if middle.isEmpty then [] else reach x s middle
  | .either r s, ps => (reach x r ps).union (reach x s ps)
  | .times low high r, ps =>
    match low, high, r with
    | 0, none, .set negated ranges => runs (x.fits negated ranges) x.text.size 0 ps
    | _, _, _ =>
      let first := Places.steps (reach x r) low ps
      let more := match high with
        | none => x.text.size + 1
        | some high => high - low
      Places.closure (reach x r) more first first

/-- Where a match is, and where its groups are. -/
structure Match where
  start : Nat
  stop : Nat
  groups : List (Nat × Nat × Nat)
  deriving DecidableEq, Repr

namespace Match

/-- The place of a group, of which the whole match is the one of number zero. -/
def group? (m : Match) (n : Nat) : Option (Nat × Nat) :=
  if n = 0 then some (m.start, m.stop) else (m.groups.find? (·.1 = n)).map (·.2)

/-- The text of a group. -/
def text (m : Match) (x : Subject) (n : Nat) : Chars :=
  match m.group? n with
  | some (i, j) => x.part i j
  | none => []

end Match

/-- The groups of a repeated expression between two places: those of the last round. -/
def roundGroups (one rest : Nat → Places) (inner : Nat → Nat → List (Nat × Nat × Nat))
    (goal : Nat) : Nat → Nat → List (Nat × Nat × Nat)
  | 0, _ => []
  | room + 1, i =>
    match (one i).reverse.find? fun k => i < k && (rest k).contains goal with
    | none => if i = goal && (one i).contains i then inner i i else []
    | some k => if k = goal then inner i k else roundGroups one rest inner goal room k

/-- The groups of a match between two places. -/
def groups (x : Subject) : Regular → Nat → Nat → List (Nat × Nat × Nat)
  | .group n r, i, j => (n, i, j) :: groups x r i j
  | .sequence r s, i, j =>
    match (reach x r [i]).reverse.find? fun k => (reach x s [k]).contains j with
    | some k => groups x r i k ++ groups x s k j
    | none => []
  | .either r s, i, j => if (reach x r [i]).contains j then groups x r i j else groups x s i j
  | .times _ _ r, i, j =>
    let rest := fun (k : Nat) => reach x (.times 0 none r) [k]
    roundGroups (fun k => reach x r [k]) rest (groups x r) j (j - i + 1) i
  | _, _, _ => []

/-! ## Back references -/

/-- Whether an expression refers back to one of its groups. -/
def refersBack : Regular → Bool
  | .back _ => true
  | .group _ r | .times _ _ r => r.refersBack
  | .sequence r s | .either r s => r.refersBack || s.refersBack
  | _ => false

/-- Repeats a step as often as it can be done, and then goes on. -/
def repeatWith {α : Type} (one : Nat → List (Nat × Nat × Nat) →
      (Nat → List (Nat × Nat × Nat) → Option α) → Option α)
    (low : Nat) (goOn : Nat → List (Nat × Nat × Nat) → Option α) :
    (room count : Nat) → Nat → List (Nat × Nat × Nat) → Option α
  | 0, _, i, found => goOn i found
  | room + 1, count, i, found =>
    let more := one i found fun j found =>
      if j = i && low ≤ count then none else repeatWith one low goOn room (count + 1) j found
    match more with
    | some a => some a
    | none => if low ≤ count then goOn i found else none

/-- Looks for a way through an expression, from which one can go on. -/
def search {α : Type} (x : Subject) : Regular → Nat → List (Nat × Nat × Nat) →
    (Nat → List (Nat × Nat × Nat) → Option α) → Option α
  | .empty, i, found, goOn => goOn i found
  | .set negated ranges, i, found, goOn =>
    if x.fits negated ranges i then goOn (i + 1) found else none
  | .edge e, i, found, goOn => if x.holds i e then goOn i found else none
  | .group n r, i, found, goOn => search x r i found fun j found => goOn j ((n, i, j) :: found)
  | .back n, i, found, goOn =>
    match found.find? (·.1 = n) with
    | none => none
    | some (_, j, k) => if x.repeatsAt j k i then goOn (i + (k - j)) found else none
  | .sequence r s, i, found, goOn =>
    search x r i found fun j found => search x s j found goOn
  | .either r s, i, found, goOn =>
    match search x r i found goOn with
    | some a => some a
    | none => search x s i found goOn
  | .times low high r, i, found, goOn =>
    repeatWith (search x r) low goOn (high.getD (x.text.size + low + 1)) 0 i found

/-! ## Matches -/

/-- The longest match at a place. -/
def matchAt? (r : Regular) (x : Subject) (i : Nat) : Option Match :=
  if r.refersBack then search x r i [] fun j found => some ⟨i, j, found⟩
  else
    match (reach x r [i]).getLast? with
    | some j => some ⟨i, j, r.groups x i j⟩
    | none => none

/-- The first match from a place on. -/
def find? (r : Regular) (x : Subject) : (room start : Nat) → Option Match
  | 0, i => r.matchAt? x i
  | room + 1, i =>
    match r.matchAt? x i with
    | some m => some m
    | none => find? r x room (i + 1)

/-- The first match in a text from a place on. -/
def findFrom (r : Regular) (x : Subject) (i : Nat) : Option Match :=
  if x.text.size < i then none else r.find? x (x.text.size - i) i

/-- Whether some part of a text fits. -/
def finds (r : Regular) (x : Subject) : Bool :=
  if r.refersBack then (r.findFrom x 0).isSome
  else !(reach x r (List.range (x.text.size + 1))).isEmpty

/-- Whether a text as a whole fits. -/
def fitsWhole (r : Regular) (x : Subject) : Bool :=
  (Regular.sequence r (.edge .finish)).matchAt? x 0 |>.isSome

/-- An expression for one text. -/
def ofLiteral (cs : Chars) : Regular :=
  (cs.map fun c => Regular.set false [(c, c)]).foldr .sequence .empty

/-- How many groups an expression has. -/
def groupCount : Regular → Nat
  | .group _ r => r.groupCount + 1
  | .times _ _ r => r.groupCount
  | .sequence r s | .either r s => r.groupCount + s.groupCount
  | _ => 0

end Regular

end Provision
