import Provision.Difference.Basic
import Provision.Text.Utf8
import Std.Data.HashMap

/-!
The lines of two texts, the changes between them, and the ways in which these are written.
-/

namespace Provision.Difference

open Bytes (ofText)

/-- Two texts as lines with what ends them, and the changes between them, each with whether it
counts. -/
structure Page where
  left : Array Chars
  right : Array Chars
  changes : List (Change × Bool)

/-- What makes no difference between lines. -/
structure Tolerance where
  folds : Bool := false
  spaceAmounts : Bool := false
  allSpace : Bool := false
  trailingSpace : Bool := false
  tabs : Bool := false
  returns : Bool := false
  blankLines : Bool := false
  ignored : List (Chars → Bool) := []

/-- The lines of a text, of which the last one may have no end. -/
def linesOf (t : Chars) : Array Chars :=
  let parts := t.splitOn '\n'
  let last := parts.getLastD []
  (parts.dropLast.map (· ++ ['\n']) ++ if last.isEmpty then [] else [last]).toArray

/-- A line without its end. -/
def bare (l : Chars) : Chars := if l.getLast? = some '\n' then l.dropLast else l

def isSpace (c : Char) : Bool := c = ' ' || ('\t' ≤ c && c ≤ '\r')

/-- A line whose runs of spaces are single ones. -/
def squeezed : Chars → Chars
  | [] => []
  | [c] => if isSpace c then [' '] else [c]
  | c :: d :: rest =>
    if isSpace c then if isSpace d then squeezed (d :: rest) else ' ' :: squeezed (d :: rest)
    else c :: squeezed (d :: rest)

/-- A line with spaces for its tabs. -/
def untabbed : (column : Nat) → Chars → Chars
  | _, [] => []
  | column, '\t' :: rest =>
    let next := column / 8 * 8 + 8
    List.replicate (next - column) ' ' ++ untabbed next rest
  | column, c :: rest => c :: untabbed (column + 1) rest

def trimmed (l : Chars) : Chars := (l.reverse.dropWhile isSpace).reverse

/-- What counts of a line. -/
def Tolerance.key (o : Tolerance) (l : Chars) : Chars :=
  let l := if o.returns && l.reverse.take 2 = ['\n', '\r'] then l.dropLast.dropLast ++ ['\n'] else l
  let l := if o.tabs then untabbed 0 l else l
  let l := if o.allSpace then l.filter (!isSpace ·)
    else if o.spaceAmounts then trimmed (squeezed l)
    else if o.trailingSpace then trimmed l
    else l
  if o.folds then l.map Char.toLower else l

/-- Gives each line a number, equal ones the same. -/
def number (o : Tolerance) (known : Std.HashMap String Nat) (ls : Array Chars) :
    Array Nat × Std.HashMap String Nat :=
  ls.foldl (fun (ns, known) l =>
    let k := String.ofList (o.key l)
    match known[k]? with
    | some n => (ns.push n, known)
    | none => (ns.push known.size, known.insert k known.size)) (#[], known)

/-- Whether a line does not count for itself. -/
def Tolerance.passesOver (o : Tolerance) (l : Chars) : Bool :=
  let rest := if o.allSpace || o.spaceAmounts || o.trailingSpace then trimmed l else bare l
  (o.blankLines && rest.isEmpty) || o.ignored.any (· (bare l))

/-- The lines of both texts and what differs. -/
def Page.ofTexts (o : Tolerance) (horizon : Nat) (left right : Chars) : Page :=
  let ls := linesOf left
  let rs := linesOf right
  let (xs, known) := number o {} ls
  let (ys, known) := number o known rs
  let judge (c : Change) : Change × Bool :=
    let all := (ls.extract c.leftStart (c.leftStart + c.leftCount)).toList ++
      (rs.extract c.rightStart (c.rightStart + c.rightCount)).toList
    (c, !all.all o.passesOver)
  ⟨ls, rs, (Difference.changes known.size horizon xs ys).map judge⟩

namespace Page

/-- Whether there is a change that counts. -/
def differs (p : Page) : Bool := p.changes.any (·.2)

def digits (n : Nat) : Chars := Nat.toDigits 10 n

/-- A line behind its mark. If it has no end, that is told. -/
def marked (mark : String) (l : Chars) : Chars :=
  mark.toList ++ l ++
    if l.getLast? = some '\n' then [] else "\n\\ No newline at end of file\n".toList

def part (ls : Array Chars) (start count : Nat) : List Chars :=
  (ls.extract start (start + count)).toList

/-- The numbers of the first and the last line of a part, or that of the line before it. -/
def span (start count : Nat) : Chars :=
  if count = 0 then digits start
  else if count = 1 then digits (start + 1)
  else digits (start + 1) ++ ',' :: digits (start + count)

def letter (c : Change) : Char :=
  if c.leftCount = 0 then 'a' else if c.rightCount = 0 then 'd' else 'c'

/-- Each change with the lines of both texts. -/
def plain (p : Page) (gap : String) : Chars :=
  (p.changes.filter (·.2)).flatMap fun (c, _) =>
    span c.leftStart c.leftCount ++ letter c :: span c.rightStart c.rightCount ++ ['\n'] ++
      (part p.left c.leftStart c.leftCount).flatMap (marked ("<" ++ gap)) ++
      (if letter c = 'c' then "---\n".toList else []) ++
      (part p.right c.rightStart c.rightCount).flatMap (marked (">" ++ gap))

/-- Commands for a line editor, from the last change to the first. -/
def script (p : Page) : Chars :=
  (p.changes.filter (·.2)).reverse.flatMap fun (c, _) =>
    let lines := part p.right c.rightStart c.rightCount
    span c.leftStart c.leftCount ++ [letter c, '\n'] ++
      if lines.isEmpty then [] else lines.flatMap (fun l => bare l ++ ['\n']) ++ ['.', '\n']

/-- Changes with the numbers of lines. -/
def numbered (p : Page) : Chars :=
  (p.changes.filter (·.2)).flatMap fun (c, _) =>
    (if c.leftCount = 0 then []
      else 'd' :: digits (c.leftStart + 1) ++ ' ' :: digits c.leftCount ++ ['\n']) ++
    (if c.rightCount = 0 then []
      else 'a' :: digits (c.leftStart + c.leftCount) ++ ' ' :: digits c.rightCount ++ ['\n'] ++
        (part p.right c.rightStart c.rightCount).flatten)

/-- Puts changes together that are so close that what stands around them would touch. -/
def hunks (context : Nat) : List (Change × Bool) → List (List (Change × Bool))
  | [] => []
  | c :: rest =>
    match hunks context rest with
    | (d :: ds) :: more =>
      let least := if c.2 && d.2 then 2 * context + 1 else context
      if d.1.leftStart - (c.1.leftStart + c.1.leftCount) < least then (c :: d :: ds) :: more
      else [c] :: (d :: ds) :: more
    | more => [c] :: more

/-- The parts of both texts that a hunk shows. -/
structure Shown where
  leftStart : Nat
  leftEnd : Nat
  rightStart : Nat
  rightEnd : Nat

def shown? (p : Page) (context : Nat) (h : List (Change × Bool)) : Option Shown := do
  let (first, _) ← h.head?
  let (last, _) ← h.getLast?
  let before := min context (min first.leftStart first.rightStart)
  let leftEnd := last.leftStart + last.leftCount
  let rightEnd := last.rightStart + last.rightCount
  let after := min context (min (p.left.size - leftEnd) (p.right.size - rightEnd))
  return ⟨first.leftStart - before, leftEnd + after, first.rightStart - before, rightEnd + after⟩

/-- The last line before a place that fits, which heads what follows. -/
def heading (heads : Option (Chars → Bool)) (p : Page) (start : Nat) : Chars :=
  match heads with
  | none => []
  | some fits =>
    match ((p.left.extract 0 start).toList.reverse.map bare).find? fits with
    | some l => ' ' :: trimmed ((l.dropWhile isSpace).take 40)
    | none => []

/-- Changes with the lines around them, in one piece. -/
def unified (p : Page) (context : Nat) (heads : Option (Chars → Bool)) : Chars :=
  (hunks context p.changes).flatMap fun h =>
    if !h.any (·.2) then []
    else
      match p.shown? context h with
      | none => []
      | some s =>
        let range (start stop : Nat) : Chars :=
          if stop = start then digits start ++ ",0".toList
          else if stop = start + 1 then digits stop
          else digits (start + 1) ++ ',' :: digits (stop - start)
        let (body, place) := h.foldl (fun (t, at') (c, _) =>
          (t ++ (part p.left at' (c.leftStart - at')).flatMap (marked " ") ++
            (part p.left c.leftStart c.leftCount).flatMap (marked "-") ++
            (part p.right c.rightStart c.rightCount).flatMap (marked "+"),
            c.leftStart + c.leftCount)) (([] : Chars), s.leftStart)
        "@@ -".toList ++ range s.leftStart s.leftEnd ++ " +".toList ++
          range s.rightStart s.rightEnd ++ " @@".toList ++ heading heads p s.leftStart ++ ['\n'] ++
          body ++ (part p.left place (s.leftEnd - place)).flatMap (marked " ")

/-- Changes with the lines around them, first those of one text, then those of the other. -/
def contextual (p : Page) (context : Nat) (heads : Option (Chars → Bool)) : Chars :=
  (hunks context p.changes).flatMap fun h =>
    if !h.any (·.2) then []
    else
      match p.shown? context h with
      | none => []
      | some s =>
        let range (start stop : Nat) : Chars :=
          if stop ≤ start + 1 then digits stop else digits (start + 1) ++ ',' :: digits stop
        let side (ls : Array Chars) (start stop : Nat) (pick : Change → Nat × Nat) (alone : String) :
            Chars :=
          (List.range (stop - start)).flatMap fun k =>
            let i := start + k
            let mark := match h.find? fun (c, _) => (pick c).1 ≤ i && i < (pick c).1 + (pick c).2 with
              | some (c, _) => if letter c = 'c' then "! " else alone
              | none => "  "
            marked mark (ls.getD i [])
        "***************".toList ++ heading heads p s.leftStart ++ "\n*** ".toList ++
          range s.leftStart s.leftEnd ++ " ****\n".toList ++
          (if h.any (·.1.leftCount ≠ 0) then
            side p.left s.leftStart s.leftEnd (fun c => (c.leftStart, c.leftCount)) "- " else []) ++
          "--- ".toList ++ range s.rightStart s.rightEnd ++ " ----\n".toList ++
          (if h.any (·.1.rightCount ≠ 0) then
            side p.right s.rightStart s.rightEnd (fun c => (c.rightStart, c.rightCount)) "+ "
          else [])

/-! ## Side by side -/

/-- How wide both sides are, and where the second one begins. -/
structure Columns where
  half : Nat
  second : Nat
  tabs : Bool

def Columns.ofWidth (width : Nat) (tabs : Bool) : Columns :=
  let t := if tabs then 8 else 1
  let gutter := t + 3
  let off := width / 2 + gutter / 2 + (if width % 2 = 1 && gutter % 2 = 1 then 1 else 0)
  let off := off - off % t
  let half := min (off - 3) (width - off)
  ⟨half, if half = 0 then width else off, tabs⟩

/-- The way from a column to another one. -/
def gap (k : Columns) : (room start goal : Nat) → Chars
  | 0, _, _ => []
  | room + 1, start, goal =>
    let next := start + 8 - start % 8
    if k.tabs && next ≤ goal then '\t' :: gap k room next goal
    else List.replicate (goal - start) ' '

/-- As much of a line as fits, and the column behind it. -/
def halfLine (k : Columns) (indent : Nat) : (column : Nat) → Chars → Chars × Nat
  | column, [] => ([], column)
  | column, c :: rest =>
    if c = '\t' then
      let next := column + 8 - column % 8
      if k.half < next then ([], column)
      else
        let (t, stop) := halfLine k indent next rest
        ((if k.tabs then ['\t'] else List.replicate (next - column) ' ') ++ t, stop)
    else if column < k.half then
      let (t, stop) := halfLine k indent (column + 1) rest
      (c :: t, stop)
    else ([], column)

/-- A line of both sides with what is between them. -/
def beside (k : Columns) (left : Option Chars) (mark : Char) (right : Option Chars) : Chars :=
  let isEnded (l : Chars) : Bool := l.getLast? = some '\n'
  let (start, column) := match left with
    | some l => halfLine k 0 0 (bare l)
    | none => ([], 0)
  let mark := match mark, left, right with
    | '|', some l, some r =>
      if isEnded l = isEnded r then '|' else if isEnded l then '/' else '\\'
    | m, _, _ => m
  let (between, column) :=
    if mark = ' ' then ([], column)
    else
      let goal := (k.half + k.second - 1) / 2
      (gap k (goal + 1) column goal ++ [mark], max column goal + 1)
  let ending := match right with
    | some r =>
      if (bare r).isEmpty then []
      else gap k (k.second + 1) column k.second ++ (halfLine k k.second 0 (bare r)).1
    | none => []
  start ++ between ++ ending ++ if left.any isEnded || right.any isEnded then ['\n'] else []

/-- Both texts side by side. -/
def sides (p : Page) (width : Nat) (tabs onlyChanges leftOnly : Bool) : Chars :=
  let k := Columns.ofWidth width tabs
  let common (start other count : Nat) : Chars :=
    if onlyChanges then []
    else (List.range count).flatMap fun i =>
      let l := p.left.getD (start + i) []
      if leftOnly then beside k (some l) '(' none
      else beside k (some l) ' ' (some (p.right.getD (other + i) []))
  let (t, i, j) := p.changes.foldl (fun (t, i, j) (c, counts) =>
    let both := min c.leftCount c.rightCount
    let l (n : Nat) : Option Chars := p.left[c.leftStart + n]?
    let r (n : Nat) : Option Chars := p.right[c.rightStart + n]?
    let body := if !counts && c.leftCount = c.rightCount then common c.leftStart c.rightStart both
      else
        ((List.range both).flatMap fun n => beside k (l n) '|' (r n)) ++
          ((List.range (c.rightCount - both)).flatMap fun n => beside k none '>' (r (both + n))) ++
          ((List.range (c.leftCount - both)).flatMap fun n => beside k (l (both + n)) '<' none)
    (t ++ common i j (c.leftStart - i) ++ body, c.leftStart + c.leftCount,
      c.rightStart + c.rightCount)) (([] : Chars), 0, 0)
  t ++ common i j (p.left.size - i)

end Page

end Provision.Difference
