/-!
Where the shortest way between two sequences has its middle. A way leads from the start of both to
their ends, by steps that leave out a member of one of them, and by free steps over equal members.
-/

namespace Provision.Difference

/-- Two sequences, and the parts of them that are compared. -/
structure Region where
  left : Array Nat
  right : Array Nat
  leftStart : Int
  leftEnd : Int
  rightStart : Int
  rightEnd : Int

namespace Region

def areEqual (g : Region) (x y : Int) : Bool :=
  g.left.getD x.toNat 0 == g.right.getD y.toNat 0

/-- The end of a run of equal members from two places on. -/
def forward (g : Region) : (room : Nat) → (x y : Int) → Int
  | 0, x, _ => x
  | room + 1, x, y =>
    if x < g.leftEnd && y < g.rightEnd && g.areEqual x y then g.forward room (x + 1) (y + 1) else x

/-- The start of a run of equal members up to two places. -/
def backward (g : Region) : (room : Nat) → (x y : Int) → Int
  | 0, x, _ => x
  | room + 1, x, y =>
    if g.leftStart < x && g.rightStart < y && g.areEqual (x - 1) (y - 1) then
      g.backward room (x - 1) (y - 1)
    else x

end Region

/-- How far ways of a length lead on each diagonal, and between which diagonals. -/
structure Front where
  cells : Array Int
  origin : Int
  lowest : Int
  highest : Int

namespace Front

def get (f : Front) (diagonal : Int) : Int := f.cells.getD (diagonal + f.origin).toNat 0

def set (f : Front) (diagonal x : Int) : Front :=
  { f with cells := f.cells.setIfInBounds (diagonal + f.origin).toNat x }

/-- A front on one diagonal. -/
def start (size : Nat) (origin diagonal x : Int) : Front :=
  (⟨Array.replicate size 0, origin, diagonal, diagonal⟩ : Front).set diagonal x

/-- A front that is wider by a diagonal on each side, or narrower where there is none. Beyond its ends
stands a value that no way has. -/
def widen (f : Front) (least greatest beyond : Int) : Front :=
  let f := if least < f.lowest then
      { (f.set (f.lowest - 2) beyond) with lowest := f.lowest - 1 }
    else { f with lowest := f.lowest + 1 }
  if f.highest < greatest then
    { (f.set (f.highest + 2) beyond) with highest := f.highest + 1 }
  else { f with highest := f.highest - 1 }

def covers (f : Front) (diagonal : Int) : Bool := f.lowest ≤ diagonal && diagonal ≤ f.highest

end Front

/-- A number above all places. -/
def farAway : Int := 1000000000000

/-- Leads a front from the start on by one step, from the highest diagonal down. If it meets the other
front, the place is given. -/
def advance (g : Region) (meets : Bool) (other : Front) :
    (room : Nat) → (diagonal : Int) → Front → Front × Option (Int × Int)
  | 0, _, f => (f, none)
  | room + 1, d, f =>
    if d < f.lowest then (f, none)
    else
      let low := f.get (d - 1)
      let high := f.get (d + 1)
      let from' := if low < high then high else low + 1
      let x := g.forward (g.left.size + 1) from' (from' - d)
      let f := f.set d x
      if meets && other.covers d && other.get d ≤ x then (f, some (x, x - d))
      else advance g meets other room (d - 2) f

/-- Leads a front from the end back by one step. -/
def retreat (g : Region) (meets : Bool) (other : Front) :
    (room : Nat) → (diagonal : Int) → Front → Front × Option (Int × Int)
  | 0, _, f => (f, none)
  | room + 1, d, f =>
    if d < f.lowest then (f, none)
    else
      let low := f.get (d - 1)
      let high := f.get (d + 1)
      let from' := if low < high then low else high - 1
      let x := g.backward (g.left.size + 1) from' (from' - d)
      let f := f.set d x
      if meets && other.covers d && x ≤ other.get d then (f, some (x, x - d))
      else retreat g meets other room (d - 2) f

/-- Leads both fronts on until they meet. -/
def meet (g : Region) (isOdd : Bool) : (room : Nat) → Front → Front → Int × Int
  | 0, _, _ => (g.leftStart, g.rightStart)
  | room + 1, ahead, behind =>
    let least := g.leftStart - g.rightEnd
    let greatest := g.leftEnd - g.rightStart
    let size := ahead.cells.size
    let ahead := ahead.widen least greatest (-1)
    match advance g isOdd behind size ahead.highest ahead with
    | (_, some place) => place
    | (ahead, none) =>
      let behind := behind.widen least greatest farAway
      match retreat g (!isOdd) ahead size behind.highest behind with
      | (_, some place) => place
      | (behind, none) => meet g isOdd room ahead behind

/-- A place in the middle of the shortest way through a region. -/
def middle (g : Region) : Int × Int :=
  let ahead := g.leftStart - g.rightStart
  let behind := g.leftEnd - g.rightEnd
  let size := g.left.size + g.right.size + 6
  let origin : Int := g.right.size + 3
  meet g ((ahead - behind) % 2 ≠ 0) size (.start size origin ahead g.leftStart)
    (.start size origin behind g.leftEnd)

/-- Which members of two sequences are left out on the shortest way. -/
def leftOut : (room : Nat) → Region → List Int × List Int
  | 0, _ => ([], [])
  | room + 1, g =>
    let x := g.forward (g.left.size + 1) g.leftStart g.rightStart
    let g := { g with leftStart := x, rightStart := g.rightStart + (x - g.leftStart) }
    let x := g.backward (g.left.size + 1) g.leftEnd g.rightEnd
    let g := { g with leftEnd := x, rightEnd := g.rightEnd - (g.leftEnd - x) }
    let between (a b : Int) : List Int := (List.range (b - a).toNat).map fun (i : Nat) => a + i
    if g.leftStart = g.leftEnd then ([], between g.rightStart g.rightEnd)
    else if g.rightStart = g.rightEnd then (between g.leftStart g.leftEnd, [])
    else
      let (x, y) := middle g
      let (a, b) := leftOut room { g with leftEnd := x, rightEnd := y }
      let (c, d) := leftOut room { g with leftStart := x, rightStart := y }
      (a ++ c, b ++ d)

/-!
Which members of two sequences differ: the changes that make one of them from the other.
-/

/-- A change: so many members from a place on are left out, and so many of the other sequence from a
place on stand for them. -/
structure Change where
  leftStart : Nat
  leftCount : Nat
  rightStart : Nat
  rightCount : Nat
  deriving DecidableEq, Repr

/-- How a member is treated before the way is looked for. -/
inductive Fitness
  | kept
  | dropped
  | doubtful
  deriving DecidableEq

/-- How often each number stands in a sequence. -/
def counts (size : Nat) (xs : Array Nat) : Array Nat :=
  xs.foldl (fun cs x => cs.modify x (· + 1)) (Array.replicate size 0)

/-- A number that doubles as often as another one can be divided by four. -/
def doubled : (room : Nat) → (start n : Nat) → Nat
  | 0, start, _ => start
  | room + 1, start, n => if n / 4 = 0 then start else doubled room (2 * start) (n / 4)

/-- A member that does not stand in the other sequence is dropped, and one that stands there very often
is doubtful. -/
def fitnesses (xs : Array Nat) (others : Array Nat) : Array Fitness :=
  let many := doubled 64 5 (xs.size / 64)
  xs.map fun x =>
    let n := others.getD x 0
    if n = 0 then .dropped else if many < n then .doubtful else .kept

/-- Keeps what is doubtful at the start of a run, up to three dropped members in a row, or to one that
is far from the start. -/
def clearEdge (place : Nat → Nat) (count : Nat) :
    (room j row : Nat) → Array Fitness → Array Fitness
  | 0, _, _, fs => fs
  | room + 1, j, row, fs =>
    if count ≤ j then fs
    else
      let f := fs.getD (place j) .kept
      if 8 ≤ j && f = .dropped then fs
      else
        let (fs, row) := match f with
          | .doubtful => (fs.setIfInBounds (place j) .kept, 0)
          | .kept => (fs, 0)
          | .dropped => (fs, row + 1)
        if row = 3 then fs else clearEdge place count room (j + 1) row fs

/-- Keeps doubtful members that stand in a row of some length. -/
def clearRows (start count least : Nat) : (room j row : Nat) → Array Fitness → Array Fitness
  | 0, _, _, fs => fs
  | room + 1, j, row, fs =>
    if count ≤ j then fs
    else if fs.getD (start + j) .kept ≠ .doubtful then clearRows start count least room (j + 1) 0 fs
    else if row + 1 = least then
      clearRows start count least room (j + 1 - (row + 1)) (row + 1) fs
    else if least < row + 1 then
      clearRows start count least room (j + 1) (row + 1) (fs.setIfInBounds (start + j) .kept)
    else clearRows start count least room (j + 1) (row + 1) fs

/-- The first place from which on members are kept. -/
def runEnd (fs : Array Fitness) : (room i : Nat) → Nat
  | 0, i => i
  | room + 1, i =>
    if i < fs.size && fs.getD i .kept ≠ .kept then runEnd fs room (i + 1) else i

/-- Decides for the doubtful members of a run that begins with a dropped one. -/
def settleRun (fs : Array Fitness) (start stop : Nat) : Array Fitness × Nat :=
  let all := (List.range (stop - start)).map (start + ·)
  let trailing := (all.reverse.takeWhile fun i => fs.getD i .kept = .doubtful)
  let fs := trailing.foldl (fun fs i => fs.setIfInBounds i .kept) fs
  let stop := stop - trailing.length
  let count := stop - start
  let doubtful := (all.take count).filter fun i => fs.getD i .kept = .doubtful
  if count < doubtful.length * 4 then
    (doubtful.foldl (fun fs i => fs.setIfInBounds i .kept) fs, start + 1)
  else
    let least := doubled 64 1 (count / 4) + 1
    let fs := clearRows start count least (3 * count + 3) 0 0 fs
    let fs := clearEdge (start + ·) count (count + 1) 0 0 fs
    let last := start + count - 1
    (clearEdge (last - ·) count (count + 1) 0 0 fs, last + 1)

/-- Decides for all doubtful members. -/
def settle : (room i : Nat) → Array Fitness → Array Fitness
  | 0, _, fs => fs
  | room + 1, i, fs =>
    match fs[i]? with
    | none => fs
    | some .kept => settle room (i + 1) fs
    | some .doubtful => settle room (i + 1) (fs.setIfInBounds i .kept)
    | some .dropped =>
      let (fs, next) := settleRun fs i (runEnd fs fs.size i)
      settle room next fs

/-- Which members are left out of each sequence. -/
abbrev Marks := Array Bool

namespace Marks

def at' (m : Marks) (i : Int) : Bool := 0 ≤ i && m.getD i.toNat false

def put (m : Marks) (i : Int) (b : Bool) : Marks := m.setIfInBounds i.toNat b

/-- The first place from one on that is not marked. -/
def skipUp (m : Marks) : (room : Nat) → Int → Int
  | 0, i => i
  | room + 1, i => if m.at' i then m.skipUp room (i + 1) else i

/-- The last place up to one that is not marked. -/
def skipDown (m : Marks) : (room : Nat) → Int → Int
  | 0, i => i
  | room + 1, i => if m.at' i then m.skipDown room (i - 1) else i

end Marks

/-- A run of marked members on its move: its start and its end, the place in the other sequence, and
the last end at which it stood beside a run there. -/
structure Slider where
  marks : Marks
  start : Int
  stop : Int
  place : Int
  beside : Int

/-- Moves a run back as far as it goes. -/
def slideBack (xs : Array Nat) (other : Marks) : (room : Nat) → Slider → Slider
  | 0, s => s
  | room + 1, s =>
    if 0 < s.start && xs.getD (s.start - 1).toNat 0 = xs.getD (s.stop - 1).toNat 0 then
      let marks := (s.marks.put (s.start - 1) true).put (s.stop - 1) false
      let start := marks.skipDown marks.size (s.start - 2) + 1
      slideBack xs other room
        { s with marks, start, stop := s.stop - 1, place := other.skipDown other.size (s.place - 1) }
    else s

/-- Moves a run on as far as it goes. -/
def slideOn (xs : Array Nat) (other : Marks) : (room : Nat) → Slider → Slider
  | 0, s => s
  | room + 1, s =>
    if s.stop ≠ xs.size && xs.getD s.start.toNat 0 = xs.getD s.stop.toNat 0 then
      let marks := (s.marks.put s.start false).put s.stop true
      let stop := marks.skipUp marks.size (s.stop + 1)
      let place := other.skipUp other.size (s.place + 1)
      slideOn xs other room
        { s with marks, start := s.start + 1, stop, place
                 beside := if place = s.place + 1 then s.beside else stop }
    else s

/-- Moves a run back and on, as long as it grows by runs that it meets. -/
def slide (xs : Array Nat) (other : Marks) : (room : Nat) → Slider → Slider
  | 0, s => s
  | room + 1, s =>
    let size := s.stop - s.start
    let s := slideBack xs other (xs.size + 1) s
    let s := { s with beside := if other.at' (s.place - 1) then s.stop else xs.size }
    let s := slideOn xs other (xs.size + 1) s
    if s.stop - s.start = size then s else slide xs other room s

/-- Moves a run back until it stands beside one in the other sequence. -/
def slideBeside (other : Marks) : (room : Nat) → Slider → Slider
  | 0, s => s
  | room + 1, s =>
    if s.beside < s.stop then
      slideBeside other room
        { s with marks := (s.marks.put (s.start - 1) true).put (s.stop - 1) false
                 start := s.start - 1, stop := s.stop - 1
                 place := other.skipDown other.size (s.place - 1) }
    else s

/-- Moves all runs of marked members as far on as they go, or beside a run of the other sequence. -/
def slideAll (xs : Array Nat) (other : Marks) : (room : Nat) → (i j : Int) → Marks → Marks
  | 0, _, _, m => m
  | room + 1, i, j, m =>
    if (xs.size : Int) ≤ i then m
    else if !m.at' i then slideAll xs other room (i + 1) (other.skipUp other.size j + 1) m
    else
      let s : Slider := ⟨m, i, m.skipUp m.size i, other.skipUp other.size j, 0⟩
      let s := slideBeside other (xs.size + 1) (slide xs other (xs.size + 1) s)
      slideAll xs other room s.stop s.place s.marks

/-- The changes that marks say. -/
def changesOf (left right : Marks) : (room i j : Nat) → List Change
  | 0, _, _ => []
  | room + 1, i, j =>
    if left.size ≤ i && right.size ≤ j then []
    else
      let a := (left.skipUp left.size i).toNat
      let b := (right.skipUp right.size j).toNat
      if a = i && b = j then changesOf left right room (i + 1) (j + 1)
      else ⟨i, a - i, j, b - j⟩ :: changesOf left right room a b

/-- The members of a sequence that fit, with their places. -/
def fitting (xs : Array Nat) (fs : Array Fitness) : Array Nat × Array Nat :=
  let places := (List.range xs.size).filter fun i => fs.getD i .kept ≠ .dropped
    && fs.getD i .kept ≠ .doubtful
  ((places.map fun i => xs.getD i 0).toArray, places.toArray)

/-- The changes between two sequences of numbers below a size. Members that are equal at the start
and at the end are left alone but for some. -/
def changes (size horizon : Nat) (left right : Array Nat) : List Change :=
  let rec common (get : Array Nat → Nat → Nat) : (room k : Nat) → Nat
    | 0, k => k
    | room + 1, k => if get left k = get right k then common get room (k + 1) else k
  let least := min left.size right.size
  let same := common (fun a k => a.getD k 0) least 0
  let start := same - horizon
  let tail := common (fun a k => a.getD (a.size - 1 - k) 0) (least - start) 0
  let ending := tail - horizon
  let xs := left.extract start (left.size - ending)
  let ys := right.extract start (right.size - ending)
  let fs := settle (2 * xs.size + 2) 0 (fitnesses xs (counts size ys))
  let gs := settle (2 * ys.size + 2) 0 (fitnesses ys (counts size xs))
  let (keptLeft, leftPlaces) := fitting xs fs
  let (keptRight, rightPlaces) := fitting ys gs
  let (out, into) := leftOut (keptLeft.size + keptRight.size + 1)
    ⟨keptLeft, keptRight, 0, keptLeft.size, 0, keptRight.size⟩
  let mark (n : Nat) (kept : Array Nat) (places : List Int) (dropped : Array Fitness) : Marks :=
    let first : Marks := (Array.range n).map fun i => dropped.getD i .kept ≠ .kept
    places.foldl (fun m i => m.setIfInBounds (kept.getD i.toNat n) true) first
  let leftMarks := mark xs.size leftPlaces out fs
  let rightMarks := mark ys.size rightPlaces into gs
  let leftMarks := slideAll xs rightMarks (2 * xs.size + 2) 0 0 leftMarks
  let rightMarks := slideAll ys leftMarks (2 * ys.size + 2) 0 0 rightMarks
  (changesOf leftMarks rightMarks (xs.size + ys.size + 1) 0 0).map fun c =>
    { c with leftStart := c.leftStart + start, rightStart := c.rightStart + start }

end Provision.Difference
