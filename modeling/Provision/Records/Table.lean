import Provision.Records.Value
import Std.Data.HashMap

/-!
Tables from texts to values. They are gone through in the order of the chains in which their keys
hang, so these are kept as well.
-/

namespace Provision.Records

/-- A table: what its keys stand for, and the chains of texts and of whole numbers. What was split up
has its numbers in order, and no chains as long as nobody asks for others. -/
structure Table where
  values : Std.HashMap String Value := {}
  texts : Array (List Chars) := #[]
  wholes : Array (List Int) := #[]
  isSplit : Bool := false
  hasTexts : Bool := false

namespace Table

instance : Inhabited Table := ⟨{}⟩

/-- A key: a text or a whole number. -/
inductive Key
  | text (t : Chars)
  | whole (n : Int)

def Key.toChars : Key → Chars
  | .text t => t
  | .whole n => integerText n

/-- Tables have so many chains at first. -/
def firstChains : Nat := 64

/-- So many keys hang in a chain on average before there are twice as many chains. -/
def chainLength : Nat := 12

def hash (t : Chars) : Nat :=
  t.foldl (fun h c => ((h ^^^ c.toNat) * 16777619) % 0x100000000) 2166136261

def size (t : Table) : Nat := t.values.size

/-- The chain for a text. -/
def chainOf (t : Table) (key : Chars) : Nat := hash key % t.texts.size

def chainOfWhole (t : Table) (n : Int) : Nat := (n % (t.wholes.size : Int)).toNat

/-- A table that has chains. -/
def chained (t : Table) (count : Nat) : Table :=
  { t with texts := Array.replicate count [], wholes := Array.replicate count [] }

/-- So many chains are enough for a size. -/
def chainsFor : (room : Nat) → (size count : Nat) → Nat
  | 0, _, count => count
  | room + 1, size, count =>
    if count * chainLength < size then chainsFor room size (2 * count) else count

/-- Hangs the numbers of what was split up into chains. -/
def withChains (t : Table) : Table :=
  if t.texts.size ≠ 0 then t
  else
    let empty := t.chained (chainsFor 64 t.size firstChains)
    if !t.isSplit then empty
    else
      (List.range t.size).foldl (fun t (i : Nat) =>
        let n : Int := i + 1
        { t with wholes := t.wholes.modify (t.chainOfWhole n) (n :: ·) })
        { empty with isSplit := false }

/-- Hangs all keys into the chains of texts. -/
def withTexts (t : Table) : Table :=
  let t := t.withChains
  if t.hasTexts then t
  else
    t.wholes.foldl (fun t chain =>
      chain.foldl (fun t n =>
        let key := integerText n
        { t with texts := t.texts.modify (t.chainOf key) (key :: ·) }) t)
      { t with hasTexts := true }

/-- Twice as many chains, in each of which keys keep their order. -/
def doubled (t : Table) : Table :=
  let count := t.texts.size
  let halves {α : Type} (place : α → Nat) (chains : Array (List α)) : Array (List α) :=
    let low := (chains.toList.mapIdx fun i c => c.filter fun x => place x = i)
    let high := (chains.toList.map fun c => c.filter fun x => count ≤ place x)
    (low ++ high).toArray
  { t with
    texts := halves (fun (key : Chars) => hash key % (2 * count)) t.texts
    wholes := halves (fun (n : Int) => (n % (2 * count : Int)).toNat) t.wholes }

/-- A table into which one more key fits. -/
def grown (t : Table) : Table :=
  if t.texts.size * chainLength < t.size then t.doubled else t

/-- Looks for a text, and puts it to the front of its chain. A new one has a value from then on if that
is asked for. -/
def seekText (t : Table) (key : Chars) (creates : Bool) : Table × Bool :=
  let t := t.withTexts
  if t.values.contains (String.ofList key) then
    ({ t with texts := t.texts.modify (t.chainOf key) fun c => key :: c.erase key }, true)
  else if !creates then (t, false)
  else
    let t := ({ t with values := t.values.insert (String.ofList key) .unset }).grown
    ({ t with texts := t.texts.modify (t.chainOf key) (key :: ·) }, true)

/-- Looks for a whole number in the same way. -/
def seekWhole (t : Table) (n : Int) (creates : Bool) : Table × Bool :=
  let key := integerText n
  if t.isSplit && t.values.contains (String.ofList key) then (t, true)
  else if t.isSplit && !creates then (t, false)
  else
    let t := t.withChains
    let front (t : Table) : Table :=
      { t with wholes := t.wholes.modify (t.chainOfWhole n) fun c => n :: c.erase n }
    if (t.wholes.getD (t.chainOfWhole n) []).contains n then (front t, true)
    else if t.hasTexts then
      let (t, found) := t.seekText key creates
      (if found then front t else t, found)
    else if creates then (front { t with values := t.values.insert (String.ofList key) .unset }.grown, true)
    else (t, false)

def seek (t : Table) (k : Key) (creates : Bool) : Table × Bool :=
  if t.values.isEmpty && !creates then (t, false)
  else
    match k with
    | .text key => t.seekText key creates
    | .whole n => t.seekWhole n creates

/-- The value of a key, which has one from then on. -/
def get (t : Table) (k : Key) : Table × Value :=
  let (t, _) := t.seek k true
  (t, t.values.getD (String.ofList k.toChars) .unset)

def put (t : Table) (k : Key) (v : Value) : Table :=
  let (t, _) := t.seek k true
  { t with values := t.values.insert (String.ofList k.toChars) v }

def delete (t : Table) (k : Key) : Table :=
  let (t, found) := t.seek k false
  if !found then t
  else
    let t := t.withChains
    let key := k.toChars
    let t := { t with values := t.values.erase (String.ofList key) }
    if t.values.isEmpty then {}
    else
      let number := match k with
        | .whole n => some n
        | .text key => (Text.readNat? 10 key).map Int.ofNat
      let t := { t with texts := t.texts.modify (t.chainOf key) (·.erase key) }
      match number with
      | some n => { t with wholes := t.wholes.modify (t.chainOfWhole n) (·.erase n) }
      | none => t

/-- The table of pieces, which have numbers from one on. -/
def ofPieces (ps : List Value) : Table :=
  { values := (ps.zipIdx 1).foldl (fun m (v, i) => m.insert (toString i) v) {}
    isSplit := !ps.isEmpty }

/-- The keys in the order in which they are gone through, with the table as it is then. -/
def keys (t : Table) : Table × List Chars :=
  if t.values.isEmpty then (t, [])
  else
    let t := t.withTexts
    (t, t.texts.toList.flatten)

end Table

end Provision.Records
