import Provision.Text.Utf8

/-!
How digests are made: a message is filled up to whole blocks, and each block is worked into a state
of words.
-/

namespace Provision.Digest

/-- The bytes of a number, the lowest one first, in so many places. -/
def lowFirst : (places n : Nat) → List UInt8
  | 0, _ => []
  | places + 1, n => UInt8.ofNat (n % 256) :: lowFirst places (n / 256)

/-- The bytes of a number, the highest one first, in so many places. -/
def highFirst (places n : Nat) : List UInt8 := (lowFirst places n).reverse

@[simp] theorem length_lowFirst (places n : Nat) : (lowFirst places n).length = places := by
  induction places generalizing n with
  | zero => rfl
  | succ places ih => simp [lowFirst, ih]

@[simp] theorem length_highFirst (places n : Nat) : (highFirst places n).length = places := by
  simp [highFirst]

/-- The number that bytes stand for, the highest one first. -/
def fromHighFirst (bs : List UInt8) : Nat := bs.foldl (fun n b => n * 256 + b.toNat) 0

/-- The number that bytes stand for, the lowest one first. -/
def fromLowFirst (bs : List UInt8) : Nat := fromHighFirst bs.reverse

/-- Pieces of a list that have a length, the last one perhaps less. -/
def pieces {α : Type} (size : Nat) : (room : Nat) → List α → List (List α)
  | 0, _ => []
  | room + 1, xs =>
    if xs.isEmpty then [] else xs.take size :: pieces size room (xs.drop size)

/-- A message with a mark behind it, zeros, and its length in bits, so that whole blocks come out. -/
def filled (block : Nat) (writeLength : Nat → List UInt8) (message : List UInt8) : List UInt8 :=
  let ending := writeLength (8 * message.length)
  let used := (message.length + 1 + ending.length) % block
  message ++ 0x80 :: List.replicate ((block - used) % block) 0 ++ ending

/-! ## Constants -/

/-- The largest number whose power is no greater than a number, found bit by bit. -/
def root (power n : Nat) : (bits found : Nat) → Nat
  | 0, found => found
  | bits + 1, found =>
    let next := found + Nat.pow 2 bits
    root power n bits (if Nat.pow next power ≤ n then next else found)

/-- The first bits behind the point of the root of a number. -/
def rootBits (width power n : Nat) : Nat :=
  root power (n * Nat.pow 2 (width * power)) (width + 8) 0 % Nat.pow 2 width

def isPrime (n : Nat) : Bool :=
  2 ≤ n && (List.range n).all fun d => d < 2 || n % d ≠ 0

/-- The first primes. -/
def primes : List Nat := (List.range 410).filter isPrime

/-!
Older digests, which work on four or five words of 32 bits, and sums that only tell whether something
has changed by chance.
-/

abbrev Half := BitVec 32

/-! ## Five words -/

/-- The words of a block, and those that follow from them. -/
def shaSchedule (block : List UInt8) : Array Half :=
  let start := (pieces 4 16 block).map fun bs => BitVec.ofNat 32 (fromHighFirst bs)
  (List.range 64).foldl (fun ws i =>
    let at' (j : Nat) : Half := ws.getD j 0
    ws.push ((at' i ^^^ at' (i + 2) ^^^ at' (i + 8) ^^^ at' (i + 13)).rotateLeft 1)) start.toArray

def shaRound (ws : Array Half) (s : List Half) (i : Nat) : List Half :=
  match s with
  | [a, b, c, d, e] =>
    let (mixed, constant) : Half × Half :=
      if i < 20 then ((b &&& c) ||| (~~~b &&& d), 0x5a827999)
      else if i < 40 then (b ^^^ c ^^^ d, 0x6ed9eba1)
      else if i < 60 then ((b &&& c) ||| (b &&& d) ||| (c &&& d), 0x8f1bbcdc)
      else (b ^^^ c ^^^ d, 0xca62c1d6)
    [a.rotateLeft 5 + mixed + e + constant + ws.getD i 0, a, b.rotateLeft 30, c, d]
  | s => s

def sha1 (message : List UInt8) : List UInt8 :=
  let all := filled 64 (highFirst 8) message
  let compress (s : List Half) (block : List UInt8) : List Half :=
    List.zipWith (· + ·) s ((List.range 80).foldl (shaRound (shaSchedule block)) s)
  let last := (pieces 64 all.length all).foldl compress
    [0x67452301, 0xefcdab89, 0x98badcfe, 0x10325476, 0xc3d2e1f0]
  last.flatMap fun w => highFirst 4 w.toNat

/-! ## Four words -/

/-- By how much words are turned in the four parts of the rounds. -/
def mdTurns : List (List Nat) :=
  [[7, 12, 17, 22], [5, 9, 14, 20], [4, 11, 16, 23], [6, 10, 15, 21]]

/-- The constant of a round: a part of a sine. -/
def mdConstant (i : Nat) : Half :=
  BitVec.ofNat 32 ((Float.abs (Float.sin (Float.ofNat (i + 1))) * 4294967296).toUInt64.toNat)

def mdConstants : Array Half := ((List.range 64).map mdConstant).toArray

def mdRound (constants ws : Array Half) (s : List Half) (i : Nat) : List Half :=
  match s with
  | [a, b, c, d] =>
    let (mixed, place) : Half × Nat :=
      if i < 16 then ((b &&& c) ||| (~~~b &&& d), i)
      else if i < 32 then ((d &&& b) ||| (~~~d &&& c), (5 * i + 1) % 16)
      else if i < 48 then (b ^^^ c ^^^ d, (3 * i + 5) % 16)
      else (c ^^^ (b ||| ~~~d), 7 * i % 16)
    let turn := ((mdTurns.getD (i / 16) []).getD (i % 4) 0)
    [d, b + (a + mixed + constants.getD i 0 + ws.getD place 0).rotateLeft turn, b, c]
  | s => s

def md5 (message : List UInt8) : List UInt8 :=
  let constants := mdConstants
  let all := filled 64 (lowFirst 8) message
  let compress (s : List Half) (block : List UInt8) : List Half :=
    let ws := ((pieces 4 16 block).map fun bs => BitVec.ofNat 32 (fromLowFirst bs)).toArray
    List.zipWith (· + ·) s ((List.range 64).foldl (mdRound constants ws) s)
  let last := (pieces 64 all.length all).foldl compress
    [0x67452301, 0xefcdab89, 0x98badcfe, 0x10325476]
  last.flatMap fun w => lowFirst 4 w.toNat

/-! ## Sums -/

/-- Works a bit into the remainder of a division of polynomials. -/
def cyclicBit (r : Half) : Half :=
  if r.msb then (r <<< 1) ^^^ 0x04c11db7 else r <<< 1

def cyclicByte (r : Half) (b : UInt8) : Half :=
  (List.range 8).foldl (fun r _ => cyclicBit r) (r ^^^ (BitVec.ofNat 32 b.toNat <<< 24))

/-- The bytes of a number without zeros at its end, the lowest one first. -/
def shortBytes : (room n : Nat) → List UInt8
  | 0, _ => []
  | room + 1, n => if n = 0 then [] else UInt8.ofNat (n % 256) :: shortBytes room (n / 256)

/-- The remainder that bytes and their number leave. -/
def cyclicSum (message : List UInt8) : Nat :=
  (~~~((message ++ shortBytes 8 message.length).foldl cyclicByte 0)).toNat

/-- A sum that is turned before each byte. -/
def turnedSum (message : List UInt8) : Nat :=
  message.foldl (fun s b => (s / 2 + s % 2 * 32768 + b.toNat) % 65536) 0

/-- A sum of all bytes, folded twice. -/
def plainSum (message : List UInt8) : Nat :=
  let s := message.foldl (fun s b => (s + b.toNat) % Nat.pow 2 32) 0
  let r := s % 65536 + s / 65536
  r % 65536 + r / 65536

/-!
Digests whose rounds work on eight words, of 32 or of 64 bits.
-/

/-- Three turns of a word. -/
abbrev Turns := Nat × Nat × Nat

/-- The kind of such a digest: how many rounds each block takes, and by how much words are
turned. -/
structure Kind where
  width : Nat
  rounds : Nat
  upper : Turns
  lower : Turns
  early : Turns
  late : Turns

/-- The kind that has words of 32 bits. -/
def narrow : Kind := ⟨32, 64, (2, 13, 22), (6, 11, 25), (7, 18, 3), (17, 19, 10)⟩

/-- The kind that has words of 64 bits. -/
def wide : Kind := ⟨64, 80, (28, 34, 39), (14, 18, 41), (1, 8, 7), (19, 61, 6)⟩

namespace Kind

abbrev Word (k : Kind) := BitVec k.width

/-- The constants of the rounds: parts of the cube roots of primes. -/
def constants (k : Kind) : Array k.Word :=
  ((primes.take k.rounds).map fun p => BitVec.ofNat k.width (rootBits k.width 3 p)).toArray

/-- A word that is turned in three ways. -/
def turned (k : Kind) (t : Turns) (x : k.Word) : k.Word :=
  x.rotateRight t.1 ^^^ x.rotateRight t.2.1 ^^^ x.rotateRight t.2.2

/-- A word that is turned in two ways and shifted in one. -/
def shifted (k : Kind) (t : Turns) (x : k.Word) : k.Word :=
  x.rotateRight t.1 ^^^ x.rotateRight t.2.1 ^^^ (x >>> t.2.2)

/-- The words of a block, and those that follow from them. -/
def schedule (k : Kind) (block : List UInt8) : Array k.Word :=
  let start := (pieces (k.width / 8) 16 block).map fun bs => BitVec.ofNat k.width (fromHighFirst bs)
  (List.range (k.rounds - 16)).foldl (fun ws i =>
    let at' (j : Nat) : k.Word := ws.getD j 0
    ws.push (at' i + k.shifted k.early (at' (i + 1)) + at' (i + 9) +
      k.shifted k.late (at' (i + 14)))) start.toArray

/-- One round, with the word and the constant that belong to it. -/
def round (k : Kind) (s : List k.Word) (given : k.Word) : List k.Word :=
  match s with
  | [a, b, c, d, e, f, g, h] =>
    let first := h + k.turned k.lower e + ((e &&& f) ^^^ (~~~e &&& g)) + given
    let second := k.turned k.upper a + ((a &&& b) ^^^ (a &&& c) ^^^ (b &&& c))
    [first + second, a, b, c, d + first, e, f, g]
  | s => s

/-- Works a block into a state. -/
def compress (k : Kind) (constants : Array k.Word) (s : List k.Word) (block : List UInt8) :
    List k.Word :=
  let ws := k.schedule block
  let given := (List.range k.rounds).map fun i => ws.getD i 0 + constants.getD i 0
  List.zipWith (· + ·) s (given.foldl k.round s)

/-- The digest of a message from a state on, of which a number of bytes is taken. -/
def digest (k : Kind) (start : List Nat) (size : Nat) (message : List UInt8) : List UInt8 :=
  let constants := k.constants
  let block := 2 * k.width
  let all := filled block (highFirst (k.width / 4)) message
  let last := (pieces block all.length all).foldl (k.compress constants)
    (start.map (BitVec.ofNat k.width))
  (last.flatMap fun w => highFirst (k.width / 8) w.toNat).take size

end Kind

/-- Parts of the square roots of eight primes. -/
def squareRoots (width skipped : Nat) : List Nat :=
  ((primes.drop skipped).take 8).map (rootBits width 2)

def sha256 : List UInt8 → List UInt8 := narrow.digest (squareRoots 32 0) 32

def sha224 : List UInt8 → List UInt8 :=
  narrow.digest ((squareRoots 64 8).map (· % Nat.pow 2 32)) 28

def sha512 : List UInt8 → List UInt8 := wide.digest (squareRoots 64 0) 64

def sha384 : List UInt8 → List UInt8 := wide.digest (squareRoots 64 8) 48

end Provision.Digest
