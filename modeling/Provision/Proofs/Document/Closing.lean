import Provision.Proofs.Document.Reading
import Provision.Proofs.Document.Statement

namespace Provision

namespace Document

variable {depth left byte : Nat} {cs a inner other rest : List Char}

/-! ## The parenthesis that closes -/

/-- A closing parenthesis follows `inner` in a text, and with it there are as many closing ones as
opening ones and the `depth` that are open before the text. -/
def ClosesAt (depth : Nat) (cs inner : List Char) : Prop :=
  inner ++ [')'] <+: cs ∧ inner.count '(' + depth = inner.count ')' + 1

/-- As long as nothing is closed for good, more parentheses are open than have been closed. -/
theorem lt_of_unclosed (hdepth : 1 ≤ depth) (h : closing depth cs = .unclosed left) :
    cs.count ')' < cs.count '(' + depth := by
  have hbalance := balances_closing hdepth cs
  rw [h] at hbalance
  obtain ⟨hleft, hcount⟩ := hbalance
  omega

/-- Behind a parenthesis that closes nothing is left open. -/
theorem ClosesAt.not_unclosed (hdepth : 1 ≤ depth) (h : ClosesAt depth cs inner) :
    closing depth (inner ++ [')']) ≠ .unclosed left := by
  intro hopen
  have hlt := lt_of_unclosed hdepth hopen
  have hcount := h.2
  simp [List.count_append] at hlt
  omega

theorem unclosed_of_prefix (h : closing depth cs = .unclosed left) (ha : a <+: cs) :
    ∃ left', closing depth a = .unclosed left' := by
  obtain ⟨b, rfl⟩ := ha
  rw [closing_append] at h
  cases hclosing : closing depth a with
  | unclosed left' => exact ⟨left', rfl⟩
  | closed inner rest => simp [hclosing] at h

theorem unclosed_of_prefix_inner (h : closing depth cs = .closed inner rest) (ha : a <+: inner) :
    ∃ left, closing depth a = .unclosed left := by
  obtain ⟨b, rfl⟩ := ha
  rw [eq_append_of_closing h, List.append_assoc, closing_append] at h
  cases hclosing : closing depth a with
  | unclosed left => exact ⟨left, rfl⟩
  | closed first after =>
    rw [hclosing] at h
    obtain ⟨hfirst, -⟩ := Closing.closed.inj h
    have hlength := congrArg List.length (eq_append_of_closing hclosing)
    simp only [hfirst, List.length_append, List.length_cons] at hlength
    omega

theorem not_closesAt_of_unclosed (hdepth : 1 ≤ depth) (h : closing depth cs = .unclosed left) :
    ¬ ClosesAt depth cs inner := by
  intro hcloses
  obtain ⟨left', hopen⟩ := unclosed_of_prefix h hcloses.1
  exact hcloses.not_unclosed hdepth hopen

theorem closesAt_of_closed (hdepth : 1 ≤ depth) (h : closing depth cs = .closed inner rest) :
    ClosesAt depth cs inner := by
  have hbalance := balances_closing hdepth cs
  rw [h] at hbalance
  refine ⟨⟨rest, ?_⟩, hbalance⟩
  rw [eq_append_of_closing h, List.append_assoc]
  rfl

/-- What the search finds is the first parenthesis that closes. -/
theorem prefix_of_closesAt (hdepth : 1 ≤ depth) (h : closing depth cs = .closed inner rest)
    (hother : ClosesAt depth cs other) : inner <+: other := by
  -- Behind the other parenthesis nothing is left open, but all through what stands before the one that
  -- has been found something is.
  have hlonger : ¬ other ++ [')'] <+: inner := by
    intro hshorter
    obtain ⟨left, hopen⟩ := unclosed_of_prefix_inner h hshorter
    exact hother.not_unclosed hdepth hopen
  have hinner : inner <+: cs := (List.prefix_append ..).trans (closesAt_of_closed hdepth h).1
  have hwithin := (List.prefix_or_prefix_of_prefix hother.1 hinner).resolve_left hlonger
  rcases List.prefix_concat_iff.mp hwithin with rfl | hwithin
  · exact absurd List.prefix_rfl hlonger
  · exact hwithin

/-! ## A counter -/

/-- Where a search ends that begins at a byte: the byte at which the parenthesis stands, if it is
there, and how many are left open. -/
def Closing.place (byte : Nat) : Closing → Option Nat × Nat
  | .unclosed left => (none, left)
  | .closed inner _ => (some (byte + Text.width inner), 0)

theorem Closing.place_cons (byte : Nat) (c : Char) (r : Closing) :
    (r.cons c).place byte = r.place (byte + c.utf8Size) := by
  cases r with
  | unclosed left => rfl
  | closed inner rest => simp [Closing.cons, Closing.place, Nat.add_assoc]

/-- Looks for the parenthesis with a counter of those that are open. There is no result where the
counter would go below zero. -/
def findClosing? (byte depth : Nat) : List Char → Option (Option Nat × Nat)
  | [] => some (none, depth)
  | c :: cs =>
    if c = '(' then findClosing? (byte + c.utf8Size) (depth + 1) cs
    else if c = ')' then
      if depth = 0 then none
      else if depth - 1 = 0 then some (some byte, 0)
      else findClosing? (byte + c.utf8Size) (depth - 1) cs
    else findClosing? (byte + c.utf8Size) depth cs

theorem findClosing?_eq (hdepth : 1 ≤ depth) (byte : Nat) (cs : List Char) :
    findClosing? byte depth cs = some ((closing depth cs).place byte) := by
  induction cs generalizing byte depth with
  | nil => rfl
  | cons c cs ih =>
    rw [findClosing?, closing]
    by_cases hopen : c = '('
    · rw [if_pos hopen, if_pos hopen, ih (by omega), Closing.place_cons]
    · rw [if_neg hopen, if_neg hopen]
      by_cases hclose : c = ')'
      · rw [if_pos hclose, if_pos hclose, if_neg (by omega)]
        by_cases hlast : depth ≤ 1
        · rw [if_pos hlast, if_pos (by omega)]
          rfl
        · rw [if_neg hlast, if_neg (by omega), ih (by omega), Closing.place_cons]
      · rw [if_neg hclose, if_neg hclose, ih hdepth, Closing.place_cons]

/-! ## Pieces of a text -/

/-- A byte of a piece, and which byte of all pieces together it is. -/
def IsByteOf (pieces : List (List Char)) (i byte whole : Nat) : Prop :=
  ∃ piece, pieces[i]? = some piece ∧ byte < Text.width piece ∧
    whole = Text.width (pieces.take i).flatten + byte

variable {pieces : List (List Char)} {piece : List Char} {i j whole : Nat}

theorem isByteOf_head (h : byte < Text.width piece) : IsByteOf (piece :: pieces) 0 byte byte :=
  ⟨piece, rfl, h, by simp⟩

theorem IsByteOf.cons (h : IsByteOf pieces i byte whole) (piece : List Char) :
    IsByteOf (piece :: pieces) (i + 1) byte (Text.width piece + whole) := by
  obtain ⟨own, hown, hlt, rfl⟩ := h
  exact ⟨own, hown, hlt, by simp [Nat.add_assoc]⟩

/-- A piece ends before a later one begins. -/
theorem IsByteOf.lt_width_take (h : IsByteOf pieces i byte whole) (hij : i < j) :
    whole < Text.width (pieces.take j).flatten := by
  obtain ⟨piece, hpiece, hlt, rfl⟩ := h
  have hnext : pieces.take (i + 1) = pieces.take i ++ [piece] := by
    rw [List.take_add_one, hpiece]
    rfl
  obtain ⟨more, hmore⟩ : pieces.take (i + 1) <+: pieces.take j := List.take_prefix_take_left hij
  rw [← hmore, hnext]
  simp only [List.flatten_append, List.flatten_singleton, Text.width_append]
  omega

theorem IsByteOf.le {byte' : Nat} (h : IsByteOf pieces i byte whole)
    (h' : IsByteOf pieces j byte' whole) : j ≤ i := by
  by_contra hlt
  have hends := h.lt_width_take (Nat.lt_of_not_le hlt)
  obtain ⟨piece, -, -, hwhole⟩ := h'
  omega

theorem IsByteOf.unique {byte' : Nat} (h : IsByteOf pieces i byte whole)
    (h' : IsByteOf pieces j byte' whole) : i = j ∧ byte = byte' := by
  obtain rfl : i = j := Nat.le_antisymm (h'.le h) (h.le h')
  obtain ⟨-, -, -, hwhole⟩ := h
  obtain ⟨-, -, -, hwhole'⟩ := h'
  exact ⟨rfl, by omega⟩

/-- Looks for the parenthesis in one piece after the other, with the counter carried on. What is
found is the number of a piece and a byte of it. -/
def findAcross? (depth : Nat) : List (List Char) → Option (Option (Nat × Nat) × Nat)
  | [] => some (none, depth)
  | piece :: pieces =>
    match findClosing? 0 depth piece with
    | none => none
    | some (some byte, left) => some (some (0, byte), left)
    | some (none, left) =>
      (findAcross? left pieces).map fun (place, left) =>
        (place.map fun (i, byte) => (i + 1, byte), left)

/-- What is found in pieces is what is found in their whole. -/
inductive FoundIn (pieces : List (List Char)) : Closing → Option (Nat × Nat) → Nat → Prop
  | unclosed (left : Nat) : FoundIn pieces (.unclosed left) none left
  | closed {inner rest : List Char} {i byte : Nat} : IsByteOf pieces i byte (Text.width inner) →
    FoundIn pieces (.closed inner rest) (some (i, byte)) 0

theorem FoundIn.cons {r : Closing} {place : Option (Nat × Nat)} (h : FoundIn pieces r place left)
    (piece : List Char) : FoundIn (piece :: pieces) (r.after piece)
      (place.map fun (i, byte) => (i + 1, byte)) left := by
  cases h with
  | unclosed left => exact .unclosed left
  | closed hbyte => exact .closed (by simpa using hbyte.cons piece)

theorem exists_findAcross? (hdepth : 1 ≤ depth) (pieces : List (List Char)) :
    ∃ place left, findAcross? depth pieces = some (place, left) ∧
      FoundIn pieces (closing depth pieces.flatten) place left := by
  induction pieces generalizing depth with
  | nil => exact ⟨none, depth, rfl, .unclosed depth⟩
  | cons piece pieces ih =>
    have hbalance := balances_closing hdepth piece
    rw [findAcross?, findClosing?_eq hdepth, List.flatten_cons, closing_append]
    cases hclosing : closing depth piece with
    | unclosed left =>
      rw [hclosing] at hbalance
      obtain ⟨place, left', hfind, hfound⟩ := ih hbalance.1
      exact ⟨_, left', by simp [Closing.place, hfind], hfound.cons piece⟩
    | closed inner rest =>
      have hwidth : Text.width inner < Text.width piece := by
        have hclose := Char.utf8Size_pos ')'
        rw [eq_append_of_closing hclosing, Text.width_append, Text.width_cons]
        omega
      exact ⟨_, 0, rfl, .closed (by simpa using isByteOf_head hwidth)⟩

theorem Closing.unclosed_of_after {r : Closing} (h : r.after a = .unclosed left) :
    r = .unclosed left := by
  cases r with
  | unclosed left' => exact h
  | closed inner rest => cases h

/-- An open call takes the counter along from line to line. -/
theorem foldlM_feed_open {items : List Item} {p : Place} {c : OpenInvocation} {ls : List Line}
    (hcode : ∀ l ∈ ls, l.isComment = false)
    (h : closing c.depth (ls.map fun l => dropComment l.text).flatten = .unclosed left) :
    ls.foldlM Reader.feed ⟨items, .invocation p c⟩ = .ok ⟨items, .invocation p
      { c with
        inner := c.inner ++ (ls.map fun l => dropComment l.text).flatMap ('\n' :: ·)
        depth := left }⟩ := by
  induction ls generalizing c with
  | nil =>
    obtain rfl : c.depth = left := by simpa [closing] using h
    rw [List.map_nil, List.flatMap_nil, List.append_nil]
    rfl
  | cons l ls ih =>
    obtain ⟨hl, hls⟩ := List.forall_mem_cons.mp hcode
    rw [List.map_cons, List.flatten_cons, closing_append] at h
    rw [List.foldlM_cons, Reader.feed_invocation hl, Reader.continueInvocation]
    cases hclosing : closing c.depth (dropComment l.text) with
    | closed inner rest => simp [hclosing] at h
    | unclosed next =>
      rw [hclosing] at h
      have hrest := ih (c := { c with inner := c.inner ++ '\n' :: dropComment l.text, depth := next })
        hls (Closing.unclosed_of_after h)
      rw [List.append_assoc] at hrest
      exact hrest

/-- How a search ends that goes across pieces, and what it leaves of the counter. -/
structure EndsAcross (depth : Nat) (pieces : List (List Char)) (place : Option (Nat × Nat))
    (left : Nat) : Prop where
  /-- As long as nothing is found, the counter says how many parentheses are open. -/
  left_eq : place = none →
    1 ≤ left ∧ pieces.flatten.count '(' + depth = pieces.flatten.count ')' + left
  none_iff : place = none ↔ ∀ inner, ¬ ClosesAt depth pieces.flatten inner
  /-- What is found is the first parenthesis that closes. -/
  first_iff : ∀ i byte, place = some (i, byte) ↔
    ∃ inner, IsByteOf pieces i byte (Text.width inner) ∧ ClosesAt depth pieces.flatten inner ∧
      ∀ other, ClosesAt depth pieces.flatten other → inner <+: other
  /-- It is found in a piece just if a search of the whole finds it there. -/
  whole_iff : ∀ i byte, place = some (i, byte) ↔
    ∃ whole, IsByteOf pieces i byte whole ∧
      findClosing? 0 depth pieces.flatten = some (some whole, left)
  whole : findClosing? 0 depth pieces.flatten = some ((closing depth pieces.flatten).place 0)
  /-- A reader that comes upon the pieces as lines of an open call has what is left in its state. -/
  carried : place = none → ∀ (items : List Item) (p : Place) (c : OpenInvocation) (ls : List Line),
    c.depth = depth → (∀ l ∈ ls, l.isComment = false) →
    ls.map (fun l => dropComment l.text) = pieces →
    ls.foldlM Reader.feed ⟨items, .invocation p c⟩ = .ok ⟨items, .invocation p
      { c with inner := c.inner ++ pieces.flatMap ('\n' :: ·), depth := left }⟩

theorem EndsAcross.of_unclosed (hdepth : 1 ≤ depth)
    (h : closing depth pieces.flatten = .unclosed left) :
    EndsAcross depth pieces none left := by
  have hnone (inner : List Char) : ¬ ClosesAt depth pieces.flatten inner :=
    not_closesAt_of_unclosed hdepth h
  have hwhole := findClosing?_eq hdepth 0 pieces.flatten
  have hbalance := balances_closing hdepth pieces.flatten
  rw [h] at hbalance
  refine ⟨fun _ => hbalance, iff_of_true rfl hnone, fun i byte => ?_, fun i byte => ?_, hwhole, ?_⟩
  · exact iff_of_false (by simp) fun ⟨inner, _, hcloses, _⟩ => hnone inner hcloses
  · refine iff_of_false (by simp) fun ⟨whole, _, hfind⟩ => ?_
    simp [hwhole, h, Closing.place] at hfind
  · rintro - items p c ls rfl hcode rfl
    exact foldlM_feed_open hcode h

theorem EndsAcross.of_closed (hdepth : 1 ≤ depth)
    (h : closing depth pieces.flatten = .closed inner rest)
    (hbyte : IsByteOf pieces i byte (Text.width inner)) :
    EndsAcross depth pieces (some (i, byte)) 0 := by
  have hcloses := closesAt_of_closed hdepth h
  have hwhole := findClosing?_eq hdepth 0 pieces.flatten
  have hplace (i' byte' : Nat) :
      some (i, byte) = some (i', byte') ↔ IsByteOf pieces i' byte' (Text.width inner) := by
    simp only [Option.some_inj, Prod.mk.injEq]
    constructor
    · rintro ⟨rfl, rfl⟩
      exact hbyte
    · exact hbyte.unique
  refine ⟨by simp, iff_of_false (by simp) fun hnone => hnone inner hcloses, fun i' byte' => ?_,
    fun i' byte' => ?_, hwhole, by simp⟩
  · rw [hplace]
    constructor
    · exact fun hbyte' => ⟨inner, hbyte', hcloses, fun _ => prefix_of_closesAt hdepth h⟩
    · rintro ⟨first, hbyte', hfirst, hleast⟩
      have hprefix : inner <+: first := prefix_of_closesAt hdepth h hfirst
      obtain rfl : inner = first := hprefix.eq_of_length_le (hleast inner hcloses).length_le
      exact hbyte'
  · rw [hplace, hwhole, h]
    simp [Closing.place]

/-- A counter that is carried from piece to piece comes to what it comes to in their whole. It never
goes below zero, and where nothing is found it is at least one. -/
theorem exists_endsAcross (hdepth : 1 ≤ depth) (pieces : List (List Char)) :
    ∃ place left, findAcross? depth pieces = some (place, left) ∧
      EndsAcross depth pieces place left := by
  obtain ⟨place, left, hfind, hfound⟩ := exists_findAcross? hdepth pieces
  refine ⟨place, left, hfind, ?_⟩
  generalize hr : closing depth pieces.flatten = r at hfound
  cases hfound with
  | unclosed left => exact .of_unclosed hdepth hr
  | closed hbyte => exact .of_closed hdepth hr hbyte

/-- The text of a call over four lines, of which the second one is empty. Its first parenthesis that
closes follows two others on the last line. -/
def kettlePieces : List (List Char) :=
  ["pot (é".toList, [], "lid), $((".toList, "cup)) ) # :)".toList]

theorem endsAcross_kettle :
    1 ≤ 1 ∧
    findAcross? 1 kettlePieces = some (some (3, 6), 0) ∧
    EndsAcross 1 kettlePieces (some (3, 6)) 0 ∧
    findAcross? 1 (kettlePieces.take 3) = some (none, 3) ∧
    EndsAcross 1 (kettlePieces.take 3) none 3 := by
  have hdepth : 1 ≤ 1 := Nat.le_refl 1
  have hclosed : findAcross? 1 kettlePieces = some (some (3, 6), 0) := by decide +kernel
  have hopen : findAcross? 1 (kettlePieces.take 3) = some (none, 3) := by decide +kernel
  obtain ⟨place, left, hfind, hends⟩ := exists_endsAcross hdepth kettlePieces
  obtain ⟨rfl, rfl⟩ : some (3, 6) = place ∧ 0 = left := by simpa [hclosed] using hfind
  obtain ⟨place, left, hfind', hends'⟩ := exists_endsAcross hdepth (kettlePieces.take 3)
  obtain ⟨rfl, rfl⟩ : none = place ∧ 3 = left := by simpa [hopen] using hfind'
  exact ⟨hdepth, hclosed, hends, hopen, hends'⟩

end Document

end Provision
