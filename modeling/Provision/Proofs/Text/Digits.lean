import Mathlib.Algebra.Group.Nat.Defs
import Mathlib.Data.List.Forall2
import Mathlib.Data.List.Lex
import Mathlib.Data.List.TakeWhile
import Provision.Text.Digits

namespace Provision.Text

variable {width a : Nat} {x y r s : List Char}

/-! ## The digits of a number -/

theorem isDigit_of_mem_padded (width n : Nat) : ∀ c ∈ padded width n, c.isDigit := by
  intro c hc
  rcases List.mem_append.mp hc with hc | hc
  · obtain ⟨-, rfl⟩ := List.mem_replicate.mp hc
    rfl
  · exact Nat.isDigit_of_mem_toDigits (by decide) (by decide) hc

/-- The zeros in front of a number do not count. -/
theorem ofDigitChars_padded (width n : Nat) : Nat.ofDigitChars 10 (padded width n) 0 = n := by
  unfold padded List.leftpad
  rw [Nat.ofDigitChars_append]
  simp

theorem length_padded (hwidth : 0 < width) (h : a < 10 ^ width) :
    (padded width a).length = width := by
  unfold padded List.leftpad
  rw [List.length_append, List.length_replicate]
  exact Nat.sub_add_cancel ((Nat.length_toDigits_le_iff (by decide) hwidth).mpr h)

/-! ## Texts of digits in order -/

/-- The first digit counts for more than all others. -/
theorem ofDigitChars_cons_eq (c : Char) (x : List Char) :
    Nat.ofDigitChars 10 (c :: x) 0 =
      10 ^ x.length * (c.toNat - '0'.toNat) + Nat.ofDigitChars 10 x 0 := by
  rw [Nat.ofDigitChars_cons, Nat.ofDigitChars_eq_ofDigitChars_zero, Nat.mul_zero, Nat.zero_add]

theorem ofDigitChars_lt (h : ∀ c ∈ x, c.isDigit) : Nat.ofDigitChars 10 x 0 < 10 ^ x.length := by
  induction x with
  | nil => simp
  | cons c x ih =>
    obtain ⟨hc, hx⟩ := List.forall_mem_cons.mp h
    have hdigit : c.toNat - '0'.toNat ≤ 9 := Nat.sub_le_sub_right (Char.isDigit_iff_toNat.mp hc).2 _
    have hmul := Nat.mul_le_mul_left (10 ^ x.length) hdigit
    have hlt := ih hx
    rw [ofDigitChars_cons_eq, List.length_cons, Nat.pow_succ]
    omega

/-- A number is less than another one if it has less of the higher unit, or as much of that and less
of the lower one. -/
theorem mul_add_lt_iff {unit i j m n : Nat} (hm : m < unit) (hn : n < unit) :
    unit * i + m < unit * j + n ↔ i < j ∨ i = j ∧ m < n := by
  have hmul {i j : Nat} (h : i < j) : unit * i + unit ≤ unit * j := by
    rw [← Nat.mul_succ]
    exact Nat.mul_le_mul_left unit h
  rcases Nat.lt_trichotomy i j with hlt | rfl | hgt
  · have hle := hmul hlt
    simp only [hlt, true_or, iff_true]
    omega
  · simp
  · have hle := hmul hgt
    omega

theorem mul_add_eq_iff {unit i j m n : Nat} (hm : m < unit) (hn : n < unit) :
    unit * i + m = unit * j + n ↔ i = j ∧ m = n := by
  have hlt := mul_add_lt_iff (i := i) (j := j) hm hn
  have hgt := mul_add_lt_iff (i := j) (j := i) hn hm
  omega

theorem digits_append_lt_iff (hx : ∀ c ∈ x, c.isDigit) (hy : ∀ c ∈ y, c.isDigit)
    (hlength : x.length = y.length) :
    x ++ r < y ++ s ↔ Nat.ofDigitChars 10 x 0 < Nat.ofDigitChars 10 y 0 ∨
      Nat.ofDigitChars 10 x 0 = Nat.ofDigitChars 10 y 0 ∧ r < s := by
  induction x generalizing y with
  | nil =>
    obtain rfl : y = [] := List.length_eq_zero_iff.mp hlength.symm
    simp
  | cons c x ih =>
    obtain ⟨d, y, rfl⟩ := List.exists_cons_of_length_eq_add_one hlength.symm
    obtain ⟨hc, hx⟩ := List.forall_mem_cons.mp hx
    obtain ⟨hd, hy⟩ := List.forall_mem_cons.mp hy
    have hlength : x.length = y.length := by simpa using hlength
    rw [List.cons_append, List.cons_append, List.cons_lt_cons_iff, ih hx hy hlength,
      ofDigitChars_cons_eq, ofDigitChars_cons_eq, ← hlength,
      mul_add_lt_iff (ofDigitChars_lt hx) (hlength ▸ ofDigitChars_lt hy),
      mul_add_eq_iff (ofDigitChars_lt hx) (hlength ▸ ofDigitChars_lt hy)]
    have hc := (Char.isDigit_iff_toNat.mp hc).1
    have hd := (Char.isDigit_iff_toNat.mp hd).1
    have hlt : c < d ↔ c.toNat - '0'.toNat < d.toNat - '0'.toNat := by
      rw [Char.lt_def, UInt32.lt_iff_toNat_lt]
      exact (Nat.sub_lt_sub_iff_right hc).symm
    have heq : c = d ↔ c.toNat - '0'.toNat = d.toNat - '0'.toNat := by
      rw [← Char.toNat_inj]
      omega
    rw [hlt, heq]
    tauto

/-! ## Numbers in a row -/

/-- Numbers in a row, each of them padded to a width and ended by a mark. -/
def marked : List (Nat × Char) → List Nat → List Char
  | (width, mark) :: marks, n :: numbers => padded width n ++ mark :: marked marks numbers
  | _, _ => []

/-- Numbers can be told from their text where the marks are no digits. -/
theorem marked_inj {marks : List (Nat × Char)} {a b : List Nat}
    (hmarks : ∀ mark ∈ marks, mark.2.isDigit = false) (ha : a.length = marks.length)
    (hb : b.length = marks.length) (h : marked marks a = marked marks b) : a = b := by
  induction marks generalizing a b with
  | nil => rw [List.length_eq_zero_iff.mp ha, List.length_eq_zero_iff.mp hb]
  | cons mark marks ih =>
    obtain ⟨m, a, rfl⟩ := List.exists_cons_of_length_eq_add_one ha
    obtain ⟨n, b, rfl⟩ := List.exists_cons_of_length_eq_add_one hb
    obtain ⟨hmark, hmarks⟩ := List.forall_mem_cons.mp hmarks
    have hdigits (n : Nat) (rest : List Char) :
        (padded mark.1 n ++ mark.2 :: rest).takeWhile Char.isDigit = padded mark.1 n := by
      rw [List.takeWhile_append_of_pos (isDigit_of_mem_padded _ n), List.takeWhile_cons, hmark]
      simp
    have hfirst := congrArg (List.takeWhile Char.isDigit) h
    simp only [marked, hdigits] at hfirst
    have hnumber : m = n := by
      rw [← ofDigitChars_padded mark.1 m, hfirst, ofDigitChars_padded]
    simp only [marked, hfirst, List.append_cancel_left_eq, List.cons.injEq, true_and] at h
    rw [hnumber, ih hmarks (by simpa using ha) (by simpa using hb) h]

/-- A number that its width holds. -/
def Fits (mark : Nat × Char) (n : Nat) : Prop := 0 < mark.1 ∧ n < 10 ^ mark.1

/-- Where no number is wider than its width, texts are in the order of the numbers. -/
theorem marked_lt_iff {marks : List (Nat × Char)} {a b : List Nat}
    (ha : List.Forall₂ Fits marks a) (hb : List.Forall₂ Fits marks b) :
    marked marks a < marked marks b ↔ a < b := by
  induction ha generalizing b with
  | nil =>
    cases hb
    simp [marked]
  | @cons mark m marks a hm ha ih =>
    obtain ⟨n, b, hn, htail, rfl⟩ := List.forall₂_cons_left_iff.mp hb
    have hlength : (padded mark.1 m).length = (padded mark.1 n).length := by
      rw [length_padded hm.1 hm.2, length_padded hn.1 hn.2]
    rw [marked, marked, digits_append_lt_iff (isDigit_of_mem_padded _ m)
      (isDigit_of_mem_padded _ n) hlength, ofDigitChars_padded, ofDigitChars_padded,
      List.cons_lt_cons_iff, List.cons_lt_cons_iff, ih htail]
    simp

end Provision.Text
