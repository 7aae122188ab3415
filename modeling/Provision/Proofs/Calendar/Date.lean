import Mathlib.Data.List.Lex
import Mathlib.Tactic.IntervalCases
import Provision.Calendar

namespace Provision.Date

open Calendar

variable {α : Type} {d d' : Date} {days ofEra century cycle year ofYear month : Nat}

/-! ## Years and months in a row -/

/-- Where each step goes on by the length of what it passes, what comes later begins behind it. -/
private theorem add_le_of_succ {first : Nat} {begins length : Nat → Nat}
    (h : ∀ n, first ≤ n → begins (n + 1) = begins n + length n) {a b : Nat} (ha : first ≤ a)
    (hab : a < b) : begins a + length a ≤ begins b := by
  induction b, hab using Nat.le_induction with
  | base => exact (h a ha).ge
  | succ b hb ih =>
    rw [h b (by omega)]
    exact ih.trans (Nat.le_add_right ..)

theorem daysBeforeYear_succ (h : epoch ≤ year) :
    daysBeforeYear (year + 1) = daysBeforeYear year + yearLength year := by
  unfold daysBeforeYear
  rw [Nat.succ_sub h, List.range'_1_concat, List.foldl_append, Nat.add_sub_cancel' h]
  rfl

theorem daysBeforeMonth_succ (year : Nat) (h : 1 ≤ month) :
    daysBeforeMonth year (month + 1) = daysBeforeMonth year month + monthLength year month := by
  unfold daysBeforeMonth
  rw [Nat.succ_sub h, List.range'_1_concat, List.foldl_append, Nat.add_sub_cancel' h]
  rfl

/-- The months of a year add up to the year. -/
theorem daysBeforeMonth_thirteen (year : Nat) : daysBeforeMonth year 13 = yearLength year := by
  simp only [daysBeforeMonth, yearLength, monthLength]
  cases isLeap year <;> rfl

theorem daysBeforeYear_le {a b : Nat} (ha : epoch ≤ a) (hab : a < b) :
    daysBeforeYear a + yearLength a ≤ daysBeforeYear b :=
  add_le_of_succ (fun _ => daysBeforeYear_succ) ha hab

theorem daysBeforeMonth_le {a b : Nat} (year : Nat) (ha : 1 ≤ a) (hab : a < b) :
    daysBeforeMonth year a + monthLength year a ≤ daysBeforeMonth year b :=
  add_le_of_succ (fun _ => daysBeforeMonth_succ year) ha hab

/-! ## Dates in order -/

/-- Year, month and day, by which dates are put in order. -/
def numbers (d : Date) : List Nat := [d.year, d.month, d.day]

theorem IsValid.daysBeforeMonth_lt (h : d.IsValid) :
    daysBeforeMonth d.year d.month + (d.day - 1) < yearLength d.year := by
  obtain ⟨hmonth, hmonths, hday, hdays⟩ := h
  have hle := daysBeforeMonth_le d.year hmonth (Nat.lt_succ_of_le hmonths)
  rw [daysBeforeMonth_thirteen] at hle
  omega

theorem dayNumber_lt (hd : d.IsValid) (hd' : d'.IsValid) (hyear : epoch ≤ d.year)
    (h : d.numbers < d'.numbers) : d.dayNumber < d'.dayNumber := by
  simp only [numbers, List.cons_lt_cons_iff, List.not_lt_nil, and_false, or_false] at h
  unfold dayNumber
  rcases h with hlt | ⟨hyears, hlt | ⟨hmonths, hlt⟩⟩
  · have hle := daysBeforeYear_le hyear hlt
    have hday := hd.daysBeforeMonth_lt
    omega
  · have hle := daysBeforeMonth_le d.year hd.1 hlt
    have hday := hd.2.2.2
    have hday' := hd'.2.2.1
    have hfirst := hd.2.2.1
    rw [← hyears]
    omega
  · have hfirst := hd.2.2.1
    rw [← hyears, ← hmonths]
    omega

/-- Of two dates the later one has the higher number. -/
theorem dayNumber_lt_iff (hd : d.IsValid) (hd' : d'.IsValid) (hyear : epoch ≤ d.year)
    (hyear' : epoch ≤ d'.year) : d.dayNumber < d'.dayNumber ↔ d.numbers < d'.numbers := by
  refine ⟨fun h => ?_, dayNumber_lt hd hd' hyear⟩
  rcases lt_trichotomy d.numbers d'.numbers with hlt | heq | hgt
  · exact hlt
  · obtain ⟨hyears, hmonths, hdays⟩ :
        d.year = d'.year ∧ d.month = d'.month ∧ d.day = d'.day := by simpa [numbers] using heq
    rw [dayNumber, dayNumber, hyears, hmonths, hdays] at h
    exact absurd h (lt_irrefl _)
  · exact absurd h (dayNumber_lt hd' hd hyear' hgt).not_gt

/-! ## Years that begin in March -/

/-- The days from the first of March of the year zero to that of a later year. -/
def daysBeforeMarch (year : Nat) : Nat := 365 * year + year / 4 - year / 100 + year / 400

/-- The date of a day of a year that begins in March. -/
def ofMarch (year ofYear : Nat) : Date :=
  let month := (5 * ofYear + 2) / 153
  { year := if month < 10 then year else year + 1
    month := if month < 10 then month + 3 else month - 9
    day := ofYear - (153 * month + 2) / 5 + 1 }

theorem isLeap_iff : isLeap year ↔ 4 ∣ year ∧ (100 ∣ year → 400 ∣ year) := by
  simp only [isLeap, Bool.and_eq_true, beq_iff_eq, Bool.or_eq_true, bne_iff_ne,
    Nat.dvd_iff_mod_eq_zero]
  tauto

theorem yearLength_le (year : Nat) : yearLength year ≤ 366 := by
  unfold yearLength
  split <;> omega

/-- A year that begins in March is as long as the one in which it ends. -/
theorem daysBeforeMarch_succ (year : Nat) :
    daysBeforeMarch (year + 1) = daysBeforeMarch year + yearLength (year + 1) := by
  have hcenturies : year / 100 ≤ year / 4 := Nat.div_le_div_left (by decide) (by decide)
  unfold daysBeforeMarch yearLength
  simp only [Nat.succ_div, isLeap_iff]
  split_ifs <;> omega

/-- The years since the epoch, and those before it. -/
theorem daysBeforeYear_succ_eq (h : epoch ≤ year + 1) :
    daysBeforeYear (year + 1) + 719162 = daysBeforeMarch year := by
  obtain ⟨n, rfl⟩ : ∃ n, year = 1969 + n := Nat.exists_eq_add_of_le (Nat.succ_le_succ_iff.mp h)
  induction n with
  | zero => decide
  | succ n ih =>
    have hn := ih (by unfold epoch; omega)
    rw [← Nat.add_assoc, daysBeforeYear_succ (by unfold epoch; omega), daysBeforeMarch_succ]
    omega

theorem isValid_ofMarch (h : ofYear < yearLength (year + 1)) : (ofMarch year ofYear).IsValid := by
  have hyear := h.trans_le (yearLength_le _)
  unfold yearLength at h
  unfold ofMarch
  dsimp only
  generalize hmonth : (5 * ofYear + 2) / 153 = month
  have hmonths : month < 12 := by omega
  interval_cases month <;> simp [IsValid, monthLength] <;> split_ifs at * <;> omega

/-- The months from March on begin where the months before them end. -/
theorem daysBeforeMonth_march (year : Nat) (h : month < 10) :
    daysBeforeMonth year (month + 3) + 306 = yearLength year + (153 * month + 2) / 5 := by
  unfold yearLength
  interval_cases month <;> simp [daysBeforeMonth, monthLength] <;> cases isLeap year <;> rfl

theorem daysBeforeMonth_january (year : Nat) (h : 10 ≤ month) (h' : month < 12) :
    daysBeforeMonth year (month - 9) + 306 = (153 * month + 2) / 5 := by
  interval_cases month <;> rfl

/-- A day of a year that begins in March keeps its number. -/
theorem dayNumber_ofMarch (h : ofYear < yearLength (year + 1))
    (hepoch : epoch ≤ (ofMarch year ofYear).year) :
    (ofMarch year ofYear).dayNumber + 719468 = daysBeforeMarch year + ofYear := by
  have hyear := h.trans_le (yearLength_le _)
  have hmonths : (5 * ofYear + 2) / 153 < 12 := by omega
  have hmonth : (153 * ((5 * ofYear + 2) / 153) + 2) / 5 ≤ ofYear := by omega
  unfold dayNumber
  simp only [ofMarch] at hepoch ⊢
  split_ifs at hepoch ⊢ with hmarch
  · have hyear := daysBeforeYear_succ_eq (Nat.le_succ_of_le hepoch)
    rw [daysBeforeYear_succ hepoch] at hyear
    have hmonth := daysBeforeMonth_march year hmarch
    omega
  · have hyear := daysBeforeYear_succ_eq hepoch
    have hmonth := daysBeforeMonth_january (year + 1) (Nat.le_of_not_lt hmarch) hmonths
    omega

/-! ## Eras -/

/-- A day of an era of four centuries, by its century, its cycle of four years, and its year, which
begins in March. Only a leap year has a day beyond the 365th, and the leap year of a century is
its last year in the last century alone. -/
structure IsDayOfEra (ofEra century cycle year ofYear : Nat) : Prop where
  eq : ofEra = 36524 * century + 1461 * cycle + 365 * year + ofYear
  century_le : century ≤ 3
  cycle_le : cycle ≤ 24
  year_le : year ≤ 3
  ofYear_le : ofYear ≤ 364 ∨ ofYear = 365 ∧ year = 3 ∧ (cycle ≤ 23 ∨ century = 3)

/-- A longer last period takes the day that the others lack. -/
theorem exists_period {count length : Nat} (hcount : 0 < count) (hlength : 0 < length)
    (h : days ≤ count * length) :
    ∃ rest, days = length * period count length days + rest ∧ period count length days < count ∧
      (rest < length ∨ rest = length ∧ period count length days + 1 = count) := by
  unfold period
  rcases Nat.lt_or_ge (days / length) count with hlt | hge
  · rw [Nat.min_eq_left (Nat.le_sub_one_of_lt hlt)]
    exact ⟨days % length, (Nat.div_add_mod days length).symm, hlt, .inl (Nat.mod_lt _ hlength)⟩
  · have hdays : days = count * length := h.antisymm ((Nat.le_div_iff_mul_le hlength).mp hge)
    obtain ⟨n, rfl⟩ : ∃ n, count = n + 1 := ⟨count - 1, by omega⟩
    rw [Nat.min_eq_right (Nat.sub_le_of_le_add (Nat.le_succ_of_le hge)), Nat.add_sub_cancel]
    refine ⟨length, ?_, Nat.lt_succ_self n, .inr ⟨rfl, rfl⟩⟩
    rw [hdays, Nat.succ_mul, Nat.mul_comm]

/-- The date of a day of an era. -/
theorem exists_ofDays (days : Nat) :
    ∃ century cycle year ofYear,
      IsDayOfEra ((days + 719468) % 146097) century cycle year ofYear ∧
      ofDays days =
        ofMarch (400 * ((days + 719468) / 146097) + 100 * century + 4 * cycle + year) ofYear := by
  generalize hera : (days + 719468) % 146097 = ofEra
  have hlast : ofEra ≤ 4 * 36524 := hera ▸ Nat.le_of_lt_succ (Nat.mod_lt _ (by decide))
  obtain ⟨ofCentury, hcentury, hcenturies, hlonger⟩ := exists_period (by decide) (by decide) hlast
  have hofCentury : ofEra - 36524 * period 4 36524 ofEra = ofCentury := by omega
  have hcycle : ofCentury % 1461 ≤ 4 * 365 := Nat.le_of_lt_succ (Nat.mod_lt _ (by decide))
  obtain ⟨ofYear, hyear, hyears, hleap⟩ := exists_period (by decide) (by decide) hcycle
  have hofYear : ofCentury % 1461 - 365 * period 4 365 (ofCentury % 1461) = ofYear := by omega
  refine ⟨period 4 36524 ofEra, ofCentury / 1461, period 4 365 (ofCentury % 1461), ofYear,
    ⟨?_, ?_, ?_, ?_, ?_⟩, ?_⟩
  · omega
  · omega
  · omega
  · omega
  · omega
  · simp only [ofDays, hera, hofCentury, hofYear]
    rfl

namespace IsDayOfEra

theorem ofYear_lt (h : IsDayOfEra ofEra century cycle year ofYear) : ofYear < 366 := by
  rcases h.ofYear_le with hday | ⟨rfl, -⟩ <;> omega

theorem lt_yearLength (h : IsDayOfEra ofEra century cycle year ofYear) (era : Nat) :
    ofYear < yearLength (400 * era + 100 * century + 4 * cycle + year + 1) := by
  obtain ⟨-, hcentury, hcycle, hyear, hday⟩ := h
  unfold yearLength
  rcases hday with hday | ⟨rfl, rfl, hlast⟩
  · split <;> omega
  · have hleap : isLeap (400 * era + 100 * century + 4 * cycle + 3 + 1) := by
      rw [isLeap_iff]
      omega
    rw [if_pos hleap]
    omega

theorem daysBeforeMarch_add (h : IsDayOfEra ofEra century cycle year ofYear) (era : Nat) :
    daysBeforeMarch (400 * era + 100 * century + 4 * cycle + year) + ofYear =
      146097 * era + ofEra := by
  obtain ⟨rfl, hcentury, hcycle, hyear, -⟩ := h
  unfold daysBeforeMarch
  omega

end IsDayOfEra

/-! ## Days since the epoch -/

theorem epoch_le_ofDays (days : Nat) : epoch ≤ (ofDays days).year := by
  obtain ⟨century, cycle, year, ofYear, hera, hdays⟩ := exists_ofDays days
  have hnumber := hera.daysBeforeMarch_add ((days + 719468) / 146097)
  have hday := hera.ofYear_lt
  rw [hdays]
  generalize 400 * ((days + 719468) / 146097) + 100 * century + 4 * cycle + year = marchYear at *
  rw [Nat.div_add_mod, daysBeforeMarch] at hnumber
  unfold ofMarch epoch
  dsimp only
  split <;> omega

theorem isValid_ofDays (days : Nat) : (ofDays days).IsValid := by
  obtain ⟨century, cycle, year, ofYear, hera, hdays⟩ := exists_ofDays days
  rw [hdays]
  exact isValid_ofMarch (hera.lt_yearLength _)

/-- To count the days of years and months up to a date takes it back to its number. -/
theorem dayNumber_ofDays (days : Nat) : (ofDays days).dayNumber = days := by
  have hepoch := epoch_le_ofDays days
  obtain ⟨century, cycle, year, ofYear, hera, hdays⟩ := exists_ofDays days
  rw [hdays] at hepoch ⊢
  have hnumber := dayNumber_ofMarch (hera.lt_yearLength _) hepoch
  rw [hera.daysBeforeMarch_add, Nat.div_add_mod] at hnumber
  exact Nat.add_right_cancel hnumber

/-! ## Numbers in words -/

/-- A number that takes no more than so many bits. -/
def word? (bits n : Nat) : Option Nat := if n < 2 ^ bits then some n else none

/-- A difference, unless it is below zero. -/
def minus? (a b : Nat) : Option Nat := if b ≤ a then some (a - b) else none

/-- A computation goes on with what has been found. -/
theorem bind_of_eq_some {β : Type} {x : Option β} {b : β} (h : x = some b) (k : β → Option α) :
    (x >>= k) = k b := by
  rw [h]
  rfl

theorem word?_of_lt {bits n : Nat} (h : n < 2 ^ bits) : word? bits n = some n := if_pos h

theorem word?_bind {bits n : Nat} (h : n < 2 ^ bits) (k : Nat → Option α) :
    (word? bits n >>= k) = k n :=
  bind_of_eq_some (word?_of_lt h) k

theorem minus?_of_le {a b : Nat} (h : b ≤ a) : minus? a b = some (a - b) := if_pos h

theorem minus?_bind {a b : Nat} (h : b ≤ a) (k : Nat → Option α) :
    (minus? a b >>= k) = k (a - b) :=
  bind_of_eq_some (minus?_of_le h) k

/-! ## The computation in words

The usual way to compute a date, in signed words of 64 bits, with the month and the day in words of
32 bits. There is no date where a number along the way does not fit its word, or is below zero, so
that the signs of the words and the way they round do not matter. -/

/-- The year of a day of an era. The quotients take away the leap days before it. -/
def yearOfEra? (ofEra : Nat) : Option Nat := do
  let leapless ← minus? ofEra (ofEra / 1460)
  let leapless ← word? 63 (leapless + ofEra / 36524)
  let leapless ← minus? leapless (ofEra / 146096)
  return leapless / 365

def dayOfYear? (ofEra year : Nat) : Option Nat := do
  let before ← word? 63 (365 * year)
  let before ← word? 63 (before + year / 4)
  let before ← minus? before (year / 100)
  minus? ofEra before

/-- The month, counted from March on, of a day of a year. -/
def monthOfYear? (ofYear : Nat) : Option Nat := do
  let month ← word? 63 (5 * ofYear)
  let month ← word? 63 (month + 2)
  return month / 153

def dayOfMonth? (ofYear month : Nat) : Option Nat := do
  let first ← word? 63 (153 * month)
  let first ← word? 63 (first + 2)
  let day ← minus? ofYear (first / 5)
  let day ← word? 63 (day + 1)
  word? 32 day

def monthNumber? (month : Nat) : Option Nat :=
  if month < 10 then do word? 32 (← word? 63 (month + 3))
  else do word? 32 (← minus? month 9)

/-- The date of a day that is counted from the epoch on. -/
def ofWord? (days : Nat) : Option Date := do
  let days ← word? 63 days
  let sinceMarch ← word? 63 (days + 719468)
  let ofEra := sinceMarch % 146097
  let year ← yearOfEra? ofEra
  let ofYear ← dayOfYear? ofEra year
  let month ← monthOfYear? ofYear
  let day ← dayOfMonth? ofYear month
  let number ← monthNumber? month
  let years ← word? 63 (sinceMarch / 146097 * 400)
  let year ← word? 63 (year + years)
  let year ← word? 63 (year + if number ≤ 2 then 1 else 0)
  return ⟨year, number, day⟩

/-- A cycle is one day longer than 1460 days, a century one day shorter than its cycles, and an era
one day longer than its centuries. Late in a cycle the quotient by 1460 takes away the leap day
before it comes, but it does not lead back into another year. -/
theorem IsDayOfEra.yearOfEra?_eq (h : IsDayOfEra ofEra century cycle year ofYear) :
    yearOfEra? ofEra = some (100 * century + 4 * cycle + year) := by
  obtain ⟨heq, hcentury, hcycle, hyear, hday⟩ := h
  have hcenturies : ofEra / 36524 = century + ofEra / 146096 := by
    rcases Nat.lt_or_ge ofEra 146096 with hlt | hge
    · have hrest : 1461 * cycle + 365 * year + ofYear < 36524 := by omega
      rw [Nat.div_eq_of_lt hlt]
      omega
    · omega
  have hcycles : ofEra / 1460 = 25 * century + cycle +
      if 1460 ≤ 24 * century + cycle + 365 * year + ofYear then 1 else 0 := by
    split <;> omega
  have hyears : (ofEra - ofEra / 1460 + ofEra / 36524 - ofEra / 146096) / 365 =
      100 * century + 4 * cycle + year := by
    rw [hcenturies, hcycles]
    split <;> omega
  unfold yearOfEra?
  rw [minus?_bind (Nat.div_le_self ..), word?_bind (by omega), minus?_bind (by omega), hyears]
  rfl

theorem IsDayOfEra.dayOfYear?_eq (h : IsDayOfEra ofEra century cycle year ofYear) :
    dayOfYear? ofEra (100 * century + 4 * cycle + year) = some ofYear := by
  obtain ⟨heq, hcentury, hcycle, hyear, -⟩ := h
  unfold dayOfYear?
  rw [word?_bind (by omega), word?_bind (by omega), minus?_bind (by omega),
    minus?_of_le (by omega)]
  congr 1
  omega

theorem monthOfYear?_eq (h : ofYear < 366) :
    monthOfYear? ofYear = some ((5 * ofYear + 2) / 153) := by
  unfold monthOfYear?
  rw [word?_bind (by omega), word?_bind (by omega)]
  rfl

theorem dayOfMonth?_eq (h : ofYear < 366) (year : Nat) :
    dayOfMonth? ofYear ((5 * ofYear + 2) / 153) = some (ofMarch year ofYear).day := by
  unfold dayOfMonth?
  rw [word?_bind (by omega), word?_bind (by omega), minus?_bind (by omega),
    word?_bind (by omega), word?_of_lt (by omega)]
  rfl

theorem monthNumber?_eq (h : ofYear < 366) (year : Nat) :
    monthNumber? ((5 * ofYear + 2) / 153) = some (ofMarch year ofYear).month := by
  have hmonth : (5 * ofYear + 2) / 153 < 12 := by omega
  unfold monthNumber? ofMarch
  dsimp only
  split
  · rw [word?_bind (by omega), word?_of_lt (by omega)]
  · rw [minus?_bind (by omega), word?_of_lt (by omega)]

/-- January and February belong to the next year. -/
theorem year_ofMarch (h : ofYear < 366) (year : Nat) :
    (ofMarch year ofYear).year = year + if (ofMarch year ofYear).month ≤ 2 then 1 else 0 := by
  unfold ofMarch
  dsimp only
  split_ifs <;> omega

/-- All numbers along the way fit, for far more days than a word has seconds. -/
theorem ofWord?_eq (h : days < 2 ^ 62) : ofWord? days = some (ofDays days) := by
  obtain ⟨century, cycle, year, ofYear, hera, hdays⟩ := exists_ofDays days
  have hday := hera.ofYear_lt
  have hcentury := hera.century_le
  have hcycle := hera.cycle_le
  have hyear := hera.year_le
  unfold ofWord?
  rw [hdays, word?_bind (by omega), word?_bind (by omega)]
  generalize hsince : days + 719468 = sinceMarch at *
  generalize hmarch : 400 * (sinceMarch / 146097) + 100 * century + 4 * cycle + year = marchYear
  have hyears : 100 * century + 4 * cycle + year + sinceMarch / 146097 * 400 = marchYear := by omega
  rw [bind_of_eq_some hera.yearOfEra?_eq, bind_of_eq_some hera.dayOfYear?_eq,
    bind_of_eq_some (monthOfYear?_eq hday), bind_of_eq_some (dayOfMonth?_eq hday marchYear),
    bind_of_eq_some (monthNumber?_eq hday marchYear), word?_bind (by omega), word?_bind (by omega),
    hyears, word?_bind (by split <;> omega), ← year_ofMarch hday]
  rfl

end Provision.Date
