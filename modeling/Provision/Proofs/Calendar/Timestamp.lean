import Mathlib.Order.Monotone.Basic
import Provision.Proofs.Calendar.Date
import Provision.Proofs.Text.Digits

namespace Provision

open Calendar

namespace Calendar

/-- Hour, minute and second of a day. -/
def clock (ofDay : Nat) : List Nat := [ofDay / 3600, ofDay % 3600 / 60, ofDay % 60]

/-- The numbers of a timestamp. -/
def fields (seconds : Nat) : List Nat :=
  (Date.ofDays (seconds / 86400)).numbers ++ clock (seconds % 86400)

/-- The widths of the numbers of a timestamp, and what stands behind them. -/
def marks : List (Nat × Char) := [(4, '-'), (2, '-'), (2, 'T'), (2, ':'), (2, ':'), (2, 'Z')]

/-- A date and a time of the day, counted from the epoch on. -/
structure IsInstant (seconds : Nat) (date : Date) (hour minute second : Nat) : Prop where
  valid : date.IsValid
  epoch_le : epoch ≤ date.year
  dayNumber : date.dayNumber = seconds / 86400
  hour_lt : hour < 24
  minute_lt : minute < 60
  second_lt : second < 60
  ofDay : hour * 3600 + minute * 60 + second = seconds % 86400

theorem isInstant (seconds : Nat) :
    IsInstant seconds (Date.ofDays (seconds / 86400)) (seconds % 86400 / 3600)
      (seconds % 86400 % 3600 / 60) (seconds % 86400 % 60) where
  valid := Date.isValid_ofDays _
  epoch_le := Date.epoch_le_ofDays _
  dayNumber := Date.dayNumber_ofDays _
  hour_lt := by omega
  minute_lt := by omega
  second_lt := by omega
  ofDay := by omega

theorem strictMono_clock : StrictMono clock := by
  intro a b hab
  simp only [clock, List.cons_lt_cons_iff]
  rcases Nat.eq_or_lt_of_le (Nat.div_le_div_right (c := 3600) hab.le) with hhour | hhour
  · refine .inr ⟨hhour, ?_⟩
    have hofHour : a % 3600 < b % 3600 := by omega
    rcases Nat.eq_or_lt_of_le (Nat.div_le_div_right (c := 60) hofHour.le) with hminute | hminute
    · exact .inr ⟨hminute, .inl (by omega)⟩
    · exact .inl hminute
  · exact .inl hhour

theorem strictMono_fields : StrictMono fields := by
  intro s t hst
  rcases Nat.eq_or_lt_of_le (Nat.div_le_div_right (c := 86400) hst.le) with hday | hday
  · have hclock : clock (s % 86400) < clock (t % 86400) := strictMono_clock (by omega)
    unfold fields
    rw [hday]
    exact List.append_left_lt hclock
  · have hdate : (Date.ofDays (s / 86400)).numbers < (Date.ofDays (t / 86400)).numbers := by
      rwa [← Date.dayNumber_lt_iff (Date.isValid_ofDays _) (Date.isValid_ofDays _)
        (Date.epoch_le_ofDays _) (Date.epoch_le_ofDays _), Date.dayNumber_ofDays,
        Date.dayNumber_ofDays]
    simp only [fields, Date.numbers, List.cons_append, List.nil_append, List.cons_lt_cons_iff,
      List.not_lt_nil] at hdate ⊢
    tauto

theorem forall₂_fits {seconds : Nat} (h : (Date.ofDays (seconds / 86400)).year ≤ 9999) :
    List.Forall₂ Text.Fits marks (fields seconds) := by
  obtain ⟨hmonth, hmonths, hday, hdays⟩ := Date.isValid_ofDays (seconds / 86400)
  have hlength : monthLength (Date.ofDays (seconds / 86400)).year
      (Date.ofDays (seconds / 86400)).month ≤ 31 := by
    unfold monthLength
    split_ifs <;> omega
  simp only [fields, Date.numbers, clock, marks, Text.Fits, List.cons_append, List.nil_append,
    List.forall₂_cons, List.Forall₂.nil, and_true]
  omega

end Calendar

theorem timestamp_eq (seconds : Nat) :
    timestamp seconds = String.ofList (Text.marked marks (fields seconds)) := by
  have htext (date : Date) (ofDay : Nat) :
      Text.padded 4 date.year ++ '-' :: Text.padded 2 date.month ++
        '-' :: Text.padded 2 date.day ++ 'T' :: Text.padded 2 (ofDay / 3600) ++
        ':' :: Text.padded 2 (ofDay % 3600 / 60) ++ ':' :: Text.padded 2 (ofDay % 60) ++ ['Z'] =
      Text.marked marks (date.numbers ++ clock ofDay) := by
    simp [marks, clock, Text.marked, Date.numbers]
  unfold timestamp
  exact congrArg String.ofList (htext _ _)

theorem timestamp_injective : Function.Injective timestamp := by
  intro s t h
  rw [timestamp_eq, timestamp_eq, String.ofList_inj] at h
  exact strictMono_fields.injective (Text.marked_inj (by decide) rfl rfl h)

theorem timestamp_lt_iff {s t : Nat} (hs : (Date.ofDays (s / 86400)).year ≤ 9999)
    (ht : (Date.ofDays (t / 86400)).year ≤ 9999) : timestamp s < timestamp t ↔ s < t := by
  rw [timestamp_eq, timestamp_eq, String.lt_iff, String.toList_ofList, String.toList_ofList,
    Text.marked_lt_iff (forall₂_fits hs) (forall₂_fits ht)]
  exact strictMono_fields.lt_iff_lt

/-- A timestamp names its instant, and no other one. The date comes from a computation in words,
none of which overflows. While years have four digits, the later instant has the later text. -/
theorem timestamp_names {seconds : Nat} (h : seconds < 2 ^ 64) :
    (∃ date hour minute second,
      Date.ofWord? (seconds / 86400) = some date ∧
      IsInstant seconds date hour minute second ∧
      timestamp seconds = String.ofList (Text.padded 4 date.year ++
        '-' :: Text.padded 2 date.month ++ '-' :: Text.padded 2 date.day ++
        'T' :: Text.padded 2 hour ++ ':' :: Text.padded 2 minute ++
        ':' :: Text.padded 2 second ++ ['Z'])) ∧
    (∀ other, timestamp other = timestamp seconds → other = seconds) ∧
    ∀ other, (Date.ofDays (seconds / 86400)).year ≤ 9999 →
      (Date.ofDays (other / 86400)).year ≤ 9999 →
      (timestamp seconds < timestamp other ↔ seconds < other) := by
  have hdays : seconds / 86400 < 2 ^ 62 := by omega
  refine ⟨⟨_, _, _, _, Date.ofWord?_eq hdays, isInstant seconds, rfl⟩, ?_, ?_⟩
  · intro other hother
    exact timestamp_injective hother
  · intro other hyear hyear'
    exact timestamp_lt_iff hyear hyear'

/-- The last second of the leap day that ends an era. -/
theorem timestamp_leapDay :
    951868799 < 2 ^ 64 ∧ timestamp 951868799 = "2000-02-29T23:59:59Z" ∧
      Date.ofWord? (951868799 / 86400) = some ⟨2000, 2, 29⟩ ∧
      (∀ other, timestamp other = timestamp 951868799 → other = 951868799) ∧
      timestamp 951868799 < timestamp 951868800 := by
  have hseconds : 951868799 < 2 ^ 64 := by decide
  obtain ⟨-, hother, hlater⟩ := timestamp_names hseconds
  exact ⟨hseconds, by decide +kernel, by decide +kernel, hother,
    (hlater _ (by decide +kernel) (by decide +kernel)).mpr (by decide)⟩

end Provision
