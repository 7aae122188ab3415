import Mathlib.Data.Bool.AllAny
import Mathlib.Data.List.Basic
import Provision.Json.Value

namespace Provision.Json

variable {s s' : String} {v w : Value} {c d : Char} {cs ds r r' : List Char}
  {fields fields' : List (String × Value)}

/-! ## Escapes -/

/-- The characters that do not stand for themselves in a text. -/
def escaped : List Char := '"' :: '\\' :: (List.range 0x20).map Char.ofNat

theorem mem_escaped_of_lt (h : c.toNat < 0x20) : c ∈ escaped := by
  have hmem : c ∈ (List.range 0x20).map Char.ofNat :=
    List.mem_map.mpr ⟨c.toNat, List.mem_range.mpr h, Char.ofNat_toNat c⟩
  exact List.mem_cons_of_mem _ (List.mem_cons_of_mem _ hmem)

theorem escape_of_not_mem (h : c ∉ escaped) : escape c = [c] := by
  have hlow : ¬ c.toNat < 0x20 := fun hlt => h (mem_escaped_of_lt hlt)
  have hletter : escapeLetter? c = none := by
    have hquote : c.toNat ≠ 0x22 := fun heq => h (by simp [escaped, ← Char.toNat_inj, heq])
    have hslash : c.toNat ≠ 0x5C := fun heq => h (by simp [escaped, ← Char.toNat_inj, heq])
    unfold escapeLetter?
    split <;> first | omega | rfl
  rw [escape, hletter]
  simp [hlow]

/-- An escape begins with a backslash, and what stands for itself does not. -/
theorem head?_escape (c : Char) : ∃ rest, escape c = (if c ∈ escaped then '\\' else c) :: rest := by
  by_cases h : c ∈ escaped
  · have hall : ∀ c ∈ escaped, (escape c).head? = some '\\' :=
      List.all_iff_forall_prop.mp (by decide)
    obtain ⟨rest, hrest⟩ := List.head?_eq_some_iff.mp (hall c h)
    exact ⟨rest, by rw [if_pos h, hrest]⟩
  · exact ⟨[], by rw [if_neg h, escape_of_not_mem h]⟩

/-- No escape begins another one. -/
theorem eq_of_escape_isPrefix (h : escape c <+: escape d) : c = d := by
  have hslash : '\\' ∈ escaped := by decide
  obtain ⟨rest, hc⟩ := head?_escape c
  obtain ⟨rest', hd⟩ := head?_escape d
  rw [hc, hd, List.cons_prefix_cons] at h
  by_cases hmem : c ∈ escaped <;> by_cases hmem' : d ∈ escaped
  · have hall : escaped.all fun c => escaped.all fun d => escape c <+: escape d → c = d := by
      decide +kernel
    have hsame := List.all_iff_forall_prop.mp (List.all_eq_true.mp hall c hmem) d hmem'
    refine hsame ?_
    rw [hc, hd, List.cons_prefix_cons]
    exact h
  · rw [if_pos hmem, if_neg hmem'] at h
    exact absurd (h.1 ▸ hslash) hmem'
  · rw [if_neg hmem, if_pos hmem'] at h
    exact absurd (h.1 ▸ hslash) hmem
  · rw [if_neg hmem, if_neg hmem'] at h
    exact h.1

theorem escape_append_inj (h : escape c ++ r = escape d ++ r') : c = d ∧ r = r' := by
  have hcd : c = d := by
    rcases List.append_eq_append_iff.mp h with ⟨_, hd, -⟩ | ⟨_, hc, -⟩
    · exact eq_of_escape_isPrefix ⟨_, hd.symm⟩
    · exact (eq_of_escape_isPrefix ⟨_, hc.symm⟩).symm
  subst hcd
  exact ⟨rfl, List.append_cancel_left h⟩

theorem le_of_mem_escape (h : d ∈ escape c) : 0x20 ≤ d.toNat := by
  by_cases hmem : c ∈ escaped
  · have hall : escaped.all fun c => (escape c).all fun d => 0x20 ≤ d.toNat := by decide +kernel
    exact List.all_iff_forall_prop.mp (List.all_eq_true.mp hall c hmem) d h
  · rw [escape_of_not_mem hmem, List.mem_singleton] at h
    subst h
    exact Nat.le_of_not_lt fun hlt => hmem (mem_escaped_of_lt hlt)

/-! ## Texts between quotes -/

theorem flatMap_escape_inj
    (h : cs.flatMap escape ++ '"' :: r = ds.flatMap escape ++ '"' :: r') : cs = ds ∧ r = r' := by
  have hquote (c : Char) (cs r r' : List Char) :
      '"' :: r' ≠ (c :: cs).flatMap escape ++ '"' :: r := by
    obtain ⟨rest, hc⟩ := head?_escape c
    rw [List.flatMap_cons, hc]
    intro h
    have hhead := (List.cons.inj h).1
    split at hhead
    · cases hhead
    · next hmem => exact hmem (hhead ▸ by decide)
  induction cs generalizing ds with
  | nil =>
    cases ds with
    | nil => exact ⟨rfl, (List.cons.inj h).2⟩
    | cons d ds => exact absurd h (hquote d ds r' r)
  | cons c cs ih =>
    cases ds with
    | nil => exact absurd h.symm (hquote c cs r r')
    | cons d ds =>
      rw [List.flatMap_cons, List.flatMap_cons, List.append_assoc, List.append_assoc] at h
      obtain ⟨rfl, hrest⟩ := escape_append_inj h
      obtain ⟨rfl, hr⟩ := ih hrest
      exact ⟨rfl, hr⟩

/-- Where the quoted text ends, and what it is, can be told whatever follows. -/
theorem quote_append_inj (h : quote s ++ r = quote s' ++ r') : s = s' ∧ r = r' := by
  have htext (s : String) (r : List Char) :
      quote s ++ r = '"' :: (s.toList.flatMap escape ++ '"' :: r) := by simp [quote]
  rw [htext, htext] at h
  obtain ⟨hs, hr⟩ := flatMap_escape_inj (List.cons.inj h).2
  exact ⟨String.toList_inj.mp hs, hr⟩

theorem le_of_mem_quote (h : c ∈ quote s) : 0x20 ≤ c.toNat := by
  simp only [quote, List.cons_append, List.mem_cons, List.mem_append, List.mem_flatMap,
    List.not_mem_nil, or_false] at h
  rcases h with rfl | ⟨_, -, hc⟩ | rfl
  · decide
  · exact le_of_mem_escape hc
  · decide

/-! ## Numbers -/

/-- The characters of numbers, and of what stands for a number that has no digits. -/
def isNumeral (c : Char) : Bool := c.isDigit || c ∈ ['-', '+', '.', 'e', 'n', 'u', 'l']

theorem isNumeral_of_isDigit (h : c.isDigit) : isNumeral c := by simp [isNumeral, h]

theorem isNumeral_toDigits (n : Nat) : ∀ c ∈ Nat.toDigits 10 n, isNumeral c := fun _ hc =>
  isNumeral_of_isDigit (Nat.isDigit_of_mem_toDigits (by decide) (by decide) hc)

theorem isNumeral_toString (n : Int) : ∀ c ∈ (toString n).toList, isNumeral c := by
  intro c hc
  rw [Int.toString_eq_repr, Int.repr_eq_if] at hc
  split at hc
  · rw [Nat.toList_repr] at hc
    exact isNumeral_toDigits _ c hc
  · rw [String.toList_append, List.mem_append, Nat.toList_repr] at hc
    rcases hc with hc | hc
    · obtain rfl : c = '-' := by simpa using hc
      decide
    · exact isNumeral_toDigits _ c hc

theorem toString_injective {m n : Int} (h : toString m = toString n) : m = n := by
  have hrepr {a b : Nat} (h : a.repr = b.repr) : a = b := by
    have hvalue (a : Nat) : Nat.ofDigitChars 10 a.repr.toList 0 = a := by simp [Nat.toList_repr]
    rw [← hvalue a, h, hvalue]
  have hsign (a b : Nat) : a.repr ≠ "-" ++ b.repr := by
    intro h
    have hmem : '-' ∈ Nat.toDigits 10 a := by
      rw [← Nat.toList_repr, h]
      simp
    exact absurd (Nat.isDigit_of_mem_toDigits (by decide) (by decide) hmem) (by decide)
  match m, n with
  | .ofNat a, .ofNat b => exact congrArg Int.ofNat (hrepr h)
  | .negSucc a, .negSucc b =>
    exact congrArg Int.negSucc (Nat.succ.inj (hrepr ((String.append_right_inj "-").mp h)))
  | .ofNat a, .negSucc b => exact absurd h (hsign a b.succ)
  | .negSucc a, .ofNat b => exact absurd h.symm (hsign b a.succ)

theorem isNumeral_write (f : Decimal.Format) (s : Decimal.Scientific) :
    ∀ c ∈ f.write s, isNumeral c := by
  have hdigits := isNumeral_toDigits s.reduce.digits
  have htake (n : Nat) : ((Nat.toDigits 10 s.reduce.digits).take n).all isNumeral :=
    List.all_eq_true.mpr fun c hc => hdigits c (List.mem_of_mem_take hc)
  have hdrop (n : Nat) : ((Nat.toDigits 10 s.reduce.digits).drop n).all isNumeral :=
    List.all_eq_true.mpr fun c hc => hdigits c (List.mem_of_mem_drop hc)
  have hnat (n : Nat) : (Nat.toDigits 10 n).all isNumeral :=
    List.all_eq_true.mpr (isNumeral_toDigits n)
  have hzeros (n : Nat) : (List.replicate n '0').all isNumeral := by
    rw [List.all_eq_true]
    intro c hc
    rw [(List.mem_replicate.mp hc).2]
    decide
  have hmarks : isNumeral '0' ∧ isNumeral '.' ∧ isNumeral '-' ∧ isNumeral '+' ∧ isNumeral 'e' := by
    decide
  rw [← List.all_eq_true]
  unfold Decimal.Format.write
  dsimp only
  split
  · split
    · split
      · simp only [List.all_cons, hmarks, hnat, Bool.and_self]
      · split
        · simp only [List.all_append, List.all_cons, List.all_nil, hmarks, hnat, hzeros,
            Bool.and_self]
        · simp only [List.all_append, List.all_cons, hmarks, htake, hdrop, Bool.and_self]
    · simp only [List.cons_append, List.all_append, List.all_cons, hmarks, hnat, hzeros,
        Bool.and_self]
  · split <;> split <;> try split
    all_goals
      simp only [List.cons_append, List.nil_append, List.append_assoc, List.all_append,
        List.all_cons, hmarks, hnat, htake, hdrop, Bool.and_self]

theorem isNumeral_number (x : Float) : ∀ c ∈ number x, isNumeral c := by
  have hsigned {cs : List Char} (h : ∀ c ∈ cs, isNumeral c) (negative : Bool) :
      ∀ c ∈ if negative then '-' :: cs else cs, isNumeral c := by
    cases negative with
    | false => exact h
    | true => exact List.forall_mem_cons.mpr ⟨by decide, h⟩
  unfold number
  cases Decimal.Double.ofBits x.toBits.toNat with
  | zero negative => exact hsigned (List.all_eq_true.mp (by decide)) negative
  | finite negative b => exact hsigned (isNumeral_write _ _) negative
  | infinite _ | notANumber =>
    exact List.all_eq_true.mp (by decide : ['n', 'u', 'l', 'l'].all isNumeral)

/-! ## Values and objects -/

/-- A value with zero in the place of a number of seconds. -/
def Value.untimed : Value → Value
  | .seconds _ => .seconds 0
  | v => v

/-- Values of one kind. -/
inductive Value.Alike : Value → Value → Prop
  | text (s s' : String) : Alike (.text s) (.text s')
  | integer (n n' : Int) : Alike (.integer n) (.integer n')
  | seconds (x x' : Float) : Alike (.seconds x) (.seconds x')

/-- What stands behind a field: the next field, or the end of the object. -/
def following : List (String × Value) → List Char
  | [] => ['\x7d']
  | (name, v) :: fields => ',' :: (field name v ++ following fields)

theorem object_cons (name : String) (v : Value) (fields : List (String × Value)) :
    object ((name, v) :: fields) = '\x7b' :: (field name v ++ following fields) := by
  induction fields generalizing name v with
  | nil => simp [object, following]
  | cons f fields ih =>
    obtain ⟨name', v'⟩ := f
    have hnext := (List.cons.inj (ih name' v')).2
    rw [following, ← hnext]
    simp [object, List.intercalate_cons_cons]

theorem le_of_mem_render (h : c ∈ v.render) : 0x20 ≤ c.toNat := by
  have hnumeral (h : isNumeral c) : 0x20 ≤ c.toNat := by
    by_contra hlow
    have hall : ∀ c ∈ escaped, c.toNat < 0x20 → isNumeral c = false :=
      List.all_iff_forall_prop.mp (by decide +kernel)
    have hmem := mem_escaped_of_lt (Nat.lt_of_not_le hlow)
    simp [hall c hmem (Nat.lt_of_not_le hlow)] at h
  cases v with
  | text s => exact le_of_mem_quote h
  | integer n => exact hnumeral (isNumeral_toString n c h)
  | seconds x => exact hnumeral (isNumeral_number x c h)

theorem le_of_mem_field {name : String} (h : c ∈ field name v) : 0x20 ≤ c.toNat := by
  rcases List.mem_append.mp h with h | h
  · exact le_of_mem_quote h
  · rcases List.mem_cons.mp h with rfl | h
    · decide
    · exact le_of_mem_render h

theorem le_of_mem_following (h : c ∈ following fields) : 0x20 ≤ c.toNat := by
  induction fields with
  | nil =>
    obtain rfl : c = '\x7d' := by simpa [following] using h
    decide
  | cons f fields ih =>
    rcases List.mem_cons.mp h with rfl | h
    · decide
    · rcases List.mem_append.mp h with h | h
      · exact le_of_mem_field h
      · exact ih h

/-- An object has no control characters in it, whatever its texts have. -/
theorem le_of_mem_object (h : c ∈ object fields) : 0x20 ≤ c.toNat := by
  cases fields with
  | nil =>
    have hall : ∀ c ∈ object [], 0x20 ≤ c.toNat := List.all_iff_forall_prop.mp (by decide)
    exact hall c h
  | cons f fields =>
    rw [object_cons] at h
    rcases List.mem_cons.mp h with rfl | h
    · decide
    · rcases List.mem_append.mp h with h | h
      · exact le_of_mem_field h
      · exact le_of_mem_following h

/-- A number ends where something follows it that is in no number. -/
theorem numeral_append_inj (hcs : ∀ c ∈ cs, isNumeral c) (hds : ∀ c ∈ ds, isNumeral c)
    (hr : ∀ c ∈ r.head?, isNumeral c = false) (hr' : ∀ c ∈ r'.head?, isNumeral c = false)
    (h : cs ++ r = ds ++ r') : cs = ds ∧ r = r' := by
  have htake {cs r : List Char} (hcs : ∀ c ∈ cs, isNumeral c)
      (hr : ∀ c ∈ r.head?, isNumeral c = false) : (cs ++ r).takeWhile isNumeral = cs := by
    rw [List.takeWhile_append_of_pos hcs]
    cases r with
    | nil => simp
    | cons c r => simp [hr c rfl]
  have hcd : cs = ds := by rw [← htake hcs hr, h, htake hds hr']
  subst hcd
  exact ⟨rfl, List.append_cancel_left h⟩

theorem head?_following (fields : List (String × Value)) :
    ∀ c ∈ (following fields).head?, isNumeral c = false := by
  intro c hc
  cases fields with
  | nil =>
    obtain rfl : '\x7d' = c := by simpa [following] using hc
    decide
  | cons f fields =>
    obtain rfl : ',' = c := by simpa [following] using hc
    decide

/-- What a field holds can be told from its text, apart from seconds, whatever fields follow. -/
theorem field_append_inj {name : String} (halike : v.Alike w)
    (h : field name v ++ following fields = field name w ++ following fields') :
    v.untimed = w.untimed ∧ following fields = following fields' := by
  have hrender : v.render ++ following fields = w.render ++ following fields' := by
    simpa [field] using h
  have hfollowing := head?_following fields
  have hfollowing' := head?_following fields'
  cases halike with
  | text s s' =>
    obtain ⟨rfl, hrest⟩ := quote_append_inj hrender
    exact ⟨rfl, hrest⟩
  | integer n n' =>
    obtain ⟨hn, hrest⟩ := numeral_append_inj (isNumeral_toString n) (isNumeral_toString n')
      hfollowing hfollowing' hrender
    obtain rfl : n = n' := toString_injective (String.toList_inj.mp hn)
    exact ⟨rfl, hrest⟩
  | seconds x x' =>
    exact ⟨rfl, (numeral_append_inj (isNumeral_number x) (isNumeral_number x')
      hfollowing hfollowing' hrender).2⟩

/-- Fields of the same names and kinds. -/
def Matching : List (String × Value) → List (String × Value) → Prop :=
  List.Forall₂ fun f f' => f.1 = f'.1 ∧ f.2.Alike f'.2

theorem following_inj (hmatch : Matching fields fields')
    (h : following fields = following fields') :
    fields.map (fun f => f.2.untimed) = fields'.map fun f => f.2.untimed := by
  induction hmatch with
  | nil => rfl
  | @cons f f' fields fields' hf hfields ih =>
    obtain ⟨name, v⟩ := f
    obtain ⟨name', w⟩ := f'
    obtain ⟨rfl, halike⟩ := hf
    obtain ⟨hvalue, hrest⟩ := field_append_inj halike (List.cons.inj h).2
    simp only [List.map_cons, hvalue, ih hrest]

end Provision.Json
