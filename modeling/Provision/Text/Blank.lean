namespace Provision.Text

/-- The code points that have the Unicode property White_Space, as closed ranges. -/
def blankRanges : List (Nat × Nat) :=
  [(0x09, 0x0D), (0x20, 0x20), (0x85, 0x85), (0xA0, 0xA0), (0x1680, 0x1680), (0x2000, 0x200A),
   (0x2028, 0x2029), (0x202F, 0x202F), (0x205F, 0x205F), (0x3000, 0x3000)]

def isBlank (c : Char) : Bool :=
  blankRanges.any fun (low, high) => low ≤ c.toNat && c.toNat ≤ high

/-- Every blank of the ASCII class is a blank here. -/
theorem isBlank_of_isWhitespace {c : Char} (h : c.isWhitespace) : isBlank c := by
  simp only [Char.isWhitespace, Bool.or_eq_true, decide_eq_true_eq] at h
  rcases h with ((rfl | rfl) | rfl) | rfl <;> decide

def trimStart (cs : List Char) : List Char :=
  cs.dropWhile isBlank

def trimEnd (cs : List Char) : List Char :=
  (cs.reverse.dropWhile isBlank).reverse

def trim (cs : List Char) : List Char :=
  trimEnd (trimStart cs)

/-- The text holds nothing but blanks. -/
def isAllBlank (cs : List Char) : Bool :=
  cs.all isBlank

/-- The blanks that begin a text, which are what `trimStart` removes. -/
def margin (cs : List Char) : List Char :=
  cs.takeWhile isBlank

theorem margin_append_trimStart (cs : List Char) : margin cs ++ trimStart cs = cs :=
  List.takeWhile_append_dropWhile

@[simp] theorem trimStart_nil : trimStart [] = [] := rfl

@[simp] theorem trimEnd_nil : trimEnd [] = [] := rfl

theorem trimStart_cons (c : Char) (cs : List Char) :
    trimStart (c :: cs) = if isBlank c then trimStart cs else c :: cs := by
  simp [trimStart, List.dropWhile_cons]

theorem trimEnd_append_singleton (cs : List Char) (c : Char) :
    trimEnd (cs ++ [c]) = if isBlank c then trimEnd cs else cs ++ [c] := by
  simp only [trimEnd, List.reverse_append, List.reverse_cons, List.reverse_nil, List.nil_append,
    List.singleton_append, List.dropWhile_cons]
  split <;> simp


/-- A string without the blanks around it. -/
def trimmed (s : String) : String := String.ofList (trim s.toList)

/-- A string with a text in place of every line feed. -/
def replaceLineFeeds (replacement s : String) : String :=
  String.ofList (s.toList.flatMap fun c => if c = '\n' then replacement.toList else [c])

/-- A name is made of ASCII letters and digits, `_`, `.` and `-`. -/
def isNameChar (c : Char) : Bool :=
  c.isAlphanum || c == '_' || c == '.' || c == '-'

def isName (cs : List Char) : Bool :=
  !cs.isEmpty && cs.all isNameChar

/-- The name characters that begin a text, and the rest of it. -/
def splitName (cs : List Char) : List Char × List Char :=
  (cs.takeWhile isNameChar, cs.dropWhile isNameChar)

theorem splitName_append (cs : List Char) : (splitName cs).1 ++ (splitName cs).2 = cs :=
  List.takeWhile_append_dropWhile

theorem splitName_fst (cs : List Char) : ∀ c ∈ (splitName cs).1, isNameChar c := by
  intro c hc
  exact List.all_eq_true.1 List.all_takeWhile c hc

end Provision.Text
