namespace Provision.Text

/-- The lines of a text. A line ends at a line feed, which takes a carriage return right before it
along; a line feed that ends the text begins no further line. -/
def lines : List Char → List (List Char)
  | [] => []
  | '\n' :: cs => [] :: lines cs
  | '\r' :: '\n' :: cs => [] :: lines cs
  | c :: cs =>
    match lines cs with
    | [] => [[c]]
    | l :: ls => (c :: l) :: ls

/-- The pieces between the separators, of which there is one more than of separators. -/
def fields (separator : Char → Bool) : List Char → List (List Char)
  | [] => [[]]
  | c :: cs =>
    if separator c then [] :: fields separator cs
    else
      match fields separator cs with
      | [] => [[c]]
      | f :: fs => (c :: f) :: fs

/-- The longest runs that hold no separator. -/
def runs (separator : Char → Bool) (cs : List Char) : List (List Char) :=
  (fields separator cs).filter (· ≠ [])

theorem fields_ne_nil (separator : Char → Bool) (cs : List Char) : fields separator cs ≠ [] := by
  induction cs with
  | nil => simp [fields]
  | cons c cs ih =>
    simp only [fields]
    split
    · simp
    · split <;> simp

theorem runs_ne_nil {separator : Char → Bool} {cs r : List Char} (h : r ∈ runs separator cs) :
    r ≠ [] := by
  simpa using (List.mem_filter.1 h).2

/-- The number of bytes a text takes in UTF-8. -/
def width : List Char → Nat
  | [] => 0
  | c :: cs => c.utf8Size + width cs

@[simp] theorem width_nil : width [] = 0 := rfl

@[simp] theorem width_cons (c : Char) (cs : List Char) :
    width (c :: cs) = c.utf8Size + width cs := rfl

@[simp] theorem width_append (cs ds : List Char) : width (cs ++ ds) = width cs + width ds := by
  induction cs with
  | nil => simp
  | cons c cs ih => simp [ih, Nat.add_assoc]

/-- The text before the first place where `pattern` occurs. -/
def before? (pattern : List Char) : List Char → Option (List Char)
  | [] => if pattern = [] then some [] else none
  | c :: cs =>
    if pattern.isPrefixOf (c :: cs) then some [] else (before? pattern cs).map (c :: ·)

end Provision.Text
