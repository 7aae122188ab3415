import Provision.Text.Blank

namespace Provision.Template

/-- A character that stands for itself, or a reference `$(( name ))` to a parameter together with
its own spelling. -/
inductive Piece
  | literal (c : Char)
  | reference (spelling name : List Char)
  deriving DecidableEq, Repr

/-- The characters from which the piece was read. -/
def Piece.spelling : Piece → List Char
  | .literal c => [c]
  | .reference spelling _ => spelling

/-- A reference at the start of a text: its spelling, its name and the rest of the text. -/
def reference? : List Char → Option (List Char × List Char × List Char)
  | '$' :: '(' :: '(' :: cs =>
    let before := cs.takeWhile Text.isBlank
    let inner := cs.dropWhile Text.isBlank
    let name := inner.takeWhile Text.isNameChar
    let outer := inner.dropWhile Text.isNameChar
    let after := outer.takeWhile Text.isBlank
    match outer.dropWhile Text.isBlank with
    | ')' :: ')' :: rest =>
      if name.isEmpty then none
      else some ('$' :: '(' :: '(' :: (before ++ name ++ after) ++ [')', ')'], name, rest)
    | _ => none
  | _ => none

theorem eq_append_of_reference? {cs spelling name rest : List Char}
    (h : reference? cs = some (spelling, name, rest)) : cs = spelling ++ rest ∧ spelling ≠ [] := by
  unfold reference? at h
  split at h
  · next cs =>
    dsimp only at h
    split at h
    · next heq =>
      split at h
      · simp at h
      · simp only [Option.some.injEq, Prod.mk.injEq] at h
        obtain ⟨rfl, rfl, rfl⟩ := h
        refine ⟨?_, by simp⟩
        rw [List.append_assoc, List.cons_append, List.cons_append, List.cons_append]
        congr 3
        conv => lhs; rw [← List.takeWhile_append_dropWhile (p := Text.isBlank) (l := cs)]
        rw [List.append_assoc, List.append_assoc]
        congr 1
        conv => lhs; rw [← List.takeWhile_append_dropWhile (p := Text.isNameChar)
          (l := cs.dropWhile Text.isBlank)]
        congr 1
        conv => lhs; rw [← List.takeWhile_append_dropWhile (p := Text.isBlank)
          (l := (cs.dropWhile Text.isBlank).dropWhile Text.isNameChar)]
        rw [heq]; rfl
    · simp at h
  · simp at h

/-- The pieces of a text, where references are found from the left and do not overlap. -/
def pieces (cs : List Char) : List Piece :=
  match cs with
  | [] => []
  | c :: tail =>
    match _h : reference? (c :: tail) with
    | some (spelling, name, rest) => .reference spelling name :: pieces rest
    | none => .literal c :: pieces tail
termination_by cs.length
decreasing_by
  · obtain ⟨h1, h2⟩ := eq_append_of_reference? ‹_›
    have : (c :: tail).length = spelling.length + rest.length := by rw [h1, List.length_append]
    have := List.length_pos_iff.2 h2
    omega
  · simp

/-- The text of a piece under a valuation. A name without a value is left as it is spelled. -/
def Piece.fill (value? : String → Option String) : Piece → List Char
  | .literal c => [c]
  | .reference spelling name =>
    match value? (String.ofList name) with
    | some value => value.toList
    | none => spelling

def fill (value? : String → Option String) (ps : List Piece) : List Char :=
  ps.flatMap (Piece.fill value?)

/-- Replaces the references to parameters by their values. Of two parameters with one name the
first counts. -/
def substitute (parameters values : List String) (text : String) : String :=
  String.ofList (fill ((parameters.zip values).lookup ·) (pieces text.toList))

end Provision.Template
