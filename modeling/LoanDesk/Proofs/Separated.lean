import Mathlib.Tactic.Lemma

/-!
# Lists with a separator between each two

The tokens of a chain are those of its terms with the connective between each two.
-/

namespace LoanDesk

variable {α β : Type}

/-- The first list, and each further one with the separator in front of it. -/
lemma intercalate_cons_append (separator first : List α) (others : List (List α)) :
    separator.intercalate (first :: others) = first ++ others.flatMap (separator ++ ·) := by
  induction others generalizing first with
  | nil => simp
  | cons next others ih => rw [List.intercalate_cons_cons, ih]; simp

/-- A separator stands in front of each part but the first. -/
lemma intercalate_cons (separator : α) (first : List α) (others : List (List α)) :
    [separator].intercalate (first :: others) = first ++ others.flatMap (separator :: ·) :=
  intercalate_cons_append [separator] first others

/-- Two rows with the separator between them are one row. -/
lemma intercalate_append {separator : α} {front back : List (List α)} (hf : front ≠ [])
    (hb : back ≠ []) :
    [separator].intercalate (front ++ back) =
      [separator].intercalate front ++ separator :: [separator].intercalate back := by
  obtain ⟨first, front, rfl⟩ := List.exists_cons_of_ne_nil hf
  obtain ⟨next, back, rfl⟩ := List.exists_cons_of_ne_nil hb
  simp [intercalate_cons]

/-- A row of rows is one row of all their lists. -/
lemma intercalate_flatMap {separator : β} {xs : List α} {f : α → List (List β)}
    (h : ∀ x ∈ xs, f x ≠ []) :
    [separator].intercalate (xs.flatMap f) =
      [separator].intercalate (xs.map fun x => [separator].intercalate (f x)) := by
  induction xs with
  | nil => rfl
  | cons x xs ih =>
    have others := ih fun y hy => h y (List.mem_cons_of_mem _ hy)
    cases xs with
    | nil => simp
    | cons y ys =>
      -- The further rows are at least one list, so the separator stands before them.
      have back : (y :: ys).flatMap f ≠ [] := by
        simp [h y (by simp)]
      rw [List.flatMap_cons, intercalate_append (h x (by simp)) back, others]
      simp

/-- What is done to each element is done to the lists and the separator. -/
lemma map_intercalate (f : α → β) (separator : α) (xs : List (List α)) :
    ([separator].intercalate xs).map f = [f separator].intercalate (xs.map (List.map f)) := by
  cases xs with
  | nil => rfl
  | cons first others =>
    rw [List.map_cons, intercalate_cons, intercalate_cons]
    simp [List.map_flatMap, List.flatMap_map]

/-- What stands in separated parts is a separator or in one of the parts. -/
lemma mem_intercalate {separator x : α} {xs : List (List α)}
    (h : x ∈ [separator].intercalate xs) : x = separator ∨ ∃ y ∈ xs, x ∈ y := by
  cases xs with
  | nil => cases h
  | cons first others =>
    rw [intercalate_cons] at h
    simp only [List.mem_append, List.mem_flatMap, List.mem_cons] at h
    obtain h | ⟨y, hy, rfl | h⟩ := h
    · exact .inr ⟨first, by simp, h⟩
    · exact .inl rfl
    · exact .inr ⟨y, List.mem_cons_of_mem _ hy, h⟩

/-- What stands in one of the parts stands in the separated parts. -/
lemma mem_intercalate_of_mem {separator x : α} {xs : List (List α)} {y : List α}
    (hy : y ∈ xs) (hx : x ∈ y) : x ∈ [separator].intercalate xs := by
  cases xs with
  | nil => cases hy
  | cons first others =>
    rw [intercalate_cons]
    simp only [List.mem_append, List.mem_flatMap, List.mem_cons]
    obtain rfl | hy := List.mem_cons.1 hy
    · exact .inl hx
    · exact .inr ⟨y, hy, .inr hx⟩

end LoanDesk
