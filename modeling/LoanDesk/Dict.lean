/-!
# Dictionaries with sorted keys

A dictionary keeps its entries in the order of their keys, each key once.  An entry put in takes
the place of one with the same key.

Main statement: `find?_insert`.
-/

namespace LoanDesk

universe u

variable {α : Type u}

/-- The entries with `(key, value)` in its place. -/
def insertEntry (key : String) (value : α) : List (String × α) → List (String × α)
  | [] => [(key, value)]
  | entry :: entries =>
    if key < entry.1 then (key, value) :: entry :: entries
    else if key = entry.1 then (key, value) :: entries
    else entry :: insertEntry key value entries

/-- After an insertion there is the new entry and nothing that was not there. -/
theorem mem_insertEntry {key : String} {value : α} {entries : List (String × α)}
    {entry : String × α} (h : entry ∈ insertEntry key value entries) :
    entry = (key, value) ∨ entry ∈ entries := by
  induction entries with
  | nil => simpa [insertEntry] using h
  | cons first entries ih =>
    rw [insertEntry] at h
    split at h
    · simpa using h
    split at h
    · simp only [List.mem_cons] at h ⊢
      exact h.imp_right .inr
    · simp only [List.mem_cons] at h ⊢
      rcases h with h | h
      · exact .inr (.inl h)
      · exact (ih h).imp_right .inr

/-- Entries in the order of their keys, each key once. -/
def SortedEntries (entries : List (String × α)) : Prop :=
  entries.Pairwise fun a b => a.1 < b.1

/-- An insertion keeps the entries in the order of their keys. -/
theorem sortedEntries_insertEntry {entries : List (String × α)} (h : SortedEntries entries)
    (key : String) (value : α) : SortedEntries (insertEntry key value entries) := by
  induction entries with
  | nil => exact List.pairwise_singleton _ _
  | cons first entries ih =>
    obtain ⟨hfirst, hrest⟩ := List.pairwise_cons.1 h
    rw [insertEntry]
    split
    next hlt =>
      refine List.pairwise_cons.2 ⟨fun entry hmem => ?_, h⟩
      rcases List.mem_cons.1 hmem with rfl | hmem
      · exact hlt
      · exact String.lt_trans hlt (hfirst _ hmem)
    next hlt =>
      split
      next heq =>
        subst heq
        exact List.pairwise_cons.2 ⟨hfirst, hrest⟩
      next hne =>
        refine List.pairwise_cons.2 ⟨fun entry hmem => ?_, ih hrest⟩
        rcases mem_insertEntry hmem with rfl | hmem
        · exact Std.lt_of_le_of_ne (Std.not_lt.1 hlt) (Ne.symm hne)
        · exact hfirst _ hmem

/-- A finite map from texts, as its entries in the order of their keys. -/
structure Dict (α : Type u) where
  entries : List (String × α)
  sorted : SortedEntries entries

namespace Dict

/-- Dictionaries with the same entries are equal. -/
@[ext] theorem ext {d e : Dict α} (h : d.entries = e.entries) : d = e := by
  cases d
  cases e
  simp only at h
  subst h
  rfl

instance [DecidableEq α] : DecidableEq (Dict α) := fun d e =>
  if h : d.entries = e.entries then .isTrue (ext h) else .isFalse fun he => h (he ▸ rfl)

/-- The dictionary without entries. -/
def empty : Dict α := ⟨[], List.Pairwise.nil⟩

/-- The value of a key. -/
def find? (d : Dict α) (key : String) : Option α := d.entries.lookup key

/-- The dictionary with an entry, in the place of any other with its key. -/
def insert (d : Dict α) (key : String) (value : α) : Dict α :=
  ⟨insertEntry key value d.entries, sortedEntries_insertEntry d.sorted key value⟩

/-- The dictionary of a list of entries, of which a later one takes the place of an earlier one. -/
def ofList (entries : List (String × α)) : Dict α :=
  entries.foldl (fun d entry => d.insert entry.1 entry.2) empty

/-- The number of entries. -/
def size (d : Dict α) : Nat := d.entries.length

/-- The entries of a dictionary are among those it was made of. -/
theorem mem_of_mem_ofList {entries : List (String × α)} {entry : String × α}
    (h : entry ∈ (ofList entries).entries) : entry ∈ entries := by
  have fold (d : Dict α) : entry ∈ (entries.foldl (fun d e => d.insert e.1 e.2) d).entries →
      entry ∈ d.entries ∨ entry ∈ entries := by
    clear h
    induction entries generalizing d with
    | nil => exact .inl
    | cons first entries ih =>
      intro h
      rcases ih (d.insert first.1 first.2) h with old | new
      · rcases mem_insertEntry old with rfl | old
        · exact .inr (List.mem_cons_self ..)
        · exact .inl old
      · exact .inr (List.mem_cons_of_mem _ new)
  rcases fold empty h with none | listed
  · cases none
  · exact listed

/-- The first entry answers for its key, the others for theirs. -/
theorem lookup_cons (key : String) (entry : String × α) (entries : List (String × α)) :
    (entry :: entries).lookup key =
      if key = entry.1 then some entry.2 else entries.lookup key := by
  rw [List.lookup_cons]
  split
  next h => rw [if_pos (eq_of_beq h)]
  next h => rw [if_neg (ne_of_beq_false h)]

/-- An insertion changes what its own key finds, and no other. -/
theorem lookup_insertEntry (key other : String) (value : α) (entries : List (String × α)) :
    (insertEntry key value entries).lookup other =
      if other = key then some value else entries.lookup other := by
  induction entries with
  | nil => rw [insertEntry, lookup_cons]
  | cons first entries ih =>
    rw [insertEntry]
    split
    · rw [lookup_cons]
    split
    next heq =>
      rw [lookup_cons, lookup_cons, ← heq]
      split <;> rfl
    next hne =>
      rw [lookup_cons, lookup_cons, ih]
      by_cases h : other = first.1
      · have hk : other ≠ key := fun hk => hne (hk ▸ h)
        rw [if_pos h, if_neg hk, if_pos h]
      · rw [if_neg h, if_neg h]

/-- A key that was inserted finds its value, and any other what it found before. -/
theorem find?_insert (d : Dict α) (key other : String) (value : α) :
    (d.insert key value).find? other = if other = key then some value else d.find? other :=
  lookup_insertEntry key other value d.entries

/-- The keys of a list of entries are those of its dictionary. -/
theorem isSome_find?_ofList {entries : List (String × α)} {key : String} :
    ((ofList entries).find? key).isSome = true ↔ key ∈ entries.map Prod.fst := by
  have fold (d : Dict α) :
      ((entries.foldl (fun d e => d.insert e.1 e.2) d).find? key).isSome = true ↔
        (d.find? key).isSome = true ∨ key ∈ entries.map Prod.fst := by
    induction entries generalizing d with
    | nil => simp
    | cons first entries ih =>
      rw [List.foldl_cons, ih, find?_insert, List.map_cons, List.mem_cons]
      by_cases h : key = first.1 <;> simp [h]
  refine (fold empty).trans ⟨?_, .inr⟩
  rintro (none | listed)
  · cases none
  · exact listed

/-- A key above all others goes to the end. -/
theorem insertEntry_append {key : String} {front : List (String × α)}
    (h : ∀ entry ∈ front, entry.1 < key) (value : α) :
    insertEntry key value front = front ++ [(key, value)] := by
  induction front with
  | nil => rfl
  | cons first front ih =>
    have before := h first (List.mem_cons_self ..)
    have other : key ≠ first.1 := by
      rintro rfl
      exact String.lt_irrefl _ before
    rw [insertEntry, if_neg (String.lt_asymm before), if_neg other,
      ih fun entry hmem => h entry (List.mem_cons_of_mem _ hmem), List.cons_append]

/-- Entries in the order of their keys are those of their dictionary. -/
theorem entries_ofList {entries : List (String × α)} (h : SortedEntries entries) :
    (ofList entries).entries = entries := by
  have fold (d : Dict α) : SortedEntries (d.entries ++ entries) →
      (entries.foldl (fun d e => d.insert e.1 e.2) d).entries = d.entries ++ entries := by
    clear h
    induction entries generalizing d with
    | nil => exact fun _ => (List.append_nil _).symm
    | cons first entries ih =>
      intro h
      have last : (d.insert first.1 first.2).entries = d.entries ++ [first] :=
        insertEntry_append
          (fun entry hmem => (List.pairwise_append.1 h).2.2 entry hmem first (by simp)) _
      rw [List.foldl_cons, ih, last, List.append_assoc, List.singleton_append]
      rw [last, List.append_assoc]
      exact h
  exact fold empty h

end Dict

end LoanDesk
