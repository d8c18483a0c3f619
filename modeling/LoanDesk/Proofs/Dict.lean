import LoanDesk.Dict
import Mathlib.Data.List.Perm.Basic

/-!
# Dictionaries by what they find

A dictionary is determined by what is found in it (`Dict.ext_find?`), since its entries are in the
order of their keys.  So equations between dictionaries are shown one key at a time.
-/

namespace LoanDesk

/-- What a key finds is there under the key. -/
lemma mem_of_lookup_eq_some {α : Type*} {entries : List (String × α)} {key : String} {value : α}
    (h : entries.lookup key = some value) : (key, value) ∈ entries := by
  obtain ⟨front, back, rfl, -⟩ := List.lookup_eq_some_iff.1 h
  exact List.mem_append_right _ (List.mem_cons_self ..)

/-- No other entry has the key of an entry. -/
lemma lookup_eq_some_iff_mem {α : Type*} {entries : List (String × α)}
    (nodup : (entries.map Prod.fst).Nodup) {key : String} {value : α} :
    entries.lookup key = some value ↔ (key, value) ∈ entries := by
  refine ⟨mem_of_lookup_eq_some, fun h => ?_⟩
  obtain ⟨front, back, rfl⟩ := List.append_of_mem h
  rw [List.map_append, List.nodup_append] at nodup
  refine List.lookup_eq_some_iff.2 ⟨front, back, rfl, fun entry hmem => bne_iff_ne.2 (Ne.symm ?_)⟩
  exact nodup.2.2 entry.1 (List.mem_map_of_mem hmem) key (List.mem_cons_self ..)

/-- In order no key is there twice. -/
lemma nodup_of_sortedEntries {α : Type*} {entries : List (String × α)}
    (sorted : SortedEntries entries) : (entries.map Prod.fst).Nodup := by
  refine List.pairwise_map.2 (sorted.imp ?_)
  rintro a b before same
  exact String.lt_irrefl _ (same ▸ before)

/-- What stands under a key does not depend on the order of the entries. -/
lemma lookup_eq_of_perm {α : Type*} {entries entries' : List (String × α)}
    (nodup : (entries.map Prod.fst).Nodup) (perm : entries'.Perm entries) (key : String) :
    entries'.lookup key = entries.lookup key := by
  have nodup' : (entries'.map Prod.fst).Nodup := (perm.map Prod.fst).nodup_iff.2 nodup
  ext value
  rw [lookup_eq_some_iff_mem nodup, lookup_eq_some_iff_mem nodup', perm.mem_iff]

/-- A fresh key adds its entry and keeps all others. -/
lemma insertEntry_perm {α : Type*} {entries : List (String × α)} {key : String}
    (fresh : key ∉ entries.map Prod.fst) (value : α) :
    (insertEntry key value entries).Perm ((key, value) :: entries) := by
  induction entries with
  | nil => exact .refl _
  | cons first entries ih =>
    rw [List.map_cons, List.mem_cons, not_or] at fresh
    rw [insertEntry]
    split
    · exact .refl _
    · rw [if_neg fresh.1]
      exact ((ih fresh.2).cons first).trans (.swap ..)

namespace Dict

variable {α β γ : Type*}

/-- A key finds a value exactly if the dictionary has the entry. -/
lemma find?_eq_some_iff {d : Dict α} {key : String} {value : α} :
    d.find? key = some value ↔ (key, value) ∈ d.entries :=
  lookup_eq_some_iff_mem (nodup_of_sortedEntries d.sorted)

/-- Dictionaries in which the same is found are the same. -/
theorem ext_find? {d e : Dict α} (h : ∀ key, d.find? key = e.find? key) : d = e := by
  have nodup (d : Dict α) : d.entries.Nodup := by
    refine d.sorted.imp ?_
    rintro a _ before rfl
    exact String.lt_irrefl _ before
  have perm : d.entries.Perm e.entries := by
    rw [List.perm_ext_iff_of_nodup (nodup d) (nodup e)]
    rintro ⟨key, value⟩
    rw [← find?_eq_some_iff, ← find?_eq_some_iff, h]
  refine ext (List.Perm.eq_of_pairwise ?_ d.sorted e.sorted perm)
  intro a b _ _ before after
  exact absurd after (String.lt_asymm before)

/-- Entries of which no key is there twice are those of their dictionary, in some order. -/
lemma ofList_perm {entries : List (String × α)} (nodup : (entries.map Prod.fst).Nodup) :
    (ofList entries).entries.Perm entries := by
  have fold (d : Dict α) : ((d.entries ++ entries).map Prod.fst).Nodup →
      (entries.foldl (fun d e => d.insert e.1 e.2) d).entries.Perm (d.entries ++ entries) := by
    clear nodup
    induction entries generalizing d with
    | nil => exact fun _ => .of_eq (List.append_nil _).symm
    | cons first entries ih =>
      intro nodup
      have moved : (d.entries ++ first :: entries).Perm (first :: d.entries ++ entries) :=
        List.perm_middle
      have nodup' := (moved.map Prod.fst).nodup_iff.1 nodup
      have fresh : first.1 ∉ d.entries.map Prod.fst := by
        rw [List.cons_append, List.map_cons, List.nodup_cons, List.map_append] at nodup'
        exact fun h => nodup'.1 (List.mem_append_left _ h)
      have inserted : ((d.insert first.1 first.2).entries ++ entries).Perm
          (first :: d.entries ++ entries) := (insertEntry_perm fresh first.2).append_right entries
      rw [List.foldl_cons]
      refine ((ih (d.insert first.1 first.2) ?_).trans inserted).trans moved.symm
      exact (inserted.map Prod.fst).nodup_iff.2 nodup'
  exact fold empty nodup

/-- The last value inserted for a key is the one that counts. -/
lemma insert_insert (d : Dict α) (key : String) (value value' : α) :
    (d.insert key value).insert key value' = d.insert key value' := by
  refine ext_find? fun other => ?_
  rw [find?_insert, find?_insert, find?_insert]
  split <;> rfl

/-- Changing the values keeps the order of the keys. -/
lemma sortedEntries_map (f : α → β) {entries : List (String × α)} (h : SortedEntries entries) :
    SortedEntries (entries.map fun entry => (entry.1, f entry.2)) :=
  List.pairwise_map.2 h

/-- The dictionary with a function of each value. -/
def map (f : α → β) (d : Dict α) : Dict β := ⟨_, sortedEntries_map f d.sorted⟩

/-- A key finds the changed form of the value it found before. -/
lemma lookup_map (f : α → β) (entries : List (String × α)) (key : String) :
    (entries.map fun entry => (entry.1, f entry.2)).lookup key = (entries.lookup key).map f := by
  induction entries with
  | nil => rfl
  | cons first entries ih =>
    rw [List.map_cons, lookup_cons, lookup_cons, ih]
    split <;> rfl

/-- A key of a dictionary with changed values finds the changed form of its value. -/
lemma find?_map (f : α → β) (d : Dict α) (key : String) :
    (d.map f).find? key = (d.find? key).map f :=
  lookup_map f d.entries key

/-- Two changes of the values are one. -/
lemma map_map (g : β → γ) (f : α → β) (d : Dict α) : (d.map f).map g = d.map (g ∘ f) := by
  refine ext_find? fun key => ?_
  rw [find?_map, find?_map, find?_map, Option.map_map]

/-- Changing the values after an insertion changes the one that was inserted. -/
lemma map_insert (f : α → β) (d : Dict α) (key : String) (value : α) :
    (d.insert key value).map f = (d.map f).insert key (f value) := by
  refine ext_find? fun other => ?_
  rw [find?_map, find?_insert, find?_insert, find?_map]
  split <;> rfl

/-- A change that keeps each value keeps the dictionary. -/
lemma map_eq_self {f : α → α} {d : Dict α}
    (h : ∀ key value, d.find? key = some value → f value = value) : d.map f = d := by
  refine ext_find? fun key => ?_
  rw [find?_map]
  cases found : d.find? key with
  | none => rfl
  | some value => exact congrArg some (h key value found)

end Dict

end LoanDesk
