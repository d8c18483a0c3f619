import LoanDesk.Listing
import LoanDesk.Proofs.AllOrNothing
import LoanDesk.Proofs.Dict
import LoanDesk.Proofs.Json.Finite

/-!
# Loans of a listing

The loans of a listing are made of the objects among the parts of its text, one of each and in the
same order (`Listing.ofJson_eq`), and a loan reports what the members of its object say
(`Loan.get_ofMembers`).  So its numbers are finite (`Listing.isFinite_of_read`), and nobody has
ranked it (`Listing.quality_of_read`).
-/

namespace LoanDesk

/-! ### What a loan reports -/

namespace Loan

/-- A loan has a field for each member of its object. -/
lemma ofMembers_entries (members : Dict Json) :
    ofMembers members.entries = ⟨members.map Value.ofJson, defaultQuality⟩ :=
  congrArg (Loan.mk · _) (Dict.ext (Dict.entries_ofList (members.map Value.ofJson).sorted))

/-- A loan reports what the members of its object say, if each key is there once. -/
lemma get_ofMembers {members : List (String × Json)} (sorted : SortedEntries members)
    (name : String) :
    (ofMembers members).get name = ((members.lookup name).map Value.ofJson).getD .null := by
  have fields := ofMembers_entries ⟨members, sorted⟩
  rw [show ofMembers members = _ from fields, get, Dict.find?_map]
  rfl

/-- The numbers that a loan reports are finite. -/
def IsFinite (loan : Loan) : Prop :=
  ∀ name x, loan.get name = .number x → Number.isFinite x = true

/-- The numbers of a loan are those among the members that it is made of. -/
lemma isFinite_ofMembers {members : List (String × Json)}
    (h : (Json.object members).IsFinite) : (ofMembers members).IsFinite := by
  intro name x hget
  rw [get] at hget
  cases hfind : (ofMembers members).fields.find? name with
  | none => rw [hfind] at hget; cases hget
  | some value =>
    rw [hfind] at hget
    cases hget
    have listed := Dict.mem_of_mem_ofList (mem_of_lookup_eq_some hfind)
    obtain ⟨⟨key, v⟩, hmem, e⟩ := List.mem_map.1 listed
    have fin : v.IsFinite := h.members (key, v) hmem
    cases fin with
    | number fin => cases e; exact fin
    | _ => cases e

end Loan

/-! ### The objects of a listing -/

namespace Listing

/-- The members of an item of a listing. -/
def members? : Json → Option (List (String × Json))
  | .object members => some members
  | _ => none

/-- The objects of a document that loans are made of. -/
def objects : Json → List (List (String × Json))
  | .array items => items.filterMap members?
  | .object members =>
    match members.lookup "loans" with
    | some (.array items) => items.filterMap members?
    | some _ => []
    | none => if (members.lookup "asOfDate").isSome || members.isEmpty then [] else [members]
  | _ => []

variable {loans : List Loan} {loan : Loan} {v : Json}

/-- The loans that are read are those that the objects among the items say. -/
lemma readEach_readLoan {index : Nat} {items : List Json}
    (hread : readEach readLoan index items = .ok loans) :
    loans = (items.filterMap members?).map Loan.ofMembers := by
  have reads := (readEach_eq_ok_iff readsItem_readLoan).1 hread
  clear hread
  induction reads with
  | nil => rfl
  | cons first _ ih =>
    obtain ⟨members, rfl, rfl⟩ := first
    rw [ih]
    rfl

/-- The loans of a document are made of its objects. -/
theorem ofJson_eq (hread : ofJson v = .ok loans) : loans = (objects v).map Loan.ofMembers := by
  unfold ofJson at hread
  split at hread
  next items => exact readEach_readLoan hread
  next outer =>
    rw [objects]
    split at hread
    next items hitems =>
      rw [hitems]
      exact readEach_readLoan hread
    next hnull =>
      rw [hnull]
      cases hread
      rfl
    next => cases hread
    next hnone =>
      rw [hnone]
      split at hread
      next empty =>
        cases hread
        simp [empty]
      next single =>
        cases hread
        simp [single]
  next => cases hread

/-- What the parts of arrays and objects inherit, the objects of a document inherit from it. -/
lemma objects_inherit {P : Json → Prop} (items : ∀ {items}, P (.array items) → ∀ v ∈ items, P v)
    (members : ∀ {members}, P (.object members) → ∀ member ∈ members, P member.2) (h : P v) :
    ∀ object ∈ objects v, P (.object object) := by
  have item {vs : List Json} (hvs : P (.array vs)) :
      ∀ object ∈ vs.filterMap members?, P (.object object) := by
    intro object hmem
    obtain ⟨v, hv, e⟩ := List.mem_filterMap.1 hmem
    cases v with
    | object => cases e; exact items hvs _ hv
    | _ => cases e
  intro object hmem
  unfold objects at hmem
  split at hmem
  next => exact item h object hmem
  next outer =>
    split at hmem
    next hitems => exact item (members h _ (mem_of_lookup_eq_some hitems)) object hmem
    next => cases hmem
    next =>
      split at hmem
      next => cases hmem
      next =>
        -- The object is the one loan itself.
        cases List.mem_singleton.1 hmem
        exact h
  next => cases hmem

/-- The objects of a text have their members in order. -/
lemma sortedEntries_objects (h : v.InOrder) : ∀ object ∈ objects v, SortedEntries object := by
  intro object hmem
  have inOrder : (Json.object object).InOrder := by
    refine objects_inherit ?_ ?_ h object hmem
    · intro items h
      cases h with
      | array all => exact all
    · intro members h
      cases h with
      | object _ all => exact all
  cases inOrder with
  | object sorted => exact sorted

/-- The numbers of the loans of a listing are finite. -/
theorem isFinite_of_read {text : String} (hread : read text = .ok loans) (h : loan ∈ loans) :
    loan.IsFinite := by
  unfold read at hread
  split at hread
  next v hv =>
    rw [ofJson_eq hread] at h
    obtain ⟨object, hmem, rfl⟩ := List.mem_map.1 h
    exact Loan.isFinite_ofMembers
      (objects_inherit Json.IsFinite.items Json.IsFinite.members (Json.isFinite_of_read? hv) object
        hmem)
  next => cases hread

/-- Nobody has ranked the loans of a listing. -/
theorem quality_of_read {text : String} (hread : read text = .ok loans) (h : loan ∈ loans) :
    loan.quality = Loan.defaultQuality := by
  unfold read at hread
  split at hread
  next v hv =>
    rw [ofJson_eq hread] at h
    obtain ⟨object, -, rfl⟩ := List.mem_map.1 h
    rfl
  next => cases hread

end Listing

end LoanDesk
