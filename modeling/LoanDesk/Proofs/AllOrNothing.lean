import Mathlib.Data.List.Forall2
import LoanDesk.Proofs.Note.Fields

/-!
# Readers of items read all of them or none

A listing and a list of notes are read item by item.  Either every item fits, and there is one
result of each in their order, or the first one that does not fit is blamed and there is no result:
`readEach_allOrNothing`.  An item of a listing fits if it is an object, and an item of a list of
notes if its members are well typed as well.

Main statement: `Json.HoldsItems.allOrNothing`.
-/

namespace LoanDesk

/-- The first item that does not fit, and its index. -/
structure FirstUnfit {α : Type} (Fits : α → Prop) (items : List α) (index : Nat) (v : α) :
    Prop where
  item : items[index]? = some v
  unfit : ¬ Fits v
  before : ∀ i < index, ∀ w, items[i]? = some w → Fits w

/-- Every item is read if all of them fit, and otherwise the first that does not is blamed. -/
structure AllOrNothing {α β : Type} (Fits : α → Prop) (Reads : α → β → Prop)
    (Blames : Nat → α → SourceError → Prop) (items : List α)
    (result : Except SourceError (List β)) : Prop where
  all : (∃ bs, result = .ok bs) ↔ ∀ v ∈ items, Fits v
  each : ∀ bs, result = .ok bs ↔ List.Forall₂ Reads items bs
  first : ∀ e, result = .error e ↔ ∃ index v, FirstUnfit Fits items index v ∧ Blames index v e

/-- The reader of an item reads it, whatever its index, if it fits, and else blames it. -/
structure ReadsItem {α β : Type} (Fits : α → Prop) (Reads : α → β → Prop)
    (Blames : Nat → α → SourceError → Prop) (item : Nat → α → Except SourceError β) : Prop where
  fits : ∀ v, Fits v ↔ ∃ b, Reads v b
  ok : ∀ index v b, item index v = .ok b ↔ Reads v b
  error : ∀ index v e, item index v = .error e ↔ ¬ Fits v ∧ Blames index v e

/-! ### Reading item by item -/

section

variable {α β : Type} {Fits : α → Prop} {Reads : α → β → Prop}
  {Blames : Nat → α → SourceError → Prop} {item : Nat → α → Except SourceError β}
  {items : List α} {v w : α} {index : Nat}

/-- The first item is the first unfit one if it does not fit. -/
lemma firstUnfit_zero_iff : FirstUnfit Fits (v :: items) 0 w ↔ v = w ∧ ¬ Fits w := by
  constructor
  · rintro ⟨first, unfit, -⟩
    exact ⟨Option.some_inj.1 first, unfit⟩
  · rintro ⟨rfl, unfit⟩
    exact ⟨rfl, unfit, nofun⟩

/-- A later item is the first unfit one if the first fits and it is the first unfit one behind. -/
lemma firstUnfit_succ_iff :
    FirstUnfit Fits (v :: items) (index + 1) w ↔ Fits v ∧ FirstUnfit Fits items index w := by
  constructor
  · rintro ⟨found, unfit, before⟩
    exact ⟨before 0 (Nat.succ_pos _) v rfl, found, unfit,
      fun i hi => before (i + 1) (Nat.succ_lt_succ hi)⟩
  · rintro ⟨fits, found, unfit, before⟩
    refine ⟨found, unfit, fun i hi u hu => ?_⟩
    cases i with
    | zero => exact Option.some_inj.1 hu ▸ fits
    | succ i => exact before i (Nat.lt_of_succ_lt_succ hi) u hu

/-- What is read was read of an item. -/
lemma exists_of_mem_right {bs : List β} {b : β} (reads : List.Forall₂ Reads items bs) (h : b ∈ bs) :
    ∃ v ∈ items, Reads v b := by
  induction reads with
  | nil => cases h
  | cons read _ ih =>
    rcases List.mem_cons.1 h with rfl | h
    · exact ⟨_, List.mem_cons_self .., read⟩
    · obtain ⟨v, hv, read⟩ := ih h
      exact ⟨v, List.mem_cons_of_mem _ hv, read⟩

/-- Something is read of every item. -/
lemma exists_of_mem_left {bs : List β} (reads : List.Forall₂ Reads items bs) (h : v ∈ items) :
    ∃ b ∈ bs, Reads v b :=
  exists_of_mem_right (List.Forall₂.flip reads) h

variable (reads : ReadsItem Fits Reads Blames item)
include reads

/-- All items are read exactly if each of them is. -/
lemma readEach_eq_ok_iff {bs : List β} :
    readEach item index items = .ok bs ↔ List.Forall₂ Reads items bs := by
  induction items generalizing index bs with
  | nil => rw [readEach, List.forall₂_nil_left_iff, Except.ok.injEq, eq_comm]
  | cons v items ih =>
    rw [readEach, List.forall₂_cons_left_iff]
    cases hv : item index v with
    | error e =>
      have unread : ∀ b, ¬ Reads v b := fun b h => by
        rw [← reads.ok index, hv] at h
        cases h
      simp [unread]
    | ok b =>
      have read : ∀ b', Reads v b' ↔ b = b' := fun b' => by
        rw [← reads.ok index, hv, Except.ok.injEq]
      cases hitems : readEach item (index + 1) items with
      | error e =>
        have unread : ∀ bs, ¬ List.Forall₂ Reads items bs := fun bs h => by
          rw [← ih, hitems] at h
          cases h
        simp [Except.map, unread]
      | ok others =>
        have readOthers : ∀ bs, List.Forall₂ Reads items bs ↔ others = bs := fun bs => by
          rw [← ih, hitems, Except.ok.injEq]
        simp [Except.map, read, readOthers, eq_comm]

/-- The error is the one that the first unfit item is blamed with. -/
lemma readEach_eq_error_iff {e : SourceError} :
    readEach item index items = .error e ↔
      ∃ i v, FirstUnfit Fits items i v ∧ Blames (index + i) v e := by
  induction items generalizing index with
  | nil =>
    constructor
    · nofun
    · rintro ⟨i, v, first, -⟩
      cases first.item
  | cons v items ih =>
    rw [readEach]
    cases hv : item index v with
    | error e' =>
      obtain ⟨unfit, blamed⟩ := (reads.error index v e').1 hv
      constructor
      · intro h
        cases h
        exact ⟨0, v, firstUnfit_zero_iff.2 ⟨rfl, unfit⟩, blamed⟩
      · rintro ⟨i, w, first, blamed'⟩
        cases i with
        | zero =>
          obtain ⟨rfl, -⟩ := firstUnfit_zero_iff.1 first
          have same := (reads.error index v e).2 ⟨unfit, blamed'⟩
          rw [hv] at same
          exact congrArg Except.error (Except.error.inj same)
        | succ i => exact absurd (firstUnfit_succ_iff.1 first).1 unfit
    | ok b =>
      have fits : Fits v := (reads.fits v).2 ⟨b, (reads.ok index v b).1 hv⟩
      have later : (readEach item (index + 1) items).map (b :: ·) = .error e ↔
          readEach item (index + 1) items = .error e := by
        cases readEach item (index + 1) items <;> simp [Except.map]
      have shifted (i : Nat) : index + 1 + i = index + (i + 1) := by omega
      rw [later, ih]
      simp only [shifted]
      constructor
      · rintro ⟨i, w, first, blamed⟩
        exact ⟨i + 1, w, firstUnfit_succ_iff.2 ⟨fits, first⟩, blamed⟩
      · rintro ⟨i, w, first, blamed⟩
        cases i with
        | zero =>
          obtain ⟨rfl, unfit⟩ := firstUnfit_zero_iff.1 first
          exact absurd fits unfit
        | succ i => exact ⟨i, w, (firstUnfit_succ_iff.1 first).2, blamed⟩

/-- A reader of items reads them all or none. -/
theorem readEach_allOrNothing (items : List α) :
    AllOrNothing Fits Reads Blames items (readEach item 0 items) where
  all := by
    simp only [readEach_eq_ok_iff reads, reads.fits]
    induction items with
    | nil => simp
    | cons v items ih =>
      rw [List.forall_mem_cons, ← ih]
      constructor
      · rintro ⟨_, _ | ⟨read, readOthers⟩⟩
        exact ⟨⟨_, read⟩, _, readOthers⟩
      · rintro ⟨⟨b, read⟩, bs, readOthers⟩
        exact ⟨b :: bs, .cons read readOthers⟩
  each _ := readEach_eq_ok_iff reads
  first _ := by
    rw [readEach_eq_error_iff reads]
    simp only [Nat.zero_add]

end

/-! ### Listings and lists of notes -/

/-- A value is an object. -/
def Json.IsObject (v : Json) : Prop := ∃ members, v = .object members

namespace Listing

/-- A loan is what an object says. -/
def Reads (v : Json) (loan : Loan) : Prop :=
  ∃ members, v = .object members ∧ loan = Loan.ofMembers members

/-- An item is blamed by its index for its kind. -/
def Blames (index : Nat) (v : Json) (e : SourceError) : Prop := e = .loanNotObject index v.kind

/-- A loan is read of any object, and every other value is blamed. -/
lemma readsItem_readLoan : ReadsItem Json.IsObject Reads Blames readLoan where
  fits v := by simp [Json.IsObject, Reads]
  ok index v loan := by
    cases v with
    | object members => simp [readLoan, Reads, eq_comm]
    | _ => simp [readLoan, Reads]
  error index v e := by
    cases v with
    | object members => simp [readLoan, Json.IsObject]
    | _ => simp [readLoan, Json.IsObject, Blames, eq_comm]

example : (readLoan 1 (.number (.whole 5))).toOption = none ∧
    SourceError.message (.loanNotObject 1 "number") =
      "Unexpected listing shape: loan #1 must be an object, found number" :=
  ⟨rfl, by decide⟩

end Listing

namespace Note

/-- An item is an object whose members are well typed. -/
def IsNote (v : Json) : Prop := ∃ members, v = .object members ∧ WellTyped members

/-- A note is what an object with well-typed members says. -/
def Reads (v : Json) (n : Note Float) : Prop :=
  ∃ members, v = .object members ∧ WellTyped members ∧ n = reported members

/-- An item is blamed by its index for its kind, or for a member that is not of its type. -/
inductive Blames (index : Nat) : Json → SourceError → Prop where
  | notObject {v : Json} (h : ¬ v.IsObject) : Blames index v (.noteNotObject index v.kind)
  | illTyped {members : List (String × Json)} {e : SourceError} (h : FirstMisfit members e) :
    Blames index (.object members) e

/-- A value that is no object is blamed for its kind. -/
lemma readNote_of_not_isObject {index : Nat} {v : Json} (h : ¬ v.IsObject) :
    readNote index v = .error (.noteNotObject index v.kind) := by
  cases v with
  | object members => exact absurd ⟨members, rfl⟩ h
  | _ => rfl

/-- A note is read of any object with well-typed members, and every other value is blamed. -/
lemma readsItem_readNote : ReadsItem IsNote Reads Blames readNote where
  fits v := by simp [IsNote, Reads]
  ok index v n := by
    cases v with
    | object members => simp [readNote, Reads, ofMembers_eq_ok_iff]
    | _ => simp [readNote, Reads]
  error index v e := by
    by_cases h : v.IsObject
    · obtain ⟨members, rfl⟩ := h
      rw [readNote, ofMembers_eq_error_iff]
      constructor
      · intro misfit
        refine ⟨?_, .illTyped misfit⟩
        rintro ⟨_, ⟨⟩, typed⟩
        have read := ofMembers_eq_ok_iff.2 ⟨typed, rfl⟩
        cases read.symm.trans (ofMembers_eq_error_iff.2 misfit)
      · rintro ⟨-, blamed⟩
        cases blamed with
        | notObject h => exact absurd ⟨members, rfl⟩ h
        | illTyped misfit => exact misfit
    · rw [readNote_of_not_isObject h, Except.error.injEq]
      constructor
      · rintro rfl
        exact ⟨fun ⟨members, isObject, _⟩ => h ⟨members, isObject⟩, .notObject h⟩
      · rintro ⟨-, blamed⟩
        cases blamed with
        | notObject => rfl
        | illTyped => exact absurd ⟨_, rfl⟩ h

end Note

namespace Json

/-- A document that is an array of the items, or an object that holds this array under a key. -/
def HoldsItems (key : String) (items : List Json) (doc : Json) : Prop :=
  doc = .array items ∨ ∃ members, doc = .object members ∧ members.lookup key = some (.array items)

variable {items : List Json} {doc : Json}

/-- A listing is read item by item. -/
lemma HoldsItems.listing_eq (h : doc.HoldsItems "loans" items) :
    Listing.ofJson doc = readEach Listing.readLoan 0 items := by
  rcases h with rfl | ⟨members, rfl, found⟩
  · rfl
  · rw [Listing.ofJson, found]

/-- A list of notes is read item by item. -/
lemma HoldsItems.notes_eq (h : doc.HoldsItems "myNotes" items) :
    Note.listOfJson doc = readEach Note.readNote 0 items := by
  rcases h with rfl | ⟨members, rfl, found⟩
  · rfl
  · rw [Note.listOfJson, found]

/-- An object that holds nothing under a key. -/
def HoldsNull (key : String) (doc : Json) : Prop :=
  ∃ members, doc = .object members ∧ members.lookup key = some .null

/-- The notes of a document are its items, or there are none where nothing stands for them. -/
lemma listOfJson_eq_ok_iff {notes : List (Note Float)} :
    Note.listOfJson doc = .ok notes ↔
      (∃ items, doc.HoldsItems "myNotes" items ∧ List.Forall₂ Note.Reads items notes) ∨
        doc.HoldsNull "myNotes" ∧ notes = [] := by
  have read {items : List Json} (h : doc.HoldsItems "myNotes" items) :
      Note.listOfJson doc = .ok notes ↔ List.Forall₂ Note.Reads items notes := by
    rw [h.notes_eq, readEach_eq_ok_iff Note.readsItem_readNote]
  constructor
  · intro h
    have listed := h
    unfold Note.listOfJson at listed
    split at listed
    next items => exact .inl ⟨items, .inl rfl, (read (.inl rfl)).1 h⟩
    next members =>
      split at listed
      next items found =>
        exact .inl ⟨items, .inr ⟨members, rfl, found⟩, (read (.inr ⟨members, rfl, found⟩)).1 h⟩
      next found => exact .inr ⟨⟨members, rfl, found⟩, (Except.ok.inj listed).symm⟩
      next => cases listed
    next => cases listed
  · rintro (⟨items, holds, reads⟩ | ⟨⟨members, rfl, found⟩, rfl⟩)
    · exact (read holds).2 reads
    · rw [Note.listOfJson, found]

/-- The items of a listing are read alike whether they stand alone or under `loans`: into one loan
of each, in their order, exactly if all of them are objects, and otherwise the first that is not an
object is blamed by its index.  The items of a list of notes are read alike whether they stand alone
or under `myNotes`: into one note of each, in their order, exactly if all of them are objects with
well-typed members, and otherwise the first that is not is blamed, by its index if it is not an
object, and for its first member of a wrong type if it is one. -/
theorem HoldsItems.allOrNothing (items : List Json) (doc : Json) :
    (doc.HoldsItems "loans" items →
      Listing.ofJson doc = Listing.ofJson (.array items) ∧
      (∀ text, read? text = some doc → Listing.read text = Listing.ofJson doc) ∧
      AllOrNothing IsObject Listing.Reads Listing.Blames items (Listing.ofJson doc)) ∧
    (doc.HoldsItems "myNotes" items →
      Note.listOfJson doc = Note.listOfJson (.array items) ∧
      (∀ text, read? text = some doc → Note.readList text = Note.listOfJson doc) ∧
      AllOrNothing Note.IsNote Note.Reads Note.Blames items (Note.listOfJson doc)) := by
  constructor
  · intro holds
    refine ⟨holds.listing_eq, fun text spelled => ?_, ?_⟩
    · rw [Listing.read, spelled]
    · rw [holds.listing_eq]
      exact readEach_allOrNothing Listing.readsItem_readLoan items
  · intro holds
    refine ⟨holds.notes_eq, fun text spelled => ?_, ?_⟩
    · rw [Note.readList, spelled]
    · rw [holds.notes_eq]
      exact readEach_allOrNothing Note.readsItem_readNote items

/-- The second of three loans is no object.  The second of three notes has two members of a wrong
type, and the third is no object. -/
theorem HoldsItems.allOrNothing_second :
    let loan : Json := .object [("id", .number (.whole 1))]
    let note : Json := .object [("grade", .string "A1")]
    let illTyped : Json := .object [("grade", .number (.whole 7)), ("loanStatus", .bool true)]
    read? "\x7b\"loans\":[\x7b\"id\":1\x7d,\"2\",null]\x7d" =
        some (.object [("loans", .array [loan, .string "2", .null])]) ∧
      Listing.read "\x7b\"loans\":[\x7b\"id\":1\x7d,\"2\",null]\x7d" =
        .error (.loanNotObject 1 "string") ∧
      read? "[\x7b\"grade\":\"A1\"\x7d,\x7b\"loanStatus\":true,\"grade\":7\x7d,3]" =
        some (.array [note, illTyped, .number (.whole 3)]) ∧
      Note.readList "[\x7b\"grade\":\"A1\"\x7d,\x7b\"loanStatus\":true,\"grade\":7\x7d,3]" =
        .error (.illTyped (SourceError.foundText (.number (.whole 7))) "a string") := by
  intro loan note illTyped
  have loans : read? "\x7b\"loans\":[\x7b\"id\":1\x7d,\"2\",null]\x7d" =
      some (.object [("loans", .array [loan, .string "2", .null])]) := by
    with_unfolding_all rfl
  have notes : read? "[\x7b\"grade\":\"A1\"\x7d,\x7b\"loanStatus\":true,\"grade\":7\x7d,3]" =
      some (.array [note, illTyped, .number (.whole 3)]) := by
    with_unfolding_all rfl
  refine ⟨loans, ?_, notes, ?_⟩
  · obtain ⟨-, spelled, read⟩ :=
      (allOrNothing _ (.object [("loans", .array [loan, .string "2", .null])])).1
        (.inr ⟨_, rfl, rfl⟩)
    rw [spelled _ loans, read.first]
    refine ⟨1, .string "2", ⟨rfl, nofun, fun i hi w hw => ?_⟩, rfl⟩
    obtain rfl : i = 0 := by omega
    cases hw
    exact ⟨_, rfl⟩
  · obtain ⟨-, spelled, read⟩ :=
      (allOrNothing [note, illTyped, .number (.whole 3)] _).2 (.inl rfl)
    rw [spelled _ notes, read.first]
    refine ⟨1, illTyped, ⟨rfl, ?_, fun i hi w hw => ?_⟩, .illTyped ?_⟩
    · rintro ⟨members, isObject, typed⟩
      obtain rfl := Json.object.inj isObject
      exact absurd typed (by decide +kernel)
    · obtain rfl : i = 0 := by omega
      cases hw
      exact ⟨_, rfl, by decide +kernel⟩
    · exact ⟨[], ("grade", .text), _, _, rfl, nofun, rfl, rfl, rfl⟩

end Json

end LoanDesk
