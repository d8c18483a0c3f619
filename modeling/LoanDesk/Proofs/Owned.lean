import LoanDesk.Filter.Set
import LoanDesk.Proofs.Listing
import LoanDesk.Proofs.Number.Whole

/-!
# Loans that are owned

A loan is dropped if some owned note spells its id as the loan does.  A note spells a number as the
text of the notes does, while a loan spells the binary number nearest to it.  The two agree on texts
and on whole numbers up to `2 ^ 53` (`Json.SpelledAlike`), but not on every number that stands in
both texts: `FilterSet.not_selected_iff`.
-/

namespace LoanDesk

/-! ### The ids of owned notes -/

namespace IdSet

/-- The notes of a document, or its plain ids. -/
def notes : Json → List Json
  | .array notes => notes
  | .object members =>
    match members.lookup "myNotes" with
    | some (.array notes) => notes
    | _ => []
  | _ => []

/-- The value that names the loan of a note, or a plain id. -/
def noteId? : Json → Option Json
  | .object members => (members.lookup "loanId").or (members.lookup "id")
  | other => some other

/-- A note names a loan by the text of its id. -/
lemma ofNote?_eq (note : Json) : ofNote? note = (noteId? note).bind idText? := by
  cases note <;> rfl

/-- A set holds the ids that it was made of. -/
lemma contains_ofList {ids : List String} {id : String} :
    (ofList ids).contains id = true ↔ id ∈ ids := by
  rw [contains, ofList, Dict.isSome_find?_ofList, List.map_map]
  exact Iff.of_eq (congrArg (id ∈ ·) (List.map_id ids))

variable {ids : IdSet} {v : Json}

/-- The owned ids of a document are those of its notes. -/
lemma contains_ofJson (h : ofJson v = .ok ids) {id : String} :
    ids.contains id = true ↔ ∃ note ∈ notes v, ofNote? note = some id := by
  have set : ids = ofList ((notes v).filterMap ofNote?) := by
    unfold ofJson at h
    split at h
    next => exact (Except.ok.inj h).symm
    next members =>
      split at h
      next items hitems =>
        rw [notes, hitems]
        exact (Except.ok.inj h).symm
      next => cases h
    next => cases h
  rw [set, contains_ofList, List.mem_filterMap]

end IdSet

/-! ### The two spellings of an id -/

/-- A note spells the id as a loan does. -/
def Json.SpelledAlike (id : Json) : Prop := IdSet.idText? id = some (Value.ofJson id).display

namespace Json

/-- A text is spelled alike as an id and as a value. -/
lemma spelledAlike_string (s : String) : SpelledAlike (.string s) := rfl

/-- Whole numbers up to `2 ^ 53` are binary numbers. -/
lemma spelledAlike_whole {n : Int} (h : n.natAbs ≤ 2 ^ 53) : SpelledAlike (.number (.whole n)) :=
  congrArg some (Number.text_ofWhole h).symm

end Json

/-- The id of a loan is spelled from the `id` of its object. -/
lemma Loan.id?_ofMembers {members : List (String × Json)} (sorted : SortedEntries members)
    {id : Json} {text : String} (hid : members.lookup "id" = some id)
    (isId : IdSet.idText? id = some text) :
    (ofMembers members).id? = some (Value.ofJson id).display := by
  have value : (ofMembers members).get "id" = Value.ofJson id := by
    rw [get_ofMembers sorted, hid]
    rfl
  have present : (Value.ofJson id).isNull = false := by
    cases id with
    | number | string => rfl
    | _ => cases isId
  rw [id?, value, present]
  rfl

/-! ### Owned loans -/

namespace FilterSet

/-- No set of filters selects a loan exactly if the loan is not listed or its id is owned. -/
lemma not_selected_iff_owned {loans : List Loan} {ids : IdSet} {loan : Loan} {id : String}
    (listed : loan ∈ loans) (hid : loan.id? = some id) :
    (∀ filters, loan ∉ (select filters loans ids).value) ↔ ids.contains id = true := by
  have selected (filters : List Filter) : loan ∈ (select filters loans ids).value ↔
      ids.contains id = false ∧ keeps filters loan = true := by
    rw [select, filter_value, List.mem_filter, dropOwned, List.mem_filter, hid]
    simp [listed]
  simp only [selected]
  constructor
  · intro never
    have kept : keeps [] loan = true := rfl
    exact Bool.eq_true_of_not_eq_false fun fresh => never [] ⟨fresh, kept⟩
  · rintro owned filters ⟨fresh, -⟩
    rw [owned] at fresh
    cases fresh

/-- A listed loan with a number or a text as its `id` is left out, whatever the filters, exactly if
some owned note spells its own id as the loan does.  So it is left out if a note has the same id,
and that id is a text or a whole number up to `2 ^ 53`, or is spelled alike for another reason. -/
theorem not_selected_iff {listing owned : String} {doc notes : Json} {loans : List Loan}
    {ids : IdSet} (hdoc : Json.read? listing = some doc) (hloans : Listing.read listing = .ok loans)
    (hnotes : Json.read? owned = some notes) (hids : IdSet.read owned = .ok ids)
    {object : List (String × Json)} (listed : object ∈ Listing.objects doc) {id : Json}
    {text : String} (hid : object.lookup "id" = some id) (isId : IdSet.idText? id = some text) :
    ((∀ filters, Loan.ofMembers object ∉ (select filters loans ids).value) ↔
        ∃ note ∈ IdSet.notes notes, IdSet.ofNote? note = some (Value.ofJson id).display) ∧
      ∀ note ∈ IdSet.notes notes, IdSet.noteId? note = some id →
        (∃ s, id = .string s) ∨ (∃ n : Int, id = .number (.whole n) ∧ n.natAbs ≤ 2 ^ 53) ∨
          id.SpelledAlike →
        ∀ filters, Loan.ofMembers object ∉ (select filters loans ids).value := by
  rw [Listing.read, hdoc] at hloans
  rw [IdSet.read, hnotes] at hids
  have mem : Loan.ofMembers object ∈ loans := by
    rw [Listing.ofJson_eq hloans]
    exact List.mem_map_of_mem listed
  have sorted := Listing.sortedEntries_objects (Json.inOrder_of_read? hdoc) object listed
  have spelled := Loan.id?_ofMembers sorted hid isId
  have left_out : (∀ filters, Loan.ofMembers object ∉ (select filters loans ids).value) ↔ _ :=
    (not_selected_iff_owned mem spelled).trans (IdSet.contains_ofJson hids)
  refine ⟨left_out, ?_⟩
  intro note hnote same kind
  have alike : id.SpelledAlike := by
    rcases kind with ⟨s, rfl⟩ | ⟨n, rfl, small⟩ | alike
    · exact Json.spelledAlike_string s
    · exact Json.spelledAlike_whole small
    · exact alike
  refine left_out.2 ⟨note, hnote, ?_⟩
  rw [IdSet.ofNote?_eq, same]
  exact alike

/-- A note and a listed loan have one id, and no filters select the loan. -/
theorem not_selected_iff_seven :
    Json.read? "[\x7b\"id\":7\x7d]" = some (.array [.object [("id", .number (.whole 7))]]) ∧
      Json.read? "[\x7b\"loanId\":7\x7d]" =
        some (.array [.object [("loanId", .number (.whole 7))]]) ∧
      ∃ loans ids, Listing.read "[\x7b\"id\":7\x7d]" = .ok loans ∧
        IdSet.read "[\x7b\"loanId\":7\x7d]" = .ok ids ∧
        ∀ filters, Loan.ofMembers [("id", .number (.whole 7))] ∉
          (select filters loans ids).value := by
  have listing : Json.read? "[\x7b\"id\":7\x7d]" =
      some (.array [.object [("id", .number (.whole 7))]]) := by
    with_unfolding_all rfl
  have owned : Json.read? "[\x7b\"loanId\":7\x7d]" =
      some (.array [.object [("loanId", .number (.whole 7))]]) := by
    with_unfolding_all rfl
  have loans : Listing.read "[\x7b\"id\":7\x7d]" =
      .ok [Loan.ofMembers [("id", .number (.whole 7))]] := by
    rw [Listing.read, listing]
    rfl
  have ids : IdSet.read "[\x7b\"loanId\":7\x7d]" = .ok (IdSet.ofList ["7"]) := by
    rw [IdSet.read, owned]
    rfl
  refine ⟨listing, owned, _, _, loans, ids, ?_⟩
  have isId : IdSet.idText? (.number (.whole 7)) = some "7" := rfl
  have left_out := not_selected_iff listing loans owned ids (List.mem_singleton.2 rfl) rfl isId
  exact left_out.2 (.object [("loanId", .number (.whole 7))]) (List.mem_singleton.2 rfl) rfl
    (.inr (.inl ⟨7, rfl, by decide⟩))

/-- A number above `2 ^ 53` stands in both texts, and yet the loan is selected, since its id is
spelled as the nearest number. -/
theorem selected_although_owned :
    Json.read? "[\x7b\"id\":9007199254740993\x7d]" =
        some (.array [.object [("id", .number (.whole 9007199254740993))]]) ∧
      Json.read? "[\x7b\"loanId\":9007199254740993\x7d]" =
        some (.array [.object [("loanId", .number (.whole 9007199254740993))]]) ∧
      ∃ loans ids, Listing.read "[\x7b\"id\":9007199254740993\x7d]" = .ok loans ∧
        IdSet.read "[\x7b\"loanId\":9007199254740993\x7d]" = .ok ids ∧
        (select [] loans ids).value.map Loan.id? = [some "9007199254740992"] := by
  have listing : Json.read? "[\x7b\"id\":9007199254740993\x7d]" =
      some (.array [.object [("id", .number (.whole 9007199254740993))]]) := by
    with_unfolding_all rfl
  have owned : Json.read? "[\x7b\"loanId\":9007199254740993\x7d]" =
      some (.array [.object [("loanId", .number (.whole 9007199254740993))]]) := by
    with_unfolding_all rfl
  have loans : Listing.read "[\x7b\"id\":9007199254740993\x7d]" =
      .ok [Loan.ofMembers [("id", .number (.whole 9007199254740993))]] := by
    rw [Listing.read, listing]
    rfl
  have ids : IdSet.read "[\x7b\"loanId\":9007199254740993\x7d]" =
      .ok (IdSet.ofList ["9007199254740993"]) := by
    rw [IdSet.read, owned]
    rfl
  exact ⟨listing, owned, _, _, loans, ids, by decide +kernel⟩

end FilterSet

end LoanDesk
