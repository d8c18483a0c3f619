import LoanDesk.Proofs.AllOrNothing
import LoanDesk.Proofs.Owned

/-!
# The owned loans of a list of notes

A text that can be read as notes can be read for the ids of the owned loans as well, and these ids
are those that the notes report, with those of objects that have an `id` in place of a `loanId`.
There is one exception: nothing under `myNotes` stands for no notes, but not for no owned loans.

Main statements: `IdSet.contains_of_readList` and `IdSet.not_read_of_null`.
-/

namespace LoanDesk

namespace IdSet

/-- An object without `loanId` names its loan by its `id`. -/
def NamedById (note : Json) (id : String) : Prop :=
  ∃ members, note = .object members ∧ members.lookup "loanId" = none ∧
    (members.lookup "id").bind idText? = some id

/-- An object names its loan by its `id` if it has no `loanId` and its `id` is one. -/
lemma namedById_object_iff {members : List (String × Json)} {id : String} :
    NamedById (.object members) id ↔
      members.lookup "loanId" = none ∧ (members.lookup "id").bind idText? = some id := by
  constructor
  · rintro ⟨_, ⟨⟩, named⟩
    exact named
  · intro named
    exact ⟨members, rfl, named⟩

/-- A note names the loan of its `loanId`, or else the one of its `id`. -/
lemma ofNote?_of_reads {v : Json} {n : Note Float} (reads : Note.Reads v n) {id : String} :
    ofNote? v = some id ↔ n.loanId = some id ∨ NamedById v id := by
  obtain ⟨members, rfl, -, rfl⟩ := reads
  rw [ofNote?, Note.reported, namedById_object_iff]
  cases members.lookup "loanId" with
  | none => simp
  | some value => simp

variable {doc : Json} {items : List Json}

/-- The notes of a document are the items that it holds. -/
lemma notes_of_holdsItems (h : doc.HoldsItems "myNotes" items) : notes doc = items := by
  rcases h with rfl | ⟨members, rfl, found⟩
  · rfl
  · rw [notes, found]

/-- Of a document that holds items, ids are read. -/
lemma exists_ofJson_of_holdsItems (h : doc.HoldsItems "myNotes" items) :
    ∃ ids, ofJson doc = .ok ids := by
  rcases h with rfl | ⟨members, rfl, found⟩
  · exact ⟨_, rfl⟩
  · rw [ofJson, found]
    exact ⟨_, rfl⟩

/-- Of a document with nothing for its notes, no ids are read. -/
lemma ofJson_of_holdsNull (h : doc.HoldsNull "myNotes") : ofJson doc = .error .notesMissing := by
  obtain ⟨members, rfl, found⟩ := h
  rw [ofJson, found]

/-- A text that can be read as notes can be read for the ids of the owned loans, unless nothing
stands under `myNotes`.  An id is among them exactly if a note reports it as that of its loan, or an
object has it as its `id` in place of a `loanId`.  If nothing stands under `myNotes`, there are no
notes, and the ids cannot be read. -/
theorem contains_of_readList {text : String} {doc : Json} {notes : List (Note Float)}
    (spelled : Json.read? text = some doc) (read : Note.readList text = .ok notes) :
    (¬ doc.HoldsNull "myNotes" → ∃ ids, IdSet.read text = .ok ids ∧
      ∀ id, ids.contains id = true ↔
        (∃ n ∈ notes, n.loanId = some id) ∨ ∃ note ∈ IdSet.notes doc, NamedById note id) ∧
    (doc.HoldsNull "myNotes" → notes = [] ∧ IdSet.read text = .error .notesMissing) := by
  rw [Note.readList, spelled] at read
  rw [IdSet.read, spelled]
  rcases Json.listOfJson_eq_ok_iff.1 read with ⟨items, holds, reads⟩ | ⟨null, rfl⟩
  · obtain ⟨ids, idsRead⟩ := exists_ofJson_of_holdsItems holds
    refine ⟨fun _ => ⟨ids, idsRead, fun id => ?_⟩, fun null => ?_⟩
    · rw [contains_ofJson idsRead, notes_of_holdsItems holds]
      constructor
      · rintro ⟨note, hnote, hid⟩
        obtain ⟨n, hn, readNote⟩ := exists_of_mem_left reads hnote
        rcases (ofNote?_of_reads readNote).1 hid with own | named
        · exact .inl ⟨n, hn, own⟩
        · exact .inr ⟨note, hnote, named⟩
      · rintro (⟨n, hn, own⟩ | ⟨note, hnote, named⟩)
        · obtain ⟨note, hnote, readNote⟩ := exists_of_mem_right reads hn
          exact ⟨note, hnote, (ofNote?_of_reads readNote).2 (.inl own)⟩
        · obtain ⟨n, -, readNote⟩ := exists_of_mem_left reads hnote
          exact ⟨note, hnote, (ofNote?_of_reads readNote).2 (.inr named)⟩
    · cases (ofJson_of_holdsNull null).symm.trans idsRead
  · exact ⟨fun list => absurd null list, fun _ => ⟨rfl, ofJson_of_holdsNull null⟩⟩

/-- Of two notes the first has an id of its own as well, and the other an `id` in place of a
`loanId`. -/
theorem contains_of_readList_two :
    let first : Json := .object [("loanId", .number (.whole 7)), ("noteId", .string "8")]
    let second : Json := .object [("id", .number (.whole 9))]
    Json.read? "[\x7b\"loanId\":7,\"noteId\":\"8\"\x7d,\x7b\"id\":9\x7d]" =
        some (.array [first, second]) ∧
      ∃ ids, IdSet.read "[\x7b\"loanId\":7,\"noteId\":\"8\"\x7d,\x7b\"id\":9\x7d]" = .ok ids ∧
        ids.contains "7" = true ∧ ids.contains "9" = true ∧ ids.contains "8" = false := by
  intro first second
  have doc : Json.read? "[\x7b\"loanId\":7,\"noteId\":\"8\"\x7d,\x7b\"id\":9\x7d]" =
      some (.array [first, second]) := by
    with_unfolding_all rfl
  have notes : Note.readList "[\x7b\"loanId\":7,\"noteId\":\"8\"\x7d,\x7b\"id\":9\x7d]" =
      .ok [⟨some "7", some "8", none, none, none, none⟩, ⟨none, none, none, none, none, none⟩] := by
    rw [Note.readList, doc]
    rfl
  have list : ¬ (Json.array [first, second]).HoldsNull "myNotes" := by
    rintro ⟨_, same, -⟩
    cases same
  obtain ⟨ids, read, contains⟩ := (contains_of_readList doc notes).1 list
  refine ⟨doc, ids, read, ?_, ?_, ?_⟩
  · exact (contains "7").2 (.inl ⟨_, List.mem_cons_self .., rfl⟩)
  · refine (contains "9").2 (.inr ⟨second, by simp [IdSet.notes], ?_⟩)
    exact ⟨_, rfl, rfl, rfl⟩
  · rw [Bool.eq_false_iff, Ne, contains "8"]
    simp only [IdSet.notes, List.exists_mem_cons_iff, List.not_mem_nil, false_and, exists_false,
      first, second, namedById_object_iff]
    decide +kernel

/-- Nothing under `myNotes` is read as no notes, and yet the ids of the owned loans cannot be
read. -/
theorem not_read_of_null :
    Note.readList "\x7b\"myNotes\":null\x7d" = .ok [] ∧
      IdSet.read "\x7b\"myNotes\":null\x7d" = .error .notesMissing ∧
      ¬∀ text notes, Note.readList text = .ok notes →
        ∃ ids, IdSet.read text = .ok ids ∧
          ∀ n ∈ notes, ∀ id, n.loanId = some id → ids.contains id = true := by
  have doc : Json.read? "\x7b\"myNotes\":null\x7d" = some (.object [("myNotes", .null)]) := by
    with_unfolding_all rfl
  have notes : Note.readList "\x7b\"myNotes\":null\x7d" = .ok [] := by
    rw [Note.readList, doc]
    rfl
  have ids : IdSet.read "\x7b\"myNotes\":null\x7d" = .error .notesMissing := by
    rw [IdSet.read, doc]
    rfl
  refine ⟨notes, ids, fun agree => ?_⟩
  obtain ⟨_, read, -⟩ := agree _ _ notes
  cases ids.symm.trans read

end IdSet

end LoanDesk
