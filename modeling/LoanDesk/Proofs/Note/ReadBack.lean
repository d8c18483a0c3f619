import LoanDesk.CommandLine.Run
import LoanDesk.Proofs.AllOrNothing
import LoanDesk.Proofs.Dict
import LoanDesk.Proofs.Json.Finite
import LoanDesk.Proofs.Json.Printing

/-!
# Notes that are written and read back

A note is written with all its fields, of which the missing ones hold nothing.  Where its numbers
are finite it is read back as it was, in whatever order the members of its object stand
(`Note.reads_of_writtenAs`).  The notes of a text have finite numbers, so all of them come back, and
the late ones that a run prints are printed by a run that reads them.

Main statement: `Note.listOfJson_map_toJson`.
-/

namespace LoanDesk

namespace Note

/-- The numbers of the note are finite, where it has any. -/
structure IsFinite (n : Note Float) : Prop where
  interestRate : ∀ x, n.interestRate = some x → Number.isFinite x = true
  principalPending : ∀ x, n.principalPending = some x → Number.isFinite x = true

/-- The members of the object that reports a note. -/
def members (n : Note Float) : List (String × Json) :=
  [("loanId", textJson n.loanId), ("noteId", textJson n.noteId),
    ("loanStatus", textJson n.loanStatus), ("interestRate", numberJson n.interestRate),
    ("grade", textJson n.grade), ("principalPending", numberJson n.principalPending)]

/-- A value reports a note if it is an object of its members in some order. -/
def WrittenAs (n : Note Float) (v : Json) : Prop :=
  ∃ members, v = .object members ∧ members.Perm n.members

variable {n : Note Float} {notes : List (Note Float)}

lemma toJson_eq (n : Note Float) : n.toJson = .object n.members := rfl

/-! ### One note -/

/-- The members of a note have different keys. -/
lemma nodup_keys (n : Note Float) : (n.members.map Prod.fst).Nodup := by
  simp only [members, List.map_cons, List.map_nil]
  decide

/-- An id that is written is read back, and so is its absence. -/
lemma idText?_textJson (s : Option String) : IdSet.idText? (textJson s) = s := by
  cases s <;> rfl

/-- A text that is written is read back, and so is its absence. -/
lemma text?_textJson (s : Option String) : (textJson s).text? = s := by
  cases s <;> rfl

/-- A finite number that is written is read back, and so is its absence. -/
lemma number?_numberJson {x : Option Float}
    (fin : ∀ y, x = some y → Number.isFinite y = true) : (numberJson x).number? = x := by
  cases x with
  | none => rfl
  | some y =>
    rw [numberJson, Json.ofNumber, if_pos (fin y rfl)]
    rfl

/-- A text field takes whatever is written for a text. -/
lemma admits_textJson (s : Option String) : FieldType.text.admits (textJson s) = true := by
  cases s <;> rfl

/-- A number is written as itself, or as nothing. -/
lemma numberJson_eq_or (x : Option Float) :
    numberJson x = .null ∨ ∃ y, x = some y ∧ numberJson x = .number (.real y) := by
  cases x with
  | none => exact .inl rfl
  | some y =>
    rw [numberJson, Json.ofNumber]
    split
    · exact .inr ⟨y, rfl, rfl⟩
    · exact .inl rfl

/-- A number field takes whatever is written for a number. -/
lemma admits_numberJson (x : Option Float) : FieldType.number.admits (numberJson x) = true := by
  rcases numberJson_eq_or x with written | ⟨y, -, written⟩ <;> rw [written] <;> rfl

/-- The members of a note have the types that their fields ask for. -/
lemma wellTyped_members (n : Note Float) : WellTyped n.members := by
  intro field mem v found
  simp only [typedFields, List.mem_cons, List.not_mem_nil, or_false] at mem
  rcases mem with rfl | rfl | rfl | rfl <;> cases found
  · exact admits_textJson _
  · exact admits_numberJson _
  · exact admits_textJson _
  · exact admits_numberJson _

/-- The members of a finite note report that note. -/
lemma reported_members (fin : n.IsFinite) : reported n.members = n := by
  have lookups : reported n.members = ⟨IdSet.idText? (textJson n.loanId),
      IdSet.idText? (textJson n.noteId), (textJson n.loanStatus).text?,
      (numberJson n.interestRate).number?, (textJson n.grade).text?,
      (numberJson n.principalPending).number?⟩ := rfl
  rw [lookups, idText?_textJson, idText?_textJson, text?_textJson, text?_textJson,
    number?_numberJson fin.interestRate, number?_numberJson fin.principalPending]

/-- A value that reports a finite note is read as the note. -/
lemma reads_of_writtenAs (fin : n.IsFinite) {v : Json} (written : n.WrittenAs v) : Reads v n := by
  obtain ⟨members, rfl, perm⟩ := written
  have same := lookup_eq_of_perm n.nodup_keys perm
  refine ⟨members, rfl, ?_, ?_⟩
  · intro field mem v found
    exact n.wellTyped_members field mem v (same _ ▸ found)
  · calc n = reported n.members := (reported_members fin).symm
      _ = reported members := by simp only [reported, same]

/-! ### Lists of notes -/

/-- Notes with finite numbers come back from their objects, whatever the order of the members. -/
lemma listOfJson_of_writtenAs (fin : ∀ n ∈ notes, n.IsFinite) {docs : List Json}
    (written : List.Forall₂ WrittenAs notes docs) : listOfJson (.array docs) = .ok notes := by
  refine Json.listOfJson_eq_ok_iff.2 (.inl ⟨docs, .inl rfl, ?_⟩)
  induction written with
  | nil => exact .nil
  | cons first _ ih =>
    have ⟨finFirst, finOthers⟩ := List.forall_mem_cons.1 fin
    exact .cons (reads_of_writtenAs finFirst first) (ih finOthers)

/-- Each note is reported by what is written for it. -/
lemma writtenAs_toJson (notes : List (Note Float)) :
    List.Forall₂ WrittenAs notes (notes.map toJson) :=
  List.forall₂_map_right_iff.2 (List.forall₂_same.2 fun n _ => ⟨n.members, n.toJson_eq, .refl _⟩)

/-- The members of a note hold nothing that sorting would change. -/
lemma sortedMembers_members (n : Note Float) : Json.sortedMembers n.members = n.members := by
  have text (s : Option String) : (textJson s).sorted = textJson s := by
    cases s <;> rfl
  have number (x : Option Float) : (numberJson x).sorted = numberJson x := by
    rcases numberJson_eq_or x with written | ⟨y, -, written⟩ <;> rw [written] <;> rfl
  simp only [members, Json.sortedMembers, text, number]

/-- Sorted by their keys, the members of a note are in another order. -/
lemma writtenAs_sorted (notes : List (Note Float)) :
    List.Forall₂ WrittenAs notes (Json.sortedItems (notes.map toJson)) := by
  induction notes with
  | nil => exact .nil
  | cons n notes ih =>
    refine .cons ⟨_, ?_, Dict.ofList_perm n.nodup_keys⟩ ih
    rw [toJson_eq, Json.sorted, sortedMembers_members]

/-- A number that a value of a text holds is finite. -/
lemma isFinite_of_lookup {members : List (String × Json)} (fin : (Json.object members).IsFinite)
    {key : String} {x : Float} (found : (members.lookup key).bind Json.number? = some x) :
    Number.isFinite x = true := by
  obtain ⟨v, hv, hx⟩ := Option.bind_eq_some_iff.1 found
  have finite : v.IsFinite := fin.members _ (mem_of_lookup_eq_some hv)
  cases finite with
  | number finite =>
    cases hx
    exact finite
  | _ => cases hx

/-- The numbers of the items are among those of the document. -/
lemma isFinite_of_holdsItems {doc : Json} {key : String} {items : List Json}
    (fin : doc.IsFinite) (holds : doc.HoldsItems key items) : ∀ v ∈ items, v.IsFinite := by
  rcases holds with rfl | ⟨members, rfl, found⟩
  · exact fin.items
  · have fin' : (Json.array items).IsFinite := fin.members _ (mem_of_lookup_eq_some found)
    exact fin'.items

/-- The notes of a text have finite numbers. -/
lemma isFinite_of_readList {text : String} (h : readList text = .ok notes) :
    ∀ n ∈ notes, n.IsFinite := by
  unfold readList at h
  split at h
  next doc spelled =>
    rcases Json.listOfJson_eq_ok_iff.1 h with ⟨items, holds, reads⟩ | ⟨-, rfl⟩
    · have finItems := isFinite_of_holdsItems (Json.isFinite_of_read? spelled) holds
      intro n hn
      obtain ⟨v, hv, members, rfl, -, rfl⟩ := exists_of_mem_right reads hn
      exact ⟨fun _ => isFinite_of_lookup (finItems _ hv),
        fun _ => isFinite_of_lookup (finItems _ hv)⟩
    · nofun
  next => cases h

/-- The texts of the note's numbers are read back as these numbers. -/
structure NumbersReadBack (n : Note Float) : Prop where
  interestRate : ∀ x, n.interestRate = some x → (Numeral.real x).ReadsBack
  principalPending : ∀ x, n.principalPending = some x → (Numeral.real x).ReadsBack

/-- What is written for a text is printed and read back. -/
lemma printable_textJson (depth : Nat) (s : Option String) : Json.Printable depth (textJson s) := by
  cases s with
  | none => exact .null
  | some s => exact .string s

/-- What is written for a number is printed and read back if the number is. -/
lemma printable_numberJson (depth : Nat) {x : Option Float}
    (back : ∀ y, x = some y → (Numeral.real y).ReadsBack) :
    Json.Printable depth (numberJson x) := by
  rcases numberJson_eq_or x with written | ⟨y, same, written⟩
  · rw [written]
    exact .null
  · rw [written]
    exact .number (back y same)

/-- An array of notes nests no deeper than a reader goes. -/
lemma printable_toJson (back : ∀ n ∈ notes, n.NumbersReadBack) :
    Json.Printable Json.maxDepth (.array (notes.map toJson)) := by
  refine .array (List.forall_mem_map.2 fun n hn => .object ?_)
  have numbers := back n hn
  simp only [List.forall_mem_cons, printable_textJson, printable_numberJson _ numbers.interestRate,
    printable_numberJson _ numbers.principalPending, List.not_mem_nil, false_implies, implies_true,
    and_self]

/-- Notes with finite numbers come back from a text that spells their array. -/
lemma readList_of_read? (fin : ∀ n ∈ notes, n.IsFinite) {text : String}
    (spelled : Json.read? text = some (Json.array (notes.map toJson)).sorted) :
    readList text = .ok notes := by
  rw [readList, spelled]
  exact listOfJson_of_writtenAs fin (writtenAs_sorted notes)

/-- The late notes among the late notes are all of them. -/
lemma late_late (notes : List (Note Float)) : late (late notes) = late notes :=
  List.filter_eq_self.2 fun _ h => (List.mem_filter.1 h).2

end Note

/-! ### Runs -/

namespace CommandLine

variable {m : Type → Type} [Monad m] [LawfulMonad m] {w : World m}

/-- A file that can be read gives what is read of it. -/
lemma run_load {α ε : Type} {path text : String} {read : String → Except ε α} {v : α}
    (file : w.readFile path = pure (.ok text)) (accepted : read text = .ok v) :
    (load w path read).run = pure (.ok v) := by
  simp [load, file, accepted]

/-- A run that lists late notes prints the array of them. -/
lemma run_lateNotes {path text : String} {notes : List (Note Float)}
    (file : w.readFile path = pure (.ok text)) (accepted : Note.readList text = .ok notes)
    (directory : Option String) (verbosity : Nat) (includeClosed : Bool) :
    run w ⟨directory, verbosity, .notes path true includeClosed true⟩ =
      pure (.printed ((Json.array ((Note.late notes).map Note.toJson)).indented ++ "\n") []) := by
  have loaded : (loadNotes w path).run = pure (.ok notes) := by
    change Except.mapError _ <$> (load w path Note.readList).run = _
    rw [run_load file accepted, map_pure]
    rfl
  simp only [run, answer, CommandLine.notes, ExceptT.run_bind, loaded]
  simp

end CommandLine

namespace Note

/-- Notes with finite numbers come back from their objects, whatever the order of the members.  So
do all the notes of a text, from every text that spells their array; where the texts of their
numbers are read back, those are the compact and the indented text of the array.  A run that is
given the late notes which another run printed prints them again. -/
theorem listOfJson_map_toJson :
    (∀ notes : List (Note Float), (∀ n ∈ notes, n.IsFinite) →
      listOfJson (.array (notes.map toJson)) = .ok notes ∧
      ∀ docs, List.Forall₂ WrittenAs notes docs → listOfJson (.array docs) = .ok notes) ∧
    (∀ text notes, readList text = .ok notes →
      listOfJson (.array (notes.map toJson)) = .ok notes ∧
      (∀ printed, Json.read? printed = some (Json.array (notes.map toJson)).sorted →
        readList printed = .ok notes) ∧
      ((∀ n ∈ notes, n.NumbersReadBack) →
        readList (Json.array (notes.map toJson)).compact = .ok notes ∧
        readList (Json.array (notes.map toJson)).indented = .ok notes)) ∧
    ∀ {m : Type → Type} [Monad m] [LawfulMonad m] (w : World m) (directory : Option String)
      (verbosity : Nat) (closed : Bool) (path text : String) (notes : List (Note Float)),
      w.readFile path = pure (.ok text) → readList text = .ok notes →
      (∀ n ∈ late notes, n.NumbersReadBack) →
      ∃ output, CommandLine.run w ⟨directory, verbosity, .notes path true closed true⟩ =
          pure (.printed output []) ∧
        readList output = .ok (late notes) ∧ late (late notes) = late notes ∧
        ∀ (w' : World m) (directory' : Option String) (verbosity' : Nat) (closed' : Bool)
          (path' : String), w'.readFile path' = pure (.ok output) →
          CommandLine.run w' ⟨directory', verbosity', .notes path' true closed' true⟩ =
            pure (.printed output []) := by
  refine ⟨fun notes fin => ⟨?_, fun docs => listOfJson_of_writtenAs fin⟩, ?_, ?_⟩
  · exact listOfJson_of_writtenAs fin (writtenAs_toJson notes)
  · intro text notes accepted
    have fin := isFinite_of_readList accepted
    refine ⟨listOfJson_of_writtenAs fin (writtenAs_toJson notes), ?_, fun back => ⟨?_, ?_⟩⟩
    · exact fun _ => readList_of_read? fin
    · rw [← String.append_empty (s := Json.compact _)]
      exact readList_of_read? fin (Json.read?_compact (printable_toJson back) nofun)
    · rw [← String.append_empty (s := Json.indented _)]
      exact readList_of_read? fin (Json.read?_indented (printable_toJson back) nofun)
  · intro m _ _ w directory verbosity closed path text notes file accepted back
    have fin : ∀ n ∈ late notes, n.IsFinite := fun n hn =>
      isFinite_of_readList accepted n (List.mem_filter.1 hn).1
    have newline : JsonReader.Blank "\n".toList := List.forall_mem_singleton.2 rfl
    have again := readList_of_read? fin (Json.read?_indented (printable_toJson back) newline)
    refine ⟨_, CommandLine.run_lateNotes file accepted directory verbosity closed, again,
      late_late notes, fun w' directory' verbosity' closed' path' file' => ?_⟩
    rw [CommandLine.run_lateNotes file' again, late_late]

/-- Of two notes the late one is printed by a run, and again by a run that is given what the first
one printed; it is also read from its members in the reverse order. -/
theorem listOfJson_map_toJson_late :
    let text :=
      "[\x7b\"noteId\":7,\"loanStatus\":\"Late\",\"interestRate\":15.5\x7d,\x7b\"loanId\":8\x7d]"
    let overdue : Note Float := ⟨none, some "7", some "Late", some 15.5, none, none⟩
    let other : Note Float := ⟨some "8", none, none, none, none, none⟩
    let moment : Moment := ⟨⟨2024, 1, 1, by decide, by decide⟩, 0, 0, 0, 0, 0⟩
    let world (contents : String) : World Id := ⟨fun _ => .ok contents, none, moment⟩
    let invocation : Invocation := ⟨none, 0, .notes "notes.json" true false true⟩
    readList text = .ok [overdue, other] ∧
      readList (Json.array ([overdue, other].map toJson)).compact = .ok [overdue, other] ∧
      listOfJson (.array [.object overdue.members.reverse]) = .ok [overdue] ∧
      ∃ output, CommandLine.run (world text) invocation = .printed output [] ∧
        readList output = .ok [overdue] ∧
        CommandLine.run (world output) invocation = .printed output [] := by
  intro text overdue other moment world invocation
  have doc : Json.read? text = some (.array
      [.object [("interestRate", .number (.real 15.5)), ("loanStatus", .string "Late"),
        ("noteId", .number (.whole 7))], .object [("loanId", .number (.whole 8))]]) := by
    simp only [text]
    with_unfolding_all rfl
  have accepted : readList text = .ok [overdue, other] := by
    rw [readList, doc]
    with_unfolding_all rfl
  have finite : overdue.IsFinite := by
    refine ⟨fun _ rate => ?_, fun _ missing => ?_⟩
    · cases rate
      decide +kernel
    · cases missing
  have back : overdue.NumbersReadBack := by
    refine ⟨fun _ rate => ?_, fun _ missing => ?_⟩
    · cases rate
      unfold Numeral.ReadsBack
      decide +kernel
    · cases missing
  have otherBack : other.NumbersReadBack := by
    constructor
    · intro _ missing
      cases missing
    · intro _ missing
      cases missing
  have someLate : late [overdue, other] = [overdue] := by
    with_unfolding_all rfl
  obtain ⟨values, texts, runs⟩ := listOfJson_map_toJson
  have lateBack : ∀ n ∈ late [overdue, other], n.NumbersReadBack := by
    rw [someLate]
    exact List.forall_mem_singleton.2 back
  obtain ⟨output, printed, read, -, again⟩ :=
    runs (world text) none 0 false "notes.json" text [overdue, other] rfl accepted lateBack
  refine ⟨accepted, ((texts text _ accepted).2.2 ?_).1, ?_, output, printed, ?_, ?_⟩
  · exact List.forall_mem_cons.2 ⟨back, List.forall_mem_singleton.2 otherBack⟩
  · refine (values [overdue] (List.forall_mem_singleton.2 finite)).2 _ ?_
    exact .cons ⟨_, rfl, List.reverse_perm _⟩ .nil
  · rw [read, someLate]
  · exact again (world output) none 0 false "notes.json" rfl

end Note

end LoanDesk
