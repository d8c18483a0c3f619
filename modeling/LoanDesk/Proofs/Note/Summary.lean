import Mathlib.Data.List.Perm.Basic
import LoanDesk.Note.Summary
import LoanDesk.Proofs.Amount

/-!
# What a summary of notes adds up to

Whatever the texts of their statuses, notes are open or closed, and of the open ones none is of two
of the kinds current, late and in review; so the counts of a summary add up
(`NoteSummary.ofNotes_balance`).  A note may hold several letters of grades, and it counts for each
of them (`NoteSummary.sum_grades`).  Both rest on one sum taken in two ways, by kinds and by notes
(`sum_map_countP`).
-/

namespace LoanDesk

/-! ### Counting by several kinds at once -/

section

variable {β : Type} (kinds : List (β → Bool)) (xs : List β)

/-- One more element adds to the counts of the kinds that it is of. -/
lemma sum_map_countP_cons (x : β) :
    (kinds.map fun kind => (x :: xs).countP kind).sum =
      (kinds.countP fun kind => kind x) + (kinds.map fun kind => xs.countP kind).sum := by
  induction kinds with
  | nil => rfl
  | cons kind kinds ih =>
    rw [List.map_cons, List.sum_cons, ih, List.countP_cons, List.countP_cons, List.map_cons,
      List.sum_cons]
    omega

/-- Counted kind by kind, each item counts as often as it is of a kind. -/
lemma sum_map_countP :
    (kinds.map fun kind => xs.countP kind).sum =
      (xs.map fun x => kinds.countP fun kind => kind x).sum := by
  induction xs with
  | nil => simp
  | cons x xs ih => rw [sum_map_countP_cons, ih, List.map_cons, List.sum_cons]

variable {kinds xs}

/-- Kinds that no element shares are counted at most once for each element. -/
lemma sum_map_countP_le (apart : ∀ x ∈ xs, (kinds.countP fun kind => kind x) ≤ 1) :
    (kinds.map fun kind => xs.countP kind).sum ≤ xs.length := by
  rw [sum_map_countP]
  calc (xs.map fun x => kinds.countP fun kind => kind x).sum
      ≤ (xs.map fun _ => 1).sum := List.sum_le_sum apart
    _ = xs.length := by simp

end

namespace NoteStatus

/-- The kinds of notes that a summary counts, apart from the open ones. -/
def kinds : List (NoteStatus → Bool) :=
  [isCurrent, isLate, fun s => !s.isIssued, fun s => !s.isOpen]

/-- No status is of two kinds. -/
lemma countP_kinds_le (s : NoteStatus) : (kinds.countP fun kind => kind s) ≤ 1 := by
  cases s <;> decide

end NoteStatus

/-- The note with its rate and its principal read in another way. -/
def Note.map {α β : Type} (f : α → β) (n : Note α) : Note β :=
  ⟨n.loanId, n.noteId, n.loanStatus, n.interestRate.map f, n.grade, n.principalPending.map f⟩

namespace NoteSummary

variable {α β : Type}

/-! ### The notes that are counted -/

/-- The rates that the mean is taken of. -/
def countedRates (includeClosed : Bool) (notes : List (Note α)) : List α :=
  (countedNotes includeClosed notes).filterMap Note.interestRate

variable (includeClosed : Bool) (notes : List (Note α))

/-- With closed notes included, all notes are counted. -/
lemma countedNotes_true : countedNotes true notes = notes :=
  List.filter_eq_self.2 fun _ _ => rfl

/-- The counted notes stand in the order of all notes. -/
lemma countedNotes_sublist : (countedNotes includeClosed notes).Sublist notes :=
  List.filter_sublist

/-- Reading the rates in another way changes each of them and leaves none out. -/
lemma countedRates_map (f : α → β) :
    countedRates includeClosed (notes.map (Note.map f)) =
      (countedRates includeClosed notes).map f := by
  rw [countedRates, countedNotes, List.filter_map, List.filterMap_map, countedRates,
    List.map_filterMap]
  rfl

/-- There are no rates exactly if no counted note has one. -/
lemma countedRates_eq_nil :
    countedRates includeClosed notes = [] ↔
      ∀ n ∈ countedNotes includeClosed notes, n.interestRate = none :=
  List.filterMap_eq_nil_iff

variable [Amount α]

/-- The counted notes are all notes, or the open ones. -/
lemma length_countedNotes :
    (countedNotes includeClosed notes).length =
      if includeClosed then notes.length else (ofNotes includeClosed notes).openNotes := by
  cases includeClosed with
  | true => exact congrArg List.length (countedNotes_true notes)
  | false => exact List.countP_eq_length_filter.symm

/-! ### The kinds of notes -/

/-- Each note is either open or closed. -/
lemma openNotes_add_closed :
    (ofNotes includeClosed notes).openNotes + (ofNotes includeClosed notes).closed =
      notes.length := by
  rw [List.length_eq_countP_add_countP fun n : Note α => n.status.isOpen]
  simp only [ofNotes, Bool.not_eq_true, Bool.decide_eq_false]

/-- Current notes, late notes and notes in review are different open notes. -/
lemma kinds_le_openNotes :
    (ofNotes includeClosed notes).current + (ofNotes includeClosed notes).late +
        (ofNotes includeClosed notes).inReview ≤ (ofNotes includeClosed notes).openNotes := by
  have all := openNotes_add_closed includeClosed notes
  -- The closed notes are one of the kinds, and they are what the open ones leave of all notes.
  have apart : (NoteStatus.kinds.map fun kind => (notes.map Note.status).countP kind).sum ≤
      (notes.map Note.status).length :=
    sum_map_countP_le fun s _ => s.countP_kinds_le
  simp only [NoteStatus.kinds, List.map_cons, List.map_nil, List.sum_cons, List.sum_nil,
    List.countP_map, Function.comp_def, List.length_map] at apart
  simp only [ofNotes] at all ⊢
  omega

/-! ### The mean rate -/

/-- There is no mean rate exactly if no counted note has a rate. -/
lemma averageRate_eq_none_iff :
    (ofNotes includeClosed notes).averageRate = none ↔
      ∀ n ∈ countedNotes includeClosed notes, n.interestRate = none :=
  Amount.mean?_eq_none_iff.trans (countedRates_eq_nil includeClosed notes)

/-- The mean rate, taken exactly, is between the least and the greatest of the counted rates. -/
lemma exists_bounds_averageRate (exact : α → Rat)
    (rated : (ofNotes includeClosed notes).averageRate ≠ none) :
    ∃ mean least greatest,
      (ofNotes includeClosed (notes.map (Note.map exact))).averageRate = some mean ∧
      IsLeast {x | ∃ n ∈ countedNotes includeClosed notes, n.interestRate.map exact = some x}
        least ∧
      IsGreatest {x | ∃ n ∈ countedNotes includeClosed notes, n.interestRate.map exact = some x}
        greatest ∧
      least ≤ mean ∧ mean ≤ greatest := by
  have rates : (countedRates includeClosed notes).map exact ≠ [] := by
    rw [Ne, List.map_eq_nil_iff]
    exact fun unrated => rated (Amount.mean?_eq_none_iff.2 unrated)
  have members : {x | ∃ n ∈ countedNotes includeClosed notes, n.interestRate.map exact = some x} =
      {x | x ∈ (countedRates includeClosed notes).map exact} := by
    ext x
    rw [countedRates, List.map_filterMap, Set.mem_ofPred_eq, Set.mem_ofPred_eq, List.mem_filterMap]
  have mean : (ofNotes includeClosed (notes.map (Note.map exact))).averageRate =
      Amount.mean? ((countedRates includeClosed notes).map exact) :=
    congrArg Amount.mean? (countedRates_map includeClosed notes exact)
  rw [mean, members]
  exact Amount.exists_bounds_mean? rates

/-! ### Other ways to count the same notes -/

/-- Including closed notes lowers no count of a grade. -/
lemma grades_le :
    List.Forall₂ (fun count more => count.1 = more.1 ∧ count.2 ≤ more.2)
      (ofNotes false notes).grades (ofNotes true notes).grades := by
  simp only [ofNotes, List.forall₂_map_left_iff, List.forall₂_map_right_iff, countedNotes_true]
  exact List.forall₂_same.2 fun letter _ =>
    ⟨rfl, (countedNotes_sublist false notes).countP_le⟩

variable {notes} in
/-- The mean rate alone may depend on the order of the notes. -/
lemma ofNotes_perm {notes' : List (Note α)} (perm : notes'.Perm notes) :
    { ofNotes includeClosed notes' with
      averageRate := (ofNotes includeClosed notes).averageRate } = ofNotes includeClosed notes := by
  have counted := perm.filter fun n => includeClosed || n.status.isOpen
  simp only [ofNotes, countedNotes, perm.countP_eq, counted.countP_eq, counted.length_eq]

/-- Notes are open or closed, and no note is of two of the kinds current, late, in review and
closed, so the counts of the first three add up to no more than the open ones.  What is counted are
the open notes or all of them, and the late notes are counted where they are listed, in their order.
There is a mean rate unless no counted note has a rate, and however the rates are read as fractions,
their mean lies between the least and the greatest of them.  All but the mean rate is the same in
any order of the notes; to include the closed ones changes no count of a kind, and it lowers neither
the number of notes that are counted nor that of a letter. -/
theorem ofNotes_balance :
    let summary := ofNotes includeClosed notes
    let counted := countedNotes includeClosed notes
    summary.openNotes + summary.closed = notes.length ∧
    summary.current + summary.late + summary.inReview ≤ summary.openNotes ∧
    (∀ n ∈ notes, (NoteStatus.kinds.countP fun kind => kind n.status) ≤ 1) ∧
    summary.counted = (if includeClosed then notes.length else summary.openNotes) ∧
    (summary.late = (Note.late notes).length ∧ (Note.late notes).Sublist notes ∧
      ∀ n, n ∈ Note.late notes ↔ n ∈ notes ∧ n.status.isLate = true) ∧
    (summary.averageRate = none ↔ ∀ n ∈ counted, n.interestRate = none) ∧
    (summary.averageRate ≠ none → ∀ exact : α → Rat, ∃ mean least greatest,
      (ofNotes includeClosed (notes.map (Note.map exact))).averageRate = some mean ∧
      IsLeast {x | ∃ n ∈ counted, n.interestRate.map exact = some x} least ∧
      IsGreatest {x | ∃ n ∈ counted, n.interestRate.map exact = some x} greatest ∧
      least ≤ mean ∧ mean ≤ greatest) ∧
    (∀ notes' : List (Note α), notes'.Perm notes →
      { ofNotes includeClosed notes' with averageRate := summary.averageRate } = summary) ∧
    let few := ofNotes false notes
    let all := ofNotes true notes
    (few.openNotes = all.openNotes ∧ few.current = all.current ∧ few.late = all.late ∧
      few.closed = all.closed ∧ few.inReview = all.inReview) ∧
    few.counted ≤ all.counted ∧
    List.Forall₂ (fun count more => count.1 = more.1 ∧ count.2 ≤ more.2) few.grades all.grades := by
  refine ⟨openNotes_add_closed _ _, kinds_le_openNotes _ _, fun n _ => n.status.countP_kinds_le,
    length_countedNotes _ _, ⟨List.countP_eq_length_filter, List.filter_sublist, ?_⟩,
    averageRate_eq_none_iff _ _, fun rated exact => exists_bounds_averageRate _ _ exact rated,
    fun _ => ofNotes_perm _, ⟨rfl, rfl, rfl, rfl, rfl⟩, ?_, grades_le notes⟩
  · exact fun n => List.mem_filter
  · exact (countedNotes_sublist false notes).length_le.trans_eq
      (congrArg List.length (countedNotes_true notes)).symm

/-- Of five notes one is closed and one has no rate. -/
theorem ofNotes_balance_five :
    let note (status : String) (rate : Option Rat) (grade : String) : Note Rat :=
      ⟨none, none, some status, rate, some grade, none⟩
    let notes := [note "Current" (some 10) "A2", note "Late (31-120 days)" (some 20) "D1",
      note "In Grace Period" (some 15) "C3", note "Status: Fully Paid" (some 7) "A1",
      note "In Review" none "B4"]
    (ofNotes false notes).averageRate = some 15 ∧ (ofNotes false notes).openNotes = 4 ∧
      (ofNotes false notes.reverse).grades = (ofNotes false notes).grades ∧
      ∃ least greatest, least ≤ 15 ∧ 15 ≤ greatest ∧
        IsLeast {x | ∃ n ∈ countedNotes false notes, n.interestRate = some x} least ∧
        IsGreatest {x | ∃ n ∈ countedNotes false notes, n.interestRate = some x} greatest := by
  intro note notes
  have mean : (ofNotes false notes).averageRate = some 15 := by decide +kernel
  obtain ⟨-, -, -, -, -, -, bounds, perm, -⟩ := ofNotes_balance false notes
  obtain ⟨mean', least, greatest, same, isLeast, isGreatest, low, high⟩ :=
    bounds (by rw [mean]; nofun) id
  obtain rfl : 15 = mean' := by
    have : (ofNotes false (notes.map (Note.map id))).averageRate = some 15 := by decide +kernel
    exact Option.some_inj.1 (this.symm.trans same)
  simp only [Option.map_id_fun, id] at isLeast isGreatest
  refine ⟨mean, by decide +kernel, ?_, least, greatest, low, high, isLeast, isGreatest⟩
  have reversed := congrArg grades (perm notes.reverse notes.reverse_perm)
  exact reversed

/-! ### The letters of grades -/

/-- The letters that a note counts for. -/
def lettersHeld (n : Note α) : List Char := gradeLetters.filter fun letter => hasGrade letter n

/-- No two different letters of grades stand in the note's grade. -/
def HoldsOneLetter (n : Note α) : Prop :=
  ∀ grade, n.grade = some grade → ∀ a ∈ gradeLetters, ∀ b ∈ gradeLetters,
    a ∈ grade.toList → b ∈ grade.toList → a = b

omit [Amount α] in
/-- A note counts for the letters of grades that stand in its grade. -/
lemma mem_lettersHeld {n : Note α} {letter : Char} :
    letter ∈ lettersHeld n ↔
      letter ∈ gradeLetters ∧ ∃ grade, n.grade = some grade ∧ letter ∈ grade.toList := by
  rw [lettersHeld, List.mem_filter, hasGrade]
  cases n.grade with
  | none => simp
  | some grade => simp

omit [Amount α] in
/-- A note counts for one letter at most exactly if its grade holds no two of them. -/
lemma length_lettersHeld_le_iff (n : Note α) : (lettersHeld n).length ≤ 1 ↔ HoldsOneLetter n := by
  have nodup : (lettersHeld n).Nodup := List.Nodup.filter _ (by decide)
  rw [← List.toFinset_card_of_nodup nodup, Finset.card_le_one]
  simp only [List.mem_toFinset, mem_lettersHeld]
  constructor
  · intro same grade graded a ha b hb inA inB
    exact same a ⟨ha, grade, graded, inA⟩ b ⟨hb, grade, graded, inB⟩
  · rintro one a ⟨ha, grade, graded, inA⟩ b ⟨hb, grade', graded', inB⟩
    obtain rfl : grade = grade' := Option.some_inj.1 (graded.symm.trans graded')
    exact one grade graded a ha b hb inA inB

omit [Amount α] in
/-- A note counts in as many grades as it holds letters. -/
lemma countP_hasGrade (n : Note α) :
    ((gradeLetters.map hasGrade).countP fun held => held n) = (lettersHeld n).length := by
  rw [List.countP_map, List.countP_eq_length_filter]
  rfl

/-- The grades of a summary count the notes that hold their letters. -/
lemma map_snd_grades :
    (ofNotes includeClosed notes).grades.map Prod.snd =
      (gradeLetters.map hasGrade).map (countedNotes includeClosed notes).countP := by
  rw [ofNotes, List.map_map, List.map_map]
  rfl

/-- A note counts for each letter from A to G that its grade holds, so the counts of the letters add
up to the numbers of letters that the counted notes hold.  A note counts at most once exactly if no
two different letters stand in its grade; where that is so of all counted notes, the counts add up
to no more than the number of notes counted. -/
theorem sum_grades :
    let summary := ofNotes includeClosed notes
    let counted := countedNotes includeClosed notes
    summary.grades.map Prod.fst = ['A', 'B', 'C', 'D', 'E', 'F', 'G'] ∧
    (summary.grades.map Prod.snd).sum = (counted.map fun n => (lettersHeld n).length).sum ∧
    (∀ n ∈ counted, (lettersHeld n).length ≤ 1 ↔ HoldsOneLetter n) ∧
    ((∀ n ∈ counted, HoldsOneLetter n) →
      (summary.grades.map Prod.snd).sum ≤ summary.counted) := by
  intro summary counted
  have counts : summary.grades.map Prod.snd = _ := map_snd_grades includeClosed notes
  rw [counts]
  refine ⟨rfl, ?_, fun n _ => length_lettersHeld_le_iff n, fun one => ?_⟩
  · rw [sum_map_countP]
    simp only [countP_hasGrade]
    rfl
  · refine sum_map_countP_le fun n hn => ?_
    rw [countP_hasGrade]
    exact (length_lettersHeld_le_iff n).2 (one n hn)

/-- Three open notes, of which one has no grade, and a closed one with two letters. -/
theorem sum_grades_four :
    let note (status : String) (grade : Option String) : Note Float :=
      ⟨none, none, some status, none, grade, none⟩
    let notes := [note "Current" (some "A2"), note "Late (31-120 days)" (some "D1"),
      note "In Review" none, note "Fully Paid" (some "AB")]
    (∀ n ∈ countedNotes false notes, HoldsOneLetter n) ∧
      ((ofNotes false notes).grades.map Prod.snd).sum ≤ 3 ∧
      ((ofNotes true notes).grades.map Prod.snd).sum = 4 := by
  intro note notes
  obtain ⟨-, -, held, bound⟩ := sum_grades false notes
  have one : ∀ n ∈ countedNotes false notes, HoldsOneLetter n := by
    intro n hn
    rw [← held n hn]
    have all : (countedNotes false notes).all fun n => (lettersHeld n).length ≤ 1 := by
      decide +kernel
    exact of_decide_eq_true (List.all_eq_true.1 all n hn)
  exact ⟨one, bound one, by decide +kernel⟩

/-- The grade `Grade A` holds two of the letters, so one note counts for `A` and for `G`. -/
theorem two_letters_of_one_note :
    let note : Note Float := ⟨none, none, none, none, some "Grade A", none⟩
    Note.readList "[\x7b\"grade\":\"Grade A\"\x7d]" = .ok [note] ∧
      (ofNotes false [note]).grades =
        [('A', 1), ('B', 0), ('C', 0), ('D', 0), ('E', 0), ('F', 0), ('G', 1)] ∧
      ¬∀ (includeClosed : Bool) (notes : List (Note Float)),
        (∀ n ∈ countedNotes includeClosed notes, (lettersHeld n).length ≤ 1) ∧
        ((ofNotes includeClosed notes).grades.map Prod.snd).sum ≤
          (ofNotes includeClosed notes).counted := by
  intro note
  have doc : Json.read? "[\x7b\"grade\":\"Grade A\"\x7d]" =
      some (.array [.object [("grade", .string "Grade A")]]) := by
    with_unfolding_all rfl
  refine ⟨?_, by decide +kernel, fun once => ?_⟩
  · rw [Note.readList, doc]
    rfl
  · exact absurd (once false [note]).2 (by decide +kernel)

end NoteSummary

end LoanDesk
