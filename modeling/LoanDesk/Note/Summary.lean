import LoanDesk.Note.Json

/-!
# Summaries of notes

A summary counts notes by what has become of them.  The mean rate and the grades are those of the
open notes, or of all notes where the closed ones are included.  A note counts for each letter that
its grade holds.
-/

namespace LoanDesk

/-- How many notes there are of which kind. -/
structure NoteSummary (α : Type) where
  /-- The notes that the mean rate and the grades are taken of. -/
  counted : Nat
  averageRate : Option α
  openNotes : Nat
  current : Nat
  late : Nat
  closed : Nat
  inReview : Nat
  includeClosed : Bool
  grades : List (Char × Nat)
deriving DecidableEq

namespace NoteSummary

/-- The letters of grades, best first. -/
def gradeLetters : List Char := ['A', 'B', 'C', 'D', 'E', 'F', 'G']

variable {α : Type}

/-- The notes that the mean rate and the grades are taken of. -/
def countedNotes (includeClosed : Bool) (notes : List (Note α)) : List (Note α) :=
  notes.filter fun n => includeClosed || n.status.isOpen

/-- Whether a note counts for a letter. -/
def hasGrade (letter : Char) (n : Note α) : Bool :=
  match n.grade with
  | some grade => grade.toList.contains letter
  | none => false

/-- The summary of notes. -/
def ofNotes [Amount α] (includeClosed : Bool) (notes : List (Note α)) : NoteSummary α :=
  let counted := countedNotes includeClosed notes
  { counted := counted.length
    averageRate := Amount.mean? (counted.filterMap Note.interestRate)
    openNotes := notes.countP fun n => n.status.isOpen
    current := notes.countP fun n => n.status.isCurrent
    late := notes.countP fun n => n.status.isLate
    closed := notes.countP fun n => !n.status.isOpen
    inReview := notes.countP fun n => !n.status.isIssued
    includeClosed
    grades := gradeLetters.map fun letter => (letter, counted.countP (hasGrade letter)) }

/-- A summary as JSON. -/
def toJson (s : NoteSummary Float) : Json :=
  .object [("counted", .ofNat s.counted), ("average_rate", Note.numberJson s.averageRate),
    ("open", .ofNat s.openNotes), ("current", .ofNat s.current), ("late", .ofNat s.late),
    ("closed", .ofNat s.closed), ("in_review", .ofNat s.inReview),
    ("include_closed", .bool s.includeClosed),
    ("grades", .object (s.grades.map fun (letter, count) =>
      (String.singleton letter, .ofNat count)))]

end NoteSummary

end LoanDesk
