import LoanDesk.Amount
import LoanDesk.Note.Status
import LoanDesk.Number.Notation

/-!
# Owned notes

A note is a share of a loan that an account owns.  All of what a platform reports of it may be
missing.
-/

namespace LoanDesk

/-- What is reported of a note, with rates and amounts of the given type. -/
structure Note (α : Type) where
  loanId : Option String
  noteId : Option String
  loanStatus : Option String
  interestRate : Option α
  grade : Option String
  principalPending : Option α
deriving DecidableEq

namespace Note

variable {α : Type}

/-- What has become of the note. -/
def status (n : Note α) : NoteStatus :=
  match n.loanStatus with
  | some s => .ofText s
  | none => .other

/-- The notes whose payments are late, in their order. -/
def late (notes : List (Note α)) : List (Note α) := notes.filter fun n => n.status.isLate

/-- A text, or a dash where it is missing. -/
def shown (s : Option String) : String := s.getD "-"

/-- A rate with two places, or a dash where it is missing. -/
def shownRate (rate : Option Float) : String :=
  match rate with
  | some r => Number.fixed 2 r ++ "%"
  | none => "-"

/-- The note in one line. -/
def summary (n : Note Float) : String :=
  "Loan " ++ shown n.loanId ++ " (note " ++ shown n.noteId ++ "): " ++ shown n.loanStatus ++
    ", grade " ++ shown n.grade ++
    match n.interestRate with
    | some _ => ", " ++ shownRate n.interestRate
    | none => ""

end Note

end LoanDesk
