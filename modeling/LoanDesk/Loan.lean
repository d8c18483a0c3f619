import LoanDesk.Dict
import LoanDesk.Expr.Eval

/-!
# Loans

A loan is what a listing reports of it, and a quality by which loans are ranked.  A field that is
not reported reads as nothing, and the quality takes no part in any condition.
-/

namespace LoanDesk

/-- A loan of a listing. -/
structure Loan where
  fields : Dict Value
  quality : Int

namespace Loan

/-- The quality of a loan that nobody has ranked. -/
def defaultQuality : Int := 100

/-- The loan with the given fields, of which a later one takes the place of an earlier one. -/
def ofFields (fields : List (String × Value)) : Loan := ⟨Dict.ofList fields, defaultQuality⟩

/-- What is reported under a name. -/
def get (loan : Loan) (name : String) : Value := (loan.fields.find? name).getD .null

/-- Something is reported under a name, even if it is nothing. -/
def contains (loan : Loan) (name : String) : Bool := (loan.fields.find? name).isSome

/-- The text of a loan's number: its `id`, else its `loanId`. -/
def id? (loan : Loan) : Option String :=
  if !(loan.get "id").isNull then some (loan.get "id").display
  else if !(loan.get "loanId").isNull then some (loan.get "loanId").display
  else none

/-- How messages speak of a loan. -/
def displayId (loan : Loan) : String := loan.id?.getD "<unknown>"

/-- Whether an expression holds of a loan. -/
def satisfies (loan : Loan) (e : Expr) : Except EvalError Bool := e.holds loan.get

/-- Loans of higher quality come first, and loans of one quality keep their order. -/
def sortByQuality (loans : List Loan) : List Loan :=
  loans.mergeSort fun a b => b.quality ≤ a.quality

/-- A field as it is reported. -/
def shown (loan : Loan) (name : String) : String :=
  match loan.get name with
  | .null => "-"
  | v => v.display

/-- A field without the fraction of its number. -/
def shownWhole (loan : Loan) (name : String) : String :=
  match loan.get name with
  | .null => "-"
  | v =>
    match v.asNumber? with
    | some x => Number.whole x
    | none => v.display

/-- A field as a number of two places. -/
def shownRate (loan : Loan) (name : String) : String :=
  match (loan.get name).asNumber? with
  | some x => Number.fixed 2 x
  | none => "-"

/-- The loan in seven lines. -/
def summary (loan : Loan) : String :=
  "Loan ID: " ++ loan.displayId ++
  "\nAmount Requested: $" ++ loan.shownWhole "loanAmount" ++
  "\nLoan purpose: " ++ loan.shown "purpose" ++
  "\nLoan grade: " ++ loan.shown "subGrade" ++
  "\nInterest rate: " ++ loan.shownRate "intRate" ++
  "\nLoan length: " ++ loan.shownWhole "term" ++ " months" ++
  "\nMonthly payment: $" ++ loan.shownWhole "installment"

end Loan

end LoanDesk
