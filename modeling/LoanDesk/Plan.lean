import LoanDesk.Amount
import LoanDesk.Filter
import LoanDesk.Json

/-!
# Plans of orders

A plan orders one note of each loan, best loans first, as long as the cash pays for another note.
A loan without an id cannot be ordered; it is passed over with a warning, and it takes no cash.
-/

namespace LoanDesk

/-- An order of a note. -/
structure Order (α : Type) where
  loanId : String
  amount : α
  /-- The portfolio that the note is filed under. -/
  portfolioId : Option String
deriving DecidableEq

/-- The orders of an account. -/
structure Plan (α : Type) where
  accountId : Option String
  orders : List (Order α)
deriving DecidableEq

namespace Plan

variable {α : Type} [Amount α]

/-- How many notes of an amount the cash pays for. -/
def affordable (cash amount : α) : Nat :=
  if Amount.isPositive amount && Amount.isPositive cash then Amount.unitCount (cash / amount) else 0

/-- The warning about a loan that cannot be ordered. -/
def skipWarning (loan : Loan) : LogLine :=
  .warning ("Skipping loan without an id:\n" ++ loan.summary)

/-- The ids of the first `count` loans that have one, with what was logged until the last of them
was found. -/
def take : Nat → List Loan → List String × List LogLine
  | 0, _ => ([], [])
  | _ + 1, [] => ([], [])
  | count + 1, loan :: loans =>
    match loan.id? with
    | some id =>
      let (ids, log) := take count loans
      (id :: ids, log)
    | none =>
      let (ids, log) := take (count + 1) loans
      (ids, skipWarning loan :: log)

/-- The plan that orders the best loans that the cash pays for, with what was logged. -/
def ofCandidates (candidates : List Loan) (cash amount : α)
    (portfolioId accountId : Option String) : Plan α × List LogLine :=
  let (ids, log) := take (affordable cash amount) candidates
  (⟨accountId, ids.map fun id => ⟨id, amount, portfolioId⟩⟩, log)

/-- What the orders cost. -/
def total (p : Plan α) : α := Amount.sum (p.orders.map Order.amount)

/-- Nothing is ordered. -/
def isEmpty (p : Plan α) : Bool := p.orders.isEmpty

/-! ### Plans as JSON -/

/-- An order as JSON. -/
def orderJson (o : Order Float) : Json :=
  .object ([("loanId", .string o.loanId), ("requestedAmount", .ofNumber o.amount)] ++
    match o.portfolioId with
    | some id => [("portfolioId", .string id)]
    | none => [])

/-- A plan as JSON. -/
def toJson (p : Plan Float) : Json :=
  .object ((match p.accountId with
    | some id => [("aid", .string id)]
    | none => []) ++ [("orders", .array (p.orders.map orderJson))])

end Plan

end LoanDesk
