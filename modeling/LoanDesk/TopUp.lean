import LoanDesk.Amount

/-!
# Topping up an account

Where cash and pending transfers stay below the least balance, money is transferred.  The amount is
the shortfall, raised to a multiple of a given amount; less than a cent above a multiple does not
ask for the next one.
-/

namespace LoanDesk

variable {α : Type} [Amount α]

/-- The shortfall as a multiple of a positive amount. -/
def raiseToMultiple (shortfall multiple : α) : α :=
  if Amount.isPositive multiple then
    Amount.wholeUnits ((shortfall + (multiple - Amount.cent)) / multiple) * multiple
  else shortfall

/-- The amount to transfer, if the balance needs any. -/
def topUp? (cash pending minBalance multiple : α) : Option α :=
  if Amount.atMost minBalance cash then none
  else if Amount.atMost minBalance (cash + pending) then none
  else some (raiseToMultiple (minBalance - (cash + pending)) multiple)

end LoanDesk
