import LoanDesk.Config

/-!
# Configured accounts

What an account invests in a loan, the cash that it keeps, and where new notes are filed.  An
account that is not configured invests 25 in each loan and keeps no cash.
-/

namespace LoanDesk

/-- How an account invests. -/
structure AccountConfig where
  /-- The number of the account. -/
  investorId : Option String
  /-- What is invested in one loan. -/
  orderAmount : Float
  /-- The cash below which money is transferred to the account. -/
  minBalance : Float
  /-- Transfers are rounded up to a multiple of this amount. -/
  transferMultiple : Float
  /-- The pattern that names the portfolio of new notes. -/
  portfolio : Option String

namespace AccountConfig

/-- How an account invests that is not configured. -/
def default : AccountConfig := ⟨none, 25, 0, 25, none⟩

/-- An account number, which is a whole number, a text or nothing. -/
def investorId? : Json → Option (Option String)
  | .null => some none
  | .string s => some (some s)
  | .number (.whole n) => if 0 ≤ n then some (some (toString n)) else none
  | _ => none

/-- The part of the configuration that speaks of the account. -/
def ofAccount? : Json → Option AccountConfig
  | .object members => do
    let investorId ← Config.field? ["investor_id", "iid"] investorId? default.investorId members
    let orderAmount ←
      Config.field? ["order_amount", "orderamnt"] Config.number? default.orderAmount members
    let minBalance ← Config.field? ["min_balance"] Config.number? default.minBalance members
    let transferMultiple ←
      Config.field? ["transfer_multiple"] Config.number? default.transferMultiple members
    let portfolio ← Config.field? ["portfolio"] Config.optionalText? default.portfolio members
    return ⟨investorId, orderAmount, minBalance, transferMultiple, portfolio⟩
  | _ => none

/-- The configuration of a value. -/
def ofJson? : Json → Option AccountConfig
  | .object members => Config.field? ["account"] ofAccount? default members
  | _ => none

/-- The configuration that a text spells. -/
def read? (s : String) : Option AccountConfig := (Json5.read? s).bind ofJson?

end AccountConfig

end LoanDesk
