import LoanDesk.Number.Rounding

/-!
# Amounts of money

Amounts and rates are binary numbers, whose sums and quotients are rounded.  What is computed from
them is defined for every type of amounts, so that it can also be read with exact fractions.
-/

namespace LoanDesk

/-- A type of amounts of money and of rates. -/
class Amount (α : Type) extends Add α, Sub α, Mul α, Div α where
  /-- The sum of no amounts. -/
  emptySum : α
  /-- As many units of money. -/
  ofCount : Nat → α
  /-- The hundredth part of a unit. -/
  cent : α
  /-- The amount without the parts of a unit, rounded down. -/
  wholeUnits : α → α
  /-- How many whole units a positive amount holds. -/
  unitCount : α → Nat
  /-- The first amount is not greater than the second. -/
  atMost : α → α → Bool
  /-- The amount is greater than nothing. -/
  isPositive : α → Bool

namespace Amount

instance : Amount Float where
  emptySum := Number.ofMagnitude true 0 (Nat.zero_le _)
  ofCount n := Number.Decimal.toNumber false ⟨n, 0⟩
  cent := Number.Decimal.toNumber false ⟨1, -2⟩
  wholeUnits := Number.floor
  unitCount x :=
    if Number.isUndefined x then 0
    else if Number.isFinite x then min (Number.wholePart x) (0xffffffffffffffff)
    else 0xffffffffffffffff
  atMost x y :=
    match Number.compare? x y with
    | some o => o != .gt
    | none => false
  isPositive x := Number.compare? (Number.ofMagnitude false 0 (Nat.zero_le _)) x == some .lt

instance : Amount Rat where
  emptySum := 0
  ofCount n := n
  cent := 1 / 100
  wholeUnits q := q.floor
  unitCount q := q.floor.toNat
  atMost p q := p ≤ q
  isPositive q := 0 < q

variable {α : Type} [Amount α]

/-- The sum of amounts from left to right. -/
def sum (amounts : List α) : α := amounts.foldl (· + ·) emptySum

/-- The mean of amounts, if there are any. -/
def mean? (amounts : List α) : Option α :=
  if amounts.isEmpty then none else some (sum amounts / ofCount amounts.length)

end Amount

end LoanDesk
