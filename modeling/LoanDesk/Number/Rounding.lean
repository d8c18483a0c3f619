import LoanDesk.Number.Binary

/-!
# Rounding a decimal to the nearest number

Between two neighbouring finite magnitudes lies their *midpoint*.  A decimal rounds to the least
magnitude whose upper midpoint it does not pass, where a decimal on the midpoint itself passes
exactly if the magnitude is odd; so ties go to the even neighbour, and what passes every finite
magnitude is infinite.

Main statements: `firstFailure_eq`, the search finds the place where a predicate stops holding, and
`nearest_le_infinity`, so that `Decimal.toNumber` is a number.
-/

namespace LoanDesk.Number

/-- The decimal `coefficient * 10 ^ exponent`. -/
structure Decimal where
  coefficient : Nat
  exponent : Int
deriving DecidableEq, Repr

namespace Decimal

/-- With `divisor`, the decimal as a fraction. -/
def dividend (d : Decimal) : Nat := d.coefficient * Nat.pow 10 d.exponent.toNat

/-- The power of ten below the fraction bar. -/
def divisor (d : Decimal) : Nat := Nat.pow 10 (-d.exponent).toNat

end Decimal

/-- The midpoint between the magnitudes `m` and `m + 1`, in half units. -/
def midpoint (m : Nat) : Nat := (2 * significand m + 1) <<< scale m

/-- The fraction `num / den` of half units lies above the numbers that round to `m`. -/
def passesHalves (num den m : Nat) : Bool :=
  m < infinity && (midpoint m * den < num || (midpoint m * den == num && m % 2 == 1))

/-- The decimal `d` lies above the numbers that round to `m`. -/
def passes (d : Decimal) (m : Nat) : Bool := passesHalves (d.dividend <<< 1075) d.divisor m

/-- The decimal `d` rounds to the magnitude `m`. -/
def rounds (d : Decimal) (m : Nat) : Bool := !passes d m && (m == 0 || passes d (m - 1))

/-- The least number from `low` on that `p` does not hold of, if `p` holds up to some place among
the next `2 ^ k` and not after it. -/
def firstFailure (p : Nat → Bool) : Nat → Nat → Nat
  | 0, low => low
  | k + 1, low =>
    if p (low + 1 <<< k - 1) then firstFailure p k (low + 1 <<< k) else firstFailure p k low

/-- The magnitude nearest to the decimal `d`.  A decimal beyond `10 ^ 400` is infinite and one
below `10 ^ -400` is zero whatever its coefficient. -/
def nearest (d : Decimal) : Nat :=
  if d.coefficient = 0 then 0
  else if 400 < d.exponent then infinity
  else if d.exponent + d.coefficient.log2 < -400 then 0
  else
    let num := d.dividend <<< 1075
    let den := d.divisor
    firstFailure (passesHalves num den) 63 0

/-! ### The search finds the last place -/

theorem one_shiftLeft_pos (k : Nat) : 0 < 1 <<< k := by
  rw [Nat.one_shiftLeft]
  exact Nat.two_pow_pos k

/-- A predicate on a bounded search range that holds below `m` and not from `m` on. -/
theorem firstFailure_eq {p : Nat → Bool} {m : Nat} (below : ∀ i < m, p i = true)
    (above : ∀ i, m ≤ i → p i = false) (k low : Nat) (hlow : low ≤ m) (hm : m < low + 1 <<< k) :
    firstFailure p k low = m := by
  induction k generalizing low with
  | zero =>
    rw [firstFailure]
    simp at hm
    omega
  | succ k ih =>
    have hk : 1 <<< (k + 1) = 1 <<< k + 1 <<< k := by
      rw [Nat.shiftLeft_succ]
      omega
    have hpos := one_shiftLeft_pos k
    rw [firstFailure]
    by_cases h : low + 1 <<< k ≤ m
    · rw [if_pos (below _ (by omega))]
      exact ih _ h (by omega)
    · rw [if_neg (by simp [above _ (show m ≤ low + 1 <<< k - 1 by omega)])]
      exact ih _ hlow (by omega)

/-- The search stays among the places that `p` holds below. -/
theorem firstFailure_le {p : Nat → Bool} {m : Nat} (below : ∀ i, p i = true → i < m) (k low : Nat)
    (hlow : low ≤ m) : firstFailure p k low ≤ m := by
  induction k generalizing low with
  | zero => exact hlow
  | succ k ih =>
    have hpos := one_shiftLeft_pos k
    rw [firstFailure]
    split
    next h =>
      have := below _ h
      exact ih _ (by omega)
    next => exact ih _ hlow

/-- Nothing passes infinity. -/
theorem lt_infinity_of_passesHalves {num den m : Nat} (h : passesHalves num den m = true) :
    m < infinity := by
  simp only [passesHalves, Bool.and_eq_true, decide_eq_true_eq] at h
  exact h.1

/-- A decimal rounds to infinity at most. -/
theorem nearest_le_infinity (d : Decimal) : nearest d ≤ infinity := by
  rw [nearest]
  split
  · exact Nat.zero_le _
  split
  · exact Nat.le_refl _
  split
  · exact Nat.zero_le _
  · exact firstFailure_le (fun _ => lt_infinity_of_passesHalves) 63 0 (Nat.zero_le _)

/-- The number nearest to a decimal with a sign. -/
def Decimal.toNumber (negative : Bool) (d : Decimal) : Float :=
  ofMagnitude negative (nearest d) (nearest_le_infinity d)

end LoanDesk.Number
