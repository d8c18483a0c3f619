import LoanDesk.Number.Shortest
import Mathlib.Tactic.Lemma
import Mathlib.Tactic.Ring

/-!
# The decimals that round to a magnitude

Every magnitude is worth less than the next one, and the midpoint between the two is worth half
their sum.  So a decimal passes the magnitudes up to some place and none after it, and the search
of `nearest` ends at that place: `lt_nearest_iff`.  Decimals of one worth round alike
(`rounds_congr`), and the decimal chosen to write a magnitude rounds to it (`rounds_shortest`).
-/

namespace LoanDesk.Number

/-! ### Magnitudes and the midpoints between them -/

/-- The next magnitude is worth one more step of the same scale, also where the scale changes. -/
lemma units_succ (m : Nat) : units (m + 1) = (significand m + 1) <<< scale m := by
  simp only [units, significand, scale, Nat.shiftLeft_eq]
  by_cases low : m + 1 < 0x10000000000000
  · rw [if_pos low, if_pos (by omega), show (m + 1) / 0x10000000000000 - 1 = 0 by omega,
      show m / 0x10000000000000 - 1 = 0 by omega]
  rw [if_neg low]
  by_cases first : m < 0x10000000000000
  · have e : m = 0xfffffffffffff := by omega
    subst e
    decide
  rw [if_neg first]
  by_cases last : (m + 1) % 0x10000000000000 = 0
  · -- The significand starts over and the scale doubles.
    have up : (m + 1) / 0x10000000000000 - 1 = m / 0x10000000000000 - 1 + 1 := by omega
    have full : m % 0x10000000000000 = 0xfffffffffffff := by omega
    rw [last, full, up, Nat.pow_succ]
    omega
  · have same : (m + 1) / 0x10000000000000 - 1 = m / 0x10000000000000 - 1 := by omega
    have next : (m + 1) % 0x10000000000000 = m % 0x10000000000000 + 1 := by omega
    rw [same, next]
    rfl

/-- The next magnitude is worth more. -/
lemma units_lt_succ (m : Nat) : units m < units (m + 1) := by
  rw [units_succ, units, Nat.shiftLeft_eq, Nat.shiftLeft_eq]
  exact Nat.mul_lt_mul_of_pos_right (Nat.lt_succ_self _) (Nat.two_pow_pos _)

/-- In half units a midpoint is the sum of its neighbours. -/
lemma midpoint_eq (m : Nat) : midpoint m = units m + units (m + 1) := by
  rw [units_succ, midpoint, units, Nat.shiftLeft_eq, Nat.shiftLeft_eq, Nat.shiftLeft_eq]
  ring

/-- The midpoint behind the next magnitude is greater. -/
lemma midpoint_lt_succ (m : Nat) : midpoint m < midpoint (m + 1) := by
  have h1 := units_lt_succ m
  have h2 := units_lt_succ (m + 1)
  rw [midpoint_eq, midpoint_eq]
  omega

/-- The midpoints are in the order of their magnitudes. -/
lemma midpoint_lt {m n : Nat} (h : m < n) : midpoint m < midpoint n := by
  induction n with
  | zero => omega
  | succ n ih =>
    have step := midpoint_lt_succ n
    rcases Nat.lt_succ_iff_lt_or_eq.1 h with lt | rfl
    · exact Nat.lt_trans (ih lt) step
    · exact step

lemma midpoint_pos (m : Nat) : 0 < midpoint m := by
  have h := units_lt_succ m
  rw [midpoint_eq]
  omega

/-- A midpoint lies above the powers of two that are smaller than a step there. -/
lemma two_pow_lt_midpoint {m k : Nat} (h : k < scale m) : 2 ^ k < midpoint m := by
  rw [midpoint, Nat.shiftLeft_eq]
  calc 2 ^ k < 2 ^ scale m := Nat.pow_lt_pow_right (by decide) h
    _ ≤ (2 * significand m + 1) * 2 ^ scale m := Nat.le_mul_of_pos_left _ (Nat.succ_pos _)

/-- A bound on the significand bounds the midpoint. -/
lemma midpoint_lt_mul {m a k : Nat} (h : 2 * significand m + 1 < a * 2 ^ k) :
    midpoint m < a * 2 ^ (k + scale m) := by
  rw [midpoint, Nat.shiftLeft_eq, Nat.pow_add, ← Nat.mul_assoc]
  exact (Nat.mul_lt_mul_right (Nat.two_pow_pos _)).2 h

/-- The midpoints above finite magnitudes stay below a fixed power of two. -/
lemma midpoint_lt_of_finite {m : Nat} (h : m < infinity) : midpoint m < 2 ^ (54 + 2045) := by
  have hm : m < 0x7ff0000000000000 := h
  have hs : 2 * significand m + 1 < 2 ^ 54 := by
    rw [significand]
    split <;> omega
  have hk : scale m ≤ 2045 := by
    rw [scale]
    omega
  calc midpoint m = (2 * significand m + 1) * 2 ^ scale m := by rw [midpoint, Nat.shiftLeft_eq]
    _ ≤ (2 * significand m + 1) * 2 ^ 2045 :=
      Nat.mul_le_mul_left _ (Nat.pow_le_pow_right (by decide) hk)
    _ < 2 ^ 54 * 2 ^ 2045 := (Nat.mul_lt_mul_right (Nat.two_pow_pos 2045)).2 hs
    _ = 2 ^ (54 + 2045) := by rw [Nat.pow_add]

/-! ### Passing a magnitude -/

/-- A fraction passes a finite magnitude if it is above the midpoint behind it, or on it and the
magnitude is odd. -/
lemma passesHalves_iff {num den m : Nat} :
    passesHalves num den m = true ↔
      m < infinity ∧ (midpoint m * den < num ∨ midpoint m * den = num ∧ m % 2 = 1) := by
  simp [passesHalves]

/-- What passes a magnitude passes those below it. -/
lemma passesHalves_of_lt {num den i m : Nat} (hden : 0 < den) (lt : i < m)
    (h : passesHalves num den m = true) : passesHalves num den i = true := by
  rw [passesHalves_iff] at h ⊢
  have mid : midpoint i * den < midpoint m * den :=
    Nat.mul_lt_mul_of_pos_right (midpoint_lt lt) hden
  exact ⟨by omega, .inl (by omega)⟩

/-- Fractions of one worth pass the same magnitudes. -/
lemma passesHalves_congr {num den num' den' : Nat} (hden : 0 < den) (hden' : 0 < den')
    (h : num * den' = num' * den) (m : Nat) :
    passesHalves num den m = passesHalves num' den' m := by
  have scaled : ∀ x : Nat,
      (x * den < num ↔ x * den' < num') ∧ (x * den = num ↔ x * den' = num') := by
    intro x
    have e : x * den * den' = x * den' * den := Nat.mul_right_comm _ _ _
    constructor
    · rw [← Nat.mul_lt_mul_right hden', e, h, Nat.mul_lt_mul_right hden]
    · rw [← Nat.mul_left_inj (Nat.ne_of_gt hden'), e, h, Nat.mul_left_inj (Nat.ne_of_gt hden)]
  rw [Bool.eq_iff_iff, passesHalves_iff, passesHalves_iff, (scaled _).1, (scaled _).2]

namespace Decimal

lemma divisor_pos (d : Decimal) : 0 < d.divisor := Nat.pow_pos (by decide)

/-- Two decimals have the same worth. -/
def SameWorth (d e : Decimal) : Prop := d.dividend * e.divisor = e.dividend * d.divisor

end Decimal

/-- Decimals of one worth round to the same magnitude. -/
lemma rounds_congr {d e : Decimal} (h : d.SameWorth e) (m : Nat) : rounds d m = rounds e m := by
  have same : ∀ m, passes d m = passes e m := by
    intro m
    apply passesHalves_congr d.divisor_pos e.divisor_pos
    rw [Nat.shiftLeft_eq, Nat.shiftLeft_eq, Nat.mul_right_comm, h, Nat.mul_right_comm]
  rw [rounds, rounds, same, same]

/-- A decimal rounds to the first magnitude that it does not pass. -/
lemma rounds_iff {d : Decimal} {m : Nat} :
    rounds d m = true ↔ passes d m = false ∧ (m = 0 ∨ passes d (m - 1) = true) := by
  simp [rounds]

/-! ### The search ends at the magnitude that a decimal rounds to -/

/-- Below some place a decimal passes every magnitude, and from there on it passes none. -/
lemma exists_last_passed (d : Decimal) :
    ∃ m, m ≤ infinity ∧ (∀ i < m, passes d i = true) ∧ ∀ i, m ≤ i → passes d i = false := by
  have stops : ∃ m, passes d m = false := ⟨infinity, rfl⟩
  refine ⟨Nat.find stops, Nat.find_min' stops rfl, ?_, ?_⟩
  · intro i lt
    exact Bool.eq_true_of_not_eq_false (Nat.find_min stops lt)
  · intro i le
    rw [Bool.eq_false_iff]
    intro pass
    have stop := Nat.find_spec stops
    rcases Nat.lt_or_eq_of_le le with lt | e
    · rw [passes, passesHalves_of_lt d.divisor_pos lt pass] at stop
      cases stop
    · rw [← e, stop] at pass
      cases pass

/-- Ten is more than the third power of two. -/
lemma two_pow_le_ten_pow (k : Nat) : 2 ^ (3 * k) ≤ 10 ^ k := by
  rw [Nat.pow_mul]
  exact Nat.pow_le_pow_left (by decide) k

/-- No decimal beyond `10 ^ 400` rounds to a finite magnitude. -/
lemma passes_of_huge {d : Decimal} {m : Nat} (hc : d.coefficient ≠ 0) (he : 400 < d.exponent)
    (fin : m < infinity) : passes d m = true := by
  have hden : d.divisor = 1 := by
    rw [Decimal.divisor, show (-d.exponent).toNat = 0 by omega]
  have far : 54 + 2045 ≤ 3 * d.exponent.toNat + 1075 := by omega
  have hnum : 2 ^ (3 * d.exponent.toNat) ≤ d.dividend :=
    Nat.le_trans (two_pow_le_ten_pow _) (Nat.le_mul_of_pos_left _ (Nat.pos_of_ne_zero hc))
  refine passesHalves_iff.2 ⟨fin, .inl ?_⟩
  calc midpoint m * d.divisor = midpoint m := by rw [hden, Nat.mul_one]
    _ < 2 ^ (54 + 2045) := midpoint_lt_of_finite fin
    _ ≤ 2 ^ (3 * d.exponent.toNat + 1075) := pow_le_pow_right₀ one_le_two far
    _ = 2 ^ (3 * d.exponent.toNat) * 2 ^ 1075 := pow_add ..
    _ ≤ d.dividend * 2 ^ 1075 := Nat.mul_le_mul_right _ hnum
    _ = d.dividend <<< 1075 := by rw [Nat.shiftLeft_eq]

/-- No decimal below `10 ^ -400` passes the zero magnitude. -/
lemma not_passes_of_tiny {d : Decimal} (he : d.exponent + d.coefficient.log2 < -400) (m : Nat) :
    passes d m = false := by
  rw [Bool.eq_false_iff]
  intro pass
  obtain ⟨-, above⟩ := passesHalves_iff.1 pass
  have hnum : d.dividend <<< 1075 < 2 ^ (d.coefficient.log2 + 1076) := by
    rw [Nat.shiftLeft_eq, Decimal.dividend, show d.exponent.toNat = 0 by omega]
    rw [show Nat.pow 10 0 = 1 from rfl, Nat.mul_one,
      show d.coefficient.log2 + 1076 = d.coefficient.log2 + 1 + 1075 from rfl, Nat.pow_add]
    exact (Nat.mul_lt_mul_right (Nat.two_pow_pos 1075)).2 Nat.lt_log2_self
  have hden : 2 ^ (d.coefficient.log2 + 1076) ≤ d.divisor :=
    calc 2 ^ (d.coefficient.log2 + 1076) ≤ 2 ^ (3 * (401 + d.coefficient.log2)) :=
        Nat.pow_le_pow_right (by decide) (by omega)
      _ ≤ 10 ^ (401 + d.coefficient.log2) := two_pow_le_ten_pow _
      _ ≤ 10 ^ (-d.exponent).toNat := Nat.pow_le_pow_right (by decide) (by omega)
  have hmid : d.divisor ≤ midpoint m * d.divisor := Nat.le_mul_of_pos_left _ (midpoint_pos m)
  omega

/-- Zero passes no magnitude. -/
lemma not_passes_of_zero {d : Decimal} (hc : d.coefficient = 0) (m : Nat) : passes d m = false := by
  rw [Bool.eq_false_iff]
  intro pass
  obtain ⟨-, above⟩ := passesHalves_iff.1 pass
  have hmid : 0 < midpoint m * d.divisor := Nat.mul_pos (midpoint_pos m) d.divisor_pos
  rw [Decimal.dividend, hc, Nat.zero_mul, Nat.zero_shiftLeft] at above
  omega

/-- A decimal is read as the first magnitude that it does not pass. -/
theorem lt_nearest_iff {d : Decimal} {m : Nat} : m < nearest d ↔ passes d m = true := by
  obtain ⟨last, bounded, below, above⟩ := exists_last_passed d
  -- The decimals for which `nearest` does not search are those that pass no place or every one.
  have found : nearest d = last := by
    rw [nearest]
    split
    next hc =>
      rcases Nat.eq_zero_or_pos last with e | pos
      · exact e.symm
      · have first := below 0 pos
        rw [not_passes_of_zero hc] at first
        cases first
    next hc =>
      split
      next he =>
        rcases Nat.lt_or_eq_of_le bounded with fin | e
        · have stop := above last (Nat.le_refl _)
          rw [passes_of_huge hc he fin] at stop
          cases stop
        · exact e.symm
      next =>
        split
        next he =>
          rcases Nat.eq_zero_or_pos last with e | pos
          · exact e.symm
          · have first := below 0 pos
            rw [not_passes_of_tiny he] at first
            cases first
        next =>
          have range : infinity < 0 + 1 <<< 63 := by decide
          exact firstFailure_eq below above 63 0 (Nat.zero_le _) (Nat.lt_of_le_of_lt bounded range)
  rw [found]
  constructor
  · exact below m
  · intro pass
    by_contra le
    rw [above m (Nat.le_of_not_lt le)] at pass
    cases pass

/-- A decimal is read as the magnitude that it rounds to. -/
theorem nearest_eq_of_rounds {d : Decimal} {m : Nat} (h : rounds d m = true) : nearest d = m := by
  obtain ⟨stop, start⟩ := rounds_iff.1 h
  have le : ¬ m < nearest d := by
    rw [lt_nearest_iff, stop]
    exact Bool.false_ne_true
  rcases start with rfl | start
  · omega
  · have lt := lt_nearest_iff.2 start
    omega

/-! ### The decimal that a magnitude is written with -/

lemma five_pow_mul_two_pow (k : Nat) : 5 ^ k * 2 ^ (k + 1) = 2 * 10 ^ k := by
  rw [Nat.pow_succ, ← Nat.mul_assoc, ← Nat.mul_pow, Nat.mul_comm]

/-- Halved `k` times, a whole number has `k` digits after the point, and it is twice that number
once it is doubled again `k + 1` times. -/
lemma dividend_five_pow (n k : Nat) :
    Decimal.dividend ⟨n * Nat.pow 5 k, -k⟩ <<< (k + 1) =
      2 * n * Decimal.divisor ⟨n * Nat.pow 5 k, -k⟩ := by
  have whole : Decimal.dividend ⟨n * Nat.pow 5 k, -k⟩ = n * 5 ^ k := by
    rw [Decimal.dividend, show (-(k : Int)).toNat = 0 by omega]
    exact Nat.mul_one _
  have parts : Decimal.divisor ⟨n * Nat.pow 5 k, -k⟩ = 10 ^ k := by
    rw [Decimal.divisor, Int.neg_neg, Int.toNat_natCast]
    rfl
  rw [whole, parts, Nat.shiftLeft_eq, Nat.mul_assoc, five_pow_mul_two_pow]
  ring

/-- In half units the exact decimal of a magnitude is worth twice the magnitude. -/
lemma dividend_exact (m : Nat) :
    (exact m).dividend <<< 1075 = 2 * units m * (exact m).divisor := by
  apply dividend_five_pow

/-- The exact decimal of a magnitude lies strictly between the midpoints around it. -/
lemma rounds_exact {m : Nat} (fin : m < infinity) : rounds (exact m) m = true := by
  have hden := (exact m).divisor_pos
  refine rounds_iff.2 ⟨?_, ?_⟩
  · have below : 2 * units m * (exact m).divisor < midpoint m * (exact m).divisor := by
      have step := units_lt_succ m
      apply Nat.mul_lt_mul_of_pos_right _ hden
      rw [midpoint_eq]
      omega
    rw [Bool.eq_false_iff, passes, dividend_exact]
    intro pass
    obtain ⟨-, above⟩ := passesHalves_iff.1 pass
    omega
  · cases m with
    | zero => exact .inl rfl
    | succ m =>
      right
      rw [passes, dividend_exact, Nat.add_sub_cancel]
      refine passesHalves_iff.2 ⟨Nat.lt_of_succ_lt fin, .inl ?_⟩
      have step := units_lt_succ m
      apply Nat.mul_lt_mul_of_pos_right _ hden
      rw [midpoint_eq]
      omega

/-- A decimal on a grid is one that rounds to the magnitude. -/
lemma rounds_onGrid {tie : Tie} {m : Nat} {exponent : Int} {d : Decimal}
    (h : onGrid tie m exponent = some d) : rounds d m = true := by
  simp only [onGrid] at h
  split at h
  next => cases h
  next below _ => cases h; exact below
  next _ above => cases h; exact above
  next below above =>
    split at h
    · cases h; exact below
    · cases h; exact above
    · cases h; exact above
    · split at h <;> cases h
      · exact below
      · exact above

/-- The shortest decimal of a finite magnitude rounds to it. -/
theorem rounds_shortest (tie : Tie) {m : Nat} (fin : m < infinity) :
    rounds (shortest tie m) m = true := by
  rw [shortest]
  split
  next hm =>
    subst hm
    exact rounds_iff.2 ⟨not_passes_of_zero rfl 0, .inl rfl⟩
  next =>
    generalize hf : (List.range 20).findSome?
      (fun (i : Nat) => onGrid tie m (leadingExponent m - i)) = found
    cases found with
    | none => exact rounds_exact fin
    | some d =>
      obtain ⟨i, -, hi⟩ := List.exists_of_findSome?_eq_some hf
      exact rounds_onGrid hi

end LoanDesk.Number
