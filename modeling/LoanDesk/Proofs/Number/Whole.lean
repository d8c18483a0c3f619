import LoanDesk.Json
import LoanDesk.Proofs.Number.Finite
import LoanDesk.Proofs.Number.RoundTrip

/-!
# The text of whole numbers

What a whole number is read as is worth a whole number too (`exists_worth_nearest`), and it is
written without a fraction: either the grid of whole numbers is among those that are tried, or the
last of these is fine enough (`exponent_shortest`).  So a whole number is written as one with the
same nearest number, `exists_text_ofWhole`.

A whole number below `2 ^ 53` is the worth of some magnitude (`exists_units`), whose neighbours are
at most one apart.  It is the only whole number that rounds to that magnitude (`eq_of_rounds`), and
the digits that are written are its own: `text_ofWhole`.
-/

namespace LoanDesk.Number

/-- The worth of the number one in units. -/
def one : Nat := 1 <<< 1074

/-- One is worth `2 ^ 1074` units. -/
lemma one_eq : one = 2 ^ 1074 := by
  rw [one]
  -- The exponent is set aside, lest the power be computed.
  generalize 1074 = k
  exact Nat.one_shiftLeft k

lemma one_pos : 0 < one := one_shiftLeft_pos 1074

/-- A whole number in half units. -/
lemma shiftLeft_halves (n : Nat) : n <<< 1075 = 2 * (n * one) := by
  rw [one, Nat.shiftLeft_succ, Nat.shiftLeft_eq n, Nat.one_shiftLeft]

/-! ### Magnitudes that are worth a whole number -/

/-- A whole number below `2 ^ 53` has a magnitude, and there the steps are at most one. -/
lemma exists_units {n : Nat} (pos : 0 < n) (lt : n < 2 ^ 53) :
    ∃ m < infinity, units m = n * one ∧ 2 ^ scale m ≤ one := by
  obtain ⟨low, high⟩ := (Nat.log2_eq_iff (Nat.ne_of_gt pos)).1 rfl
  have few : n.log2 < 53 := (Nat.log2_lt (Nat.ne_of_gt pos)).2 lt
  generalize n.log2 = k at low high few
  -- The number is shifted up to where its leading bit is the one that the pattern leaves out.
  have shifted : 2 ^ 52 ≤ n * 2 ^ (52 - k) ∧ n * 2 ^ (52 - k) < 2 ^ 53 := by
    constructor
    · calc 2 ^ 52 = 2 ^ k * 2 ^ (52 - k) := by rw [← Nat.pow_add]; congr 1; omega
        _ ≤ n * 2 ^ (52 - k) := Nat.mul_le_mul_right _ low
    · calc n * 2 ^ (52 - k) < 2 ^ (k + 1) * 2 ^ (52 - k) :=
          Nat.mul_lt_mul_of_pos_right high (Nat.two_pow_pos _)
        _ = 2 ^ 53 := by rw [← Nat.pow_add]; congr 1; omega
  have worth : n * 2 ^ (52 - k) * 2 ^ (1022 + k) = n * one := by
    rw [Nat.mul_assoc, ← Nat.pow_add, one_eq]
    congr 2
    omega
  generalize n * 2 ^ (52 - k) = s at shifted worth
  have leading : significand ((1022 + k) * 0x10000000000000 + s) = s := by
    rw [significand, if_neg (by omega)]
    omega
  have step : scale ((1022 + k) * 0x10000000000000 + s) = 1022 + k := by
    rw [scale]
    omega
  refine ⟨(1022 + k) * 0x10000000000000 + s, ?_, ?_, ?_⟩
  · show _ < 0x7ff0000000000000
    omega
  · rw [units, leading, step, Nat.shiftLeft_eq, worth]
  · rw [step, one_eq]
    exact pow_le_pow_right₀ one_le_two (by omega)

/-- A magnitude is one step above the one below it. -/
lemma units_succ_eq (m : Nat) : units (m + 1) = units m + 2 ^ scale m := by
  rw [units_succ, units, Nat.shiftLeft_eq, Nat.shiftLeft_eq, Nat.add_mul, Nat.one_mul]

/-- Greater magnitudes are scaled no less. -/
lemma scale_le_scale {m n : Nat} (h : m ≤ n) : scale m ≤ scale n := by
  rw [scale, scale]
  omega

/-! ### The whole numbers that round to a magnitude -/

/-- A whole number passes a magnitude if it is above the midpoint behind it, or on it and the
magnitude is odd. -/
lemma passes_whole_iff {n m : Nat} :
    passes ⟨n, 0⟩ m = true ↔
      m < infinity ∧ (midpoint m < 2 * (n * one) ∨ midpoint m = 2 * (n * one) ∧ m % 2 = 1) := by
  have num : (⟨n, 0⟩ : Decimal).dividend = n := Nat.mul_one n
  have den : (⟨n, 0⟩ : Decimal).divisor = 1 := rfl
  rw [passes, passesHalves_iff, num, den, Nat.mul_one, shiftLeft_halves]

/-- A whole number whose half units are at most those of another and one, is at most the other. -/
lemma le_of_halves {k n : Nat} (h : 2 * (k * one) ≤ 2 * (n * one) + one) : k ≤ n := by
  by_contra above
  have more : (n + 1) * one ≤ k * one := Nat.mul_le_mul_right _ (Nat.lt_of_not_le above)
  have pos := one_pos
  rw [Nat.add_mul, Nat.one_mul] at more
  omega

/-- No two whole numbers round to a magnitude that is worth one of them, if the steps there are at
most one. -/
lemma eq_of_rounds {m n k : Nat} (fin : m < infinity) (worth : units m = n * one)
    (fine : 2 ^ scale m ≤ one) (h : rounds ⟨k, 0⟩ m = true) : k = n := by
  obtain ⟨stop, start⟩ := rounds_iff.1 h
  have upper : 2 * (k * one) ≤ midpoint m := by
    by_contra above
    have pass := passes_whole_iff.2 ⟨fin, .inl (Nat.lt_of_not_le above)⟩
    rw [stop] at pass
    cases pass
  rw [midpoint_eq, units_succ_eq] at upper
  refine Nat.le_antisymm (le_of_halves (by omega)) (le_of_halves ?_)
  cases m with
  | zero =>
    have zero : n * one = 0 := worth.symm
    omega
  | succ m =>
    obtain ⟨-, lower⟩ := passes_whole_iff.1 (start.resolve_left (Nat.succ_ne_zero m))
    have below : 2 ^ scale m ≤ 2 ^ scale (m + 1) :=
      Nat.pow_le_pow_right (by decide) (scale_le_scale (Nat.le_succ m))
    rw [Nat.add_sub_cancel, midpoint_eq] at lower
    have gap := units_succ_eq m
    omega

/-- A whole number rounds to the magnitude that it reaches and exceeds by less than half a step. -/
lemma rounds_of_near {m n : Nat} (fin : m < infinity) (reached : units m ≤ n * one)
    (near : 2 * (n * one) < 2 * units m + 2 ^ scale m) : rounds ⟨n, 0⟩ m = true := by
  refine rounds_iff.2 ⟨?_, ?_⟩
  · rw [Bool.eq_false_iff]
    intro pass
    obtain ⟨-, above⟩ := passes_whole_iff.1 pass
    rw [midpoint_eq, units_succ_eq] at above
    omega
  · cases m with
    | zero => exact .inl rfl
    | succ m =>
      refine .inr (passes_whole_iff.2 ⟨Nat.lt_of_succ_lt fin, .inl ?_⟩)
      have step := units_lt_succ m
      rw [Nat.add_sub_cancel, midpoint_eq]
      omega

/-- A whole number rounds to the magnitude of its worth. -/
lemma rounds_whole {m n : Nat} (fin : m < infinity) (worth : units m = n * one) :
    rounds ⟨n, 0⟩ m = true := by
  refine rounds_of_near fin (Nat.le_of_eq worth) ?_
  rw [← worth]
  exact Nat.lt_add_of_pos_right (Nat.two_pow_pos _)

/-- A decimal without a fraction rounds as the whole number does that it is. -/
lemma rounds_of_nonneg {d : Decimal} (h : 0 ≤ d.exponent) (m : Nat) :
    rounds d m = rounds ⟨d.coefficient * 10 ^ d.exponent.toNat, 0⟩ m := by
  refine rounds_congr ?_ m
  show _ * Nat.pow 10 _ * 1 = _ * 1 * Nat.pow 10 (-d.exponent).toNat
  rw [Int.toNat_of_nonpos (Int.neg_nonpos_of_nonneg h)]
  exact (Nat.mul_one _).symm

/-- What a positive whole number is read as is not zero. -/
lemma nearest_pos {n : Nat} (pos : 0 < n) : 0 < nearest ⟨n, 0⟩ := by
  have units : 0 < n * one := Nat.mul_pos pos one_pos
  refine lt_nearest_iff.2 (passes_whole_iff.2 ⟨by decide, .inl ?_⟩)
  show 1 < 2 * (n * one)
  omega

/-- From `2 ^ 53` on all magnitudes are worth whole numbers, so what a whole number is read as is
worth one. -/
lemma exists_worth_nearest {n : Nat} (pos : 0 < n) :
    ∃ k, 0 < k ∧ units (nearest ⟨n, 0⟩) = k * one := by
  rcases Nat.lt_or_ge n (2 ^ 53) with lt | ge
  · obtain ⟨m, fin, worth, -⟩ := exists_units pos lt
    rw [nearest_eq_of_rounds (rounds_whole fin worth)]
    exact ⟨n, pos, worth⟩
  have last : midpoint 0x433fffffffffffff < 2 * (2 ^ 53 * one) := by decide +kernel
  have reached : 0x433fffffffffffff < nearest ⟨n, 0⟩ := by
    refine lt_nearest_iff.2 (passes_whole_iff.2 ⟨by decide, .inl (last.trans_le ?_)⟩)
    exact Nat.mul_le_mul_left _ (Nat.mul_le_mul_right _ ge)
  have steps : 1074 ≤ scale (nearest ⟨n, 0⟩) :=
    le_trans (by decide) (scale_le_scale reached)
  have worth : units (nearest ⟨n, 0⟩) =
      significand (nearest ⟨n, 0⟩) * 2 ^ (scale (nearest ⟨n, 0⟩) - 1074) * one := by
    rw [one_eq, Nat.mul_assoc, ← Nat.pow_add, Nat.sub_add_cancel steps, ← Nat.shiftLeft_eq]
    rfl
  refine ⟨_, ?_, worth⟩
  refine Nat.mul_pos ?_ (Nat.two_pow_pos _)
  rw [significand, if_neg (by omega)]
  omega

/-! ### The shortest decimal of a whole number -/

/-- A decimal on a grid has the exponent of the grid. -/
lemma exponent_onGrid {tie : Tie} {m : Nat} {exponent : Int} {d : Decimal}
    (h : onGrid tie m exponent = some d) : d.exponent = exponent := by
  simp only [onGrid] at h
  split at h
  next => cases h
  next => cases h; rfl
  next => cases h; rfl
  next =>
    split at h
    · cases h; rfl
    · cases h; rfl
    · cases h; rfl
    · split at h <;> cases h <;> rfl

/-- A grid has a point for a magnitude if one of its two neighbours on the grid rounds to it. -/
lemma isSome_onGrid_iff {tie : Tie} {m : Nat} {exponent : Int} :
    (onGrid tie m exponent).isSome = true ↔
      rounds ⟨gridFloor m exponent, exponent⟩ m = true ∨
        rounds ⟨gridFloor m exponent + 1, exponent⟩ m = true := by
  simp only [onGrid]
  cases rounds ⟨gridFloor m exponent, exponent⟩ m with
  | false => cases rounds ⟨gridFloor m exponent + 1, exponent⟩ m <;> simp
  | true =>
    cases rounds ⟨gridFloor m exponent + 1, exponent⟩ m with
    | false => simp
    | true =>
      cases comparesToMiddle m exponent (gridFloor m exponent) <;> cases tie <;> simp

/-- On the grid of a whole power of ten the point below a magnitude is a quotient of its units. -/
lemma gridFloor_natCast (m k : Nat) : gridFloor m k = units m / (10 ^ k * one) := by
  rw [gridFloor, Int.toNat_of_nonpos (by omega), Int.toNat_natCast, Nat.mul_comm (1 <<< 1074)]
  show units m * 1 / _ = _
  rw [Nat.mul_one]
  rfl

/-- The grid of whole numbers has a point for a whole number. -/
lemma isSome_onGrid {m n : Nat} (tie : Tie) (fin : m < infinity) (worth : units m = n * one) :
    (onGrid tie m 0).isSome = true := by
  have floor : gridFloor m 0 = n := by
    refine (gridFloor_natCast m 0).trans ?_
    rw [Nat.pow_zero, Nat.one_mul, worth, Nat.mul_div_cancel _ one_pos]
  rw [isSome_onGrid_iff, floor]
  exact .inl (rounds_whole fin worth)

/-- A grid has a point for each magnitude whose step is more than twice the step of the grid. -/
lemma isSome_onGrid_of_lt {m k : Nat} (tie : Tie) (fin : m < infinity)
    (fine : 2 * (10 ^ k * one) < 2 ^ scale m) : (onGrid tie m k).isSome = true := by
  have step : 0 < 10 ^ k * one := Nat.mul_pos (Nat.pow_pos (by decide)) one_pos
  rw [isSome_onGrid_iff, gridFloor_natCast]
  right
  rw [rounds_of_nonneg (Int.natCast_nonneg k), Int.toNat_natCast]
  have split := Nat.div_add_mod (units m) (10 ^ k * one)
  have rest := Nat.mod_lt (units m) step
  have next : (units m / (10 ^ k * one) + 1) * 10 ^ k * one =
      10 ^ k * one * (units m / (10 ^ k * one)) + 10 ^ k * one := by
    ring
  apply rounds_of_near fin
  · rw [next]
    omega
  · rw [next]
    omega

/-- The grids are tried from the coarsest on. -/
lemma findSome?_range {α : Type} {f : Nat → Option α} {a : α} {k j : Nat}
    (h : (List.range k).findSome? f = some a) (hj : j < k) (found : (f j).isSome = true) :
    ∃ i ≤ j, f i = some a := by
  obtain ⟨front, i, back, split, hi, none⟩ := List.findSome?_eq_some_iff.1 h
  refine ⟨i, ?_, hi⟩
  have sorted : (front ++ i :: back).Pairwise (· < ·) := split ▸ List.pairwise_lt_range
  have mem : j ∈ front ++ i :: back := split ▸ List.mem_range.2 hj
  rcases List.mem_append.1 mem with early | late
  · rw [none j early] at found
    cases found
  rcases List.mem_cons.1 late with rfl | late
  · exact Nat.le_refl _
  · have := (List.pairwise_cons.1 (List.pairwise_append.1 sorted).2.1).1 j late
    omega

/-- A shift by `k` bits moves the leading bit by `k` places. -/
lemma log2_shiftLeft {n : Nat} (pos : 0 < n) (k : Nat) : (n <<< k).log2 = n.log2 + k := by
  obtain ⟨low, high⟩ := (Nat.log2_eq_iff (Nat.ne_of_gt pos)).1 rfl
  have ne : n * 2 ^ k ≠ 0 := Nat.ne_of_gt (Nat.mul_pos pos (Nat.two_pow_pos k))
  rw [Nat.shiftLeft_eq]
  refine (Nat.log2_eq_iff ne).2 ⟨?_, ?_⟩
  · rw [Nat.pow_add]
    exact Nat.mul_le_mul_right _ low
  · rw [Nat.add_right_comm, Nat.pow_add]
    exact Nat.mul_lt_mul_of_pos_right high (Nat.two_pow_pos k)

/-- The leading bit of a magnitude that is worth a whole number. -/
lemma log2_units {m n : Nat} (pos : 0 < n) (worth : units m = n * one) :
    (units m).log2 = n.log2 + 1074 := by
  have shifted : n * one = n <<< 1074 := by
    rw [one, Nat.shiftLeft_eq n, Nat.one_shiftLeft]
  rw [worth, shifted, log2_shiftLeft pos]

/-- The leading bit of a magnitude's worth is within the significand. -/
lemma log2_units_le (m : Nat) : (units m).log2 ≤ 52 + scale m := by
  rcases Nat.eq_zero_or_pos (units m) with zero | pos
  · rw [zero, Nat.log2_zero]
    exact Nat.zero_le _
  refine Nat.lt_succ_iff.1 ((Nat.log2_lt (Nat.ne_of_gt pos)).2 ?_)
  calc units m = significand m * 2 ^ scale m := Nat.shiftLeft_eq ..
    _ < 2 ^ 53 * 2 ^ scale m := (Nat.mul_lt_mul_right (Nat.two_pow_pos _)).2 (significand_lt m)
    _ = 2 ^ (52 + scale m + 1) := by rw [← Nat.pow_add]; congr 1; omega

/-- Ten is less than two to the power of ten thirds. -/
lemma ten_pow_le_two_pow (k : Nat) : 10 ^ k ≤ 2 ^ ((10 * k + 2) / 3) := by
  refine (Nat.pow_le_pow_iff_left (show 3 ≠ 0 by decide)).1 ?_
  calc (10 ^ k) ^ 3 = (10 ^ 3) ^ k := by rw [← Nat.pow_mul, ← Nat.pow_mul, Nat.mul_comm]
    _ ≤ (2 ^ 10) ^ k := Nat.pow_le_pow_left (by decide) k
    _ = 2 ^ (10 * k) := (Nat.pow_mul ..).symm
    _ ≤ 2 ^ ((10 * k + 2) / 3 * 3) := Nat.pow_le_pow_right Nat.two_pos (by omega)
    _ = (2 ^ ((10 * k + 2) / 3)) ^ 3 := Nat.pow_mul ..

/-- Where the grid of whole numbers is not among those that are tried, the last of these is fine
enough. -/
lemma two_mul_last_grid_lt {m : Nat} (fin : m < infinity) {k : Nat}
    (last : leadingExponent m - 19 = k) : 2 * (10 ^ k * one) < 2 ^ scale m := by
  have top : scale m ≤ 2045 := by
    have hm : m < 0x7ff0000000000000 := fin
    rw [scale]
    omega
  have bits := log2_units_le m
  rw [leadingExponent] at last
  calc 2 * (10 ^ k * one) ≤ 2 * (2 ^ ((10 * k + 2) / 3) * one) :=
      Nat.mul_le_mul_left _ (Nat.mul_le_mul_right _ (ten_pow_le_two_pow k))
    _ = 2 ^ ((10 * k + 2) / 3 + 1075) := by
      rw [one_eq, ← Nat.pow_add, Nat.mul_comm, ← Nat.pow_succ]
    _ < 2 ^ scale m := Nat.pow_lt_pow_right (by decide) (by omega)

/-- A whole number is written with a decimal that is a whole number. -/
lemma exponent_shortest {m n : Nat} (tie : Tie) (fin : m < infinity) (pos : 0 < n)
    (worth : units m = n * one) : 0 ≤ (shortest tie m).exponent := by
  have lead : 0 ≤ leadingExponent m := by
    rw [leadingExponent, log2_units pos worth]
    omega
  have ne : m ≠ 0 := by
    rintro rfl
    exact absurd worth.symm (Nat.ne_of_gt (Nat.mul_pos pos one_pos))
  -- The grid of whole numbers is tried unless the number is very large.
  obtain ⟨j, lt, whole, some⟩ : ∃ j : Nat, j < 20 ∧ 0 ≤ leadingExponent m - j ∧
      (onGrid tie m (leadingExponent m - j)).isSome = true := by
    rcases lt_or_ge (leadingExponent m) 20 with few | many
    · refine ⟨(leadingExponent m).toNat, by omega, by omega, ?_⟩
      rw [show leadingExponent m - (leadingExponent m).toNat = 0 by omega]
      exact isSome_onGrid tie fin worth
    · obtain ⟨k, last⟩ := Int.eq_ofNat_of_zero_le (show 0 ≤ leadingExponent m - 19 by omega)
      refine ⟨19, by decide, by omega, ?_⟩
      show (onGrid tie m (leadingExponent m - 19)).isSome = true
      rw [last]
      exact isSome_onGrid_of_lt tie fin (two_mul_last_grid_lt fin last)
  rw [shortest, if_neg ne]
  cases found : (List.range 20).findSome? fun (i : Nat) => onGrid tie m (leadingExponent m - i) with
  | none =>
    rw [List.findSome?_eq_none_iff.1 found j (List.mem_range.2 lt)] at some
    cases some
  | some d =>
    obtain ⟨i, le, hi⟩ := findSome?_range found lt some
    show 0 ≤ d.exponent
    rw [exponent_onGrid hi]
    omega

/-- The digits of a whole decimal are those of the number. -/
lemma positional_whole {d : Decimal} {n : Nat} (pos : 0 < n) (h : 0 ≤ d.exponent)
    (worth : d.coefficient * 10 ^ d.exponent.toNat = n) :
    d.positional false = Nat.toDigits 10 n := by
  rw [Decimal.positional_of_nonneg h]
  generalize d.exponent.toNat = k at worth
  induction k generalizing n with
  | zero => simp [← worth]
  | succ k ih =>
    have shorter : 0 < d.coefficient * 10 ^ k := by
      by_contra zero
      rw [Nat.pow_succ, ← Nat.mul_assoc] at worth
      omega
    have appended := Nat.toDigits_append_toDigits (b := 10) (d := 0) (by decide) shorter (by decide)
    rw [List.replicate_succ', ← List.append_assoc, ih shorter rfl]
    rw [← worth, Nat.pow_succ, ← Nat.mul_assoc, Nat.mul_comm _ 10]
    exact appended

/-- A whole number is written with its sign and the digits of a whole number that is read alike. -/
lemma exists_chars_toNumber (negative : Bool) {n : Nat} (pos : 0 < n)
    (fin : nearest ⟨n, 0⟩ < infinity) :
    ∃ k, 0 < k ∧ rounds ⟨k, 0⟩ (nearest ⟨n, 0⟩) = true ∧
      chars (Decimal.toNumber negative ⟨n, 0⟩) =
        if negative then '-' :: Nat.toDigits 10 k else Nat.toDigits 10 k := by
  have positive := nearest_pos pos
  have finite : isFinite (Decimal.toNumber negative ⟨n, 0⟩) = true := by
    rw [isFinite, decide_eq_true_iff, Decimal.toNumber, magnitude_ofMagnitude]
    exact fin
  obtain ⟨w, wpos, worth⟩ := exists_worth_nearest pos
  rw [chars_of_finite finite, Decimal.toNumber, magnitude_ofMagnitude, isNegative_ofMagnitude]
  generalize nearest ⟨n, 0⟩ = m at fin positive worth
  have whole := exponent_shortest .up fin wpos worth
  have round := rounds_shortest .up fin
  rw [rounds_of_nonneg whole] at round
  generalize value : (shortest .up m).coefficient * 10 ^ (shortest .up m).exponent.toNat = k
    at round
  have kpos : 0 < k := by
    by_contra zero
    obtain rfl : k = 0 := by omega
    rw [← nearest_eq_of_rounds round] at positive
    exact absurd positive (by decide)
  exact ⟨k, kpos, round, by rw [positional_whole kpos whole value]⟩

/-- A whole number below `2 ^ 53` is written with its sign and its own digits. -/
lemma chars_toNumber (negative : Bool) {n : Nat} (pos : 0 < n) (lt : n < 2 ^ 53) :
    chars (Decimal.toNumber negative ⟨n, 0⟩) =
      if negative then '-' :: Nat.toDigits 10 n else Nat.toDigits 10 n := by
  obtain ⟨m, fin, worth, fine⟩ := exists_units pos lt
  have near : nearest ⟨n, 0⟩ = m := nearest_eq_of_rounds (rounds_whole fin worth)
  obtain ⟨k, -, round, written⟩ := exists_chars_toNumber negative pos (near ▸ fin)
  rw [near] at round
  rw [written, eq_of_rounds fin worth fine round]

/-- A whole number with a sign. -/
def signed (negative : Bool) (k : Nat) : Int := if negative then -k else k

/-- A whole number is its absolute value with its sign. -/
lemma signed_natAbs (n : Int) : signed (n < 0) n.natAbs = n := by
  by_cases neg : n < 0
  · rw [signed, decide_eq_true neg, if_pos rfl]
    omega
  · rw [signed, decide_eq_false neg, if_neg Bool.false_ne_true]
    omega

/-- A whole number other than zero is written as its sign and its digits. -/
lemma toString_signed (negative : Bool) {k : Nat} (pos : 0 < k) :
    toString (signed negative k) =
      String.ofList (if negative then '-' :: Nat.toDigits 10 k else Nat.toDigits 10 k) := by
  cases negative with
  | false => rfl
  | true =>
    obtain ⟨k, rfl⟩ := Nat.exists_eq_succ_of_ne_zero (Nat.ne_of_gt pos)
    have signed : toString (Int.negSucc k) = "-" ++ String.ofList (Nat.toDigits 10 (k + 1)) := rfl
    rw [if_pos rfl]
    refine signed.trans ?_
    rw [← String.toList_inj]
    simp

/-- A whole number other than zero is the number nearest to it. -/
lemma ofWhole_signed (negative : Bool) {k : Nat} (pos : 0 < k) :
    Numeral.ofWhole (signed negative k) = Decimal.toNumber negative ⟨k, 0⟩ := by
  cases negative with
  | false =>
    rw [signed, if_neg Bool.false_ne_true, Numeral.ofWhole, Int.natAbs_natCast,
      decide_eq_false (Int.not_lt.2 (Int.natCast_nonneg k))]
  | true =>
    rw [signed, if_pos rfl, Numeral.ofWhole, Int.natAbs_neg, Int.natAbs_natCast,
      decide_eq_true (by omega)]

/-- The text of a whole number is that of a whole number with the same nearest number. -/
theorem exists_text_ofWhole {n : Int} (fin : isFinite (Numeral.ofWhole n) = true) :
    ∃ k : Int, text (Numeral.ofWhole n) = toString k ∧ Numeral.ofWhole k = Numeral.ofWhole n := by
  rcases Nat.eq_zero_or_pos n.natAbs with zero | pos
  · rw [Int.natAbs_eq_zero.1 zero]
    exact ⟨0, by decide +kernel, rfl⟩
  rw [isFinite, decide_eq_true_iff, Numeral.ofWhole, Decimal.toNumber, magnitude_ofMagnitude] at fin
  obtain ⟨k, kpos, round, written⟩ := exists_chars_toNumber (decide (n < 0)) pos fin
  refine ⟨signed (n < 0) k, ?_, ?_⟩
  · rw [toString_signed _ kpos, text, Numeral.ofWhole, written]
  · rw [ofWhole_signed _ kpos, Numeral.ofWhole]
    simp only [Decimal.toNumber, nearest_eq_of_rounds round]

/-- The text of a whole number up to `2 ^ 53` is that of its nearest number, the number itself. -/
theorem text_ofWhole {n : Int} (h : n.natAbs ≤ 2 ^ 53) : text (Numeral.ofWhole n) = toString n := by
  rcases Nat.eq_zero_or_pos n.natAbs with zero | pos
  · rw [Int.natAbs_eq_zero.1 zero]
    decide +kernel
  rcases Nat.lt_or_eq_of_le h with lt | last
  · rw [text, Numeral.ofWhole, chars_toNumber _ pos lt, ← toString_signed _ pos, signed_natAbs]
  · rcases Int.natAbs_eq n with e | e
    · rw [e, last]
      decide +kernel
    · rw [e, last]
      decide +kernel

end LoanDesk.Number
