import LoanDesk.Proofs.Number.Rounding

/-!
# Finite results

The float operations unpack a number to its significand and exponent, which are those of its
magnitude (`unpack_of_isFinite`), and pack a result as a finite number wherever there is room for
its exponent (`isFinite_pack`).  So the negative of a finite number is finite (`isFinite_neg`), and
so is its quotient by a number that is no less than two (`isFinite_div`).
-/

namespace LoanDesk.Number

open Float.Model Float.Model.UnpackedFloat

/-! ### Packing and unpacking -/

/-- The exponent of a pattern stands above the lowest 52 bits of the magnitude. -/
lemma toNat_unpackExponent (x : Float) :
    (@unpackExponent Format.binary64 x.toModel.toBits.toBitVec).toNat =
      magnitude x / 0x10000000000000 := by
  show (@unpackExponent Format.binary64 x.toBits.toBitVec).toNat = _
  simp only [unpackExponent, BitVec.toNat_cast, BitVec.extractLsb_toNat, magnitude,
    UInt64.toNat_toBitVec, Nat.shiftRight_eq_div_pow]
  omega

/-- The significand of a pattern is the lowest 52 bits of the magnitude. -/
lemma toNat_unpackMantissa (x : Float) :
    (@unpackMantissa Format.binary64 x.toModel.toBits.toBitVec).toNat =
      magnitude x % 0x10000000000000 := by
  show (@unpackMantissa Format.binary64 x.toBits.toBitVec).toNat = _
  simp only [unpackMantissa, BitVec.toNat_cast, BitVec.extractLsb_toNat, magnitude,
    UInt64.toNat_toBitVec, Nat.shiftRight_eq_div_pow]
  omega

/-- The bit that a pattern leaves out stands before its significand. -/
lemma toNat_implicit (m : BitVec 52) : (1#1 ++ m).toNat = 2 ^ 52 + m.toNat := by
  rw [BitVec.toNat_append, ← Nat.shiftLeft_add_eq_or_of_lt m.isLt]
  rfl

/-- Finite numbers are the same if their parts are. -/
lemma finite_congr {s : Sign} {m m' : Nat} {e e' : Int} (hm : m = m') (he : e = e') (pos : 0 < m)
    (pos' : 0 < m') : finite s m e pos = finite s m' e' pos' := by
  subst hm he
  rfl

/-- The magnitude of infinity is that of an infinite number. -/
lemma unpack_of_infinity {x : Float} (h : magnitude x = infinity) :
    ∃ s, x.toModel.unpack = .infinity s := by
  have exponent : @unpackExponent Format.binary64 x.toModel.toBits.toBitVec = -1#_ :=
    BitVec.eq_of_toNat_eq (by rw [toNat_unpackExponent, h]; rfl)
  have mantissa : @unpackMantissa Format.binary64 x.toModel.toBits.toBitVec = 0#_ :=
    BitVec.eq_of_toNat_eq (by rw [toNat_unpackMantissa, h]; rfl)
  delta Float.Model.unpack UnpackedFloat.unpack
  dsimp only
  rw [if_pos exponent, if_pos mantissa]
  exact ⟨_, rfl⟩

/-- A finite number unpacks to a zero or to the significand and the scale of its magnitude. -/
lemma unpack_of_isFinite {x : Float} (fin : isFinite x = true) :
    (magnitude x = 0 ∧ ∃ s, x.toModel.unpack = .zero s) ∨
      ∃ s pos, x.toModel.unpack =
        .finite s (significand (magnitude x)) ((scale (magnitude x) : Int) - 1074) pos := by
  have exponent := toNat_unpackExponent x
  have mantissa := toNat_unpackMantissa x
  have below : magnitude x < 0x7ff0000000000000 := of_decide_eq_true fin
  have full : @unpackExponent Format.binary64 x.toModel.toBits.toBitVec ≠ -1#_ := by
    intro full
    rw [full] at exponent
    replace exponent : 2047 = magnitude x / 0x10000000000000 := exponent
    omega
  delta Float.Model.unpack UnpackedFloat.unpack
  dsimp only
  rw [if_neg full]
  by_cases low : magnitude x < 0x10000000000000
  · have zero : @unpackExponent Format.binary64 x.toModel.toBits.toBitVec = 0#_ := by
      apply BitVec.eq_of_toNat_eq
      rw [exponent, BitVec.toNat_zero]
      omega
    rw [if_pos zero]
    by_cases none : @unpackMantissa Format.binary64 x.toModel.toBits.toBitVec = 0#_
    · rw [dif_pos none]
      rw [none, BitVec.toNat_zero] at mantissa
      exact .inl ⟨by omega, _, rfl⟩
    · rw [dif_neg none]
      have hm : (@unpackMantissa Format.binary64 x.toModel.toBits.toBitVec).toNat =
          significand (magnitude x) := by
        rw [mantissa, significand, if_pos low, Nat.mod_eq_of_lt low]
      have he : ((@unpackExponent Format.binary64 x.toModel.toBits.toBitVec).toNat : Int) -
          (1023 + 52) + 1 = (scale (magnitude x) : Int) - 1074 := by
        rw [exponent, scale]
        omega
      have pos : 0 < significand (magnitude x) := by
        rw [← hm]
        exact Nat.pos_of_ne_zero fun e => none (BitVec.eq_of_toNat_eq e)
      exact .inr ⟨_, pos, finite_congr hm he _ pos⟩
  · have normal : @unpackExponent Format.binary64 x.toModel.toBits.toBitVec ≠ 0#_ := by
      intro zero
      rw [zero, BitVec.toNat_zero] at exponent
      omega
    rw [if_neg normal]
    have hm : (1#1 ++ @unpackMantissa Format.binary64 x.toModel.toBits.toBitVec).toNat =
        significand (magnitude x) := by
      rw [toNat_implicit, mantissa, significand, if_neg low]
      rfl
    have he : ((@unpackExponent Format.binary64 x.toModel.toBits.toBitVec).toNat : Int) -
        (1023 + 52) = (scale (magnitude x) : Int) - 1074 := by
      rw [exponent, scale]
      omega
    have pos : 0 < significand (magnitude x) := by
      rw [significand, if_neg low]
      omega
    exact .inr ⟨_, pos, finite_congr hm he _ pos⟩

/-- A significand has 53 bits at most. -/
lemma significand_lt (m : Nat) : significand m < 2 ^ 53 := by
  rw [significand]
  split <;> omega

/-- The exponent of a finite number is at most 971. -/
lemma exponent_le {x : Float} (fin : isFinite x = true) :
    (scale (magnitude x) : Int) - 1074 ≤ 971 := by
  have below : magnitude x < 0x7ff0000000000000 := of_decide_eq_true fin
  rw [scale]
  omega

/-- A packed number has room for the exponent. -/
def Fits : UnpackedFloat → Prop
  | .zero _ => True
  | .finite _ _ e _ => e ≤ 971
  | _ => False

/-- What has an exponent that there is room for is packed as a finite number. -/
lemma isFinite_pack {u : UnpackedFloat} (h : Fits u) : isFinite (.ofModel (.pack u)) = true := by
  have bounded : (unpackExponent (UnpackedFloat.pack Format.binary64 u)).toNat < 2047 := by
    cases u with
    | notANumber => cases h
    | infinity => cases h
    | zero s =>
      show (unpackExponent (packedZero Format.binary64 s)).toNat < 2047
      rw [packedZero, unpackExponent_packComponents]
      decide
    | finite s m e pos =>
      have room : (e + 1023 + 52).toNat < 2047 := by
        have : e ≤ 971 := h
        omega
      delta UnpackedFloat.pack
      dsimp only
      split
      next full =>
        replace full : 2048 ≤ (e + 1023 + 52).toNat + 1 := full
        omega
      next =>
        split
        · rw [unpackExponent_packComponents, BitVec.toNat_ofNat]
          exact Nat.lt_of_le_of_lt (Nat.mod_le _ _) room
        · rw [unpackExponent_packComponents]
          decide
  have exponent : _ = magnitude (.ofModel (.pack u)) / 0x10000000000000 :=
    toNat_unpackExponent (.ofModel (.pack u))
  rw [show (Float.Model.pack u).toBits.toBitVec = UnpackedFloat.pack Format.binary64 u from rfl]
    at exponent
  rw [isFinite, decide_eq_true_iff, infinity]
  omega

/-- The negative of a finite number is finite. -/
theorem isFinite_neg {x : Float} (fin : isFinite x = true) : isFinite (-x) = true := by
  show isFinite (.ofModel (.pack (UnpackedFloat.neg x.toModel.unpack))) = true
  apply isFinite_pack
  rcases unpack_of_isFinite fin with ⟨-, s, hx⟩ | ⟨s, pos, hx⟩
  · rw [hx]
    exact trivial
  · rw [hx]
    exact exponent_le fin

/-! ### Division -/

/-- Shifting divides the significand by powers of two. -/
lemma mantissa_shiftRight (em : ExtendedMantissa) (n : Nat) :
    (em >>> n).mantissa = em.mantissa / 2 ^ n := by
  show (n.repeat ExtendedMantissa.shiftRightOne em).mantissa = em.mantissa / 2 ^ n
  induction n with
  | zero => rw [Nat.repeat, Nat.pow_zero, Nat.div_one]
  | succ n ih =>
    rw [Nat.repeat, ExtendedMantissa.shiftRightOne, ih, Nat.div_div_eq_div_mul, Nat.pow_succ]

/-- Rounding adds at most one to the significand. -/
lemma roundedMantissa_le (em : ExtendedMantissa) : em.roundedMantissa ≤ em.mantissa + 1 := by
  rw [ExtendedMantissa.roundedMantissa]
  generalize em.accuracy = accuracy
  cases accuracy with
  | exact => exact Nat.le_succ _
  | inexact place =>
    cases place with
    | lt => exact Nat.le_succ _
    | eq => exact Nat.add_le_add_left (Nat.le_of_lt_succ (Nat.mod_lt _ Nat.two_pos)) _
    | gt => exact Nat.le_refl _

/-- Below `2 ^ bound` a shift to the target exponent leaves the significand 53 bits or fewer. -/
lemma shiftToTargetExponent_lt {m : Nat} {e bound : Int} (accuracy : Accuracy) (low : 0 ≤ bound)
    (he : e ≤ bound - 53) (hm : m < 2 ^ (bound - e).toNat) :
    (shiftToTargetExponent Format.binary64 m e accuracy).2 ≤ bound - 53 ∧
      (shiftToTargetExponent Format.binary64 m e accuracy).1.mantissa <
        2 ^ (bound - (shiftToTargetExponent Format.binary64 m e accuracy).2).toNat := by
  have bits : m.log2 + 1 ≤ (bound - e).toNat := by
    rcases Nat.eq_zero_or_pos m with rfl | pos
    · rw [Nat.log2_zero]
      omega
    · exact (Nat.log2_lt (Nat.ne_of_gt pos)).2 hm
  have target : Format.binary64.targetExponent (totalExponent m e) =
      max ((m.log2 : Int) + 1 + e - 53) (-1074) := rfl
  have start : (ExtendedMantissa.ofMantissaAndAccuracy m accuracy).mantissa = m := by
    cases accuracy with
    | exact => rfl
    | inexact place => cases place <;> rfl
  simp only [shiftToTargetExponent, shiftToExponent, target, mantissa_shiftRight, start]
  generalize ht : (max ((m.log2 : Int) + 1 + e - 53) (-1074) - e).toNat = shift
  refine ⟨by omega, ?_⟩
  apply Nat.div_lt_of_lt_mul
  rw [← Nat.pow_add, show shift + (bound - (e + shift)).toNat = (bound - e).toNat by omega]
  exact hm

/-- What is below half the first power of two that no number reaches has an exponent that fits. -/
lemma fits_roundWithAccuracy (s : Sign) {m : Nat} {e : Int} (accuracy : Accuracy) (he : e ≤ 970)
    (hm : m < 2 ^ (1023 - e).toNat) :
    Fits (roundWithAccuracy Format.binary64 s m e accuracy) := by
  obtain ⟨hfirst, hmantissa⟩ :=
    shiftToTargetExponent_lt accuracy (show (0 : Int) ≤ 1023 by decide) he hm
  rw [roundWithAccuracy]
  generalize shiftToTargetExponent Format.binary64 m e accuracy = first at hfirst hmantissa
  obtain ⟨em, e₁⟩ := first
  dsimp only at hfirst hmantissa ⊢
  -- Rounding up may take one bit more, which the second shift drops.
  have rounded : em.roundedMantissa < 2 ^ (1024 - e₁).toNat := by
    have double : 2 ^ (1024 - e₁).toNat = 2 ^ (1023 - e₁).toNat * 2 := by
      rw [← Nat.pow_succ]
      congr 1
      omega
    have := roundedMantissa_le em
    omega
  obtain ⟨hsecond, -⟩ := shiftToTargetExponent_lt .exact (show (0 : Int) ≤ 1024 by decide)
    (show e₁ ≤ 1024 - 53 by omega) rounded
  generalize shiftToTargetExponent Format.binary64 em.roundedMantissa e₁ .exact = second at hsecond
  by_cases none : second.1.mantissa = 0
  · rw [dif_pos none]
    exact trivial
  · rw [dif_neg none]
    exact hsecond

/-- A quotient by two or more has room for its exponent. -/
lemma fits_div {s₁ s₂ : Sign} {m₁ m₂ : Nat} {e₁ e₂ : Int} (pos₁ : 0 < m₁) (pos₂ : 0 < m₂)
    (hm₁ : m₁ < 2 ^ 53) (he₁ : e₁ ≤ 971) (two : 1 ≤ e₂ + m₂.log2) :
    Fits (UnpackedFloat.div Format.binary64 (.finite s₁ m₁ e₁ pos₁) (.finite s₂ m₂ e₂ pos₂)) := by
  have bits : m₁.log2 < 53 := (Nat.log2_lt (Nat.ne_of_gt pos₁)).2 hm₁
  have target : Format.binary64.targetExponent (totalExponent m₁ e₁ - totalExponent m₂ e₂) =
      max ((m₁.log2 : Int) + 1 + e₁ - (m₂.log2 + 1 + e₂) - 53) (-1074) := rfl
  delta UnpackedFloat.div divCore
  dsimp only
  rw [target]
  generalize ht : min (e₁ - e₂)
    (max ((m₁.log2 : Int) + 1 + e₁ - (m₂.log2 + 1 + e₂) - 53) (-1074)) = e
  apply fits_roundWithAccuracy
  · omega
  · apply Nat.div_lt_of_lt_mul
    calc m₁ <<< (e₁ - e₂ - e).toNat = m₁ * 2 ^ (e₁ - e₂ - e).toNat := Nat.shiftLeft_eq _ _
      _ < 2 ^ 53 * 2 ^ (e₁ - e₂ - e).toNat := (Nat.mul_lt_mul_right (Nat.two_pow_pos _)).2 hm₁
      _ = 2 ^ (53 + (e₁ - e₂ - e).toNat) := (Nat.pow_add ..).symm
      _ ≤ 2 ^ (m₂.log2 + (1023 - e).toNat) := Nat.pow_le_pow_right Nat.two_pos (by omega)
      _ = 2 ^ m₂.log2 * 2 ^ (1023 - e).toNat := Nat.pow_add ..
      _ ≤ m₂ * 2 ^ (1023 - e).toNat :=
        Nat.mul_le_mul_right _ (Nat.log2_self_le (Nat.ne_of_gt pos₂))

/-- The quotient of a finite number by one that is no less than two is finite. -/
theorem isFinite_div {x v : Float} (fin : isFinite x = true)
    (two : 0x4000000000000000 ≤ magnitude v) (le : magnitude v ≤ infinity) :
    isFinite (x / v) = true := by
  show isFinite (.ofModel (.pack
    (UnpackedFloat.div Format.binary64 x.toModel.unpack v.toModel.unpack))) = true
  apply isFinite_pack
  rcases Nat.lt_or_eq_of_le le with below | top
  · rcases unpack_of_isFinite (decide_eq_true below) with ⟨zero, -⟩ | ⟨s₂, pos₂, hv⟩
    · omega
    rcases unpack_of_isFinite fin with ⟨-, s₁, hx⟩ | ⟨s₁, pos₁, hx⟩
    · rw [hx, hv]
      exact trivial
    · rw [hx, hv]
      apply fits_div pos₁ pos₂ (significand_lt _) (exponent_le fin)
      have bits : 52 ≤ (significand (magnitude v)).log2 := by
        rw [Nat.le_log2 (Nat.ne_of_gt pos₂), significand, if_neg (by omega)]
        exact Nat.le_add_right ..
      rw [scale]
      omega
  · obtain ⟨s₂, hv⟩ := unpack_of_infinity top
    rcases unpack_of_isFinite fin with ⟨-, s₁, hx⟩ | ⟨s₁, pos₁, hx⟩
    · rw [hx, hv]
      exact trivial
    · rw [hx, hv]
      exact trivial

/-! ### Numbers made of digits -/

/-- Whole numbers of 64 bits are finite. -/
lemma isFinite_toNumber (negative : Bool) {n : Nat} (h : n ≤ 2 ^ 64) :
    isFinite (Decimal.toNumber negative ⟨n, 0⟩) = true := by
  rw [isFinite, decide_eq_true_iff, Decimal.toNumber, magnitude_ofMagnitude]
  by_contra le
  -- To be read as infinite the number would have to pass the greatest finite magnitude.
  have last : infinity - 1 < nearest ⟨n, 0⟩ := by
    rw [infinity] at le ⊢
    omega
  obtain ⟨-, above⟩ := passesHalves_iff.1 (lt_nearest_iff.1 last)
  have den : Decimal.divisor ⟨n, 0⟩ = 1 := rfl
  have mid : 2 ^ (64 + 1075) < midpoint (infinity - 1) := two_pow_lt_midpoint (by decide)
  have num : Decimal.dividend ⟨n, 0⟩ <<< 1075 ≤ 2 ^ (64 + 1075) := by
    rw [Nat.shiftLeft_eq, Nat.pow_add]
    apply Nat.mul_le_mul_right
    calc n * 1 = n := Nat.mul_one n
      _ ≤ 2 ^ 64 := h
  have reached : midpoint (infinity - 1) ≤ Decimal.dividend ⟨n, 0⟩ <<< 1075 := by
    rw [den, Nat.mul_one] at above
    exact above.elim Nat.le_of_lt fun tie => Nat.le_of_eq tie.1
  exact Nat.lt_irrefl _ (Nat.lt_of_lt_of_le mid (Nat.le_trans reached num))

/-- Powers of ten are no less than two. -/
lemma two_le_magnitude_powerOfTen (negative : Bool) {k : Nat} (pos : 0 < k) :
    0x4000000000000000 ≤ magnitude (Decimal.toNumber negative ⟨1, k⟩) := by
  have den : Decimal.divisor ⟨1, k⟩ = 1 := by
    rw [Decimal.divisor, show (-(k : Int)).toNat = 0 by omega]
  have top : 1075 = 53 + scale 0x3fffffffffffffff := rfl
  have mid : midpoint 0x3fffffffffffffff < 10 * 2 ^ 1075 := by
    rw [top]
    exact midpoint_lt_mul (by decide)
  have num : 10 * 2 ^ 1075 ≤ Decimal.dividend ⟨1, k⟩ <<< 1075 := by
    rw [Nat.shiftLeft_eq]
    apply Nat.mul_le_mul_right
    calc 10 ^ 1 ≤ 10 ^ k := Nat.pow_le_pow_right (by decide) pos
      _ = 1 * 10 ^ k := (Nat.one_mul _).symm
  rw [Decimal.toNumber, magnitude_ofMagnitude]
  apply lt_nearest_iff.2
  refine passesHalves_iff.2 ⟨by decide, .inl ?_⟩
  rw [den, Nat.mul_one]
  exact Nat.lt_of_lt_of_le mid num

end LoanDesk.Number
