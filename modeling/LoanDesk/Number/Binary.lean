/-!
# Binary numbers as ordered bit patterns

A number is a 64-bit binary float.  Without its sign bit it is a natural number, its *magnitude*,
and the magnitudes of the finite numbers count them in increasing order.  Each finite number is a
whole multiple of `2 ^ -1074`, the *unit*, and `units` says how many units a magnitude is worth.

Main statements: `magnitude_ofMagnitude` and `ofMagnitude_magnitude` pass between numbers and
magnitudes, and `compare?_eq_some` reduces the order of numbers to the order of integers.
-/

namespace LoanDesk.Number

/-- The magnitude of infinity; the finite magnitudes lie below it and those of no number above. -/
def infinity : Nat := 0x7ff0000000000000

/-- The bits of `x` without its sign. -/
def magnitude (x : Float) : Nat := x.toBits.toNat % 0x8000000000000000

/-- The sign bit of `x`, which zeros and infinities have as well. -/
def isNegative (x : Float) : Bool := 0x8000000000000000 ≤ x.toBits.toNat

/-- A finite number is neither infinite nor undefined. -/
def isFinite (x : Float) : Bool := magnitude x < infinity

/-- The undefined number, the result of dividing zero by zero. -/
def isUndefined (x : Float) : Bool := infinity < magnitude x

/-- The leading bits of a magnitude, with the bit that the pattern leaves out. -/
def significand (m : Nat) : Nat :=
  if m < 0x10000000000000 then m else 0x10000000000000 + m % 0x10000000000000

/-- The power of two by which the significand is scaled, counted in units. -/
def scale (m : Nat) : Nat := m / 0x10000000000000 - 1

/-- The worth of a finite magnitude in units of `2 ^ -1074`. -/
def units (m : Nat) : Nat := significand m <<< scale m

/-- A sign and a magnitude fit into a word. -/
theorem toNat_bits (negative : Bool) {m : Nat} (h : m ≤ infinity) :
    (UInt64.ofNat (if negative then 0x8000000000000000 + m else m)).toNat =
      if negative then 0x8000000000000000 + m else m := by
  have hm : m ≤ 0x7ff0000000000000 := h
  rw [UInt64.toNat_ofNat']
  cases negative <;> simp only [Bool.false_eq_true, if_true, if_false] <;> omega

open Float.Model Float.Model.UnpackedFloat in
/-- No pattern up to that of infinity stands for the undefined number. -/
theorem valid_bits (negative : Bool) {m : Nat} (h : m ≤ infinity) :
    Format.binary64.Valid
      (UInt64.ofNat (if negative then 0x8000000000000000 + m else m)).toBitVec := by
  have hm : m ≤ 0x7ff0000000000000 := h
  have hbits := toNat_bits negative h
  rw [← UInt64.toNat_toBitVec] at hbits
  refine ⟨fun hexp hman => absurd ?_ hman⟩
  have hexp' := congrArg BitVec.toNat hexp
  apply BitVec.eq_of_toNat_eq
  simp only [unpackExponent, unpackMantissa, BitVec.toNat_cast, BitVec.extractLsb_toNat, hbits,
    Nat.shiftRight_eq_div_pow, BitVec.toNat_zero] at hexp' ⊢
  cases negative <;> simp at hexp' ⊢ <;> omega

/-- The number with the given sign and magnitude, which is at most that of infinity. -/
def ofMagnitude (negative : Bool) (m : Nat) (h : m ≤ infinity) : Float :=
  .ofModel ⟨UInt64.ofNat (if negative then 0x8000000000000000 + m else m), valid_bits negative h⟩

/-- The undefined number. -/
def undefined : Float := Float.ofBits 0x7FF8000000000000

/-- The bits of a number are those of its sign and its magnitude. -/
theorem toBits_ofMagnitude (negative : Bool) {m : Nat} (h : m ≤ infinity) :
    (ofMagnitude negative m h).toBits.toNat = if negative then 0x8000000000000000 + m else m :=
  toNat_bits negative h

/-- A number made of a magnitude has it. -/
@[simp] theorem magnitude_ofMagnitude (negative : Bool) {m : Nat} (h : m ≤ infinity) :
    magnitude (ofMagnitude negative m h) = m := by
  have hm : m ≤ 0x7ff0000000000000 := h
  rw [magnitude, toBits_ofMagnitude]
  cases negative <;> simp <;> omega

/-- A number made of a sign has it. -/
@[simp] theorem isNegative_ofMagnitude (negative : Bool) {m : Nat} (h : m ≤ infinity) :
    isNegative (ofMagnitude negative m h) = negative := by
  have hm : m ≤ 0x7ff0000000000000 := h
  rw [isNegative, toBits_ofMagnitude]
  cases negative with
  | false =>
    simp
    omega
  | true => simp

/-- Numbers with the same bits are the same. -/
theorem eq_of_toBits {x y : Float} (h : x.toBits = y.toBits) : x = y := by
  obtain ⟨⟨a, _⟩⟩ := x
  obtain ⟨⟨b, _⟩⟩ := y
  have h : a = b := h
  subst h
  rfl

/-- A number that is not undefined is known by its sign and magnitude. -/
theorem ofMagnitude_magnitude {x : Float} (h : magnitude x ≤ infinity) :
    ofMagnitude (isNegative x) (magnitude x) h = x := by
  apply eq_of_toBits
  apply UInt64.toNat_inj.1
  rw [toBits_ofMagnitude]
  have := x.toBits.toNat_lt
  simp only [isNegative, magnitude, decide_eq_true_eq]
  split <;> omega

/-! ### Order -/

/-- The place of a number in the order of numbers; both zeros have place `0`. -/
def rank (x : Float) : Int := if isNegative x then -(magnitude x : Int) else magnitude x

/-- The order of two numbers, `none` if either is undefined. -/
def compare? (x y : Float) : Option Ordering :=
  if isUndefined x || isUndefined y then none else some (compare (rank x) (rank y))

/-- Two numbers, neither of them undefined, are in the order of their ranks. -/
theorem compare?_eq_some {x y : Float} (hx : isUndefined x = false) (hy : isUndefined y = false) :
    compare? x y = some (compare (rank x) (rank y)) := by
  simp [compare?, hx, hy]

/-- Numbers are the same if neither is undefined and they have the same place. -/
def same (x y : Float) : Bool := compare? x y == some .eq

/-- Zero of either sign. -/
def isZero (x : Float) : Bool := magnitude x == 0

/-! ### Whole parts -/

/-- The whole part of the magnitude of a finite number. -/
def wholePart (x : Float) : Nat := units (magnitude x) / 1 <<< 1074

/-- The greatest whole number that is not above `x`; numbers that are not finite stay. -/
def floor (x : Float) : Float :=
  if !isFinite x || 1 <<< 1074 ∣ units (magnitude x) then x
  else if isNegative x then -(Float.ofNat (wholePart x + 1)) else Float.ofNat (wholePart x)

end LoanDesk.Number
