import LoanDesk.Number.Reading
import LoanDesk.Proofs.Number.Rounding
import Mathlib.Data.List.TakeWhile

/-!
# Reading back the text of a number

The plain text of a number has digits with at most one point among them, and `readDecimal?` reads
them as a decimal of the same worth.  Since that decimal rounds to the magnitude of the number, the
text of every finite number is read back as the number itself, its sign included:
`readFinite?_chars`.
-/

namespace LoanDesk.Number

/-! ### Digits with a point among them -/

/-- Digits without a point are a whole number. -/
lemma readDecimal?_digits {digits : List Char} (ne : digits ≠ [])
    (dig : ∀ c ∈ digits, c.isDigit = true) :
    readDecimal? digits = some ⟨Nat.ofDigitChars 10 digits 0, 0⟩ := by
  have take : digits.takeWhile Char.isDigit = digits := List.takeWhile_eq_self_iff.2 dig
  have drop : digits.dropWhile Char.isDigit = [] := List.dropWhile_eq_nil_iff.2 dig
  simp [readDecimal?, take, drop, ne, readPower?]

/-- Each digit after the point lowers the power of ten. -/
lemma readDecimal?_point {whole fraction : List Char} (ne : whole ≠ [])
    (hw : ∀ c ∈ whole, c.isDigit = true) (hf : ∀ c ∈ fraction, c.isDigit = true) :
    readDecimal? (whole ++ '.' :: fraction) =
      some ⟨Nat.ofDigitChars 10 (whole ++ fraction) 0, -fraction.length⟩ := by
  have take : (whole ++ '.' :: fraction).takeWhile Char.isDigit = whole := by
    rw [List.takeWhile_append_of_pos hw, List.takeWhile_cons_of_neg (by decide), List.append_nil]
  have drop : (whole ++ '.' :: fraction).dropWhile Char.isDigit = '.' :: fraction := by
    rw [List.dropWhile_append_of_pos hw, List.dropWhile_cons_of_neg (by decide)]
  have takef : fraction.takeWhile Char.isDigit = fraction := List.takeWhile_eq_self_iff.2 hf
  have dropf : fraction.dropWhile Char.isDigit = [] := List.dropWhile_eq_nil_iff.2 hf
  simp [readDecimal?, take, drop, takef, dropf, ne, readPower?]

namespace Decimal

/-- The digits of a whole decimal with the zeros that its exponent stands for. -/
lemma positional_of_nonneg {d : Decimal} (h : 0 ≤ d.exponent) :
    d.positional false =
      Nat.toDigits 10 d.coefficient ++ List.replicate d.exponent.toNat '0' := by
  rw [positional, if_pos h]
  simp

/-- A number is written in digits. -/
lemma isDigit_of_mem_toDigits {n : Nat} {c : Char} (h : c ∈ Nat.toDigits 10 n) :
    c.isDigit = true :=
  Nat.isDigit_of_mem_toDigits (by decide) (by decide) h

/-- Zeros that fill up a number are digits. -/
lemma isDigit_of_mem_zeros {k : Nat} {c : Char} (h : c ∈ List.replicate k '0') :
    c.isDigit = true := by
  rw [List.eq_of_mem_replicate h]
  rfl

/-- A decimal with a fraction has at least one digit before the point, and as many after it as its
exponent says; zeros in front of the coefficient fill them up. -/
lemma positional_of_neg {d : Decimal} (h : d.exponent < 0) :
    ∃ whole fraction, d.positional false = whole ++ '.' :: fraction ∧ whole ≠ [] ∧
      (fraction.length : Int) = -d.exponent ∧ (∀ c ∈ whole ++ fraction, c.isDigit = true) ∧
      Nat.ofDigitChars 10 (whole ++ fraction) 0 = d.coefficient := by
  have hneg : ¬ 0 ≤ d.exponent := by omega
  have hpos : 0 < (-d.exponent).toNat := by omega
  rw [positional, if_neg hneg]
  generalize hzeros : (-d.exponent).toNat + 1 - (Nat.toDigits 10 d.coefficient).length = zeros
  generalize hpadded : List.replicate zeros '0' ++ Nat.toDigits 10 d.coefficient = padded
  have len : (-d.exponent).toNat < padded.length := by
    rw [← hpadded, List.length_append, List.length_replicate]
    omega
  refine ⟨padded.take (padded.length - (-d.exponent).toNat),
    padded.drop (padded.length - (-d.exponent).toNat), ?_, ?_, ?_, ?_, ?_⟩
  · simp only [hzeros, hpadded]
  · rw [Ne, List.take_eq_nil_iff, not_or]
    exact ⟨by omega, List.ne_nil_of_length_pos (by omega)⟩
  · rw [List.length_drop]
    omega
  · rw [List.take_append_drop, ← hpadded]
    intro c hc
    exact (List.mem_append.1 hc).elim isDigit_of_mem_zeros isDigit_of_mem_toDigits
  · rw [List.take_append_drop, ← hpadded, Nat.ofDigitChars_append, Nat.ofDigitChars_replicate_zero,
      Nat.mul_zero, Nat.ofDigitChars_ten_toDigits]

/-- The positional text of a decimal is read as a decimal of the same worth. -/
lemma readDecimal?_positional (d : Decimal) :
    ∃ e, readDecimal? (d.positional false) = some e ∧ d.SameWorth e := by
  by_cases h : 0 ≤ d.exponent
  · have dig : ∀ c ∈ Nat.toDigits 10 d.coefficient ++ List.replicate d.exponent.toNat '0',
        c.isDigit = true := by
      intro c hc
      exact (List.mem_append.1 hc).elim isDigit_of_mem_toDigits isDigit_of_mem_zeros
    rw [positional_of_nonneg h, readDecimal?_digits (by simp [Nat.toDigits_ne_nil]) dig]
    refine ⟨_, rfl, ?_⟩
    rw [Nat.ofDigitChars_append, Nat.ofDigitChars_replicate_zero, Nat.ofDigitChars_ten_toDigits]
    simp only [SameWorth, dividend, divisor, show (-d.exponent).toNat = 0 by omega]
    show d.coefficient * 10 ^ d.exponent.toNat * 1 = 10 ^ d.exponent.toNat * d.coefficient * 1 * 1
    ring
  · obtain ⟨whole, fraction, e, ne, len, dig, value⟩ := positional_of_neg (Int.not_le.1 h)
    rw [e, readDecimal?_point ne (fun c hc => dig c (List.mem_append_left _ hc))
      fun c hc => dig c (List.mem_append_right _ hc), value, len, Int.neg_neg]
    exact ⟨d, rfl, rfl⟩

/-- A positional text starts with a digit, and all its characters are digits or the point. -/
lemma positional_chars (d : Decimal) :
    (∃ c cs, d.positional false = c :: cs ∧ c.isDigit = true) ∧
      ∀ c ∈ d.positional false, c.isDigit = true ∨ c = '.' := by
  by_cases h : 0 ≤ d.exponent
  · rw [positional_of_nonneg h]
    constructor
    · obtain ⟨c, cs, e⟩ := List.exists_cons_of_ne_nil
        (Nat.toDigits_ne_nil (n := d.coefficient) (b := 10))
      have mem : c ∈ Nat.toDigits 10 d.coefficient := by simp [e]
      exact ⟨c, _, by rw [e, List.cons_append], isDigit_of_mem_toDigits mem⟩
    · intro c hc
      exact .inl ((List.mem_append.1 hc).elim isDigit_of_mem_toDigits isDigit_of_mem_zeros)
  · obtain ⟨whole, fraction, e, ne, -, dig, -⟩ := positional_of_neg (Int.not_le.1 h)
    rw [e]
    constructor
    · obtain ⟨c, cs, rfl⟩ := List.exists_cons_of_ne_nil ne
      exact ⟨c, _, List.cons_append .., dig c (by simp)⟩
    · intro c hc
      rcases List.mem_append.1 hc with hc | hc
      · exact .inl (dig c (List.mem_append_left _ hc))
      rcases List.mem_cons.1 hc with rfl | hc
      · exact .inr rfl
      · exact .inl (dig c (List.mem_append_right _ hc))

end Decimal

/-! ### The text of a finite number -/

/-- A finite number's text is its sign and the positional text of its shortest decimal. -/
lemma chars_of_finite {x : Float} (fin : isFinite x = true) :
    chars x = if isNegative x then '-' :: (shortest .up (magnitude x)).positional false
      else (shortest .up (magnitude x)).positional false := by
  rw [chars, if_pos fin]
  rfl

/-- The unsigned text of a magnitude is read back with the sign that stands before it. -/
lemma readUnsigned?_shortest {negative : Bool} {m : Nat} (fin : m < infinity) :
    readUnsigned? negative ((shortest .up m).positional false) =
      some (ofMagnitude negative m (Nat.le_of_lt fin)) := by
  obtain ⟨e, he, worth⟩ := (shortest .up m).readDecimal?_positional
  have near : nearest e = m := by
    apply nearest_eq_of_rounds
    rw [← rounds_congr worth]
    exact rounds_shortest .up fin
  rw [readUnsigned?, he]
  simp only [Decimal.toNumber, near]

/-- The text of a finite number is read back as the number. -/
theorem readFinite?_chars {x : Float} (fin : isFinite x = true) :
    readFinite? (chars x) = some x := by
  have hm : magnitude x < infinity := by simpa [isFinite] using fin
  have self : ofMagnitude (isNegative x) (magnitude x) (Nat.le_of_lt hm) = x :=
    ofMagnitude_magnitude (Nat.le_of_lt hm)
  have hread : read? (chars x) = some x := by
    rw [chars_of_finite fin]
    cases neg : isNegative x with
    | true =>
      rw [neg] at self
      rw [if_pos rfl, read?, readUnsigned?_shortest hm, self]
    | false =>
      rw [neg] at self
      rw [if_neg Bool.false_ne_true]
      obtain ⟨⟨c, cs, e, dig⟩, -⟩ := (shortest .up (magnitude x)).positional_chars
      rw [read?, readUnsigned?_shortest hm, self]
      -- Without a sign the text starts with a digit, which is neither sign.
      · intro cs' e'
        rw [e] at e'
        cases e'
        exact absurd dig (by decide)
      · intro cs' e'
        rw [e] at e'
        cases e'
        exact absurd dig (by decide)
  rw [readFinite?, hread, Option.filter_some_pos fin]

/-- No two finite numbers have one text. -/
theorem eq_of_text_eq {x y : Float} (hx : isFinite x = true) (hy : isFinite y = true)
    (h : text x = text y) : x = y := by
  have same : chars x = chars y := String.ofList_inj.1 h
  have read := readFinite?_chars hx
  rw [same, readFinite?_chars hy] at read
  exact (Option.some.inj read).symm

/-- The text of a finite number starts with a digit or the sign, and the point is the only other
character in it. -/
theorem chars_chars {x : Float} (fin : isFinite x = true) :
    (∃ c cs, chars x = c :: cs ∧ (c.isDigit = true ∨ c = '-')) ∧
      ∀ c ∈ chars x, c.isDigit = true ∨ c = '.' ∨ c = '-' := by
  obtain ⟨⟨d, ds, e, dig⟩, all⟩ := (shortest .up (magnitude x)).positional_chars
  rw [chars_of_finite fin]
  split
  · refine ⟨⟨'-', _, rfl, .inr rfl⟩, ?_⟩
    intro c hc
    rcases List.mem_cons.1 hc with rfl | hc
    · exact .inr (.inr rfl)
    · exact (all c hc).imp_right .inl
  · exact ⟨⟨d, ds, e, .inl dig⟩, fun c hc => (all c hc).imp_right .inl⟩

end LoanDesk.Number
