import LoanDesk.Proofs.Json.Reading
import LoanDesk.Proofs.Number.Finite

/-!
# Numbers of JSON texts

Every number that is read from a text is finite: a whole number since it has 64 bits at most, and
any other since it is only ever divided by a power of ten, or dropped if a multiplication takes it
beyond the finite numbers.

Main statement: `Json.isFinite_of_read?`.
-/

namespace LoanDesk

/-! ### Numerals -/

namespace Numeral

/-- The digits taken fit 64 bits. -/
lemma takeDigits_lt {taken : Nat} (h : taken < 0x10000000000000000) (cs : List Char) :
    (takeDigits taken cs).1 < 0x10000000000000000 := by
  induction cs generalizing taken with
  | nil => exact h
  | cons c cs ih =>
    rw [takeDigits]
    split
    next fits => exact ih fits
    next => exact h

/-- A finite number divided by a power of ten is finite. -/
lemma isFinite_div_powerOfTen {x : Float} (h : Number.isFinite x = true) {k : Nat} (pos : 0 < k) :
    Number.isFinite (x / powerOfTen k) = true := by
  apply Number.isFinite_div h (Number.two_le_magnitude_powerOfTen false pos)
  show Number.magnitude (Number.Decimal.toNumber false ⟨1, k⟩) ≤ Number.infinity
  rw [Number.Decimal.toNumber, Number.magnitude_ofMagnitude]
  exact Number.nearest_le_infinity _

/-- Scaling a finite number comes to a finite number or to none. -/
lemma isFinite_scaled {x y : Float} {power : Int} (fin : Number.isFinite x = true)
    (h : scaled x power = some y) : Number.isFinite y = true := by
  fun_induction scaled x power with
  | case1 x power far zero =>
    cases h
    exact fin
  | case2 x power far nonzero ih => exact ih (isFinite_div_powerOfTen fin (by decide)) h
  | case3 x power near neg =>
    cases h
    exact isFinite_div_powerOfTen fin (by omega)
  | case4 x power near nonneg low => exact (Option.filter_eq_some_iff.1 h).2
  | case5 x power near nonneg high zero =>
    cases h
    exact fin
  | case6 => cases h

/-- A number made of its digits and a power is finite. -/
lemma isFinite_ofParts {negative : Bool} {whole fraction : List Char} {power : Int} {n : Numeral}
    (h : ofParts negative whole fraction power = some n) : Number.isFinite n.toNumber = true := by
  obtain ⟨x, hx, rfl⟩ := Option.map_eq_some_iff.1 h
  have few := takeDigits_lt (takeDigits_lt (show 0 < 0x10000000000000000 by decide) whole) fraction
  have fin := isFinite_scaled (Number.isFinite_toNumber false (Nat.le_of_lt few)) hx
  cases negative with
  | false => exact fin
  | true => exact Number.isFinite_neg fin

/-- A number made of its digits is finite. -/
lemma isFinite_ofDigits {negative : Bool} {digits : List Char} {n : Numeral}
    (h : ofDigits negative digits = some n) : Number.isFinite n.toNumber = true := by
  simp only [ofDigits] at h
  split at h
  · split at h
    next few =>
      cases h
      exact Number.isFinite_toNumber _ (by omega)
    next => exact isFinite_ofParts h
  · split at h
    next few =>
      cases h
      exact Number.isFinite_toNumber _ (by omega)
    next => exact isFinite_ofParts h

/-- A number is finite whatever stands behind its whole digits. -/
lemma isFinite_readTail {negative : Bool} {whole cs rest : List Char} {n : Numeral}
    (h : readTail negative whole cs = some (n, rest)) : Number.isFinite n.toNumber = true := by
  have parts {fraction : List Char} {power : Int} {left : List Char}
      (h : (ofParts negative whole fraction power).map (fun n => (n, left)) = some (n, rest)) :
      Number.isFinite n.toNumber = true := by
    obtain ⟨m, hm, e⟩ := Option.map_eq_some_iff.1 h
    cases e
    exact isFinite_ofParts hm
  unfold readTail at h
  split at h
  next =>
    split at h
    · cases h
    · obtain ⟨⟨power, left⟩, -, h⟩ := Option.bind_eq_some_iff.1 h
      exact parts h
    · obtain ⟨⟨power, left⟩, -, h⟩ := Option.bind_eq_some_iff.1 h
      exact parts h
    · exact parts h
  next =>
    obtain ⟨⟨power, left⟩, -, h⟩ := Option.bind_eq_some_iff.1 h
    exact parts h
  next =>
    obtain ⟨⟨power, left⟩, -, h⟩ := Option.bind_eq_some_iff.1 h
    exact parts h
  next =>
    obtain ⟨m, hm, e⟩ := Option.map_eq_some_iff.1 h
    cases e
    exact isFinite_ofDigits hm

/-- The number at the front of a text is finite. -/
lemma isFinite_of_read {cs rest : List Char} {n : Numeral} (h : read cs = some (n, rest)) :
    Number.isFinite n.toNumber = true := by
  have unsigned {negative : Bool} {cs : List Char}
      (h : readUnsigned negative cs = some (n, rest)) : Number.isFinite n.toNumber = true := by
    unfold readUnsigned at h
    split at h
    · cases h
    · cases h
    · exact isFinite_readTail h
  unfold read at h
  split at h
  · exact unsigned h
  · exact unsigned h

end Numeral

/-! ### Values -/

/-- Every number of a value is finite. -/
inductive Json.IsFinite : Json → Prop where
  | null : IsFinite .null
  | bool (b : Bool) : IsFinite (.bool b)
  | number {n : Numeral} (h : Number.isFinite n.toNumber = true) : IsFinite (.number n)
  | string (s : String) : IsFinite (.string s)
  | array {items : List Json} (h : ∀ v ∈ items, IsFinite v) : IsFinite (.array items)
  | object {members : List (String × Json)} (h : ∀ member ∈ members, IsFinite member.2) :
      IsFinite (.object members)

/-- The items of a finite array are finite. -/
lemma Json.IsFinite.items {items : List Json} (h : (Json.array items).IsFinite) :
    ∀ v ∈ items, v.IsFinite := by
  cases h with
  | array all => exact all

/-- The values of a finite object are finite. -/
lemma Json.IsFinite.members {members : List (String × Json)} (h : (Json.object members).IsFinite) :
    ∀ member ∈ members, member.2.IsFinite := by
  cases h with
  | object all => exact all

/-- Every number of a text is finite. -/
theorem Json.isFinite_of_read? {s : String} {v : Json} (h : Json.read? s = some v) :
    v.IsFinite :=
  of_read? ⟨.null, .bool, fun h => .number (Numeral.isFinite_of_read h), .string, .array,
    fun _ h => .object h⟩ h

end LoanDesk
