import LoanDesk.Proofs.Expr.Spelling
import LoanDesk.Value.Comparison

/-!
# The order of values

Two values that count as defined numbers are ordered by their ranks and any others by their texts
(`Value.order`), so the order of two values turns around with its sides.  It is that of a key on the
values that count as defined numbers, and that of another key on those that do not; there it obeys
the laws of an order (`Value.OrderedOn`).  Of numbers together with other texts it does not, for
`9 < 10` and `10 < 1x` and `1x < 9` (`Value.not_orderedOn_ne_null`).

Main statement: `Value.compare_laws`.
-/

namespace LoanDesk

/-- A swapped comparison says of the swapped order what the comparison says of the order. -/
lemma Comparison.holds_swap (op : Comparison) (o : Ordering) :
    op.swapped.holds o.swap = op.holds o := by
  cases op <;> cases o <;> rfl

/-- A text without white space is trimmed already. -/
lemma Text.trim_eq_self {cs : List Char} (h : ∀ c ∈ cs, isBlank c = false) : trim cs = cs := by
  have keeps (ds : List Char) (hd : ∀ c ∈ ds, isBlank c = false) : ds.dropWhile isBlank = ds := by
    cases ds with
    | nil => rfl
    | cons d ds => rw [List.dropWhile_cons, hd d (by simp), if_neg Bool.false_ne_true]
  rw [trim, keeps cs h, keeps cs.reverse fun c hc => h c (List.mem_reverse.1 hc),
    List.reverse_reverse]

namespace Value

/-- The comparison has a verdict on the two values, and it is that they compare so. -/
def Holds (op : Comparison) (left right : Value) : Prop := compare op left right = .ok true

instance (op : Comparison) (left right : Value) : Decidable (Holds op left right) :=
  inferInstanceAs (Decidable (compare op left right = .ok true))

/-- The values that count as numbers other than the undefined one. -/
def IsNumeric (v : Value) : Prop := ∃ x, v.asNumber? = some x ∧ Number.isUndefined x = false

/-- The other values, save the absence of one. -/
def IsTextual (v : Value) : Prop := v ≠ .null ∧ ¬ v.IsNumeric

variable {a b : Value} {op : Comparison}

/-- A value that counts as a number is there. -/
lemma IsNumeric.ne_null (h : a.IsNumeric) : a ≠ .null := by
  rintro rfl
  obtain ⟨x, hx, -⟩ := h
  cases hx

/-- Two numbers, neither of them undefined, are ordered by their ranks. -/
lemma numericOrder?_eq_some {x y : Float} (hx : a.asNumber? = some x) (hy : b.asNumber? = some y)
    (defx : Number.isUndefined x = false) (defy : Number.isUndefined y = false) :
    numericOrder? a b = some (Ord.compare (Number.rank x) (Number.rank y)) := by
  rw [numericOrder?, hx, hy]
  exact Number.compare?_eq_some defx defy

/-- Without two numbers there is no numeric order. -/
lemma numericOrder?_eq_none (h : ¬ (a.IsNumeric ∧ b.IsNumeric)) : numericOrder? a b = none := by
  rw [numericOrder?]
  split
  next x y hx hy =>
    -- Both count as numbers, so one of them is the undefined one.
    rw [Number.compare?, if_pos]
    by_contra defined
    simp only [Bool.or_eq_true, not_or, Bool.not_eq_true] at defined
    exact h ⟨⟨x, hx, defined.1⟩, ⟨y, hy, defined.2⟩⟩
  next => rfl

/-- Swapping two values swaps their order. -/
lemma order_swap (a b : Value) : (order a b).swap = order b a := by
  by_cases h : a.IsNumeric ∧ b.IsNumeric
  · obtain ⟨⟨x, hx, defx⟩, y, hy, defy⟩ := h
    rw [order, order, numericOrder?_eq_some hx hy defx defy, numericOrder?_eq_some hy hx defy defx]
    exact Std.OrientedOrd.eq_swap.symm
  · rw [order, order, numericOrder?_eq_none h, numericOrder?_eq_none (mt And.symm h)]
    exact Std.OrientedOrd.eq_swap.symm

/-- A value is equal to itself, also the undefined number. -/
lemma order_self (a : Value) : order a a = .eq := by
  have turned := order_swap a a
  cases h : order a a with
  | eq => rfl
  | lt | gt => rw [h] at turned; cases turned

/-- Two values that are there are compared by their order. -/
lemma compare_of_ne_null (ha : a ≠ .null) (hb : b ≠ .null) :
    compare op a b = .ok (op.holds (order a b)) := by
  have none : ¬ (a.isNull || b.isNull) = true := by
    rw [Bool.or_eq_true, isNull_eq_true, isNull_eq_true]
    exact not_or.2 ⟨ha, hb⟩
  unfold compare
  exact if_neg none

/-- A comparison of two values that are there holds if it holds of their order. -/
lemma holds_iff (ha : a ≠ .null) (hb : b ≠ .null) :
    Holds op a b ↔ op.holds (order a b) = true := by
  rw [Holds, compare_of_ne_null ha hb, Except.ok.injEq]

/-- A comparison has no verdict exactly if it asks for the order of a value that is absent. -/
lemma exists_error_iff :
    (∃ fault, compare op a b = .error fault) ↔
      op.isOrdering = true ∧ (a = .null ∨ b = .null) := by
  simp only [compare_eq_error_iff, isNull_eq_true]
  constructor
  · rintro ⟨_, ordering, null, -⟩
    exact ⟨ordering, null⟩
  · rintro ⟨ordering, null⟩
    exact ⟨_, ordering, null, rfl⟩

/-- An absent value is equal to an absent value only. -/
lemma holds_eq_of_null (h : a = .null ∨ b = .null) : Holds .eq a b ↔ a = .null ∧ b = .null := by
  have null : (a.isNull || b.isNull) = true := by
    rwa [Bool.or_eq_true, isNull_eq_true, isNull_eq_true]
  rw [Holds, compare, if_pos null, Except.ok.injEq, Bool.and_eq_true, isNull_eq_true,
    isNull_eq_true]

/-- Every value equals itself. -/
lemma holds_eq_self (a : Value) : Holds .eq a a := by
  by_cases h : a = .null
  · exact (holds_eq_of_null (.inl h)).2 ⟨h, h⟩
  · rw [holds_iff h h, order_self]
    rfl

/-! ### Two values -/

/-- How the comparisons of two values hang together. -/
structure Compared (a b : Value) : Prop where
  /-- The values stand in one of three ways to each other. -/
  one : ∃! op, op ∈ [Comparison.lt, .eq, .gt] ∧ Holds op a b
  le : Holds .le a b ↔ Holds .lt a b ∨ Holds .eq a b
  ge : Holds .ge a b ↔ Holds .gt a b ∨ Holds .eq a b
  ne : Holds .ne a b ↔ ¬ Holds .eq a b
  mirrored : ∀ op, compare op a b = compare op.swapped b a

/-- The comparisons of two values that are there hang together. -/
lemma compared_of_ne_null (ha : a ≠ .null) (hb : b ≠ .null) : Compared a b where
  one := by
    simp only [holds_iff ha hb]
    cases order a b with
    | lt => exact ⟨.lt, by decide, by rintro (_ | _) <;> decide⟩
    | eq => exact ⟨.eq, by decide, by rintro (_ | _) <;> decide⟩
    | gt => exact ⟨.gt, by decide, by rintro (_ | _) <;> decide⟩
  le := by
    simp only [holds_iff ha hb]
    cases order a b <;> decide
  ge := by
    simp only [holds_iff ha hb]
    cases order a b <;> decide
  ne := by
    simp only [holds_iff ha hb]
    cases order a b <;> decide
  mirrored op := by
    rw [compare_of_ne_null ha hb, compare_of_ne_null hb ha, ← order_swap a b, op.holds_swap]

/-! ### Many values -/

/-- The comparisons order the values with the property, of which many may be equal. -/
structure OrderedOn (P : Value → Prop) : Prop where
  le_total : ∀ {a b}, P a → P b → Holds .le a b ∨ Holds .le b a
  le_trans : ∀ {a b c}, P a → P b → P c → Holds .le a b → Holds .le b c → Holds .le a c
  eq_symm : ∀ {a b}, P a → P b → Holds .eq a b → Holds .eq b a
  eq_trans : ∀ {a b c}, P a → P b → P c → Holds .eq a b → Holds .eq b c → Holds .eq a c
  /-- Equal values are below the same values and above the same values. -/
  lt_congr : ∀ {a a' b b'}, P a → P a' → P b → P b' → Holds .eq a a' → Holds .eq b b' →
    (Holds .lt a b ↔ Holds .lt a' b')

/-- Values that are ordered by keys are ordered as well as the keys are. -/
lemma orderedOn_of_key {κ : Type} [Ord κ] [Std.TransOrd κ] {P : Value → Prop} (key : Value → κ)
    (ne_null : ∀ {a}, P a → a ≠ .null)
    (h : ∀ {a b}, P a → P b → order a b = Ord.compare (key a) (key b)) : OrderedOn P := by
  have le {a b} (ha : P a) (hb : P b) :
      Holds .le a b ↔ (Ord.compare (key a) (key b)).isLE = true := by
    rw [holds_iff (ne_null ha) (ne_null hb), h ha hb]
    cases Ord.compare (key a) (key b) <;> decide
  have eq {a b} (ha : P a) (hb : P b) : Holds .eq a b ↔ Ord.compare (key a) (key b) = .eq := by
    rw [holds_iff (ne_null ha) (ne_null hb), h ha hb]
    exact beq_iff_eq
  have lt {a b} (ha : P a) (hb : P b) : Holds .lt a b ↔ Ord.compare (key a) (key b) = .lt := by
    rw [holds_iff (ne_null ha) (ne_null hb), h ha hb]
    exact beq_iff_eq
  constructor
  · intro a b ha hb
    rw [le ha hb, le hb ha, Std.OrientedOrd.eq_swap (a := key b)]
    cases Ord.compare (key a) (key b) <;> decide
  · intro a b c ha hb hc
    rw [le ha hb, le hb hc, le ha hc]
    exact Std.TransCmp.isLE_trans
  · intro a b ha hb
    rw [eq ha hb, eq hb ha]
    exact Std.OrientedCmp.eq_symm
  · intro a b c ha hb hc
    rw [eq ha hb, eq hb hc, eq ha hc]
    exact Std.TransCmp.eq_trans
  · intro a a' b b' ha ha' hb hb'
    rw [eq ha ha', eq hb hb', lt ha hb, lt ha' hb']
    intro left right
    rw [Std.TransCmp.congr_left left, Std.TransCmp.congr_right right]

/-- Numbers are ordered by their ranks. -/
theorem orderedOn_isNumeric : OrderedOn IsNumeric := by
  refine orderedOn_of_key (fun v => (v.asNumber?.map Number.rank).getD 0) IsNumeric.ne_null ?_
  rintro a b ⟨x, hx, defx⟩ ⟨y, hy, defy⟩
  rw [order, numericOrder?_eq_some hx hy defx defy, hx, hy]
  rfl

/-- Values that are not numeric are ordered by their texts. -/
theorem orderedOn_isTextual : OrderedOn IsTextual := by
  refine orderedOn_of_key display And.left fun ha _ => ?_
  rw [order, numericOrder?_eq_none fun both => ha.2 both.1]
  rfl

/-! ### A number and its text -/

/-- A comparison sees of a value whether it is nothing, its number and its text. -/
lemma compare_congr {a' b' : Value} (nullLeft : a.isNull = a'.isNull)
    (numberLeft : a.asNumber? = a'.asNumber?) (textLeft : a.display = a'.display)
    (nullRight : b.isNull = b'.isNull) (numberRight : b.asNumber? = b'.asNumber?)
    (textRight : b.display = b'.display) : compare op a b = compare op a' b' := by
  simp only [compare, order, numericOrder?, nullLeft, numberLeft, textLeft, nullRight, numberRight,
    textRight]

/-- The text of a finite number counts as the number. -/
lemma asNumber?_text {x : Float} (fin : Number.isFinite x = true) :
    (text (Number.text x)).asNumber? = some x := by
  have visible : ∀ c ∈ Number.chars x, Text.isBlank c = false := by
    intro c hc
    rcases (Number.chars_chars fin).2 c hc with digit | rfl | rfl
    · exact (isWordChar_iff.1 (isWordChar_digit digit)).1
    · decide
    · decide
  rw [asNumber?, Number.text, String.toList_ofList, Text.trim_eq_self visible]
  exact Number.readFinite?_chars fin

/-- Comparing fails exactly for an order against nothing, and only nothing equals nothing.  Any two
other values stand in one of three ways to each other, and the comparisons ask for these ways.  The
comparisons order the numeric values and the textual ones, and a finite number compares with every
value as its text does. -/
theorem compare_laws :
    (∀ op a b, (∃ fault, compare op a b = .error fault) ↔
      op.isOrdering = true ∧ (a = .null ∨ b = .null)) ∧
    (∀ a b, a = .null ∨ b = .null → (Holds .eq a b ↔ a = .null ∧ b = .null)) ∧
    (∀ a b, a ≠ .null → b ≠ .null → Compared a b) ∧
    (∀ a, Holds .eq a a) ∧
    OrderedOn IsNumeric ∧
    OrderedOn IsTextual ∧
    (∀ x, Number.isFinite x = true → ∀ op v,
      compare op (.number x) v = compare op (.text (Number.text x)) v ∧
        compare op v (.number x) = compare op v (.text (Number.text x))) := by
  refine ⟨fun _ _ _ => exists_error_iff, fun _ _ => holds_eq_of_null,
    fun _ _ => compared_of_ne_null, holds_eq_self, orderedOn_isNumeric, orderedOn_isTextual, ?_⟩
  intro x fin op v
  have number : (Value.number x).asNumber? = (text (Number.text x)).asNumber? :=
    (asNumber?_text fin).symm
  exact ⟨compare_congr rfl number rfl rfl rfl rfl, compare_congr rfl rfl rfl rfl number rfl⟩

/-- A number, its text, the truth value one and a text that is no number, and the undefined
number, which is compared by its text. -/
theorem compare_laws_nine :
    (∃ fault, compare .lt (.number 9) .null = .error fault) ∧
      Compared (.number 9) (.text "1x") ∧
      compare .gt (.number 9) (.boolean true) = compare .gt (.text "9") (.boolean true) ∧
      Holds .le (.boolean true) (.number 10) ∧
      Holds .eq (.number Number.undefined) (.number Number.undefined) ∧
      (Holds .le (.number Number.undefined) (.text "A") ∨
        Holds .le (.text "A") (.number Number.undefined)) := by
  obtain ⟨errors, -, compared, self, numeric, textual, interchanged⟩ := compare_laws
  have one : IsNumeric (.boolean true) := ⟨1, rfl, by decide +kernel⟩
  have nine : IsNumeric (.text "9") := ⟨9, by decide +kernel, by decide +kernel⟩
  have ten : IsNumeric (.number 10) := ⟨10, rfl, by decide +kernel⟩
  have undefined : IsTextual (.number Number.undefined) := by
    refine ⟨by decide, ?_⟩
    rintro ⟨x, hx, defined⟩
    cases hx
    exact absurd defined (by decide +kernel)
  have letter : IsTextual (.text "A") := by
    have none : (Value.text "A").asNumber? = none := by decide +kernel
    refine ⟨by decide, ?_⟩
    rintro ⟨x, hx, -⟩
    rw [none] at hx
    cases hx
  have text : Number.text 9 = "9" := by decide +kernel
  have swapped := (interchanged 9 (by decide +kernel) .gt (.boolean true)).1
  rw [text] at swapped
  have below : Holds .le (.boolean true) (.text "9") := by decide +kernel
  have above : Holds .le (.text "9") (.number 10) := by decide +kernel
  exact ⟨(errors ..).2 ⟨rfl, .inr rfl⟩, compared _ _ (by decide) (by decide), swapped,
    numeric.le_trans one nine ten below above, self _, textual.le_total undefined letter⟩

/-- All values together are not ordered, since numbers and other texts make up cycles. -/
theorem not_orderedOn_ne_null : ¬ OrderedOn (· ≠ .null) := by
  intro h
  have first : Holds .le (.text "9") (.text "10") := by decide +kernel
  have second : Holds .le (.text "10") (.text "1x") := by decide +kernel
  have third : ¬ Holds .le (.text "9") (.text "1x") := by decide +kernel
  exact third (h.le_trans (by decide) (by decide) (by decide) first second)

end Value

end LoanDesk
