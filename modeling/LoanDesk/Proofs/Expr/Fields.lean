import LoanDesk.Filter
import LoanDesk.Proofs.Expr.Splicing

/-!
# What an expression reads of a loan

The leaves of an expression stand in the order of the tokens that they were read from
(`Derives.fieldNames`), so the fields of an expression are those that its source names, each once
and in order.  Evaluation reads these fields and nothing else (`Expr.value_congr`): loans that
report the same under those names are not told apart by any filter with that source.

Main statement: `Expr.satisfies_of_same_fields`.
-/

namespace LoanDesk

/-! ### The fields that a source names -/

/-- The name of the field that a token stands for. -/
def TokenKind.fieldName? : TokenKind → Option String
  | field name => some name
  | _ => Option.none

/-- A token has the name of a field if it is that field. -/
lemma TokenKind.fieldName?_eq_some {kind : TokenKind} {name : String} :
    kind.fieldName? = some name ↔ kind = .field name := by
  cases kind <;> simp [fieldName?]

namespace Expr

/-- A chain has the leaves of its terms, one term after the other. -/
lemma fieldNames_chain {connective : List Expr → Expr}
    (h : ∀ terms, (connective terms).fieldNames = fieldNamesAll terms) (terms : List Expr) :
    (chain connective terms).fieldNames = terms.flatMap fieldNames := by
  match terms with
  | [] => exact h []
  | [e] => exact (List.append_nil _).symm
  | _ :: _ :: _ => exact (h _).trans (fieldNamesAll_eq _)

end Expr

/-- A separator that names no field does not add to the fields of what it separates. -/
lemma filterMap_intercalate_fieldName? {separator : TokenKind}
    (h : separator.fieldName? = none) {terms : List (List TokenKind × Expr)}
    (names : ∀ term ∈ terms, term.2.fieldNames = term.1.filterMap TokenKind.fieldName?) :
    ([separator].intercalate (terms.map Prod.fst)).filterMap TokenKind.fieldName? =
      (terms.map Prod.snd).flatMap Expr.fieldNames := by
  induction terms with
  | nil => rfl
  | cons term terms ih =>
    have first := names term (by simp)
    have others := ih fun t ht => names t (List.mem_cons_of_mem _ ht)
    cases terms with
    | nil => simp [first]
    | cons next terms =>
      rw [List.map_cons] at others
      rw [List.map_cons, List.map_cons, List.intercalate_cons_cons, List.filterMap_append,
        List.filterMap_append, others, ← first, List.filterMap_cons_none h, List.filterMap_nil,
        List.append_nil]
      rfl

/-- The leaves of an expression are the fields among its tokens, in the same order. -/
lemma Derives.fieldNames {p : Phrase} {depth : Nat} {kinds : List TokenKind} {e : Expr}
    (h : Derives p depth kinds e) : e.fieldNames = kinds.filterMap TokenKind.fieldName? := by
  induction h with
  | disjunction _ _ ih =>
    rw [Expr.fieldNames_chain (fun _ => rfl), filterMap_intercalate_fieldName? rfl ih]
  | conjunction _ _ ih =>
    rw [Expr.fieldNames_chain (fun _ => rfl), filterMap_intercalate_fieldName? rfl ih]
  | not _ ih => exact ih
  | plain _ ih => exact ih
  | compare _ _ ihl ihr =>
    rw [Expr.fieldNames, ihl, ihr, List.filterMap_append]
    rfl
  | alone _ ih => exact ih
  | group _ ih =>
    rw [ih, List.cons_append, List.filterMap_cons_none rfl, List.filterMap_append]
    exact (List.append_nil _).symm
  | leaf hl => cases hl <;> rfl

/-! ### The fields of an expression in order -/

/-- Of texts in order each is kept once. -/
lemma pairwise_lt_eraseDups {names : List String} (h : names.Pairwise (· ≤ ·)) :
    names.eraseDups.Pairwise (· < ·) := by
  match names with
  | [] => exact .nil
  | name :: names =>
    obtain ⟨first, others⟩ := List.pairwise_cons.1 h
    rw [List.eraseDups_cons]
    refine List.pairwise_cons.2 ⟨?_, pairwise_lt_eraseDups (others.filter _)⟩
    intro other mem
    obtain ⟨listed, ne⟩ := List.mem_filter.1 (List.mem_eraseDups.1 mem)
    have distinct : other ≠ name := by simpa using ne
    exact Std.lt_of_le_of_ne (first other listed) distinct.symm
termination_by names.length
decreasing_by exact Nat.lt_succ_of_le (List.length_filter_le _ _)

namespace Expr

/-- The fields of an expression are its field names. -/
lemma mem_fields {e : Expr} {name : String} : name ∈ e.fields ↔ name ∈ e.fieldNames := by
  rw [fields, List.mem_eraseDups, List.mem_mergeSort]

/-- The fields of an expression are in order, and none is listed twice. -/
lemma pairwise_fields (e : Expr) : e.fields.Pairwise (· < ·) := by
  have ordered (a b : String) : (!decide (b < a)) = true ↔ a ≤ b := by
    rw [Bool.not_eq_true', decide_eq_false_iff_not, String.not_lt]
  apply pairwise_lt_eraseDups
  refine (List.pairwise_mergeSort ?_ ?_ e.fieldNames).imp (ordered _ _).1
  · intro a b c
    rw [ordered, ordered, ordered]
    exact String.le_trans
  · intro a b
    rw [Bool.or_eq_true, ordered, ordered]
    exact String.le_total a b

/-! ### Evaluation reads nothing but the fields -/

variable {read read' : String → Value}

/-- Terms that hold and fail alike decide a chain alike. -/
lemma askUntil_congr {stop : Bool} {terms : List Expr}
    (h : ∀ term ∈ terms, term.holds read = term.holds read') :
    askUntil read stop terms = askUntil read' stop terms := by
  induction terms with
  | nil => rfl
  | cons term terms ih =>
    rw [askUntil, askUntil, h term (by simp), ih fun t ht => h t (List.mem_cons_of_mem _ ht)]

/-- Where the fields of an expression read the same, it has the same value or fails in the same
way. -/
theorem value_congr {e : Expr} (h : ∀ name ∈ e.fieldNames, read name = read' name) :
    e.value read = e.value read' := by
  have chained {stop : Bool} {terms : List Expr}
      (same : ∀ name ∈ fieldNamesAll terms, read name = read' name)
      (ih : ∀ term ∈ terms, (∀ name ∈ term.fieldNames, read name = read' name) →
        term.value read = term.value read') :
      askUntil read stop terms = askUntil read' stop terms := by
    rw [fieldNamesAll_eq] at same
    refine askUntil_congr fun term hterm => ?_
    rw [holds, holds, ih term hterm fun name hname =>
      same name (List.mem_flatMap.2 ⟨term, hterm, hname⟩)]
  induction e using termInduction with
  | literal v => rfl
  | field name => exact congrArg Except.ok (h name (by simp [fieldNames]))
  | compare op left right ihl ihr =>
    rw [fieldNames] at h
    rw [value, value, ihl fun name hname => h name (List.mem_append_left _ hname),
      ihr fun name hname => h name (List.mem_append_right _ hname)]
  | not inner ih => rw [value, value, ih h]
  | and terms ih => rw [value, value, allHold_eq, allHold_eq, chained h ih]
  | or terms ih => rw [value, value, anyHolds_eq, anyHolds_eq, chained h ih]

end Expr

/-! ### What filters see of a loan -/

/-- Rules have one verdict on loans on which their expression comes to the same. -/
lemma Rule.evaluate_congr {r : Rule} {loan other : Loan}
    (h : ∀ e, r.expr = .ok e → loan.satisfies e = other.satisfies e) :
    r.evaluate loan = r.evaluate other := by
  rw [evaluate, evaluate]
  split
  next => rfl
  next e parsed => rw [h e parsed]

/-- Loans that satisfy the same expressions have the same outcome. -/
lemma Rule.outcome_congr {r : Rule} {loan other : Loan}
    (h : ∀ e, r.expr = .ok e → loan.satisfies e = other.satisfies e) :
    r.outcome loan = r.outcome other := by
  rw [outcome, outcome, evaluate_congr h]

/-- The fields of what a source is read as are those that its tokens name, each once and in order.
On loans that report the same under these names, whatever else they report and whatever their
quality is, it comes to the same, a failure included, and so each filter with this source passes
both or neither and counts them alike.  What is not reported is the same as what is reported as
nothing. -/
theorem Expr.satisfies_of_same_fields {source : String} {root : Expr}
    (h : parse source = .ok root) :
    (∃ ts, tokenize source = .ok ts ∧
      ∀ name, name ∈ root.fields ↔ ∃ t ∈ ts, t.kind = .field name) ∧
    root.fields.Pairwise (· < ·) ∧
    ∀ loan other : Loan, (∀ name ∈ root.fields, loan.get name = other.get name) →
      loan.satisfies root = other.satisfies root ∧
      ∀ f : Filter, f.rule.source = source →
        f.rule.keeps loan = f.rule.keeps other ∧ f.apply loan = f.apply other := by
  obtain ⟨ts, tokens, derived⟩ := parse_eq_ok_iff.1 h
  refine ⟨⟨ts, tokens, ?_⟩, root.pairwise_fields, ?_⟩
  · intro name
    rw [mem_fields, derived.fieldNames, List.filterMap_map, List.mem_filterMap]
    simp only [Function.comp_apply, TokenKind.fieldName?_eq_some]
  · intro loan other same
    have value : loan.satisfies root = other.satisfies root := by
      rw [Loan.satisfies, Loan.satisfies, holds, holds,
        value_congr fun name hname => same name (mem_fields.2 hname)]
    refine ⟨value, ?_⟩
    rintro f rfl
    have outcome : f.rule.outcome loan = f.rule.outcome other := by
      refine Rule.outcome_congr fun e parsed => ?_
      rw [f.rule.expr_eq, h] at parsed
      cases parsed
      exact value
    refine ⟨?_, ?_⟩
    · rw [Rule.keeps, Rule.keeps, outcome]
    · rw [Filter.apply, Filter.apply, outcome]

/-- One loan reports its grade as nothing and the other does not report it; both lack a verdict. -/
theorem Expr.satisfies_of_same_fields_unreported :
    ∃ root, parse "{term} > 12 and {grade} < B" = .ok root ∧
      (let loan : Loan :=
        ⟨Dict.ofList [("grade", .null), ("id", .text "7"), ("term", .text "36")], 1⟩
      let other : Loan := .ofFields [("term", .text "36")]
      (∀ name ∈ root.fields, loan.get name = other.get name) ∧
        loan.satisfies root = .error (.orderAgainstNull .lt "None" "B") ∧
        other.satisfies root = loan.satisfies root) := by
  let other : Loan := .ofFields [("term", .text "36")]
  have read : (parse "{term} > 12 and {grade} < B").toOption.map
      (fun root => (root.fieldNames, other.satisfies root)) =
        some (["term", "grade"], .error (.orderAgainstNull .lt "None" "B")) := by
    decide +kernel
  cases h : parse "{term} > 12 and {grade} < B" with
  | error =>
    rw [h] at read
    cases read
  | ok root =>
    rw [h] at read
    obtain ⟨names, fails⟩ := Prod.mk.inj (Option.some.inj read)
    refine ⟨root, rfl, ?_⟩
    intro loan other
    have same : ∀ name ∈ root.fields, loan.get name = other.get name := by
      simp only [mem_fields, names]
      decide +kernel
    have value := ((satisfies_of_same_fields h).2.2 loan other same).1
    exact ⟨same, value.trans fails, value.symm⟩

end LoanDesk
