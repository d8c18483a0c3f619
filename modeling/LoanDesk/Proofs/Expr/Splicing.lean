import LoanDesk.Proofs.Expr.Canonical
import LoanDesk.Proofs.Expr.Substitution

/-!
# Splicing keeps the meaning

Terms are asked in order up to the first one that decides the chain (`Expr.askUntil`), and asking
the terms of a chain one after the other is the same as asking the chain.  So an expression in which
chains are spliced into chains of the same connective has the value that it had, or fails as it
failed (`Expr.value_flatten`), and it reads the same fields.  The text of whatever a source is read
as is read as that expression, and thus means the same: `Expr.satisfies_parse_render`.
-/

namespace LoanDesk.Expr

section

variable (read : String → Value)

/-- What terms come to that are asked in order up to the first one whose truth is `stop`. -/
def askUntil (stop : Bool) : List Expr → Except EvalError Bool
  | [] => .ok !stop
  | term :: terms =>
    match term.holds read with
    | .error e => .error e
    | .ok held => if held = stop then .ok stop else askUntil stop terms

variable {read}

/-- A conjunction is decided by the first term that does not hold. -/
lemma allHold_eq (terms : List Expr) : allHold read terms = askUntil read false terms := by
  induction terms with
  | nil => rfl
  | cons term terms ih =>
    rw [allHold, askUntil, ih, holds]
    cases term.value read with
    | error => rfl
    | ok v => cases h : v.truthy <;> simp [Except.map, h]

/-- A disjunction is decided by the first term that holds. -/
lemma anyHolds_eq (terms : List Expr) : anyHolds read terms = askUntil read true terms := by
  induction terms with
  | nil => rfl
  | cons term terms ih =>
    rw [anyHolds, askUntil, ih, holds]
    cases term.value read with
    | error => rfl
    | ok v => cases h : v.truthy <;> simp [Except.map, h]

variable {stop : Bool}

/-- One term comes to its own truth. -/
lemma askUntil_singleton (e : Expr) : askUntil read stop [e] = e.holds read := by
  rw [askUntil, askUntil]
  cases e.holds read with
  | error => rfl
  | ok held => cases held <;> cases stop <;> rfl

/-- The terms at the back are asked if none of those in front decides or fails. -/
lemma askUntil_append (front back : List Expr) :
    askUntil read stop (front ++ back) = (askUntil read stop front).bind fun held =>
      if held = stop then .ok stop else askUntil read stop back := by
  induction front with
  | nil => cases stop <;> rfl
  | cons term front ih =>
    rw [List.cons_append, askUntil, askUntil]
    cases term.holds read with
    | error => rfl
    | ok held =>
      by_cases h : held = stop
      · simp [h, Except.bind]
      · simp [h, ih]

/-- The terms of a conjunction come to what it comes to. -/
lemma askUntil_conjuncts (e : Expr) : askUntil read false e.conjuncts = e.holds read := by
  cases e with
  | and terms => rw [conjuncts, holds_and, allHold_eq]
  | _ => exact askUntil_singleton _

/-- The terms of a disjunction come to what it comes to. -/
lemma askUntil_disjuncts (e : Expr) : askUntil read true e.disjuncts = e.holds read := by
  cases e with
  | or terms => rw [disjuncts, holds_or, anyHolds_eq]
  | _ => exact askUntil_singleton _

/-- A conjunction of any number of terms asks its terms in order. -/
lemma holds_chain_and (terms : List Expr) :
    (chain .and terms).holds read = askUntil read false terms := by
  match terms with
  | [] => rfl
  | [e] => exact (askUntil_singleton e).symm
  | _ :: _ :: _ => exact (holds_and read _).trans (allHold_eq _)

/-- A spliced chain comes to what the chain does, if each of its terms does so. -/
lemma askUntil_flattenAll {parts : Expr → List Expr} {terms : List Expr}
    (hp : ∀ e, askUntil read stop (parts e) = e.holds read)
    (h : ∀ term ∈ terms, term.flatten.value read = term.value read) :
    askUntil read stop (flattenAll parts terms) = askUntil read stop terms := by
  induction terms with
  | nil => rfl
  | cons term terms ih =>
    have first : term.flatten.holds read = term.holds read := by
      rw [holds, h term (by simp), holds]
    rw [flattenAll, askUntil_append, hp, first, ih fun t ht => h t (List.mem_cons_of_mem _ ht),
      askUntil]
    cases term.holds read <;> rfl

/-- An expression with its chains spliced has the same value, or fails in the same way. -/
theorem value_flatten (e : Expr) : e.flatten.value read = e.value read := by
  induction e using termInduction with
  | literal | field => rfl
  | compare op left right ihl ihr => rw [flatten, value, value, ihl, ihr]
  | not inner ih => rw [flatten, value, value, ih]
  | and terms ih =>
    rw [flatten, value, value, allHold_eq, allHold_eq, askUntil_flattenAll askUntil_conjuncts ih]
  | or terms ih =>
    rw [flatten, value, value, anyHolds_eq, anyHolds_eq, askUntil_flattenAll askUntil_disjuncts ih]

end

/-! ### The fields of a spliced expression -/

/-- Terms have the field names of each, one after the other. -/
lemma fieldNamesAll_eq (terms : List Expr) : fieldNamesAll terms = terms.flatMap fieldNames := by
  induction terms with
  | nil => rfl
  | cons term terms ih => rw [fieldNamesAll, ih, List.flatMap_cons]

/-- The terms of a conjunction have its field names. -/
lemma fieldNamesAll_conjuncts (e : Expr) : fieldNamesAll e.conjuncts = e.fieldNames := by
  cases e with
  | and terms => rfl
  | _ => exact List.append_nil _

/-- The terms of a disjunction have its field names. -/
lemma fieldNamesAll_disjuncts (e : Expr) : fieldNamesAll e.disjuncts = e.fieldNames := by
  cases e with
  | or terms => rfl
  | _ => exact List.append_nil _

/-- A spliced chain has the leaves of the chain, if each of its terms does so. -/
lemma fieldNamesAll_flattenAll {parts : Expr → List Expr} {terms : List Expr}
    (hp : ∀ e, fieldNamesAll (parts e) = e.fieldNames)
    (h : ∀ term ∈ terms, term.flatten.fieldNames = term.fieldNames) :
    fieldNamesAll (flattenAll parts terms) = fieldNamesAll terms := by
  induction terms with
  | nil => rfl
  | cons term terms ih =>
    have first := hp term.flatten
    rw [fieldNamesAll_eq] at first
    rw [flattenAll, fieldNamesAll_eq, List.flatMap_append, first, ← fieldNamesAll_eq,
      ih fun t ht => h t (List.mem_cons_of_mem _ ht), h term (by simp), fieldNamesAll]

/-- Splicing changes neither the leaves of an expression nor their order. -/
theorem fieldNames_flatten (e : Expr) : e.flatten.fieldNames = e.fieldNames := by
  induction e using termInduction with
  | literal | field => rfl
  | compare op left right ihl ihr => rw [flatten, fieldNames, fieldNames, ihl, ihr]
  | not inner ih => rw [flatten, fieldNames, fieldNames, ih]
  | and terms ih =>
    rw [flatten, fieldNames, fieldNames, fieldNamesAll_flattenAll fieldNamesAll_conjuncts ih]
  | or terms ih =>
    rw [flatten, fieldNames, fieldNames, fieldNamesAll_flattenAll fieldNamesAll_disjuncts ih]

/-! ### What the text of an expression means -/

/-- The text of what a source is read as is read again, and what it is read as holds of every loan
of which the source holds and of no other, fails of a loan as the source does, with the same
comparison of the same two texts, and reads the same fields. -/
theorem satisfies_parse_render {source : String} {root : Expr} (h : parse source = .ok root) :
    ∃ again, parse root.render = .ok again ∧
      (∀ loan : Loan, loan.satisfies again = loan.satisfies root) ∧
      again.fields = root.fields := by
  obtain ⟨wf, shallow, -⟩ := wellFormed_of_parse h
  refine ⟨root.flatten, wf.parse_render shallow, ?_, ?_⟩
  · intro loan
    rw [Loan.satisfies, Loan.satisfies, holds, holds, value_flatten]
  · rw [fields, fields, fieldNames_flatten]

/-- A conjunction in a conjunction, as a side of a comparison. -/
theorem satisfies_parse_render_side :
    ∃ root again, parse "({a} and ({b} and {c})) == True" = .ok root ∧
      parse "({a} and {b} and {c}) == True" = .ok again ∧
      (∀ loan : Loan, loan.satisfies again = loan.satisfies root) ∧
      again.fields = root.fields := by
  have text : (parse "({a} and ({b} and {c})) == True").toOption.map render =
      some "({a} and {b} and {c}) == True" := by
    decide +kernel
  cases h : parse "({a} and ({b} and {c})) == True" with
  | error =>
    rw [h] at text
    cases text
  | ok root =>
    rw [h] at text
    obtain ⟨again, reread, means⟩ := satisfies_parse_render h
    rw [Option.some.inj text] at reread
    exact ⟨root, again, rfl, reread, means⟩

end LoanDesk.Expr
