import LoanDesk.Proofs.Expr.Parts
import LoanDesk.Proofs.Filter.Conjunction

/-!
# Orders against nothing

An expression fails of a loan only for an order in it that has a side which comes to nothing
(`Expr.faultIn_of_value`).  Only a literal or a field can come to nothing, so an expression has a
truth value where no order has `None` or a field without a value for a side.  A guard in front of an
expression, `{f} == None or` or `{f} != None and`, decides where nothing is reported of `f`, and
there the expression behind it is not asked.

Main statement: `Loan.satisfies_fails_against_null_only`.
-/

namespace LoanDesk

namespace Expr

section

variable (read : String → Value)

/-- The fault is that of a comparison in the expression which asks for an order, and of whose sides
one comes to nothing. -/
inductive FaultIn (e : Expr) : EvalError → Prop where
  | intro {op left right a b} :
    Within (.compare op left right) e →
    op.isOrdering = true →
    left.value read = .ok a →
    right.value read = .ok b →
    a = .null ∨ b = .null →
    FaultIn e (.orderAgainstNull op a.display b.display)

variable {read}

/-- A fault in an expression is one in whatever the expression is within. -/
lemma FaultIn.mono {e e' : Expr} {fault : EvalError} (h : FaultIn read e fault)
    (inside : ∀ sub, Within sub e → Within sub e') : FaultIn read e' fault := by
  cases h with
  | intro at' ordering left right null => exact .intro (inside _ at') ordering left right null

/-- Terms that are asked in order fail only as one of them does. -/
lemma exists_term_of_askUntil {stop : Bool} {terms : List Expr} {fault : EvalError}
    (h : askUntil read stop terms = .error fault) :
    ∃ term ∈ terms, term.value read = .error fault := by
  induction terms with
  | nil => cases h
  | cons term terms ih =>
    rw [askUntil, holds] at h
    cases hv : term.value read with
    | error e =>
      rw [hv] at h
      cases h
      exact ⟨term, by simp, hv⟩
    | ok v =>
      simp only [hv, Except.map] at h
      split_ifs at h
      obtain ⟨other, mem, failed⟩ := ih h
      exact ⟨other, List.mem_cons_of_mem _ mem, failed⟩

/-- Mapping a result keeps its error and adds none. -/
lemma map_eq_error {α β : Type} {f : α → β} {r : Except EvalError α} {fault : EvalError} :
    r.map f = .error fault ↔ r = .error fault := by
  cases r <;> simp [Except.map]

/-- Evaluation fails for nothing but an order against nothing, and its error says what the sides of
that order are. -/
theorem faultIn_of_value {e : Expr} {fault : EvalError} (h : e.value read = .error fault) :
    FaultIn read e fault := by
  induction e using termInduction with
  | literal | field => cases h
  | compare op left right ihl ihr =>
    rw [value] at h
    cases hl : left.value read with
    | error e =>
      rw [hl] at h
      cases h
      exact (ihl hl).mono fun _ => .left
    | ok a =>
      cases hr : right.value read with
      | error e =>
        rw [hl, hr] at h
        cases h
        exact (ihr hr).mono fun _ => .right
      | ok b =>
        simp only [hl, hr, map_eq_error] at h
        obtain ⟨ordering, null, rfl⟩ := Value.compare_eq_error_iff.1 h
        exact .intro .here ordering hl hr (null.imp Value.isNull_eq_true.1 Value.isNull_eq_true.1)
  | not inner ih =>
    rw [value, map_eq_error] at h
    exact (ih h).mono fun _ => .not
  | and terms ih =>
    rw [value, map_eq_error, allHold_eq] at h
    obtain ⟨term, mem, failed⟩ := exists_term_of_askUntil h
    exact (ih term mem failed).mono fun _ => .and mem
  | or terms ih =>
    rw [value, map_eq_error, anyHolds_eq] at h
    obtain ⟨term, mem, failed⟩ := exists_term_of_askUntil h
    exact (ih term mem failed).mono fun _ => .or mem

end

/-! ### Sides that come to nothing -/

section

variable (missing : String → Prop)

/-- The sides of comparisons that are nothing where the missing fields are. -/
inductive IsNullLeaf : Expr → Prop where
  | literal : IsNullLeaf (.literal .null)
  | field {name} : missing name → IsNullLeaf (.field name)

/-- No order in the expression has `None` or a missing field for a side. -/
def SafeOrders (e : Expr) : Prop :=
  ∀ op left right, Within (.compare op left right) e → op.isOrdering = true →
    ¬ left.IsNullLeaf missing ∧ ¬ right.IsNullLeaf missing

end

variable {read : String → Value} {e : Expr}

/-- What is put together from others comes to a truth value, and so not to nothing. -/
lemma isNullLeaf_of_value (h : e.value read = .ok .null) :
    e.IsNullLeaf fun name => read name = .null := by
  have truth {r : Except EvalError Bool} (h : r.map Value.boolean = .ok .null) : False := by
    cases r <;> cases h
  cases e with
  | literal v => cases h; exact .literal
  | field name => exact .field (Except.ok.inj h)
  | compare op left right =>
    rw [value] at h
    split at h
    · cases h
    · cases h
    · exact (truth h).elim
  | not inner =>
    rw [value] at h
    cases hv : inner.value read <;> rw [hv] at h <;> cases h
  | and terms => exact (truth h).elim
  | or terms => exact (truth h).elim

/-- What is safe with some fields missing is safe with fewer of them missing. -/
lemma SafeOrders.mono {missing missing' : String → Prop} (h : e.SafeOrders missing)
    (fewer : ∀ name, missing' name → missing name) : e.SafeOrders missing' := by
  have leaf {side : Expr} : side.IsNullLeaf missing' → side.IsNullLeaf missing
    | .literal => .literal
    | .field gone => .field (fewer _ gone)
  intro op left right at' ordering
  exact (h op left right at' ordering).imp (mt leaf) (mt leaf)

/-- An expression has a truth value where no order in it is asked of nothing. -/
lemma SafeOrders.holds (h : e.SafeOrders fun name => read name = .null) :
    ∃ held, e.holds read = .ok held := by
  cases hv : e.value read with
  | ok v => exact ⟨v.truthy, by rw [Expr.holds, hv]; rfl⟩
  | error fault =>
    exfalso
    cases faultIn_of_value hv with
    | intro at' ordering left right null =>
      obtain ⟨safeLeft, safeRight⟩ := h _ _ _ at' ordering
      rcases null with rfl | rfl
      · exact safeLeft (isNullLeaf_of_value left)
      · exact safeRight (isNullLeaf_of_value right)

end Expr

/-! ### Guards -/

/-- What is made of a loan that does not report the field of a guard: it meets the guarded
condition, or it does not. -/
inductive NullGuard where
  | pass
  | drop

namespace NullGuard

/-- The comparison of the field with `None`. -/
def comparison : NullGuard → Comparison
  | pass => .eq
  | drop => .ne

/-- The connective between the guard and what it guards. -/
def connective : NullGuard → List Expr → Expr
  | pass => .or
  | drop => .and

/-- How that connective is written. -/
def separator : NullGuard → TokenKind
  | pass => .or
  | drop => .and

/-- The truth of the condition for a loan that does not report the field. -/
def verdict : NullGuard → Bool
  | pass => true
  | drop => false

/-- The expression behind a guard. -/
def expr (g : NullGuard) (name : String) (e : Expr) : Expr :=
  g.connective [.compare g.comparison (.field name) (.literal .null), e]

/-- The source behind a guard. -/
def text : NullGuard → String → String → String
  | pass, name, source => "\x7b" ++ name ++ "\x7d == None or (" ++ source ++ ")"
  | drop, name, source => "\x7b" ++ name ++ "\x7d != None and (" ++ source ++ ")"

variable (g : NullGuard) (name : String)

/-- The connective asks its terms up to the first one that comes to the guard's verdict. -/
lemma holds_connective (read : String → Value) (terms : List Expr) :
    (g.connective terms).holds read = Expr.askUntil read g.verdict terms := by
  cases g with
  | pass => exact (Expr.holds_or read terms).trans (Expr.anyHolds_eq terms)
  | drop => exact (Expr.holds_and read terms).trans (Expr.allHold_eq terms)

/-- The comparison with `None` comes to the guard's verdict exactly where the field is missing. -/
lemma holds_comparison (read : String → Value) :
    (Expr.compare g.comparison (.field name) (.literal .null)).holds read =
      .ok (if read name = .null then g.verdict else !g.verdict) := by
  rw [Expr.holds, Expr.value, Expr.value, Expr.value]
  cases read name <;> cases g <;> rfl

/-- The guard decides where its field is missing, and elsewhere the expression behind it does. -/
lemma holds_expr (read : String → Value) (e : Expr) :
    (g.expr name e).holds read = if read name = .null then .ok g.verdict else e.holds read := by
  rw [expr, holds_connective, Expr.askUntil, holds_comparison, Expr.askUntil_singleton]
  by_cases missing : read name = .null
  · simp [missing]
  · simp [missing]

/-- The text of a guard is read as that guard in front of what the source is read as. -/
lemma parse_text {source : String} {e : Expr} (hn : IsFieldName name.toList)
    (h : Expr.NestsWithin 63 source) (parsed : Expr.parse source = .ok e) :
    Expr.parse (g.text name source) = .ok (g.expr name e) := by
  obtain ⟨ts, e', tokens, derived⟩ := h
  obtain rfl : e' = e := by
    have parsed' := Expr.parse_eq_ok_iff.2 ⟨ts, tokens, derived.mono (Nat.le_succ 63)⟩
    exact Except.ok.inj (parsed'.symm.trans parsed)
  have front : LexesAs
      (TokenKind.layout [.field name, .compare g.comparison, .none, g.separator])
      [.field name, .compare g.comparison, .none, g.separator] := by
    refine lexes_layout ?_
    cases g <;> simpa [TokenKind.Legal, separator] using hn
  have back : LexesAs (' ' :: ('(' :: source.toList ++ [')']))
      (Expr.parenthesized (ts.map Token.kind)) :=
    (tokenize_eq_ok.1 tokens).lexesAs.parenthesized.blank (by decide)
  have chars : (g.text name source).toList =
      TokenKind.layout [.field name, .compare g.comparison, .none, g.separator] ++
        ' ' :: ('(' :: source.toList ++ [')']) := by
    cases g <;> simp [text, TokenKind.layout, TokenKind.spelling, TokenKind.gap, comparison,
      separator, Comparison.symbol]
  obtain ⟨ts', lexes, kinds⟩ := front.append (separates_cons (by decide) _) back 0
  rw [← chars] at lexes
  have left : Derives .negation maxDepth [.field name, .compare g.comparison, .none]
      (.compare g.comparison (.field name) (.literal .null)) :=
    (Derives.compare (.leaf (.field name)) (.leaf .none)).plain
  have right : Derives .negation maxDepth (Expr.parenthesized (ts.map Token.kind)) e' :=
    .plain (.alone (.group derived))
  have whole : Derives .disjunction maxDepth (ts'.map Token.kind) (g.expr name e') := by
    rw [kinds]
    cases g with
    | pass => exact left.toConjunction.either right.toConjunction
    | drop => exact (left.both right).toDisjunction
  exact Expr.parse_eq_ok_iff.2 ⟨ts', tokenize_eq_ok.2 lexes, whole⟩

end NullGuard

/-- An expression fails of a loan for nothing but an order in it one side of which comes to nothing,
and with the texts of that order's sides.  So it does not fail if no order in it has `None` or a
field that the loan does not report for a side.  Behind a guard for a field it does not fail either
if that field is a side too: the guard decides where the loan does not report it. -/
theorem Loan.satisfies_fails_against_null_only (loan : Loan) (e : Expr) :
    (∀ fault, loan.satisfies e = .error fault → e.FaultIn loan.get fault) ∧
    ((e.SafeOrders fun name => loan.get name = .null) →
      ∃ held, loan.satisfies e = .ok held) ∧
    (∀ (g : NullGuard) name,
      (e.SafeOrders fun other => other ≠ name ∧ loan.get other = .null) →
      ∃ held, loan.satisfies (g.expr name e) = .ok held ∧
        (loan.get name = .null → held = g.verdict) ∧
        (loan.get name ≠ .null → loan.satisfies e = .ok held)) ∧
    (∀ (g : NullGuard) name source, IsFieldName name.toList → Expr.NestsWithin 63 source →
      Expr.parse source = .ok e → Expr.parse (g.text name source) = .ok (g.expr name e)) := by
  refine ⟨?_, Expr.SafeOrders.holds, ?_, fun g name _ => g.parse_text name⟩
  · intro fault h
    exact Expr.faultIn_of_value (Expr.map_eq_error.1 h)
  · intro g name safe
    simp only [satisfies, g.holds_expr]
    by_cases missing : loan.get name = .null
    · exact ⟨g.verdict, if_pos missing, fun _ => rfl, fun present => absurd missing present⟩
    · have reported : e.SafeOrders fun other => loan.get other = .null := by
        refine safe.mono fun other gone => ⟨?_, gone⟩
        rintro rfl
        exact missing gone
      obtain ⟨held, h⟩ := reported.holds
      exact ⟨held, by rw [if_neg missing, h], fun gone => absurd gone missing, fun _ => h⟩

/-- The months since a delinquency that was none cannot be ordered, and behind a guard the loan
passes. -/
theorem Loan.satisfies_fails_against_null_only_delinquency :
    let loan := Loan.ofFields [("mthsSinceLastDelinq", .null)]
    ∃ e guarded, Expr.parse "{mthsSinceLastDelinq} > 24" = .ok e ∧
      Expr.parse "{mthsSinceLastDelinq} == None or ({mthsSinceLastDelinq} > 24)" = .ok guarded ∧
      (∃ fault, loan.satisfies e = .error fault ∧ e.FaultIn loan.get fault) ∧
      loan.satisfies guarded = .ok true := by
  intro loan
  have tokens : tokenize "{mthsSinceLastDelinq} > 24" =
      .ok [⟨.field "mthsSinceLastDelinq", 0, 21⟩, ⟨.compare .gt, 22, 23⟩,
        ⟨.number (24 : Float), 24, 26⟩] := by
    decide +kernel
  have derived : Derives .comparison 63
      [.field "mthsSinceLastDelinq", .compare .gt, .number (24 : Float)]
      (.compare .gt (.field "mthsSinceLastDelinq") (.literal (.number 24))) :=
    .compare (.leaf (.field _)) (.leaf (.number _))
  have nests : Expr.NestsWithin 63 "{mthsSinceLastDelinq} > 24" :=
    ⟨_, _, tokens, derived.plain.toConjunction.toDisjunction⟩
  have parsed := Expr.parse_eq_ok_iff.2
    ⟨_, tokens, derived.plain.toConjunction.toDisjunction.mono (Nat.le_succ 63)⟩
  obtain ⟨faults, -, guarded, reads⟩ := loan.satisfies_fails_against_null_only
    (.compare .gt (.field "mthsSinceLastDelinq") (.literal (.number 24)))
  -- The one comparison has the guarded field and a number for its sides.
  have safe : Expr.SafeOrders (fun other => other ≠ "mthsSinceLastDelinq" ∧ loan.get other = .null)
      (.compare .gt (.field "mthsSinceLastDelinq") (.literal (.number 24))) := by
    rintro op left right (_ | at' | at') -
    · refine ⟨?_, by rintro ⟨⟩⟩
      rintro (_ | ⟨other, -⟩)
      exact other rfl
    · cases at'
    · cases at'
  have fails : loan.satisfies
      (.compare .gt (.field "mthsSinceLastDelinq") (.literal (.number 24))) =
      .error (.orderAgainstNull .gt "None" "24") := by
    decide +kernel
  obtain ⟨held, holds, missing, -⟩ := guarded .pass "mthsSinceLastDelinq" safe
  obtain rfl : held = true := missing (by decide +kernel)
  have name : IsFieldName "mthsSinceLastDelinq".toList :=
    ⟨by simp, List.all_eq_true.1 (by decide +kernel)⟩
  have reread := reads .pass "mthsSinceLastDelinq" _ name nests parsed
  have text : NullGuard.pass.text "mthsSinceLastDelinq" "{mthsSinceLastDelinq} > 24" =
      "{mthsSinceLastDelinq} == None or ({mthsSinceLastDelinq} > 24)" := by
    decide +kernel
  rw [text] at reread
  exact ⟨_, _, parsed, reread, ⟨_, fails, faults _ fails⟩, holds⟩

end LoanDesk
