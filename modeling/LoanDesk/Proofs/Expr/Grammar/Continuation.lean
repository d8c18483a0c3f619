import LoanDesk.Proofs.Expr.Grammar.Complete
import Mathlib.Algebra.Order.BigOperators.Group.List

/-!
# What may still follow

A reader looks at no token behind the first one that it leaves over, so its outcome on some tokens
speaks of all lists that begin with the tokens it has seen (`Prospect`).  An error that blames a
token is the outcome whatever stands behind that token, and tokens that end too early are the
beginning of an expression.

Main statement: `Expr.error_blames_first_hopeless`.
-/

namespace LoanDesk

/-- The token cannot stand behind the others: no operand begins with it, or a parenthesis among them
has to be closed in its place. -/
def ParseError.Refuses (e : ParseError) (used : List Token) (t : Token) : Prop :=
  e = .expectedOperand t.kind t.start ∨
    ∃ o ∈ used, o.kind = .openParen ∧ e = .unbalancedParen o.start

/-- The tokens end too early: an operand is missing, or the partner of a parenthesis. -/
def ParseError.Misses (e : ParseError) (ts : List Token) : Prop :=
  e = .unexpectedEnd ∨ ∃ o ∈ ts, o.kind = .openParen ∧ e = .unbalancedParen o.start

/-- What the outcome of a reading function on some tokens says of other tokens. -/
inductive Prospect {α : Type} (read : List Token → Except ParseError (α × List Token))
    (stop : List Token → Prop) : List Token → Except ParseError (α × List Token) → Prop where
  /-- All is taken, and taken again in front of tokens that may follow. -/
  | taken {ts a} :
    (∀ rest, stop rest → read (ts ++ rest) = .ok (a, rest)) →
    Prospect read stop ts (.ok (a, []))
  /-- The same is taken whatever stands behind the first token left over. -/
  | left (used : List Token) {t rest a} :
    (∀ others, read (used ++ t :: others) = .ok (a, t :: others)) →
    Prospect read stop (used ++ t :: rest) (.ok (a, t :: rest))
  /-- The same token is refused whatever stands behind it. -/
  | refused (used : List Token) {t rest e} :
    e.Refuses used t →
    (∀ others, read (used ++ t :: others) = .error e) →
    Prospect read stop (used ++ t :: rest) (.error e)
  /-- The tokens nest too deep whatever follows. -/
  | tooDeep {ts} :
    (∀ others, read (ts ++ others) = .error .tooDeep) →
    Prospect read stop ts (.error .tooDeep)
  /-- Nothing is wrong but that some tokens are missing. -/
  | cutOff {ts e} :
    e.Misses ts →
    (∃ missing a, ∀ added rest, added.map Token.kind = missing → stop rest →
      read (ts ++ added ++ rest) = .ok (a, rest)) →
    Prospect read stop ts (.error e)

/-- A token that cannot stand behind some tokens cannot stand behind more in front of them. -/
lemma ParseError.Refuses.behind {e : ParseError} {used : List Token} {t : Token}
    (h : e.Refuses used t) (front : List Token) : e.Refuses (front ++ used) t :=
  h.imp_right fun ⟨o, mem, opens⟩ => ⟨o, List.mem_append_right _ mem, opens⟩

/-- What some tokens miss at their end is also missed with more in front of them. -/
lemma ParseError.Misses.behind {e : ParseError} {ts : List Token} (h : e.Misses ts)
    (front : List Token) : e.Misses (front ++ ts) :=
  h.imp_right fun ⟨o, mem, opens⟩ => ⟨o, List.mem_append_right _ mem, opens⟩

namespace Prospect

section

variable {α : Type} {read read' : List Token → Except ParseError (α × List Token)}
  {stop : List Token → Prop} {ts rest : List Token} {t : Token} {a : α}

/-- What is taken without a look at the next token is taken whatever follows. -/
lemma exact (used : List Token) (h : ∀ others, read (used ++ others) = .ok (a, others)) :
    Prospect read stop (used ++ rest) (.ok (a, rest)) := by
  cases rest with
  | nil =>
    refine .taken fun rest _ => ?_
    rw [List.append_nil]
    exact h rest
  | cons t rest => exact .left used fun others => h (t :: others)

/-- If tokens are left over, what is taken does not depend on those behind the first. -/
lemma of_left (h : Prospect read stop ts (.ok (a, t :: rest))) :
    ∃ used, ts = used ++ t :: rest ∧
      ∀ others, read (used ++ t :: others) = .ok (a, t :: others) := by
  cases h with
  | left used h => exact ⟨used, rfl, h⟩

/-- Tokens in front that are passed over leave what is seen behind them as it is. -/
lemma seen_behind {γ : Type} {read read' : List Token → γ} {front used after : List Token}
    {u : Token} {outcome : List Token → γ}
    (same : ∀ others, read' (front ++ t :: others) = read (t :: others))
    (e : t :: rest = used ++ u :: after) (h : ∀ others, read (used ++ u :: others) = outcome others)
    (others : List Token) : read' (front ++ used ++ u :: others) = outcome others := by
  cases used with
  | nil =>
    obtain ⟨rfl, -⟩ := List.cons.inj e
    rw [List.append_nil, same]
    exact h others
  | cons v used =>
    obtain ⟨rfl, -⟩ := List.cons.inj e
    rw [List.append_assoc, List.cons_append, same]
    exact h others

/-- A function that passes over some tokens has the prospects of the one that goes on. -/
lemma behind {front : List Token} {result : Except ParseError (α × List Token)}
    (h : Prospect read stop (t :: rest) result)
    (same : ∀ others, read' (front ++ t :: others) = read (t :: others)) :
    Prospect read' stop (front ++ t :: rest) result := by
  have passed (others : List Token) :
      read' (front ++ t :: rest ++ others) = read (t :: rest ++ others) := by
    rw [List.append_assoc, List.cons_append, same]
  generalize e : t :: rest = ts at h passed
  cases h with
  | taken h =>
    subst e
    exact .taken fun others stops => (passed others).trans (h others stops)
  | left used h =>
    rw [← List.append_assoc]
    exact .left _ (seen_behind same e h)
  | refused used refuses h =>
    rw [← List.append_assoc]
    exact .refused _ (refuses.behind front) (seen_behind same e h)
  | tooDeep h => exact .tooDeep fun others => (passed others).trans (h others)
  | cutOff misses h =>
    obtain ⟨missing, a, h⟩ := h
    refine .cutOff (misses.behind front) ⟨missing, a, fun added rest' kinds stops => ?_⟩
    rw [List.append_assoc, passed, ← List.append_assoc]
    exact h added rest' kinds stops

/-- A function that only hands on what it was given takes nothing. -/
lemma handOn : Prospect (fun rest => .ok (a, rest)) stop ts (.ok (a, ts)) :=
  .exact [] fun _ => rfl

end

/-! ### One reading function after the other -/

section

variable {α β : Type} {read : List Token → Except ParseError (α × List Token)}
  {read' : List Token → Except ParseError (β × List Token)}
  {stop stop' : List Token → Prop} {ts : List Token}

/-- An error of the first function is one of both; what is missing at the end is what the first one
misses, and what the second one asks for after that. -/
lemma bind_error (front : List Token) (next : α → List Token → Except ParseError (β × List Token))
    (reads : ∀ us, read' (front ++ us) = (read us).bind fun p => next p.1 p.2)
    {e : ParseError} (h : Prospect read stop ts (.error e)) (missing : List TokenKind)
    (finish : ∀ a, ∃ b, ∀ added rest, added.map Token.kind = missing → stop' rest →
      stop (added ++ rest) ∧ next a (added ++ rest) = .ok (b, rest)) :
    Prospect read' stop' (front ++ ts) (.error e) := by
  have failed {us : List Token} {e : ParseError} (h : read us = .error e) :
      read' (front ++ us) = .error e := by
    rw [reads, h]
    rfl
  cases h with
  | refused used refuses h =>
    rw [← List.append_assoc]
    refine .refused _ (refuses.behind front) fun others => ?_
    rw [List.append_assoc]
    exact failed (h others)
  | tooDeep h =>
    refine .tooDeep fun others => ?_
    rw [List.append_assoc]
    exact failed (h others)
  | cutOff misses h =>
    obtain ⟨missing', a, h⟩ := h
    obtain ⟨b, finish⟩ := finish a
    refine .cutOff (misses.behind front) ⟨missing' ++ missing, b, fun added rest kinds stops => ?_⟩
    obtain ⟨first, second, rfl, hfirst, hsecond⟩ := List.map_eq_append_iff.1 kinds
    obtain ⟨goesOn, done⟩ := finish second rest hsecond stops
    have taken := h first (second ++ rest) hfirst goesOn
    simp only [List.append_assoc] at taken ⊢
    rw [reads, taken]
    exact done

/-- The prospects of one function after the other, where the second one takes nothing of what may
follow. -/
lemma bind (front : List Token) (next : α → List Token → Except ParseError (β × List Token))
    (reads : ∀ us, read' (front ++ us) = (read us).bind fun p => next p.1 p.2)
    (h : Prospect read stop ts (read ts))
    (goesOn : ∀ a u rest, read ts = .ok (a, u :: rest) →
      Prospect (next a) stop' (u :: rest) (next a (u :: rest)))
    (finish : ∀ a, ∃ b, ∀ rest, stop' rest → stop rest ∧ next a rest = .ok (b, rest))
    (ends : stop' []) : Prospect read' stop' (front ++ ts) (read' (front ++ ts)) := by
  rw [reads]
  cases result : read ts with
  | error e =>
    rw [result] at h
    refine bind_error front next reads h [] fun a => ?_
    obtain ⟨b, finish⟩ := finish a
    refine ⟨b, fun added rest kinds stops => ?_⟩
    obtain rfl := List.map_eq_nil_iff.1 kinds
    exact finish rest stops
  | ok p =>
    obtain ⟨a, rest⟩ := p
    rw [result] at h
    cases rest with
    | nil =>
      cases h with
      | taken h =>
        obtain ⟨b, finish⟩ := finish a
        show Prospect read' stop' (front ++ ts) (next a [])
        rw [(finish [] ends).2]
        refine .taken fun rest stops => ?_
        obtain ⟨goesOn, done⟩ := finish rest stops
        rw [List.append_assoc, reads, h rest goesOn]
        exact done
    | cons u rest =>
      obtain ⟨used, rfl, same⟩ := h.of_left
      rw [← List.append_assoc]
      refine (goesOn a u rest result).behind fun others => ?_
      rw [List.append_assoc, reads, same]
      rfl

end

end Prospect

/-! ### The prospects of the readers -/

/-- Every outcome of the reader says what may follow. -/
def Reader.Foresees (r : Reader) (stop : List Token → Prop) : Prop :=
  ∀ ts, Prospect r.read stop ts (r.read ts)

namespace Reader

variable {stop : List Token → Prop}

/-- Where nothing may nest any more, every list of tokens is too deep, whatever follows. -/
lemma tooDeep_foresees : tooDeep.Foresees stop := fun _ => .tooDeep fun _ => rfl

/-- Between parentheses the partner is missing at the end, and what stands in its place is
refused. -/
lemma group_foresees {grouped : Reader} (h : grouped.Foresees Phrase.disjunction.StopsAt)
    {t : Token} (opens : t.kind = .openParen) (ts : List Token) :
    Prospect (operandOf grouped) Phrase.operand.StopsAt (t :: ts)
      (operandOf grouped (t :: ts)) := by
  have reads (us : List Token) : operandOf grouped ([t] ++ us) =
      (grouped.read us).bind fun p => close t.start p.1 p.2 := by
    rw [List.singleton_append, operandOf, if_pos opens]
    cases grouped.read us <;> rfl
  -- A closing parenthesis goes on with nothing, so what is read in front of it stays the same.
  have closed {added : List Token} (kinds : added.map Token.kind = [.closeParen]) (e : Expr)
      (rest : List Token) : Phrase.disjunction.StopsAt (added ++ rest) ∧
        close t.start e (added ++ rest) = .ok (e, rest) := by
    obtain ⟨c, ts', rfl, hc, hnil⟩ := List.map_eq_cons_iff.1 kinds
    obtain rfl := List.map_eq_nil_iff.1 hnil
    exact ⟨by simp [Phrase.StopsAt, notNext_cons, hc], if_pos hc⟩
  have inner := h ts
  rw [← List.singleton_append, reads]
  cases result : grouped.read ts with
  | error e =>
    rw [result] at inner
    exact Prospect.bind_error [t] (close t.start) reads inner [.closeParen] fun a =>
      ⟨a, fun _ rest kinds _ => closed kinds a rest⟩
  | ok p =>
    obtain ⟨e, rest⟩ := p
    rw [result] at inner
    show Prospect (operandOf grouped) _ _ (close t.start e rest)
    cases inner with
    | taken same =>
      refine .cutOff (.inr ⟨t, by simp, opens, rfl⟩) ⟨[.closeParen], e, ?_⟩
      intro added rest kinds _
      obtain ⟨stops, done⟩ := closed kinds e rest
      rw [List.append_assoc, List.append_assoc, reads, same _ stops]
      exact done
    | @left used c rest e same =>
      have seen (others : List Token) : operandOf grouped ([t] ++ used ++ c :: others) =
          close t.start e (c :: others) := by
        rw [List.append_assoc, reads, same]
        rfl
      rw [← List.append_assoc]
      by_cases closes : c.kind = .closeParen
      · rw [close, if_pos closes, List.append_cons]
        refine .exact _ fun others => ?_
        rw [← List.append_cons, seen]
        exact if_pos closes
      · rw [close, if_neg closes]
        exact .refused _ (.inr ⟨t, by simp, opens, rfl⟩) fun others =>
          (seen others).trans (if_neg closes)

/-- The reader of an operand foresees what may follow if the one inside parentheses does. -/
lemma operand_foresees {grouped : Reader} (h : grouped.Foresees Phrase.disjunction.StopsAt) :
    (operand grouped).Foresees Phrase.operand.StopsAt := by
  intro ts
  show Prospect (operandOf grouped) _ ts (operandOf grouped ts)
  cases ts with
  | nil =>
    -- Any literal may stand where the tokens end.
    have reads : (operand grouped).Reads Phrase.operand.StopsAt [.none] (.literal .null) :=
      operand_reads_leaf .none
    exact .cutOff (.inl rfl) ⟨[.none], .literal .null, fun _ _ kinds stops => reads kinds stops⟩
  | cons t ts =>
    by_cases opens : t.kind = .openParen
    · exact group_foresees h opens ts
    · rw [operandOf, if_neg opens]
      split
      next e leaf =>
        refine .exact [t] fun others => ?_
        rw [List.singleton_append, operandOf, if_neg opens, leaf]
      next none =>
        refine .refused [] (.inl rfl) fun others => ?_
        rw [List.nil_append, operandOf, if_neg opens, none]

/-- What stands behind the first side of a comparison, if it goes on with one. -/
def secondSide (side : Reader) (left : Expr) (rest : List Token) :
    Except ParseError (Expr × List Token) :=
  match rest with
  | [] => .ok (left, [])
  | t :: after =>
    match t.kind with
    | .compare op => (side.read after).bind fun p => .ok (.compare op left p.1, p.2)
    | _ => .ok (left, t :: after)

/-- A comparison is read as its first side and what stands behind it. -/
lemma comparisonOf_eq (side : Reader) (ts : List Token) :
    comparisonOf side ts = (side.read ts).bind fun p => secondSide side p.1 p.2 := by
  rw [comparisonOf]
  cases side.read ts with
  | error e => rfl
  | ok p =>
    obtain ⟨left, rest⟩ := p
    cases rest with
    | nil => rfl
    | cons t after =>
      simp only [Except.bind, secondSide]
      cases t.kind with
      | compare op => cases side.read after <;> rfl
      | _ => rfl

/-- Where no comparison goes on, the first side is all. -/
lemma secondSide_of_stops {side : Reader} {left : Expr} {rest : List Token}
    (stops : Phrase.comparison.StopsAt rest) : secondSide side left rest = .ok (left, rest) := by
  cases rest with
  | nil => rfl
  | cons t rest =>
    rw [secondSide]
    split
    next op kind => exact absurd kind (notNext_cons.1 (stops op))
    next => rfl

/-- The reader of a comparison foresees what may follow if the one of its sides does. -/
lemma comparison_foresees {side : Reader} (h : side.Foresees Phrase.operand.StopsAt) :
    (comparison side).Foresees Phrase.comparison.StopsAt := by
  intro ts
  refine Prospect.bind [] (secondSide side) (comparisonOf_eq side) (h ts) ?_ ?_
    (Phrase.stopsAt_nil .comparison)
  · intro left t rest _
    by_cases compares : ∃ op, t.kind = .compare op
    · obtain ⟨op, kind⟩ := compares
      have reads (us : List Token) : secondSide side left ([t] ++ us) =
          (side.read us).bind fun p => .ok (.compare op left p.1, p.2) := by
        rw [List.singleton_append, secondSide, kind]
      refine Prospect.bind [t] (fun right rest => .ok (.compare op left right, rest)) reads (h rest)
        ?_ ?_ (Phrase.stopsAt_nil .comparison)
      · exact fun _ _ _ _ => .handOn
      · exact fun right => ⟨_, fun _ _ => ⟨trivial, rfl⟩⟩
    · have stops (others : List Token) : Phrase.comparison.StopsAt (t :: others) := by
        intro op
        exact notNext_cons.2 fun kind => compares ⟨op, kind⟩
      rw [secondSide_of_stops (stops rest)]
      exact .left [] fun others => secondSide_of_stops (stops others)
  · exact fun left => ⟨left, fun rest stops => ⟨trivial, secondSide_of_stops stops⟩⟩

/-- The reader of a negation foresees what may follow if the readers of what it negates do. -/
lemma negation_foresees {negated grouped : Reader} (hn : negated.Foresees Phrase.negation.StopsAt)
    (hp : (comparison (operand grouped)).Foresees Phrase.comparison.StopsAt) :
    (negation negated (comparison (operand grouped))).Foresees Phrase.negation.StopsAt := by
  intro ts
  show Prospect (negationOf negated (comparison (operand grouped))) _ ts
    (negationOf negated (comparison (operand grouped)) ts)
  cases ts with
  | nil =>
    have reads : (negation negated (comparison (operand grouped))).Reads Phrase.comparison.StopsAt
        [.none] (.literal .null) :=
      negation_reads_plain (by simp) (comparison_reads_alone (operand_reads_leaf .none))
    exact .cutOff (.inl rfl) ⟨[.none], .literal .null, fun _ _ kinds stops => reads kinds stops⟩
  | cons t ts =>
    by_cases negates : t.kind = .not
    · have reads (us : List Token) :
          negationOf negated (comparison (operand grouped)) ([t] ++ us) =
            (negated.read us).bind fun p => .ok (.not p.1, p.2) := by
        rw [List.singleton_append, negationOf, if_pos negates]
        cases negated.read us <;> rfl
      refine Prospect.bind [t] (fun e rest => .ok (.not e, rest)) reads (hn ts) ?_ ?_
        (Phrase.stopsAt_nil .negation)
      · exact fun _ _ _ _ => .handOn
      · exact fun e => ⟨_, fun _ stops => ⟨stops, rfl⟩⟩
    · have same (others : List Token) :
          negationOf negated (comparison (operand grouped)) ([] ++ t :: others) =
            (comparison (operand grouped)).read (t :: others) := by
        rw [List.nil_append, negationOf, if_neg negates]
      have plainly := (hp (t :: ts)).behind same
      rwa [List.nil_append, ← same] at plainly

/-- Where no separator follows, a chain is complete. -/
lemma chainFrom_of_notNext {separator : TokenKind} {item : Reader} {terms : List Expr}
    {rest : List Token} (last : NotNext separator rest) :
    chainFrom separator item terms rest = .ok (terms.reverse, rest) := by
  cases rest with
  | nil => rw [chainFrom]
  | cons t rest => rw [chainFrom, if_neg (last t rfl)]

/-- The reader of further terms foresees what may follow if the one of a term does. -/
lemma chainFrom_foresees {separator : TokenKind} {item : Reader} (h : item.Foresees stop)
    (ends : stop []) (terms : List Expr) (ts : List Token) :
    Prospect (chainFrom separator item terms) (fun rest => NotNext separator rest ∧ stop rest) ts
      (chainFrom separator item terms ts) := by
  cases ts with
  | nil =>
    rw [chainFrom]
    exact .taken fun rest stops => chainFrom_of_notNext stops.1
  | cons t ts =>
    by_cases goesOn : t.kind = separator
    · have reads (us : List Token) : chainFrom separator item terms ([t] ++ us) =
          (item.read us).bind fun p => chainFrom separator item (p.1 :: terms) p.2 := by
        rw [List.singleton_append, chainFrom, if_pos goesOn]
        split
        next failed => rw [failed]; rfl
        next taken => rw [taken]; rfl
      refine Prospect.bind [t] (fun e => chainFrom separator item (e :: terms)) reads (h ts) ?_ ?_
        ⟨by simp [NotNext], ends⟩
      · intro e u rest taken
        have shorter := item.progress taken
        exact chainFrom_foresees h ends (e :: terms) (u :: rest)
      · exact fun e => ⟨_, fun rest stops => ⟨stops.2, chainFrom_of_notNext stops.1⟩⟩
    · have last (others : List Token) : NotNext separator (t :: others) := notNext_cons.2 goesOn
      rw [chainFrom_of_notNext (last ts)]
      exact .left [] fun others => chainFrom_of_notNext (last others)
termination_by ts.length
decreasing_by
  simp only [List.length_cons] at shorter ⊢
  omega

/-- What stands behind the first term of a chain. -/
def furtherTerms (separator : TokenKind) (connective : List Expr → Expr) (item : Reader)
    (first : Expr) (ts : List Token) : Except ParseError (Expr × List Token) :=
  (chainFrom separator item [first] ts).bind fun p => .ok (Expr.chain connective p.1, p.2)

/-- A chain is read as its first term and what stands behind it. -/
lemma chainOf_eq (separator : TokenKind) (connective : List Expr → Expr) (item : Reader)
    (ts : List Token) :
    chainOf separator connective item ts =
      (item.read ts).bind fun p => furtherTerms separator connective item p.1 p.2 := by
  rw [chainOf]
  cases item.read ts with
  | error e => rfl
  | ok p =>
    simp only [Except.bind, furtherTerms]
    cases chainFrom separator item [p.1] p.2 <;> rfl

/-- The reader of a chain foresees what may follow if the one of a term does. -/
lemma chain_foresees {separator : TokenKind} {connective : List Expr → Expr} {item : Reader}
    (h : item.Foresees stop) (ends : stop []) :
    (chain separator connective item).Foresees fun rest => NotNext separator rest ∧ stop rest := by
  have last : NotNext separator [] := by simp [NotNext]
  intro ts
  refine Prospect.bind [] (furtherTerms separator connective item)
    (chainOf_eq separator connective item) (h ts) ?_ ?_ ⟨last, ends⟩
  · intro first u rest _
    refine Prospect.bind [] (fun terms rest => .ok (Expr.chain connective terms, rest))
      (fun _ => rfl) (chainFrom_foresees h ends [first] (u :: rest)) ?_ ?_ ⟨last, ends⟩
    · exact fun _ _ _ _ => .handOn
    · exact fun terms => ⟨_, fun _ stops => ⟨stops, rfl⟩⟩
  · intro first
    refine ⟨Expr.chain connective [first], fun rest stops => ⟨stops.2, ?_⟩⟩
    rw [furtherTerms, chainFrom_of_notNext stops.1]
    rfl

end Reader

/-- Whatever a reader makes of some tokens, it says what may follow them. -/
theorem Phrase.reader_foresees (p : Phrase) (depth : Nat) :
    (p.reader depth).Foresees p.StopsAt := by
  have chains : ∀ {item : Reader}, item.Foresees negation.StopsAt →
      (Reader.chain .and .and item).Foresees conjunction.StopsAt ∧
        (Reader.chains item).Foresees disjunction.StopsAt := by
    intro item h
    have conjuncts : (Reader.chain .and .and item).Foresees conjunction.StopsAt :=
      Reader.chain_foresees h (stopsAt_nil negation)
    exact ⟨conjuncts, Reader.chain_foresees conjuncts (stopsAt_nil conjunction)⟩
  -- Whatever nests in a term is a term or an expression of the next depth, so terms come first.
  have term : ∀ depth, (Reader.term depth).Foresees negation.StopsAt := by
    intro depth
    induction depth with
    | zero =>
      exact Reader.negation_foresees Reader.tooDeep_foresees
        (Reader.comparison_foresees (Reader.operand_foresees Reader.tooDeep_foresees))
    | succ depth ih =>
      exact Reader.negation_foresees ih
        (Reader.comparison_foresees (Reader.operand_foresees (chains ih).2))
  have operand : (Reader.operand (grouped depth)).Foresees operand.StopsAt := by
    cases depth with
    | zero => exact Reader.operand_foresees Reader.tooDeep_foresees
    | succ depth => exact Reader.operand_foresees (chains (term depth)).2
  cases p with
  | disjunction => exact (chains (term depth)).2
  | conjunction => exact (chains (term depth)).1
  | negation => exact term depth
  | comparison => exact Reader.comparison_foresees operand
  | operand => exact operand

/-! ### Errors of whole lists of tokens -/

/-- The error speaks of the token: an operand was expected in its place, or nothing at all. -/
def ParseError.Blames (e : ParseError) (t : Token) : Prop :=
  e = .expectedOperand t.kind t.start ∨
    (e = .trailingInput t.kind t.start ∧ t.kind ≠ .closeParen) ∨
    (e = .unbalancedParen t.start ∧ t.kind = .closeParen)

/-- How tokens fail to be an expression. -/
inductive Rejected : List Token → ParseError → Prop where
  /-- They fail at a token, and with it whatever stands behind it. -/
  | refused (used : List Token) {t rest e} :
    e.Blames t ∨ (∃ o ∈ used, o.kind = .openParen ∧ e = .unbalancedParen o.start) →
    (∀ others, Expr.ofTokens (used ++ t :: others) = .error e) →
    Rejected (used ++ t :: rest) e
  /-- They nest too deep, and so does whatever begins like them. -/
  | tooDeep {ts} : (∀ others, Expr.ofTokens (ts ++ others) = .error .tooDeep) → Rejected ts .tooDeep
  /-- They are an expression once tokens of some kinds are added. -/
  | cutOff {ts e} :
    e.Misses ts →
    (∃ missing a, ∀ added, added.map Token.kind = missing → Expr.ofTokens (ts ++ added) = .ok a) →
    Rejected ts e

/-- Where the reader of an expression fails, all of the tokens fail with its error. -/
lemma Expr.ofTokens_of_read_error {ts : List Token} {e : ParseError}
    (h : (Reader.expression maxDepth).read ts = .error e) : ofTokens ts = .error e := by
  rw [ofTokens, h]

/-- There are no other ways to fail than these. -/
theorem Expr.rejected_of_ofTokens {ts : List Token} {e : ParseError} (h : ofTokens ts = .error e) :
    Rejected ts e := by
  have prospect := Phrase.disjunction.reader_foresees maxDepth ts
  change Prospect (Reader.expression maxDepth).read _ ts ((Reader.expression maxDepth).read ts)
    at prospect
  rw [ofTokens] at h
  generalize (Reader.expression maxDepth).read ts = result at prospect h
  cases prospect with
  | taken => cases h
  | @left used t rest a same =>
    have blames : e.Blames t := by
      simp only at h
      split at h
      next kind => cases h; exact .inr (.inr ⟨rfl, kind⟩)
      next kind => cases h; exact .inr (.inl ⟨rfl, kind⟩)
    refine .refused _ (.inl blames) fun others => ?_
    rw [ofTokens, same]
    exact h
  | refused used refuses same =>
    cases h
    exact .refused _ (refuses.imp_left .inl) fun others => ofTokens_of_read_error (same others)
  | tooDeep same =>
    cases h
    exact .tooDeep fun others => ofTokens_of_read_error (same others)
  | cutOff misses completes =>
    cases h
    obtain ⟨missing, a, completes⟩ := completes
    refine .cutOff misses ⟨missing, a, fun added kinds => ?_⟩
    have read := completes added [] kinds (Phrase.stopsAt_nil .disjunction)
    rw [List.append_nil] at read
    rw [ofTokens, read]

/-! ### Tokens in their places -/

namespace Token

/-- Each token stands behind those before it. -/
def InOrder (ts : List Token) : Prop := ts.Pairwise fun t u => t.start < u.start

/-- Tokens of the given kinds at places from `offset` on. -/
def placed (offset : Nat) : List TokenKind → List Token
  | [] => []
  | kind :: kinds => ⟨kind, offset, offset + 1⟩ :: placed (offset + 1) kinds

lemma map_kind_placed (offset : Nat) (kinds : List TokenKind) :
    (placed offset kinds).map kind = kinds := by
  induction kinds generalizing offset with
  | nil => rfl
  | cons kind kinds ih => rw [placed, List.map_cons, ih]

/-- Placed tokens start at the offset or behind it. -/
lemma le_start_of_mem_placed {offset : Nat} {kinds : List TokenKind} {t : Token}
    (h : t ∈ placed offset kinds) : offset ≤ t.start := by
  induction kinds generalizing offset with
  | nil => cases h
  | cons kind kinds ih =>
    rcases List.mem_cons.1 h with rfl | h
    · exact Nat.le_refl _
    · exact Nat.le_of_succ_le (ih h)

/-- Placed tokens stand one behind the other. -/
lemma inOrder_placed (offset : Nat) (kinds : List TokenKind) : InOrder (placed offset kinds) := by
  induction kinds generalizing offset with
  | nil => exact .nil
  | cons kind kinds ih =>
    exact List.pairwise_cons.2 ⟨fun _ h => le_start_of_mem_placed h, ih (offset + 1)⟩

/-- Behind any tokens there is room for more. -/
lemma exists_placed {ts : List Token} (order : InOrder ts) (kinds : List TokenKind) :
    ∃ added, added.map kind = kinds ∧ InOrder (ts ++ added) := by
  obtain ⟨offset, behind⟩ : ∃ offset, ∀ t ∈ ts, t.start < offset := by
    refine ⟨(ts.map start).sum + 1, fun t h => Nat.lt_succ_of_le ?_⟩
    exact List.single_le_sum (by simp) _ (List.mem_map_of_mem h)
  refine ⟨placed offset kinds, map_kind_placed offset kinds, ?_⟩
  refine List.pairwise_append.2 ⟨order, inOrder_placed offset kinds, fun t ht u hu => ?_⟩
  exact Nat.lt_of_lt_of_le (behind t ht) (le_start_of_mem_placed hu)

/-- The place of a token says which one it is. -/
lemma InOrder.index_eq {ts : List Token} (order : InOrder ts) {i j : Nat} {t u : Token}
    (ht : ts[i]? = some t) (hu : ts[j]? = some u) (same : t.start = u.start) : i = j := by
  obtain ⟨hi, rfl⟩ := List.getElem?_eq_some_iff.1 ht
  obtain ⟨hj, rfl⟩ := List.getElem?_eq_some_iff.1 hu
  have before := List.pairwise_iff_getElem.1 order
  rcases Nat.lt_trichotomy i j with lt | eq | lt
  · exact absurd same (Nat.ne_of_lt (before i j hi hj lt))
  · exact eq
  · exact absurd same.symm (Nat.ne_of_lt (before j i hj hi lt))

/-- Of tokens in order no two start in the same place. -/
lemma InOrder.eq_of_start_eq {ts : List Token} (order : InOrder ts) {t u : Token} (ht : t ∈ ts)
    (hu : u ∈ ts) (same : t.start = u.start) : t = u := by
  obtain ⟨i, hi⟩ := List.mem_iff_getElem?.1 ht
  obtain ⟨j, hj⟩ := List.mem_iff_getElem?.1 hu
  rw [order.index_eq hi hj same, hj] at hi
  exact (Option.some.inj hi).symm

end Token

/-- An error that speaks of a place speaks of a token's place. -/
lemma Rejected.exists_start {ts : List Token} {e : ParseError} (h : Rejected ts e) {offset : Nat}
    (he : e.offset? = some offset) : ∃ t ∈ ts, t.start = offset := by
  have opened {o : Token} {ts : List Token} (mem : o ∈ ts)
      (he : (ParseError.unbalancedParen o.start).offset? = some offset) :
      ∃ t ∈ ts, t.start = offset := ⟨o, mem, Option.some.inj he⟩
  cases h with
  | @refused used t rest _ cause =>
    rcases cause with (rfl | ⟨rfl, -⟩ | ⟨rfl, -⟩) | ⟨o, mem, -, rfl⟩
    · exact ⟨t, by simp, Option.some.inj he⟩
    · exact ⟨t, by simp, Option.some.inj he⟩
    · exact ⟨t, by simp, Option.some.inj he⟩
    · exact opened (List.mem_append_left _ mem) he
  | tooDeep => cases he
  | cutOff misses =>
    rcases misses with rfl | ⟨o, mem, -, rfl⟩
    · cases he
    · exact opened mem he

/-- An error about a token was found without a look behind that token. -/
lemma Rejected.seen_through {ts : List Token} {e : ParseError} (h : Rejected ts e)
    (order : Token.InOrder ts) {i : Nat} {t : Token} {found : TokenKind} (ht : ts[i]? = some t)
    (blamed : e = .expectedOperand found t.start ∨ e = .trailingInput found t.start ∨
      (e = .unbalancedParen t.start ∧ t.kind = .closeParen)) (others : List Token) :
    Expr.ofTokens (ts.take i ++ t :: others) = .error e := by
  have he : e.offset? = some t.start := by
    rcases blamed with rfl | rfl | ⟨rfl, -⟩ <;> rfl
  -- No parenthesis that opens is blamed, since it would be the token itself.
  have notOpened : ¬ ∃ o ∈ ts, o.kind = .openParen ∧ e = .unbalancedParen o.start := by
    rintro ⟨o, mem, opens, rfl⟩
    obtain rfl := order.eq_of_start_eq mem (List.mem_of_getElem? ht) (Option.some.inj he)
    rcases blamed with blamed | blamed | ⟨-, closes⟩
    · cases blamed
    · cases blamed
    · rw [opens] at closes
      cases closes
  cases h with
  | @refused used u rest _ cause seen =>
    have blames : e.Blames u := by
      rcases cause with blames | ⟨o, mem, opened⟩
      · exact blames
      · exact absurd ⟨o, List.mem_append_left _ mem, opened⟩ notOpened
    have same : t.start = u.start := by
      rcases blames with rfl | ⟨rfl, -⟩ | ⟨rfl, -⟩ <;> exact (Option.some.inj he).symm
    have hu : (used ++ u :: rest)[used.length]? = some u := by simp
    obtain rfl := order.index_eq ht hu same
    rw [hu] at ht
    obtain rfl := Option.some.inj ht
    rw [List.take_left]
    exact seen others
  | tooDeep => cases he
  | cutOff misses =>
    rcases misses with rfl | opened
    · cases he
    · exact absurd opened notOpened

/-! ### Which tokens are hopeless -/

namespace Expr

/-- The tokens make up an expression. -/
def Accepts (ts : List Token) : Prop := ∃ e, ofTokens ts = .ok e

/-- The tokens make up an expression with others behind them. -/
def Begins (ts : List Token) : Prop :=
  ∃ others, Token.InOrder (ts ++ others) ∧ Accepts (ts ++ others)

variable {ts : List Token} {e : ParseError}

/-- Tokens that fail are not an expression. -/
lemma not_accepts (h : ofTokens ts = .error e) : ¬ Accepts ts := by
  rintro ⟨a, accepted⟩
  rw [h] at accepted
  cases accepted

/-- Tokens in order that can be completed by some kinds of tokens begin an expression. -/
lemma begins_of_completes (order : Token.InOrder ts)
    (h : ∃ missing a, ∀ added, added.map Token.kind = missing → ofTokens (ts ++ added) = .ok a) :
    Begins ts := by
  obtain ⟨missing, a, completes⟩ := h
  obtain ⟨added, kinds, inOrder⟩ := Token.exists_placed order missing
  exact ⟨added, inOrder, a, completes added kinds⟩

/-- In front of the token that an error blames nothing is wrong. -/
lemma begins_of_blamed {used rest : List Token} {t : Token}
    (order : Token.InOrder (used ++ t :: rest)) (he : e.offset? = some t.start)
    (seen : ∀ others, ofTokens (used ++ t :: others) = .error e) : Begins used := by
  obtain ⟨order', -, before⟩ := List.pairwise_append.1 order
  cases result : ofTokens used with
  | ok a =>
    rw [← List.append_nil used] at order' result
    exact ⟨[], order', a, result⟩
  | error x =>
    have rejected := rejected_of_ofTokens result
    -- An error of the tokens in front of `t` that stays with them would blame one of them.
    have other : x ≠ e := by
      rintro rfl
      obtain ⟨u, mem, same⟩ := rejected.exists_start he
      exact Nat.ne_of_lt (before u mem t (by simp)) same
    cases rejected with
    | @refused used' u rest' _ _ same =>
      have blamed := same (rest' ++ t :: rest)
      rw [← List.cons_append, ← List.append_assoc, seen] at blamed
      exact absurd (Except.error.inj blamed).symm other
    | tooDeep same =>
      have blamed := same (t :: rest)
      rw [seen] at blamed
      exact absurd (Except.error.inj blamed).symm other
    | cutOff _ completes => exact begins_of_completes order' completes

/-- Where reading tokens fails, the error says what may follow.  If an operand was expected in the
place of a token, if the token is left over, or if it is a closing parenthesis without a partner,
then the tokens in front of it begin an expression, and no tokens do that go on with it.  Tokens
that nest too deep begin no expression, and tokens that end too early begin one. -/
theorem error_blames_first_hopeless (order : Token.InOrder ts) (h : ofTokens ts = .error e) :
    (∀ i t found, ts[i]? = some t →
      (e = .expectedOperand found t.start ∨ e = .trailingInput found t.start ∨
        (e = .unbalancedParen t.start ∧ t.kind = .closeParen)) →
      Begins (ts.take i) ∧ ∀ others, ¬ Accepts (ts.take (i + 1) ++ others)) ∧
    (∀ offset, e.offset? = some offset → ∃ t ∈ ts, t.start = offset) ∧
    (e = .tooDeep → ∀ others, ¬ Accepts (ts ++ others)) ∧
    (e = .unexpectedEnd → Begins ts) := by
  have rejected := rejected_of_ofTokens h
  refine ⟨?_, fun offset => rejected.exists_start, ?_, ?_⟩
  · intro i t found ht blamed
    have he : e.offset? = some t.start := by
      rcases blamed with rfl | rfl | ⟨rfl, -⟩ <;> rfl
    have seen := rejected.seen_through order ht blamed
    obtain ⟨hi, rfl⟩ := List.getElem?_eq_some_iff.1 ht
    have parts : ts.take i ++ ts[i] :: ts.drop (i + 1) = ts := by
      rw [← List.drop_eq_getElem_cons hi, List.take_append_drop]
    refine ⟨begins_of_blamed (parts ▸ order) he seen, fun others => ?_⟩
    rw [List.take_succ_eq_append_getElem hi, List.append_assoc]
    exact not_accepts (seen others)
  · rintro rfl others
    cases rejected with
    | refused _ cause => simp [ParseError.Blames] at cause
    | tooDeep seen => exact not_accepts (seen others)
    | cutOff misses => simp [ParseError.Misses] at misses
  · rintro rfl
    cases rejected with
    | refused _ cause => simp [ParseError.Blames] at cause
    | cutOff _ completes => exact begins_of_completes order completes

/-- In `({a} > and` the fourth token is hopeless, and the three before it are not. -/
theorem error_blames_first_hopeless_and :
    Begins [⟨.openParen, 0, 1⟩, ⟨.field "a", 1, 4⟩, ⟨.compare .gt, 5, 6⟩] ∧
      ∀ others, ¬ Accepts ([⟨.openParen, 0, 1⟩, ⟨.field "a", 1, 4⟩, ⟨.compare .gt, 5, 6⟩,
        ⟨.and, 7, 10⟩] ++ others) := by
  have order : Token.InOrder [⟨.openParen, 0, 1⟩, ⟨.field "a", 1, 4⟩, ⟨.compare .gt, 5, 6⟩,
      ⟨.and, 7, 10⟩] := by
    simp [Token.InOrder]
  have failed : ofTokens [⟨.openParen, 0, 1⟩, ⟨.field "a", 1, 4⟩, ⟨.compare .gt, 5, 6⟩,
      ⟨.and, 7, 10⟩] = .error (.expectedOperand .and 7) := by
    cbv
  exact (error_blames_first_hopeless order failed).1 3 ⟨.and, 7, 10⟩ .and rfl (.inl rfl)

end Expr

end LoanDesk
