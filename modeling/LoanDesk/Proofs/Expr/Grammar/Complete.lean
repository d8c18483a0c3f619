import LoanDesk.Proofs.Expr.Grammar
import LoanDesk.Proofs.Expr.Lexing

/-!
# Reading is what the grammar says

Reading is complete for the grammar: what is derived is read wherever no token follows that would
go on with the phrase (`Derives.reads`).  With soundness, the tokens of a source are read exactly as
they are derived (`Expr.ofTokens_eq_ok`), and since readers are functions no list of tokens is
derived for two expressions (`Derives.unique`).
-/

namespace LoanDesk

/-! ### Whatever is derived is read -/

/-- A reader takes tokens of these kinds off the front of a list as the expression, wherever they
may stop. -/
def Reader.Reads (r : Reader) (stop : List Token → Prop) (kinds : List TokenKind) (e : Expr) :
    Prop :=
  ∀ ⦃ts rest⦄, ts.map Token.kind = kinds → stop rest → r.read (ts ++ rest) = .ok (e, rest)

/-- The next token is not of this kind. -/
def NotNext (kind : TokenKind) (rest : List Token) : Prop := ∀ t ∈ rest.head?, t.kind ≠ kind

/-- No token of `rest` goes on with a phrase that stands before it. -/
def Phrase.StopsAt : Phrase → List Token → Prop
  | disjunction, rest => NotNext .or rest ∧ NotNext .and rest ∧ ∀ op, NotNext (.compare op) rest
  | conjunction, rest => NotNext .and rest ∧ ∀ op, NotNext (.compare op) rest
  | negation, rest => ∀ op, NotNext (.compare op) rest
  | comparison, rest => ∀ op, NotNext (.compare op) rest
  | operand, _ => True

/-- A kind is not next if the first token is of another kind. -/
lemma notNext_cons {kind : TokenKind} {t : Token} {rest : List Token} :
    NotNext kind (t :: rest) ↔ t.kind ≠ kind := by
  simp [NotNext]

/-- At the end of the tokens every phrase may stop. -/
lemma Phrase.stopsAt_nil (p : Phrase) : p.StopsAt [] := by
  cases p <;> simp [StopsAt, NotNext]

/-- Comparisons and operands do not start with a negation. -/
lemma Derives.head {p : Phrase} {depth : Nat} {kinds : List TokenKind} {e : Expr}
    (h : Derives p depth kinds e) (hp : p = .comparison ∨ p = .operand) :
    ∃ kind others, kinds = kind :: others ∧ kind ≠ .not := by
  have operand : ∀ {kinds e}, Derives .operand depth kinds e →
      ∃ kind others, kinds = kind :: others ∧ kind ≠ .not := by
    intro kinds e h
    cases h with
    | group => exact ⟨_, _, List.cons_append .., by simp⟩
    | leaf hl => exact ⟨_, _, rfl, by cases hl <;> simp⟩
  rcases hp with rfl | rfl
  · cases h with
    | compare hl _ =>
      obtain ⟨kind, others, rfl, ne⟩ := operand hl
      exact ⟨kind, _, List.cons_append .., ne⟩
    | alone ho => exact operand ho
  · exact operand h

namespace Reader

variable {stop : List Token → Prop}

/-- An operand of one token is read as its expression. -/
lemma operand_reads_leaf {grouped : Reader} {kind : TokenKind} {e : Expr} (h : Leaf kind e) :
    (operand grouped).Reads stop [kind] e := by
  intro ts rest hts _
  obtain ⟨t, ts', rfl, rfl, hnil⟩ := List.map_eq_cons_iff.1 hts
  obtain rfl := List.map_eq_nil_iff.1 hnil
  -- No leaf is a parenthesis, so the reader looks for a leaf.
  have ne : t.kind ≠ .openParen := by
    intro ho
    rw [ho] at h
    cases h
  show operandOf grouped (t :: rest) = _
  rw [operandOf, if_neg ne, leaf?_eq_some.2 h]

/-- An expression between parentheses is read as an operand. -/
lemma operand_reads_group {grouped : Reader} {kinds : List TokenKind} {e : Expr}
    (h : grouped.Reads Phrase.disjunction.StopsAt kinds e) :
    (operand grouped).Reads stop (.openParen :: kinds ++ [.closeParen]) e := by
  intro ts rest hts _
  obtain ⟨inner, last, rfl, hinner, hlast⟩ := List.map_eq_append_iff.1 hts
  obtain ⟨t, used, rfl, ht, hused⟩ := List.map_eq_cons_iff.1 hinner
  obtain ⟨c, ts', rfl, hc, hnil⟩ := List.map_eq_cons_iff.1 hlast
  obtain rfl := List.map_eq_nil_iff.1 hnil
  -- The closing parenthesis goes on with nothing, so the inner expression is read up to it.
  have stops : Phrase.disjunction.StopsAt (c :: rest) := by
    simp [Phrase.StopsAt, notNext_cons, hc]
  show operandOf grouped (t :: used ++ [c] ++ rest) = _
  rw [List.append_assoc, List.singleton_append, List.cons_append, operandOf, if_pos ht,
    h hused stops]
  simp only [close, hc, if_true]

/-- An operand that no comparison follows is read as it stands. -/
lemma comparison_reads_alone {side : Reader} {kinds : List TokenKind} {e : Expr}
    (h : side.Reads Phrase.operand.StopsAt kinds e) :
    (comparison side).Reads Phrase.comparison.StopsAt kinds e := by
  intro ts rest hts stops
  show comparisonOf side (ts ++ rest) = _
  rw [comparisonOf, h hts trivial]
  cases rest with
  | nil => rfl
  | cons t rest =>
    simp only
    split
    next op hop => exact absurd hop (notNext_cons.1 (stops op))
    next => rfl

/-- A comparison ends after its second side, whatever follows. -/
lemma comparison_reads_compare {side : Reader} {left right : List TokenKind} {a b : Expr}
    {op : Comparison} (hl : side.Reads Phrase.operand.StopsAt left a)
    (hr : side.Reads Phrase.operand.StopsAt right b) :
    (comparison side).Reads stop (left ++ .compare op :: right) (.compare op a b) := by
  intro ts rest hts _
  obtain ⟨first, others, rfl, hfirst, hothers⟩ := List.map_eq_append_iff.1 hts
  obtain ⟨t, second, rfl, ht, hsecond⟩ := List.map_eq_cons_iff.1 hothers
  show comparisonOf side (first ++ t :: second ++ rest) = _
  rw [comparisonOf, List.append_assoc, List.cons_append, hl hfirst trivial]
  simp only [ht, hr hsecond trivial]

/-- What stands behind `not` is read and negated. -/
lemma negation_reads_not {negated plain : Reader} {kinds : List TokenKind} {e : Expr}
    (h : negated.Reads stop kinds e) :
    (negation negated plain).Reads stop (.not :: kinds) (.not e) := by
  intro ts rest hts stops
  obtain ⟨t, used, rfl, ht, hused⟩ := List.map_eq_cons_iff.1 hts
  show negationOf negated plain (t :: (used ++ rest)) = _
  rw [negationOf, if_pos ht, h hused stops]

/-- What does not begin with `not` is read as it stands. -/
lemma negation_reads_plain {negated plain : Reader} {kind : TokenKind} {kinds : List TokenKind}
    {e : Expr} (ne : kind ≠ .not) (h : plain.Reads stop (kind :: kinds) e) :
    (negation negated plain).Reads stop (kind :: kinds) e := by
  intro ts rest hts stops
  have read := h hts stops
  obtain ⟨t, used, rfl, rfl, hused⟩ := List.map_eq_cons_iff.1 hts
  show negationOf negated plain (t :: (used ++ rest)) = _
  rw [negationOf, if_neg ne]
  exact read

/-- In front of further terms stands a separator, and a term may stop there. -/
lemma stops_before_terms {separator : TokenKind} {terms : List (List TokenKind × Expr)}
    (free : ∀ {t rest}, t.kind = separator → stop (t :: rest)) {ts rest : List Token}
    (hts : ts.map Token.kind = terms.flatMap (separator :: ·.1)) (stops : stop rest) :
    stop (ts ++ rest) := by
  cases ts with
  | nil => exact stops
  | cons t ts =>
    cases terms with
    | nil => cases hts
    | cons term terms => exact free (List.cons.inj hts).1

/-- Further terms are read up to a place where a term may stop and no separator stands. -/
lemma chainFrom_reads {separator : TokenKind} {item : Reader}
    {terms : List (List TokenKind × Expr)} (h : ∀ term ∈ terms, item.Reads stop term.1 term.2)
    (free : ∀ {t rest}, t.kind = separator → stop (t :: rest)) {rest : List Token}
    (stops : stop rest) (last : NotNext separator rest) {ts : List Token}
    (hts : ts.map Token.kind = terms.flatMap (separator :: ·.1)) (done : List Expr) :
    chainFrom separator item done (ts ++ rest) =
      .ok (done.reverse ++ terms.map Prod.snd, rest) := by
  induction terms generalizing ts done with
  | nil =>
    obtain rfl := List.map_eq_nil_iff.1 hts
    rw [List.nil_append, List.map_nil, List.append_nil]
    cases rest with
    | nil => rw [chainFrom]
    | cons t rest => rw [chainFrom, if_neg (last t rfl)]
  | cons term terms ih =>
    rw [List.flatMap_cons, List.cons_append] at hts
    obtain ⟨t, ts', rfl, ht, hts'⟩ := List.map_eq_cons_iff.1 hts
    obtain ⟨used, others, rfl, hused, hothers⟩ := List.map_eq_append_iff.1 hts'
    -- The next term is followed by a separator or by `rest`, and may stop at both.
    have read := h term (by simp) hused (stops_before_terms free hothers stops)
    rw [List.cons_append, List.append_assoc, chainFrom, if_pos ht]
    split
    next hi => rw [read] at hi; cases hi
    next e after hi =>
      rw [read] at hi
      cases hi
      rw [ih (fun term hterm => h term (List.mem_cons_of_mem _ hterm)) hothers]
      simp

/-- Terms with separators between them are read as their chain. -/
lemma chain_reads {separator : TokenKind} {connective : List Expr → Expr} {item : Reader}
    {terms : List (List TokenKind × Expr)} (ne : terms ≠ [])
    (h : ∀ term ∈ terms, item.Reads stop term.1 term.2)
    (free : ∀ {t rest}, t.kind = separator → stop (t :: rest)) :
    (chain separator connective item).Reads (fun rest => NotNext separator rest ∧ stop rest)
      ([separator].intercalate (terms.map Prod.fst)) (.chain connective (terms.map Prod.snd)) := by
  intro ts rest hts ⟨last, stops⟩
  obtain ⟨first, others, rfl⟩ := List.exists_cons_of_ne_nil ne
  rw [List.map_cons, intercalate_cons, List.flatMap_map] at hts
  obtain ⟨used, ts', rfl, hused, hts'⟩ := List.map_eq_append_iff.1 hts
  show chainOf separator connective item (used ++ ts' ++ rest) = _
  rw [chainOf, List.append_assoc,
    h first (by simp) hused (stops_before_terms free hts' stops)]
  simp only
  rw [chainFrom_reads (fun term hterm => h term (List.mem_cons_of_mem _ hterm)) free stops last
    hts' [first.2]]
  rfl

/-- A chain of one term is read wherever the term may stop and no separator stands. -/
lemma chain_reads_single {separator : TokenKind} {connective : List Expr → Expr} {item : Reader}
    {kinds : List TokenKind} {e : Expr} (h : item.Reads stop kinds e)
    (free : ∀ {t rest}, t.kind = separator → stop (t :: rest)) :
    (chain separator connective item).Reads (fun rest => NotNext separator rest ∧ stop rest)
      kinds e := by
  have one : ∀ term ∈ [(kinds, e)], item.Reads stop term.1 term.2 := by simpa using h
  have read : (chain separator connective item).Reads _ _ _ := chain_reads (by simp) one free
  simpa [Expr.chain] using read

end Reader

namespace Phrase

/-- A negation without a `not` is read as the comparison that it is. -/
lemma negation_reads {stop : List Token → Prop} {depth : Nat} {kinds : List TokenKind} {e : Expr}
    (h : Derives .comparison depth kinds e) (hr : (reader .comparison depth).Reads stop kinds e) :
    (reader .negation depth).Reads stop kinds e := by
  obtain ⟨kind, others, rfl, ne⟩ := h.head (.inl rfl)
  cases depth with
  | zero => exact Reader.negation_reads_plain ne hr
  | succ depth => exact Reader.negation_reads_plain ne hr

end Phrase

/-- Whatever is derived is read, wherever no token goes on with the phrase. -/
theorem Derives.reads {p : Phrase} {depth : Nat} {kinds : List TokenKind} {e : Expr}
    (h : Derives p depth kinds e) : (p.reader depth).Reads p.StopsAt kinds e := by
  induction h with
  | disjunction ne _ ih =>
    refine Reader.chain_reads ne ih fun {t rest} ht => ?_
    simp [notNext_cons, ht]
  | conjunction ne _ ih =>
    refine Reader.chain_reads ne ih fun {t rest} ht => ?_
    simp [notNext_cons, ht]
  | not _ ih => exact Reader.negation_reads_not ih
  | plain hd ih => exact Phrase.negation_reads hd ih
  | compare _ _ ihl ihr => exact Reader.comparison_reads_compare ihl ihr
  | alone _ ih => exact Reader.comparison_reads_alone ih
  | group _ ih => exact Reader.operand_reads_group ih
  | leaf hl => exact Reader.operand_reads_leaf hl

/-! ### Reading a whole source -/

/-- The tokens make up an expression exactly if the grammar derives it from them. -/
theorem Expr.ofTokens_eq_ok {ts : List Token} {e : Expr} :
    Expr.ofTokens ts = .ok e ↔ Derives .disjunction maxDepth (ts.map Token.kind) e := by
  constructor
  · intro h
    rw [ofTokens] at h
    split at h
    next => cases h
    next e' hread =>
      cases h
      obtain ⟨used, rfl, hd⟩ := Phrase.reader_sound .disjunction maxDepth hread
      rw [List.append_nil]
      exact hd
    next => split at h <;> cases h
  · intro h
    have read : (Reader.expression maxDepth).read (ts ++ []) = .ok (e, []) :=
      h.reads rfl (Phrase.stopsAt_nil _)
    rw [List.append_nil] at read
    rw [ofTokens, read]

/-- Tokens of the given kinds. -/
def Token.ofKinds (kinds : List TokenKind) : List Token := kinds.map fun kind => ⟨kind, 0, 0⟩

lemma Token.kind_ofKinds (kinds : List TokenKind) :
    (Token.ofKinds kinds).map Token.kind = kinds := by
  simp [ofKinds, Function.comp_def]

/-- A list of tokens is a phrase for at most one expression, however deep it nests. -/
theorem Derives.unique {p : Phrase} {m n : Nat} {kinds : List TokenKind} {e e' : Expr}
    (h : Derives p m kinds e) (h' : Derives p n kinds e') : e = e' := by
  -- Both phrases are read by the reader of the greater depth, and a reader is a function.
  have read := (h.mono (Nat.le_max_left m n)).reads (Token.kind_ofKinds kinds) p.stopsAt_nil
  have read' := (h'.mono (Nat.le_max_right m n)).reads (Token.kind_ofKinds kinds) p.stopsAt_nil
  rw [read] at read'
  cases read'
  rfl

/-- A phrase has at least one token, since a reader always takes one. -/
lemma Derives.ne_nil {p : Phrase} {depth : Nat} {kinds : List TokenKind} {e : Expr}
    (h : Derives p depth kinds e) : kinds ≠ [] := by
  rintro rfl
  have progress := (p.reader depth).progress (h.reads List.map_nil p.stopsAt_nil)
  cases progress

/-- A source is read as an expression exactly if the grammar derives the expression from the tokens
of the source. -/
theorem Expr.parse_eq_ok_iff {source : String} {e : Expr} :
    Expr.parse source = .ok e ↔
      ∃ ts, tokenize source = .ok ts ∧ Derives .disjunction maxDepth (ts.map Token.kind) e := by
  rw [Expr.parse_eq_ok]
  constructor
  · rintro ⟨ts, tokens, -, hread⟩
    exact ⟨ts, tokens, Expr.ofTokens_eq_ok.1 hread⟩
  · rintro ⟨ts, tokens, derived⟩
    refine ⟨ts, tokens, ?_, Expr.ofTokens_eq_ok.2 derived⟩
    rintro rfl
    exact derived.ne_nil rfl

/-- A phrase stands for what it is derived as, and for nothing else. -/
lemma Derives.iff_eq {p : Phrase} {depth : Nat} {kinds : List TokenKind} {e e' : Expr}
    (h : Derives p depth kinds e) : (∃ n, Derives p n kinds e') ↔ e' = e :=
  ⟨fun ⟨_, h'⟩ => h'.unique h, fun he => ⟨depth, he ▸ h⟩⟩

/-! ### Precedence -/

namespace Derives

variable {depth : Nat} {a b c : List TokenKind} {x y z : Expr}

/-- A conjunction of one term is that term. -/
lemma toConjunction (h : Derives .negation depth a x) : Derives .conjunction depth a x := by
  have rule : Derives .conjunction depth ([.and].intercalate ([(a, x)].map Prod.fst))
      (.chain .and ([(a, x)].map Prod.snd)) :=
    .conjunction (by simp) (by simpa using h)
  simpa [Expr.chain] using rule

/-- A disjunction of one term is that term. -/
lemma toDisjunction (h : Derives .conjunction depth a x) : Derives .disjunction depth a x := by
  have rule : Derives .disjunction depth ([.or].intercalate ([(a, x)].map Prod.fst))
      (.chain .or ([(a, x)].map Prod.snd)) :=
    .disjunction (by simp) (by simpa using h)
  simpa [Expr.chain] using rule

/-- Two negations with `and` between them are their conjunction. -/
lemma both (ha : Derives .negation depth a x) (hb : Derives .negation depth b y) :
    Derives .conjunction depth (a ++ .and :: b) (.and [x, y]) := by
  have rule : Derives .conjunction depth ([.and].intercalate ([(a, x), (b, y)].map Prod.fst))
      (.chain .and ([(a, x), (b, y)].map Prod.snd)) :=
    .conjunction (by simp) (by simpa using ⟨ha, hb⟩)
  simpa [Expr.chain, intercalate_cons] using rule

/-- Two conjunctions with `or` between them are their disjunction. -/
lemma either (ha : Derives .conjunction depth a x) (hb : Derives .conjunction depth b y) :
    Derives .disjunction depth (a ++ .or :: b) (.or [x, y]) := by
  have rule : Derives .disjunction depth ([.or].intercalate ([(a, x), (b, y)].map Prod.fst))
      (.chain .or ([(a, x), (b, y)].map Prod.snd)) :=
    .disjunction (by simp) (by simpa using ⟨ha, hb⟩)
  simpa [Expr.chain, intercalate_cons] using rule

/-- A conjunction stands as a term of a disjunction on either side of it. -/
lemma or_looser (ha : Derives .negation depth a x) (hb : Derives .negation depth b y)
    (hc : Derives .negation depth c z) :
    Derives .disjunction depth (a ++ .and :: b ++ .or :: c) (.or [.and [x, y], z]) ∧
      Derives .disjunction depth (a ++ .or :: (b ++ .and :: c)) (.or [x, .and [y, z]]) :=
  ⟨(ha.both hb).either hc.toConjunction, ha.toConjunction.either (hb.both hc)⟩

/-- Two comparisons do not chain: no phrase goes on with a comparison after a second operand. -/
lemma not_chained {op op' : Comparison} (ha : Derives .operand depth a x)
    (hb : Derives .operand depth b y) (n : Nat) (e : Expr) :
    ¬ Derives .disjunction n (a ++ .compare op :: b ++ .compare op' :: c) e := by
  intro h
  -- Read at one depth, the first comparison leaves the second one over.
  generalize hm : max depth n = m
  have le : depth ≤ m := hm ▸ Nat.le_max_left depth n
  have le' : n ≤ m := hm ▸ Nat.le_max_right depth n
  have first : Derives .comparison m (a ++ .compare op :: b) (.compare op x y) :=
    (compare ha hb).mono le
  have comparison : (Phrase.reader .comparison m).Reads (fun _ => True)
      (a ++ .compare op :: b) (.compare op x y) :=
    Reader.comparison_reads_compare (ha.mono le).reads (hb.mono le).reads
  have negation := Phrase.negation_reads first comparison
  have conjunction : (Phrase.reader .conjunction m).Reads _ _ _ :=
    Reader.chain_reads_single negation fun _ => trivial
  have disjunction : (Phrase.reader .disjunction m).Reads _ _ _ :=
    Reader.chain_reads_single conjunction fun ht => by simp [notNext_cons, ht]
  have whole := (h.mono le').reads (Token.kind_ofKinds _) (Phrase.stopsAt_nil _)
  have part := disjunction (Token.kind_ofKinds _)
    (show NotNext .or (⟨.compare op', 0, 0⟩ :: Token.ofKinds c) ∧ NotNext .and _ ∧ True by
      simp [notNext_cons])
  have same : Token.ofKinds (a ++ .compare op :: b ++ .compare op' :: c) ++ [] =
      Token.ofKinds (a ++ .compare op :: b) ++ ⟨.compare op', 0, 0⟩ :: Token.ofKinds c := by
    simp [Token.ofKinds]
  rw [same, part] at whole
  cases whole

end Derives

/-- A source is read as an expression exactly if the grammar derives the expression from its tokens
with at most 64 `not`s and parentheses around any of them.  The grammar gives a list of tokens at
most one expression; `or` is looser than `and`, `and` looser than `not`, `not` looser than the
comparisons, and comparisons do not chain. -/
theorem Expr.parse_iff_derives {source : String} {ts : List Token}
    (h : tokenize source = .ok ts) :
    (∀ e, Expr.parse source = .ok e ↔ Derives .disjunction 64 (ts.map Token.kind) e) ∧
    (∀ {m n kinds e e'}, Derives .disjunction m kinds e → Derives .disjunction n kinds e' →
      e = e') ∧
    (∀ {depth a b c x y z}, Derives .negation depth a x → Derives .negation depth b y →
      Derives .negation depth c z → ∀ e,
      ((∃ n, Derives .disjunction n (a ++ .and :: b ++ .or :: c) e) ↔ e = .or [.and [x, y], z]) ∧
      ((∃ n, Derives .disjunction n (a ++ .or :: (b ++ .and :: c)) e) ↔
        e = .or [x, .and [y, z]])) ∧
    (∀ {depth a b x y}, Derives .negation depth a x → Derives .negation depth b y → ∀ e,
      (∃ n, Derives .disjunction n (.not :: a ++ .and :: b) e) ↔ e = .and [.not x, y]) ∧
    (∀ {depth a b x y op}, Derives .operand depth a x → Derives .operand depth b y → ∀ e,
      (∃ n, Derives .disjunction n (.not :: (a ++ .compare op :: b)) e) ↔
        e = .not (.compare op x y)) ∧
    (∀ {depth a b c x y op op'}, Derives .operand depth a x → Derives .operand depth b y →
      ∀ n e, ¬ Derives .disjunction n (a ++ .compare op :: b ++ .compare op' :: c) e) := by
  refine ⟨?_, fun h h' => h.unique h', ?_, ?_, ?_, fun ha hb n e => ha.not_chained hb n e⟩
  · intro e
    rw [Expr.parse_eq_ok_iff]
    constructor
    · rintro ⟨_, h', derived⟩
      rw [h] at h'
      cases h'
      exact derived
    · intro derived
      exact ⟨ts, h, derived⟩
  · intro depth a b c x y z ha hb hc e
    obtain ⟨left, right⟩ := ha.or_looser hb hc
    exact ⟨left.iff_eq, right.iff_eq⟩
  · intro depth a b x y ha hb e
    have hn : Derives .negation (depth + 1) (.not :: a) (.not x) := .not ha
    exact (hn.both (hb.mono (Nat.le_succ _))).toDisjunction.iff_eq
  · intro depth a b x y op ha hb e
    have hn : Derives .negation (depth + 1) (.not :: (a ++ .compare op :: b))
        (.not (.compare op x y)) := .not (.plain (.compare ha hb))
    exact hn.toConjunction.toDisjunction.iff_eq

/-- The tokens of a negated comparison, and what they are read as. -/
theorem Expr.parse_iff_derives_not_less :
    tokenize "not {a} < b" = .ok [⟨.not, 0, 3⟩, ⟨.field "a", 4, 7⟩, ⟨.compare .lt, 8, 9⟩,
      ⟨.word "b", 10, 11⟩] ∧
    Expr.parse "not {a} < b" =
      .ok (.not (.compare .lt (.field "a") (.literal (.text "b")))) := by
  have tokens : tokenize "not {a} < b" = .ok [⟨.not, 0, 3⟩, ⟨.field "a", 4, 7⟩,
      ⟨.compare .lt, 8, 9⟩, ⟨.word "b", 10, 11⟩] := by
    decide +kernel
  refine ⟨tokens, ((Expr.parse_iff_derives tokens).1 _).2 ?_⟩
  have derived : Derives .negation 1 [.not, .field "a", .compare .lt, .word "b"]
      (.not (.compare .lt (.field "a") (.literal (.text "b")))) :=
    .not (.plain (.compare (.leaf (.field "a")) (.leaf (.word "b"))))
  exact derived.toConjunction.toDisjunction.mono (by decide)

end LoanDesk
