import LoanDesk.Expr.Parse.Levels
import LoanDesk.Proofs.Expr.Grammar

/-!
# The level that a reader is left at

A counting reader answers as the reader does that is handed the levels left below `maxDepth`, and
it leaves the level as it found it (`CountingReader.Follows`).  Each way to put readers together
carries this over, so it holds of every phrase, and no level is ever left that was not entered.  At
level zero a disjunction is thus what `Expr.ofTokens` reads.

Main statement: `Phrase.counting_eq`.
-/

namespace LoanDesk

namespace Reader

/-- The reader for one level less, where there is one. -/
def deeper (reader : Nat → Reader) : Nat → Reader
  | 0 => tooDeep
  | depth + 1 => reader depth

/-- A term of any level is a negation of a deeper term, or a comparison of operands. -/
lemma term_eq (depth : Nat) : term depth =
    negation (deeper term depth) (comparison (operand (deeper expression depth))) := by
  cases depth <;> rfl

/-- Of no tokens a term reads nothing. -/
lemma term_read_nil (depth : Nat) : (term depth).read [] = .error .unexpectedEnd := by
  cases depth <;> rfl

end Reader

namespace Cursor

variable {α : Type} {c c' : Cursor} {r : Except ParseError (α × List Token)} {a : α}

/-- Keeping a result keeps the level. -/
lemma level_of_keep (h : c.keep r = .ok (a, c')) : c'.level = c.level := by
  cases r with
  | error => cases h
  | ok =>
    cases h
    rfl

/-- Keeping a result never takes the level below zero. -/
lemma keep_ne_underflow : c.keep r ≠ .error .underflow := by
  cases r <;> nofun

end Cursor

namespace CountingReader

/-- On `n` tokens or fewer, `r` answers as the reader for the levels left and keeps its level. -/
def Follows (n : Nat) (r : CountingReader) (reader : Nat → Reader) : Prop :=
  ∀ c : Cursor, c.tokens.length ≤ n → r c = c.keep ((reader (maxDepth - c.level)).read c.tokens)

section

variable {m n : Nat} {reader : Nat → Reader} {separator : TokenKind}

/-- What follows a reader on some tokens follows it on fewer. -/
lemma Follows.mono {r : CountingReader} (h : Follows n r reader) (le : m ≤ n) :
    Follows m r reader :=
  fun c hc => h c (Nat.le_trans hc le)

/-- Going one level deeper follows the reader for one level less. -/
lemma nested_follows {inner : CountingReader} (h : Follows n inner reader) :
    Follows n (nested inner) (Reader.deeper reader) := by
  intro c hc
  unfold nested
  cases hd : maxDepth - c.level with
  | zero =>
    have refused : c.enter = .error (.refused .tooDeep) := if_pos (by omega)
    rw [refused]
    rfl
  | succ depth =>
    have entered : c.enter = .ok { c with level := c.level + 1 } := if_neg (by omega)
    have below : maxDepth - (c.level + 1) = depth := by omega
    have inside := h { c with level := c.level + 1 } hc
    simp only [below] at inside
    rw [entered]
    change (inner _ >>= _) = _
    -- What is inside comes back to the level entered, which can thus be left again.
    rw [inside, Reader.deeper]
    cases (reader depth).read c.tokens <;> rfl

/-- An operand follows its reader if what stands between parentheses does. -/
lemma operand_follows {grouped : CountingReader} (h : Follows n grouped reader) :
    Follows (n + 1) (operand grouped) fun depth => .operand (reader depth) := by
  intro c hc
  obtain ⟨tokens, level⟩ := c
  cases tokens with
  | nil => rfl
  | cons t rest =>
    have inside := h ⟨rest, level⟩ (Nat.le_of_succ_le_succ hc)
    change operand grouped ⟨t :: rest, level⟩ = Cursor.keep _ (Reader.operandOf _ (t :: rest))
    rw [operand, Reader.operandOf]
    dsimp only
    split
    · rw [inside]
      cases (reader (maxDepth - level)).read rest <;> rfl
    · cases Reader.leaf? t.kind <;> rfl

/-- A comparison follows its reader if its sides do. -/
lemma comparison_follows {side : CountingReader} (h : Follows n side reader) :
    Follows n (comparison side) fun depth => .comparison (reader depth) := by
  intro c hc
  unfold comparison
  change _ = c.keep (Reader.comparisonOf _ c.tokens)
  rw [h c hc, Reader.comparisonOf]
  cases hl : (reader (maxDepth - c.level)).read c.tokens with
  | error => rfl
  | ok first =>
    obtain ⟨left, rest⟩ := first
    cases rest with
    | nil => rfl
    | cons t after =>
      have shorter := (reader (maxDepth - c.level)).progress hl
      rw [List.length_cons] at shorter
      have second := h { c with tokens := after } (by dsimp only; omega)
      simp only [Cursor.keep, bind, Except.bind]
      cases t.kind with
      | compare op =>
        simp only [second]
        cases (reader (maxDepth - c.level)).read after <;> rfl
      | _ => rfl

/-- A negation follows its reader if what it negates does. -/
lemma negation_follows {negated plain : CountingReader} {other : Nat → Reader}
    (hn : Follows n negated reader) (hp : Follows (n + 1) plain other) :
    Follows (n + 1) (negation negated plain) fun depth =>
      .negation (reader depth) (other depth) := by
  intro c hc
  obtain ⟨tokens, level⟩ := c
  cases tokens with
  | nil => exact hp _ hc
  | cons t rest =>
    have inside := hn ⟨rest, level⟩ (Nat.le_of_succ_le_succ hc)
    change negation negated plain ⟨t :: rest, level⟩ =
      Cursor.keep _ (Reader.negationOf _ _ (t :: rest))
    rw [negation, Reader.negationOf]
    dsimp only
    split
    · rw [inside]
      cases (reader (maxDepth - level)).read rest <;> rfl
    · exact hp _ hc

/-- A chain ends where its bound does, for each further term takes a token. -/
lemma chainFrom_follows {item : CountingReader} (h : Follows n item reader) {bound : Nat}
    {terms : List Expr} {c : Cursor} (hb : c.tokens.length ≤ bound) (hn : c.tokens.length ≤ n) :
    chainFrom separator item bound terms c =
      c.keep (Reader.chainFrom separator (reader (maxDepth - c.level)) terms c.tokens) := by
  induction bound generalizing terms c with
  | zero =>
    obtain ⟨tokens, level⟩ := c
    obtain rfl : tokens = [] := List.eq_nil_of_length_eq_zero (Nat.le_zero.1 hb)
    rw [chainFrom, Reader.chainFrom]
    rfl
  | succ bound ih =>
    obtain ⟨tokens, level⟩ := c
    cases tokens with
    | nil =>
      rw [chainFrom, Reader.chainFrom]
      rfl
    | cons t rest =>
      have inside := h ⟨rest, level⟩ (Nat.le_of_succ_le hn)
      rw [chainFrom, Reader.chainFrom]
      dsimp only
      split
      · rw [inside]
        dsimp only
        cases hi : (reader (maxDepth - level)).read rest with
        | error => rfl
        | ok term =>
          obtain ⟨e, after⟩ := term
          have taken := (reader (maxDepth - level)).progress hi
          simp only [List.length_cons] at hb hn
          exact ih (by dsimp only; omega) (by dsimp only; omega)
      · rfl

/-- A chain follows its reader if its terms do. -/
lemma chain_follows {item : CountingReader} {connective : List Expr → Expr}
    (h : Follows n item reader) : Follows n (chain separator connective item)
      fun depth => .chain separator connective (reader depth) := by
  intro c hc
  unfold chain
  change _ = c.keep (Reader.chainOf _ _ _ c.tokens)
  rw [h c hc, Reader.chainOf]
  cases hf : (reader (maxDepth - c.level)).read c.tokens with
  | error => rfl
  | ok first =>
    obtain ⟨e, rest⟩ := first
    have shorter := (reader (maxDepth - c.level)).progress hf
    have others : chainFrom separator item rest.length [e] { c with tokens := rest } = _ :=
      chainFrom_follows h (Nat.le_refl _) (Nat.le_of_lt (Nat.lt_of_lt_of_le shorter hc))
    simp only [Cursor.keep, bind, Except.bind, others]
    cases Reader.chainFrom separator (reader (maxDepth - c.level)) [e] rest <;> rfl

end

/-- An expression follows its reader if its terms do. -/
lemma chains_follows {n : Nat} {item : CountingReader} (h : Follows n item .term) :
    Follows n (chains item) .expression :=
  chain_follows (chain_follows h)

/-- A term follows its reader, however many tokens there are. -/
lemma term_follows (n : Nat) : Follows n (term n) .term := by
  induction n with
  | zero =>
    rintro ⟨tokens, level⟩ hc
    obtain rfl : tokens = [] := List.eq_nil_of_length_eq_zero (Nat.le_zero.1 hc)
    rw [Reader.term_read_nil]
    rfl
  | succ n ih =>
    -- Whatever nests in a term stands behind a `not` or a parenthesis, and so has a token less.
    have side := operand_follows (nested_follows (chains_follows ih))
    have whole := negation_follows (nested_follows ih) (comparison_follows side)
    intro c hc
    rw [Reader.term_eq]
    exact whole c hc

end CountingReader

/-- What reads a phrase of at most `bound` tokens and counts levels. -/
def Phrase.counting : Phrase → Nat → CountingReader
  | disjunction, bound => .chains (.term bound)
  | conjunction, bound => .chain .and .and (.term bound)
  | negation, bound => .term bound
  | comparison, bound => .comparison (.operand (.nested (.chains (.term bound))))
  | operand, bound => .operand (.nested (.chains (.term bound)))

/-- Wherever a phrase is read, what is read is what the levels left allow, and the level is the same
after it as before. -/
theorem Phrase.counting_eq (p : Phrase) {bound : Nat} {c : Cursor} (hc : c.tokens.length ≤ bound) :
    p.counting bound c = c.keep ((p.reader (maxDepth - c.level)).read c.tokens) := by
  have term := CountingReader.term_follows bound
  have grouped : Reader.deeper .expression = grouped := by
    funext depth
    cases depth <;> rfl
  have inner := CountingReader.nested_follows (CountingReader.chains_follows term)
  have side := (CountingReader.operand_follows inner).mono (Nat.le_succ bound)
  rw [grouped] at side
  cases p with
  | disjunction => exact CountingReader.chains_follows term c hc
  | conjunction => exact CountingReader.chain_follows term c hc
  | negation => exact term c hc
  | comparison => exact CountingReader.comparison_follows side c hc
  | operand => exact side c hc

end LoanDesk
