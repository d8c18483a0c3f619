import LoanDesk.Expr.Basic
import LoanDesk.Expr.Token.Scan

/-!
# Reading expressions

From loosest to tightest the operators are `or`, `and`, `not` and the comparisons, which do not
chain.  A `Reader` takes an expression off the front of a list of tokens; since it always takes a
token, chains end.  Each `not` and each parenthesis spends one level of depth.

Main statement: `parse_eq_ok`, which splits reading into tokens and their expression.
-/

namespace LoanDesk

/-- A function that takes an expression of at least one token off the front of a list. -/
structure Reader where
  read : List Token → Except ParseError (Expr × List Token)
  progress : ∀ {ts e rest}, read ts = .ok (e, rest) → rest.length < ts.length

namespace Reader

/-- Nothing may follow at this depth. -/
def tooDeep : Reader where
  read _ := .error .tooDeep
  progress h := nomatch h

/-- The leaf that a token is. -/
def leaf? : TokenKind → Option Expr
  | .field name => some (.field name)
  | kind => kind.literal?.map .literal

/-- The parenthesis that closes the one at `offset`, in front of the tokens left. -/
def close (offset : Nat) (e : Expr) : List Token → Except ParseError (Expr × List Token)
  | [] => .error (.unbalancedParen offset)
  | t :: rest =>
    if t.kind = .closeParen then .ok (e, rest) else .error (.unbalancedParen offset)

/-- An expression between parentheses, or a leaf. -/
def operandOf (grouped : Reader) : List Token → Except ParseError (Expr × List Token)
  | [] => .error .unexpectedEnd
  | t :: rest =>
    if t.kind = .openParen then
      match grouped.read rest with
      | .error e => .error e
      | .ok (e, rest) => close t.start e rest
    else
      match leaf? t.kind with
      | some e => .ok (e, rest)
      | none => .error (.expectedOperand t.kind t.start)

/-- A closing parenthesis takes a token. -/
theorem length_close {offset : Nat} {e e' : Expr} {ts rest : List Token}
    (h : close offset e ts = .ok (e', rest)) : rest.length < ts.length := by
  cases ts with
  | nil => cases h
  | cons t ts =>
    rw [close] at h
    split at h
    · cases h; simp
    · cases h

/-- An expression between parentheses, or a leaf. -/
def operand (grouped : Reader) : Reader where
  read := operandOf grouped
  progress := by
    intro ts e rest h
    cases ts with
    | nil => cases h
    | cons t ts =>
      rw [operandOf] at h
      split at h
      · split at h
        · cases h
        next hg =>
          have h1 := grouped.progress hg
          have h2 := length_close h
          simp only [List.length_cons]
          omega
      · split at h
        · cases h; simp
        · cases h

/-- One operand, or two with a comparison between them. -/
def comparisonOf (side : Reader) (ts : List Token) : Except ParseError (Expr × List Token) :=
  match side.read ts with
  | .error e => .error e
  | .ok (left, rest) =>
    match rest with
    | [] => .ok (left, rest)
    | t :: after =>
      match t.kind with
      | .compare op =>
        match side.read after with
        | .error e => .error e
        | .ok (right, after) => .ok (.compare op left right, after)
      | _ => .ok (left, rest)

/-- One operand, or two with a comparison between them. -/
def comparison (side : Reader) : Reader where
  read := comparisonOf side
  progress := by
    intro ts e rest h
    rw [comparisonOf] at h
    split at h
    · cases h
    next left after hl =>
      have h1 := side.progress hl
      split at h
      · cases h; exact h1
      · split at h
        · split at h
          · cases h
          next hr =>
            have h2 := side.progress hr
            cases h
            simp only [List.length_cons] at h1
            omega
        · cases h; exact h1

/-- A negation, or what stands where there is none. -/
def negationOf (negated plain : Reader) : List Token → Except ParseError (Expr × List Token)
  | [] => plain.read []
  | t :: rest =>
    if t.kind = .not then
      match negated.read rest with
      | .error e => .error e
      | .ok (e, rest) => .ok (.not e, rest)
    else plain.read (t :: rest)

/-- A negation, or what stands where there is none. -/
def negation (negated plain : Reader) : Reader where
  read := negationOf negated plain
  progress := by
    intro ts e rest h
    cases ts with
    | nil => exact plain.progress h
    | cons t ts =>
      rw [negationOf] at h
      split at h
      · split at h
        · cases h
        next hn =>
          have h1 := negated.progress hn
          cases h
          simp only [List.length_cons]
          omega
      · exact plain.progress h

/-- The further terms of a chain, after those in `terms`, which are in reverse. -/
def chainFrom (separator : TokenKind) (item : Reader) (terms : List Expr) (ts : List Token) :
    Except ParseError (List Expr × List Token) :=
  match ts with
  | [] => .ok (terms.reverse, [])
  | t :: rest =>
    if t.kind = separator then
      match _h : item.read rest with
      | .error e => .error e
      | .ok (e, after) => chainFrom separator item (e :: terms) after
    else .ok (terms.reverse, t :: rest)
termination_by ts.length
decreasing_by
  have := item.progress _h
  simp only [List.length_cons]
  omega

/-- Further terms leave no more tokens than they were given. -/
theorem length_chainFrom {separator : TokenKind} {item : Reader} {terms : List Expr}
    {ts : List Token} {es : List Expr} {rest : List Token}
    (h : chainFrom separator item terms ts = .ok (es, rest)) : rest.length ≤ ts.length := by
  fun_induction chainFrom separator item terms ts with
  | case1 => cases h; simp
  | case2 => cases h
  | case3 terms t ts ht e after hi ih =>
    have h1 := item.progress hi
    have h2 := ih h
    simp only [List.length_cons]
    omega
  | case4 => cases h; simp

/-- Terms with a separator between each two. -/
def chainOf (separator : TokenKind) (connective : List Expr → Expr) (item : Reader)
    (ts : List Token) : Except ParseError (Expr × List Token) :=
  match item.read ts with
  | .error e => .error e
  | .ok (first, rest) =>
    match chainFrom separator item [first] rest with
    | .error e => .error e
    | .ok (terms, rest) => .ok (Expr.chain connective terms, rest)

/-- Terms with a separator between each two. -/
def chain (separator : TokenKind) (connective : List Expr → Expr) (item : Reader) : Reader where
  read := chainOf separator connective item
  progress := by
    intro ts e rest h
    rw [chainOf] at h
    split at h
    · cases h
    next hf =>
      have h1 := item.progress hf
      split at h
      · cases h
      next hc =>
        have h2 := length_chainFrom hc
        cases h
        omega

/-- Disjunctions of conjunctions of the given terms. -/
def chains (item : Reader) : Reader := chain .or .or (chain .and .and item)

/-- A negation or comparison in which `depth` further levels may nest. -/
def term : Nat → Reader
  | 0 => negation tooDeep (comparison (operand tooDeep))
  | depth + 1 => negation (term depth) (comparison (operand (chains (term depth))))

/-- An expression in which `depth` levels may nest. -/
def expression (depth : Nat) : Reader := chains (term depth)

end Reader

namespace Expr

/-- The expression that all of the tokens make up. -/
def ofTokens (ts : List Token) : Except ParseError Expr :=
  match (Reader.expression maxDepth).read ts with
  | .error e => .error e
  | .ok (e, []) => .ok e
  | .ok (_, t :: _) =>
    if t.kind = .closeParen then .error (.unbalancedParen t.start)
    else .error (.trailingInput t.kind t.start)

/-- The expression that a source spells. -/
def parse (source : String) : Except ParseError Expr :=
  match tokenize source with
  | .error e => .error e
  | .ok [] => .error .empty
  | .ok (t :: ts) => ofTokens (t :: ts)

/-- A source is read if it has tokens and they are an expression. -/
theorem parse_eq_ok {source : String} {e : Expr} :
    parse source = .ok e ↔
      ∃ ts, tokenize source = .ok ts ∧ ts ≠ [] ∧ ofTokens ts = .ok e := by
  unfold parse
  split
  next h => simp [h]
  next h => simp [h]
  next t ts h => simp [h]

end Expr

end LoanDesk
