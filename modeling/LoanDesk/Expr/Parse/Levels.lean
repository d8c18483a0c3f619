import LoanDesk.Expr.Parse

/-!
# Reading with a count of levels

A counting reader carries the number of `not`s and parentheses that are open where it stands.  It
adds one before it reads what is in them, which is refused beyond `maxDepth`, and takes one off
after it.  The readers of `Reader` are handed the levels that are left instead.

The bounds here count tokens.  Whatever is read takes a token, so they end the recursion and decide
nothing.
-/

namespace LoanDesk

/-- Where a counting reader stands: the tokens left, and the levels open around them. -/
structure Cursor where
  tokens : List Token
  level : Nat

/-- Why a counting reader stops: the tokens are refused, or a level is left that was not entered. -/
inductive Halt where
  | refused (e : ParseError)
  | underflow

/-- A function that takes an expression off the front of the tokens left. -/
abbrev CountingReader := Cursor → Except Halt (Expr × Cursor)

namespace Cursor

/-- The cursor one level deeper. -/
def enter (c : Cursor) : Except Halt Cursor :=
  if maxDepth < c.level + 1 then .error (.refused .tooDeep)
  else .ok { c with level := c.level + 1 }

/-- The cursor one level up. -/
def leave (c : Cursor) : Except Halt Cursor :=
  match c.level with
  | 0 => .error .underflow
  | level + 1 => .ok { c with level }

/-- What was read from the tokens left, without a change of level. -/
def keep {α : Type} (c : Cursor) : Except ParseError (α × List Token) → Except Halt (α × Cursor)
  | .error e => .error (.refused e)
  | .ok (a, rest) => .ok (a, { c with tokens := rest })

end Cursor

namespace CountingReader

/-- What is read one level deeper. -/
def nested (inner : CountingReader) : CountingReader := fun c => do
  let c ← c.enter
  let (e, c) ← inner c
  let c ← c.leave
  return (e, c)

/-- An expression between parentheses, or a leaf. -/
def operand (grouped : CountingReader) : CountingReader := fun c =>
  match c.tokens with
  | [] => .error (.refused .unexpectedEnd)
  | t :: rest =>
    if t.kind = .openParen then do
      let (e, c) ← grouped { c with tokens := rest }
      c.keep (Reader.close t.start e c.tokens)
    else
      match Reader.leaf? t.kind with
      | some e => .ok (e, { c with tokens := rest })
      | none => .error (.refused (.expectedOperand t.kind t.start))

/-- One operand, or two with a comparison between them. -/
def comparison (side : CountingReader) : CountingReader := fun c => do
  let (left, c) ← side c
  match c.tokens with
  | [] => return (left, c)
  | t :: rest =>
    match t.kind with
    | .compare op =>
      let (right, c) ← side { c with tokens := rest }
      return (.compare op left right, c)
    | _ => return (left, c)

/-- A negation, or what stands where there is none. -/
def negation (negated plain : CountingReader) : CountingReader := fun c =>
  match c.tokens with
  | [] => plain c
  | t :: rest =>
    if t.kind = .not then do
      let (e, c) ← negated { c with tokens := rest }
      return (.not e, c)
    else plain c

/-- The further terms of a chain, after those in `terms`, which are in reverse. -/
def chainFrom (separator : TokenKind) (item : CountingReader) :
    Nat → List Expr → Cursor → Except Halt (List Expr × Cursor)
  | 0, terms, c => .ok (terms.reverse, c)
  | bound + 1, terms, c =>
    match c.tokens with
    | [] => .ok (terms.reverse, c)
    | t :: rest =>
      if t.kind = separator then do
        let (e, c) ← item { c with tokens := rest }
        chainFrom separator item bound (e :: terms) c
      else .ok (terms.reverse, c)

/-- Terms with a separator between each two. -/
def chain (separator : TokenKind) (connective : List Expr → Expr) (item : CountingReader) :
    CountingReader := fun c => do
  let (first, c) ← item c
  let (terms, c) ← chainFrom separator item c.tokens.length [first] c
  return (Expr.chain connective terms, c)

/-- Disjunctions of conjunctions of the given terms. -/
def chains (item : CountingReader) : CountingReader := chain .or .or (chain .and .and item)

/-- A negation or comparison of at most `bound` tokens. -/
def term : Nat → CountingReader
  | 0 => fun _ => .error (.refused .unexpectedEnd)
  | bound + 1 =>
    negation (nested (term bound)) (comparison (operand (nested (chains (term bound)))))

end CountingReader

end LoanDesk
