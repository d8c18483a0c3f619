import LoanDesk.Expr.Basic
import LoanDesk.Expr.Token

/-!
# Writing expressions

The tokens of an expression are those of its leaves with the operators between them and with the
parentheses that its shape needs; its text is their layout.
-/

namespace LoanDesk.Expr

/-- The tokens of `kinds` between parentheses. -/
def parenthesized (kinds : List TokenKind) : List TokenKind :=
  .openParen :: kinds ++ [.closeParen]

mutual

/-- The tokens that spell an expression. -/
def tokens : Expr → List TokenKind
  | literal v => [.ofValue v]
  | field name => [.field name]
  | compare op left right =>
    (if left.isLeaf then left.tokens else parenthesized left.tokens) ++ .compare op ::
      (if right.isLeaf then right.tokens else parenthesized right.tokens)
  | not (and terms) => .not :: parenthesized (tokensAnd terms)
  | not (or terms) => .not :: parenthesized (tokensOr terms)
  | not inner => .not :: inner.tokens
  | and terms => tokensAnd terms
  | or terms => tokensOr terms

/-- The terms of a conjunction; a disjunction among them needs parentheses. -/
def tokensAnd : List Expr → List TokenKind
  | [] => []
  | [or terms] => parenthesized (tokensOr terms)
  | [term] => term.tokens
  | or terms :: others => parenthesized (tokensOr terms) ++ .and :: tokensAnd others
  | term :: others => term.tokens ++ .and :: tokensAnd others

/-- The terms of a disjunction. -/
def tokensOr : List Expr → List TokenKind
  | [] => []
  | [term] => term.tokens
  | term :: others => term.tokens ++ .or :: tokensOr others

end

/-- The text of an expression. -/
def render (e : Expr) : String := String.ofList (TokenKind.layout e.tokens)

end LoanDesk.Expr
