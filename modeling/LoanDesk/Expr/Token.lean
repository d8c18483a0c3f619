import LoanDesk.Text.Quoted
import LoanDesk.Value.Comparison

/-!
# Tokens of the filter language

A token has a kind and the place in the source where it stands.  `TokenKind.spelling` writes a kind
so that it is read back as itself, and `TokenKind.layout` writes a list of kinds with single spaces
between them, none inside a parenthesis.
-/

namespace LoanDesk

/-- What a token stands for. -/
inductive TokenKind where
  | openParen
  | closeParen
  | compare (op : Comparison)
  | and
  | or
  | not
  | number (x : Float)
  /-- A text between quotes. -/
  | quoted (s : String)
  /-- A text without quotes that is no keyword and no number. -/
  | word (s : String)
  | none
  | true
  | false
  /-- The name of a loan field between braces. -/
  | field (name : String)
deriving DecidableEq

namespace TokenKind

/-- How messages speak of a token. -/
def describe : TokenKind → String
  | openParen => "'('"
  | closeParen => "')'"
  | compare op => "operator '" ++ op.symbol ++ "'"
  | and => "'and'"
  | or => "'or'"
  | not => "'not'"
  | number x => "number " ++ Number.text x
  | quoted s => "string " ++ Text.quoted s
  | word s => "word '" ++ s ++ "'"
  | none => "'None'"
  | true => "'True'"
  | false => "'False'"
  | field name => "field \x7b" ++ name ++ "\x7d"

/-- A backslash before each quote and each backslash. -/
def escape : List Char → List Char
  | [] => []
  | c :: cs => if c = '\'' ∨ c = '\\' then '\\' :: c :: escape cs else c :: escape cs

/-- The text that is read back as the token. -/
def spelling : TokenKind → List Char
  | openParen => ['(']
  | closeParen => [')']
  | compare op => op.symbol.toList
  | and => ['a', 'n', 'd']
  | or => ['o', 'r']
  | not => ['n', 'o', 't']
  | number x => Number.chars x
  | quoted s => '\'' :: escape s.toList ++ ['\'']
  | word s => s.toList
  | none => ['N', 'o', 'n', 'e']
  | true => ['T', 'r', 'u', 'e']
  | false => ['F', 'a', 'l', 's', 'e']
  | field name => '\x7b' :: name.toList ++ ['\x7d']

/-- Nothing stands between a parenthesis and what it encloses, and one space between others. -/
def gap (left right : TokenKind) : List Char :=
  if left = openParen ∨ right = closeParen then [] else [' ']

/-- The text of a list of tokens. -/
def layout : List TokenKind → List Char
  | [] => []
  | [kind] => kind.spelling
  | kind :: next :: kinds => kind.spelling ++ gap kind next ++ layout (next :: kinds)

/-- The literal that a token stands for. -/
def literal? : TokenKind → Option Value
  | number x => some (.number x)
  | quoted s => some (.text s)
  | word s => some (.text s)
  | none => some .null
  | true => some (.boolean Bool.true)
  | false => some (.boolean Bool.false)
  | _ => Option.none

/-- The token that spells a literal. -/
def ofValue : Value → TokenKind
  | .number x => number x
  | .text s => quoted s
  | .boolean b => if b then true else false
  | .null => none

/-- The literal of a value stands for the value. -/
@[simp] theorem literal?_ofValue (v : Value) : (ofValue v).literal? = some v := by
  cases v with
  | boolean b => cases b <;> rfl
  | _ => rfl

end TokenKind

/-- A token with the bytes of the source that it takes, from `start` up to and without `stop`. -/
structure Token where
  kind : TokenKind
  start : Nat
  stop : Nat
deriving DecidableEq

/-- What is wrong with the characters at some place of the source. -/
inductive LexFault where
  /-- No token starts with the character. -/
  | unexpectedChar (c : Char)
  /-- The character needs an equals sign after it. -/
  | unknownOperator (c : Char)
  | unterminatedString
  | unclosedPlaceholder
  | invalidFieldName (name : String)
deriving DecidableEq, Repr

/-- Why a source is no filter expression. -/
inductive ParseError where
  | empty
  | lexical (fault : LexFault) (offset : Nat)
  | unbalancedParen (offset : Nat)
  | expectedOperand (found : TokenKind) (offset : Nat)
  | unexpectedEnd
  | tooDeep
  | trailingInput (found : TokenKind) (offset : Nat)
deriving DecidableEq

/-- The greatest number of `not`s and parentheses around a token. -/
def maxDepth : Nat := 64

namespace ParseError

/-- The place in the source that an error speaks of. -/
def offset? : ParseError → Option Nat
  | lexical _ offset | unbalancedParen offset | expectedOperand _ offset | trailingInput _ offset =>
    some offset
  | empty | unexpectedEnd | tooDeep => none

/-- The message of an error. -/
def message : ParseError → String
  | empty => "empty filter expression"
  | lexical (.unexpectedChar c) offset =>
    "unexpected character '" ++ c.toString ++ "' at offset " ++ toString offset
  | lexical (.unknownOperator c) offset =>
    "unknown operator '" ++ c.toString ++ "' at offset " ++ toString offset ++
      ". Valid operators are: < <= > >= == !="
  | lexical .unterminatedString offset =>
    "unterminated string starting at offset " ++ toString offset
  | lexical .unclosedPlaceholder offset =>
    "unclosed field placeholder starting at offset " ++ toString offset
  | lexical (.invalidFieldName name) offset =>
    "invalid field name '" ++ name ++ "' at offset " ++ toString offset
  | unbalancedParen offset => "unbalanced parenthesis at offset " ++ toString offset
  | expectedOperand found offset =>
    "expected an operand at offset " ++ toString offset ++ ", found " ++ found.describe
  | unexpectedEnd => "unexpected end of expression"
  | tooDeep => "expression nests deeper than " ++ toString maxDepth ++ " levels"
  | trailingInput found offset =>
    "unexpected trailing " ++ found.describe ++ " at offset " ++ toString offset

end ParseError

end LoanDesk
