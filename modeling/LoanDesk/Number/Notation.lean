import LoanDesk.Number.Shortest

/-!
# Writing numbers

A number's text is its shortest decimal, laid out as a `Notation` says: with the point in its
place, or in front of a power of ten where the number is very large or very small.  Amounts have a
set number of places instead, and are rounded to them once, from the exact number.
-/

namespace LoanDesk.Number

/-- How the digits of a number are laid out. -/
structure Notation where
  /-- Which of two shortest decimals is taken where both are equally near. -/
  tie : Tie
  /-- Numbers whose leading digit stands for this power of ten are written without an exponent. -/
  positional : Int → Bool
  /-- A whole number is followed by a point and a zero. -/
  wholePoint : Bool

namespace Decimal

/-- The power of ten that the leading digit stands for. -/
def leading (d : Decimal) : Int := ((Nat.toDigits 10 d.coefficient).length : Int) - 1 + d.exponent

/-- The digits with the point in its place, and at least one digit before it. -/
def positional (wholePoint : Bool) (d : Decimal) : List Char :=
  let digits := Nat.toDigits 10 d.coefficient
  if 0 ≤ d.exponent then
    digits ++ List.replicate d.exponent.toNat '0' ++ if wholePoint then ['.', '0'] else []
  else
    let places := (-d.exponent).toNat
    let padded := List.replicate (places + 1 - digits.length) '0' ++ digits
    let whole := padded.length - places
    padded.take whole ++ '.' :: padded.drop whole

/-- The leading digit, a point before any others, and the power of ten that the leading digit
stands for. -/
def scientific (d : Decimal) : List Char :=
  let sign := if d.leading < 0 then '-' else '+'
  let power := 'e' :: sign :: Nat.toDigits 10 d.leading.natAbs
  match Nat.toDigits 10 d.coefficient with
  | first :: second :: others => first :: '.' :: second :: others ++ power
  | digits => digits ++ power

end Decimal

/-- The text of a finite number. -/
def Notation.write (n : Notation) (x : Float) : List Char :=
  let d := shortest n.tie (magnitude x)
  let digits := if n.positional d.leading then d.positional n.wholePoint else d.scientific
  if isNegative x then '-' :: digits else digits

/-- Plain numbers never have an exponent, and whole ones no point; a tie goes up. -/
def plain : Notation := ⟨.up, fun _ => true, false⟩

/-- The text of a number that is not finite. -/
def nonFinite (x : Float) : List Char :=
  if isUndefined x then ['N', 'a', 'N']
  else if isNegative x then ['-', 'i', 'n', 'f']
  else ['i', 'n', 'f']

/-- The plain text of any number. -/
def chars (x : Float) : List Char := if isFinite x then plain.write x else nonFinite x

/-- The plain text of any number. -/
def text (x : Float) : String := String.ofList (chars x)

/-! ### A set number of places -/

/-- The whole number nearest to a fraction, the even one of two. -/
def roundDiv (num den : Nat) : Nat :=
  let quotient := num / den
  let twice := 2 * (num % den)
  if den < twice || (twice == den && quotient % 2 == 1) then quotient + 1 else quotient

/-- The number with exactly `places` digits after the point, rounded from its exact worth. -/
def fixed (places : Nat) (x : Float) : String :=
  if isFinite x then
    let d : Decimal := ⟨roundDiv (units (magnitude x) * Nat.pow 10 places) (1 <<< 1074), -places⟩
    String.ofList (if isNegative x then '-' :: d.positional false else d.positional false)
  else String.ofList (nonFinite x)

/-- The whole part of the number, with its sign. -/
def whole (x : Float) : String :=
  if isFinite x then
    let digits := Nat.toDigits 10 (wholePart x)
    String.ofList (if isNegative x then '-' :: digits else digits)
  else String.ofList (nonFinite x)

end LoanDesk.Number
