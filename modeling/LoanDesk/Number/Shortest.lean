import LoanDesk.Number.Rounding

/-!
# The shortest decimal of a number

The digits that a number is written with are those of the coarsest decimal grid that has a point
which reads back as the number, and of two such points the one nearer to the number.  A number's
own place on a grid lies between two neighbouring points, so only these two are tried.
-/

namespace LoanDesk.Number

/-- Where a number lies exactly half way between two points of the grid that both read back. -/
inductive Tie where
  | up
  | even
deriving DecidableEq, Repr

/-- The point of the grid `10 ^ exponent` that is not above the magnitude `m`. -/
def gridFloor (m : Nat) (exponent : Int) : Nat :=
  units m * Nat.pow 10 (-exponent).toNat / (1 <<< 1074 * Nat.pow 10 exponent.toNat)

/-- Twice the magnitude `m` against the middle of its two neighbours on the grid. -/
def comparesToMiddle (m : Nat) (exponent : Int) (lower : Nat) : Ordering :=
  compare (2 * (units m * Nat.pow 10 (-exponent).toNat))
    ((2 * lower + 1) * (1 <<< 1074 * Nat.pow 10 exponent.toNat))

/-- The point of the grid `10 ^ exponent` nearest to `m` among those that read back as `m`. -/
def onGrid (tie : Tie) (m : Nat) (exponent : Int) : Option Decimal :=
  let lower := gridFloor m exponent
  let below : Decimal := ⟨lower, exponent⟩
  let above : Decimal := ⟨lower + 1, exponent⟩
  match rounds below m, rounds above m with
  | false, false => none
  | true, false => some below
  | false, true => some above
  | true, true =>
    match comparesToMiddle m exponent lower, tie with
    | .lt, _ => some below
    | .gt, _ => some above
    | .eq, .up => some above
    | .eq, .even => some (if lower % 2 == 0 then below else above)

/-- The decimal that is worth exactly the magnitude `m`. -/
def exact (m : Nat) : Decimal := ⟨units m * Nat.pow 5 1074, -1074⟩

/-- An exponent whose power of ten is above the magnitude `m`, by less than two places. -/
def leadingExponent (m : Nat) : Int := (((units m).log2 : Int) - 1073) * 30103 / 100000 + 1

/-- The decimal with the fewest digits that reads back as the magnitude `m`; a finite number needs
at most seventeen. -/
def shortest (tie : Tie) (m : Nat) : Decimal :=
  if m = 0 then ⟨0, 0⟩
  else
    let found := (List.range 20).findSome? fun (i : Nat) => onGrid tie m (leadingExponent m - i)
    found.getD (exact m)

end LoanDesk.Number
