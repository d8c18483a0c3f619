import LoanDesk.Number.Notation

/-!
# Reading numbers

A number is read from an optional sign, digits with at most one point among them, and an optional
power of ten.  The names of infinity and of the undefined number are read in any case of letters.
-/

namespace LoanDesk.Number

/-- A whole number with an optional sign. -/
def readExponent? : List Char → Option Int
  | '-' :: digits =>
    if digits.isEmpty || !digits.all Char.isDigit then none
    else some (-(Nat.ofDigitChars 10 digits 0 : Int))
  | '+' :: digits =>
    if digits.isEmpty || !digits.all Char.isDigit then none
    else some (Nat.ofDigitChars 10 digits 0)
  | digits =>
    if digits.isEmpty || !digits.all Char.isDigit then none
    else some (Nat.ofDigitChars 10 digits 0)

/-- The power of ten after the digits, `0` if there is none. -/
def readPower? : List Char → Option Int
  | [] => some 0
  | mark :: power => if mark = 'e' || mark = 'E' then readExponent? power else none

/-- A decimal without a sign: digits, a point and digits, of which one part may be missing, and a
power of ten. -/
def readDecimal? (cs : List Char) : Option Decimal :=
  let whole := cs.takeWhile Char.isDigit
  let afterWhole := cs.dropWhile Char.isDigit
  let fraction := match afterWhole with
    | '.' :: rest => rest.takeWhile Char.isDigit
    | _ => []
  let rest := match afterWhole with
    | '.' :: rest => rest.dropWhile Char.isDigit
    | rest => rest
  if whole.isEmpty && fraction.isEmpty then none
  else (readPower? rest).map fun power =>
    ⟨Nat.ofDigitChars 10 (whole ++ fraction) 0, power - fraction.length⟩

/-- The names of the numbers that have no digits. -/
def readName? (negative : Bool) (cs : List Char) : Option Float :=
  match cs.map Char.toLower with
  | ['n', 'a', 'n'] => some undefined
  | ['i', 'n', 'f'] | ['i', 'n', 'f', 'i', 'n', 'i', 't', 'y'] =>
    some (ofMagnitude negative infinity (Nat.le_refl _))
  | _ => none

/-- A number without its sign. -/
def readUnsigned? (negative : Bool) (cs : List Char) : Option Float :=
  match readDecimal? cs with
  | some d => some (d.toNumber negative)
  | none => readName? negative cs

/-- The number that a text spells. -/
def read? : List Char → Option Float
  | '-' :: cs => readUnsigned? true cs
  | '+' :: cs => readUnsigned? false cs
  | cs => readUnsigned? false cs

/-- The finite number that a text spells. -/
def readFinite? (cs : List Char) : Option Float := (read? cs).filter isFinite

end LoanDesk.Number
