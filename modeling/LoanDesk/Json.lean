import LoanDesk.Dict
import LoanDesk.Number.Reading

/-!
# JSON values

A JSON number that is written without point and exponent and fits 64 bits stays a whole number; all
others are binary numbers.  The members of an object keep their order, which is that of their keys
wherever a text was read.
-/

namespace LoanDesk

/-- A number of a JSON text. -/
inductive Numeral where
  /-- A whole number of 64 bits, with or without sign. -/
  | whole (n : Int)
  /-- A finite number. -/
  | real (x : Float)
deriving DecidableEq

/-- A JSON value. -/
inductive Json where
  | null
  | bool (b : Bool)
  | number (n : Numeral)
  | string (s : String)
  | array (items : List Json)
  | object (members : List (String × Json))

namespace Numeral

/-- The binary number nearest to a whole number. -/
def ofWhole (n : Int) : Float := Number.Decimal.toNumber (n < 0) ⟨n.natAbs, 0⟩

/-- A JSON number as a binary number. -/
def toNumber : Numeral → Float
  | whole n => ofWhole n
  | real x => x

/-- Numbers have an exponent from ten to the sixteenth on and below ten to the minus fifth, and
whole ones end in a point and a zero; a tie goes to the even digit. -/
def layout : Number.Notation := ⟨.even, fun power => -5 ≤ power && power < 16, true⟩

/-- The text of a JSON number. -/
def text : Numeral → String
  | whole n => toString n
  | real x => String.ofList (layout.write x)

end Numeral

namespace Json

/-- The kind of a value, as messages name it. -/
def kind : Json → String
  | null => "null"
  | bool _ => "boolean"
  | number _ => "number"
  | string _ => "string"
  | array _ => "array"
  | object _ => "object"

/-- A binary number as a value; there is none for a number that is not finite. -/
def ofNumber (x : Float) : Json := if Number.isFinite x then number (.real x) else null

/-- A natural number as a value. -/
def ofNat (n : Nat) : Json := number (.whole n)

mutual

/-- The value with the members of all objects in the order of their keys. -/
def sorted : Json → Json
  | array items => array (sortedItems items)
  | object members => object (Dict.ofList (sortedMembers members)).entries
  | other => other

/-- The items with their members in order. -/
def sortedItems : List Json → List Json
  | [] => []
  | item :: items => item.sorted :: sortedItems items

/-- The members with the members of their values in order. -/
def sortedMembers : List (String × Json) → List (String × Json)
  | [] => []
  | (key, value) :: members => (key, value.sorted) :: sortedMembers members

end

end Json

end LoanDesk
