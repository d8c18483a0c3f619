import LoanDesk.Number.Reading
import LoanDesk.Text.Blank

/-!
# Field values

A loan field holds a number, a text, a truth value or nothing.  Text that spells a finite number
counts as that number, and truth values count as one and zero.
-/

namespace LoanDesk

/-- The value of a loan field. -/
inductive Value where
  | number (x : Float)
  | text (s : String)
  | boolean (b : Bool)
  | null
deriving DecidableEq

namespace Value

/-- Nothing is reported. -/
def isNull : Value → Bool
  | null => true
  | _ => false

/-- The number that a value counts as. -/
def asNumber? : Value → Option Float
  | number x => some x
  | text s => Number.readFinite? (Text.trim s.toList)
  | boolean b => some (if b then 1 else 0)
  | null => none

/-- Whether a value holds when it stands for a condition. -/
def truthy : Value → Bool
  | number x => !Number.isZero x
  | text s => !s.isEmpty
  | boolean b => b
  | null => false

/-- The text of a value, which is also its spelling unless it is a text. -/
def display : Value → String
  | number x => Number.text x
  | text s => s
  | boolean true => "True"
  | boolean false => "False"
  | null => "None"

/-- Values of one kind with the same content; both zeros are the same number, and the undefined
number is the same as none. -/
def same : Value → Value → Bool
  | number x, number y => Number.same x y
  | text s, text t => s == t
  | boolean a, boolean b => a == b
  | null, null => true
  | _, _ => false

@[simp] theorem isNull_null : isNull null = true := rfl

/-- Null is the absent value only. -/
theorem isNull_eq_true {v : Value} : v.isNull = true ↔ v = null := by
  cases v <;> simp [isNull]

theorem truthy_boolean (b : Bool) : truthy (boolean b) = b := rfl

end Value

end LoanDesk
