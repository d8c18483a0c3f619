import LoanDesk.Json.Print
import LoanDesk.Loan

/-!
# Loans as JSON

A loan is read from the members of an object.  An array or object among them becomes its compact
text, since fields hold no parts.  A loan is written with its quality as a further member.
-/

namespace LoanDesk

/-- A JSON value as a field. -/
def Value.ofJson : Json → Value
  | .null => .null
  | .bool b => .boolean b
  | .number n => .number n.toNumber
  | .string s => .text s
  | other => .text other.compact

/-- A field as a JSON value. -/
def Value.toJson : Value → Json
  | number x => .ofNumber x
  | text s => .string s
  | boolean b => .bool b
  | null => .null

namespace Loan

/-- The loan that the members of an object report. -/
def ofMembers (members : List (String × Json)) : Loan :=
  ofFields (members.map fun (name, v) => (name, Value.ofJson v))

/-- The object that reports a loan with its quality. -/
def toJson (loan : Loan) : Json :=
  .object (insertEntry "quality" (.number (.whole loan.quality))
    (loan.fields.entries.map fun (name, v) => (name, v.toJson)))

end Loan

end LoanDesk
