import LoanDesk.Json.Read
import LoanDesk.Loan.Json

/-!
# Listings

A listing is an object with its loans under `loans`, an array of loans, or a single loan.  The
loans that an account owns are named by an object with notes under `myNotes`, or by an array of
notes or of plain ids.
-/

namespace LoanDesk

/-- Why a text cannot be read as loans, ids or notes; what was found is given by its kind. -/
inductive SourceError where
  | notJson
  | loansNotArray (found : String)
  | notContainer (found : String)
  | loanNotObject (index : Nat) (found : String)
  | notesMissing
  | noteNotObject (index : Nat) (found : String)
  /-- A member of a note has the wrong type. -/
  | illTyped (found expected : String)
deriving DecidableEq, Repr

namespace SourceError

/-- What is unexpected about the shape of a document, if that is the error. -/
def shape? : SourceError → Option String
  | loansNotArray found => some ("'loans' must be an array, found " ++ found)
  | notContainer found => some ("expected an object or array, found " ++ found)
  | loanNotObject index found =>
    some ("loan #" ++ toString index ++ " must be an object, found " ++ found)
  | notesMissing => some "missing 'myNotes' array"
  | noteNotObject index found =>
    some ("note #" ++ toString index ++ " must be an object, found " ++ found)
  | notJson | illTyped _ _ => none

/-- The message of an error. -/
def message (e : SourceError) : String :=
  match e, e.shape? with
  | _, some shape => "Unexpected listing shape: " ++ shape
  | illTyped found expected, none =>
    "Invalid JSON: invalid type: " ++ found ++ ", expected " ++ expected
  | _, none => "Invalid JSON"

end SourceError

/-- The results of a reader on items numbered from `index`, or the error of the first that has
one. -/
def readEach {α β : Type} (item : Nat → α → Except SourceError β) (index : Nat) :
    List α → Except SourceError (List β)
  | [] => .ok []
  | v :: vs =>
    match item index v with
    | .error e => .error e
    | .ok b => (readEach item (index + 1) vs).map (b :: ·)

namespace Listing

/-- An item of a listing, which has to be an object. -/
def readLoan (index : Nat) : Json → Except SourceError Loan
  | .object members => .ok (Loan.ofMembers members)
  | other => .error (.loanNotObject index other.kind)

/-- The loans of a document. -/
def ofJson : Json → Except SourceError (List Loan)
  | .array items => readEach readLoan 0 items
  | .object members =>
    match members.lookup "loans" with
    | some (.array items) => readEach readLoan 0 items
    | some .null => .ok []
    | some other => .error (.loansNotArray other.kind)
    | none =>
      if (members.lookup "asOfDate").isSome || members.isEmpty then .ok []
      else .ok [Loan.ofMembers members]
  | other => .error (.notContainer other.kind)

/-- The loans of a text. -/
def read (s : String) : Except SourceError (List Loan) :=
  match Json.read? s with
  | some v => ofJson v
  | none => .error .notJson

end Listing

/-- A set of loan ids. -/
abbrev IdSet := Dict Unit

namespace IdSet

/-- The ids of a list. -/
def ofList (ids : List String) : IdSet := Dict.ofList (ids.map fun id => (id, ()))

/-- Whether an id is in the set. -/
def contains (ids : IdSet) (id : String) : Bool := (ids.find? id).isSome

/-- The ids in order. -/
def toList (ids : IdSet) : List String := ids.entries.map (·.1)

/-- The text of an id, which is a number or a string. -/
def idText? : Json → Option String
  | .number n => some n.text
  | .string s => some s
  | _ => none

/-- The id of the loan that a note belongs to, or a plain id. -/
def ofNote? : Json → Option String
  | .object members => ((members.lookup "loanId").or (members.lookup "id")).bind idText?
  | other => idText? other

/-- The ids of the owned loans of a document. -/
def ofJson : Json → Except SourceError IdSet
  | .array notes => .ok (ofList (notes.filterMap ofNote?))
  | .object members =>
    match members.lookup "myNotes" with
    | some (.array notes) => .ok (ofList (notes.filterMap ofNote?))
    | _ => .error .notesMissing
  | other => .error (.notContainer other.kind)

/-- The ids of the owned loans of a text. -/
def read (s : String) : Except SourceError IdSet :=
  match Json.read? s with
  | some v => ofJson v
  | none => .error .notJson

end IdSet

end LoanDesk
