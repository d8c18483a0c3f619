import LoanDesk.Listing
import LoanDesk.Note
import LoanDesk.Text.Quoted

/-!
# Notes as JSON

Notes are an array, or the array under `myNotes` of an object, where nothing stands for no notes.
Ids may be numbers or strings, and those of another type count as missing; any other member has to
be missing, nothing, or of its type.  Of several that are not, the first key in order is named.
-/

namespace LoanDesk

namespace SourceError

/-- How messages speak of a value of the wrong type. -/
def foundText : Json → String
  | .null => "null"
  | .bool true => "boolean \x60true\x60"
  | .bool false => "boolean \x60false\x60"
  | .number (.whole n) => "integer \x60" ++ toString n ++ "\x60"
  | .number (.real x) =>
    let digits := Number.chars x
    let written := if digits.contains '.' then digits else digits ++ ['.', '0']
    "floating point \x60" ++ String.ofList written ++ "\x60"
  | .string s => "string " ++ Text.quoted s
  | .array _ => "sequence"
  | .object _ => "map"

end SourceError

namespace Note

/-- The id under a key. -/
def readId (members : List (String × Json)) (key : String) : Option String :=
  (members.lookup key).bind IdSet.idText?

/-- The text under a key. -/
def readText (members : List (String × Json)) (key : String) :
    Except SourceError (Option String) :=
  match members.lookup key with
  | none | some .null => .ok none
  | some (.string s) => .ok (some s)
  | some v => .error (.illTyped (SourceError.foundText v) "a string")

/-- The number under a key. -/
def readNumber (members : List (String × Json)) (key : String) :
    Except SourceError (Option Float) :=
  match members.lookup key with
  | none | some .null => .ok none
  | some (.number n) => .ok (some n.toNumber)
  | some v => .error (.illTyped (SourceError.foundText v) "f64")

/-- The note that the members of an object report. -/
def ofMembers (members : List (String × Json)) : Except SourceError (Note Float) := do
  let grade ← readText members "grade"
  let interestRate ← readNumber members "interestRate"
  let loanStatus ← readText members "loanStatus"
  let principalPending ← readNumber members "principalPending"
  return ⟨readId members "loanId", readId members "noteId", loanStatus, interestRate, grade,
    principalPending⟩

/-- An item of a list of notes, which has to be an object. -/
def readNote (index : Nat) : Json → Except SourceError (Note Float)
  | .object members => ofMembers members
  | other => .error (.noteNotObject index other.kind)

/-- The notes of a document. -/
def listOfJson : Json → Except SourceError (List (Note Float))
  | .array items => readEach readNote 0 items
  | .object members =>
    match members.lookup "myNotes" with
    | some (.array items) => readEach readNote 0 items
    | some .null => .ok []
    | _ => .error .notesMissing
  | other => .error (.notContainer other.kind)

/-- The notes of a text. -/
def readList (s : String) : Except SourceError (List (Note Float)) :=
  match Json.read? s with
  | some v => listOfJson v
  | none => .error .notJson

/-- A text, or nothing where it is missing. -/
def textJson : Option String → Json
  | some s => .string s
  | none => .null

/-- A number, or nothing where it is missing. -/
def numberJson : Option Float → Json
  | some x => .ofNumber x
  | none => .null

/-- A note as JSON. -/
def toJson (n : Note Float) : Json :=
  .object [("loanId", textJson n.loanId), ("noteId", textJson n.noteId),
    ("loanStatus", textJson n.loanStatus), ("interestRate", numberJson n.interestRate),
    ("grade", textJson n.grade), ("principalPending", numberJson n.principalPending)]

end Note

end LoanDesk
