import LoanDesk.Note.Json
import Mathlib.Tactic.Lemma

/-!
# The fields of a note

Some fields of a note have a type.  An object is read as a note exactly if none of them holds a
value of another type, and the note then reports what the members say; otherwise the first of these
fields is blamed, in the order of their keys: `Note.ofMembers_eq_ok_iff` and
`Note.ofMembers_eq_error_iff`.
-/

namespace LoanDesk

namespace Json

/-- The text of a value that is one. -/
def text? : Json → Option String
  | .string s => some s
  | _ => none

/-- The number of a value that is one. -/
def number? : Json → Option Float
  | .number n => some n.toNumber
  | _ => none

end Json

/-- The types that a field of a note may have. -/
inductive FieldType where
  | text
  | number

namespace FieldType

/-- How messages speak of a type. -/
def name : FieldType → String
  | text => "a string"
  | number => "f64"

/-- The values that a field of the type may hold; nothing stands for a field that is missing. -/
def admits : FieldType → Json → Bool
  | _, .null | text, .string _ | number, .number _ => true
  | _, _ => false

end FieldType

namespace Note

variable {members : List (String × Json)}

/-- The fields that have a type, in the order of their keys. -/
def typedFields : List (String × FieldType) :=
  [("grade", .text), ("interestRate", .number), ("loanStatus", .text),
    ("principalPending", .number)]

/-- No field holds a value of another type than its own. -/
def WellTyped (members : List (String × Json)) : Prop :=
  ∀ field ∈ typedFields, ∀ v, members.lookup field.1 = some v → field.2.admits v = true

/-- The note that members report which are well typed. -/
def reported (members : List (String × Json)) : Note Float where
  loanId := (members.lookup "loanId").bind IdSet.idText?
  noteId := (members.lookup "noteId").bind IdSet.idText?
  loanStatus := (members.lookup "loanStatus").bind Json.text?
  interestRate := (members.lookup "interestRate").bind Json.number?
  grade := (members.lookup "grade").bind Json.text?
  principalPending := (members.lookup "principalPending").bind Json.number?

/-- The error that a field is blamed with. -/
def misfit? (members : List (String × Json)) (field : String × FieldType) : Option SourceError :=
  match members.lookup field.1 with
  | some v =>
    if field.2.admits v then none else some (.illTyped (SourceError.foundText v) field.2.name)
  | none => none

/-- The first field that is not of its type is blamed for what it holds. -/
def FirstMisfit (members : List (String × Json)) (e : SourceError) : Prop :=
  ∃ front field back v, typedFields = front ++ field :: back ∧
    (∀ other ∈ front, ∀ w, members.lookup other.1 = some w → other.2.admits w = true) ∧
    members.lookup field.1 = some v ∧ field.2.admits v = false ∧
    e = .illTyped (SourceError.foundText v) field.2.name

/-- A field is blamed for nothing exactly if what it holds is of its type. -/
lemma misfit?_eq_none_iff {field : String × FieldType} :
    misfit? members field = none ↔
      ∀ v, members.lookup field.1 = some v → field.2.admits v = true := by
  rw [misfit?]
  cases members.lookup field.1 with
  | none => simp
  | some v => simp

/-- Members are well typed exactly if no field is blamed. -/
lemma wellTyped_iff : WellTyped members ↔ ∀ field ∈ typedFields, misfit? members field = none :=
  forall₂_congr fun _ _ => misfit?_eq_none_iff.symm

instance : Decidable (WellTyped members) := decidable_of_iff _ wellTyped_iff.symm

/-- A field is blamed for a value that is not of its type. -/
lemma misfit?_eq_some_iff {field : String × FieldType} {e : SourceError} :
    misfit? members field = some e ↔
      ∃ v, members.lookup field.1 = some v ∧ field.2.admits v = false ∧
        e = .illTyped (SourceError.foundText v) field.2.name := by
  rw [misfit?]
  cases members.lookup field.1 with
  | none => simp
  | some v => simp [eq_comm (a := e)]

/-- A text is read unless its field is blamed. -/
lemma readText_eq (members : List (String × Json)) (key : String) :
    readText members key =
      (misfit? members (key, .text)).elim (.ok ((members.lookup key).bind Json.text?)) .error := by
  rw [readText, misfit?]
  cases members.lookup key with
  | none => rfl
  | some v => cases v <;> rfl

/-- A number is read unless its field is blamed. -/
lemma readNumber_eq (members : List (String × Json)) (key : String) :
    readNumber members key =
      (misfit? members (key, .number)).elim
        (.ok ((members.lookup key).bind Json.number?)) .error := by
  rw [readNumber, misfit?]
  cases members.lookup key with
  | none => rfl
  | some v => cases v <;> rfl

/-- The fields are asked for their types one after the other. -/
lemma ofMembers_eq (members : List (String × Json)) :
    ofMembers members =
      (typedFields.findSome? (misfit? members)).elim (.ok (reported members)) .error := by
  rw [ofMembers, readText_eq, readNumber_eq, readText_eq, readNumber_eq, typedFields]
  simp only [List.findSome?_cons, List.findSome?_nil]
  cases misfit? members ("grade", .text) with
  | some => rfl
  | none =>
    cases misfit? members ("interestRate", .number) with
    | some => rfl
    | none =>
      cases misfit? members ("loanStatus", .text) with
      | some => rfl
      | none => cases misfit? members ("principalPending", .number) <;> rfl

/-- An object is read as a note exactly if its members are well typed. -/
theorem ofMembers_eq_ok_iff {n : Note Float} :
    ofMembers members = .ok n ↔ WellTyped members ∧ n = reported members := by
  rw [ofMembers_eq, wellTyped_iff, ← List.findSome?_eq_none_iff]
  cases typedFields.findSome? (misfit? members) with
  | none => simp [eq_comm]
  | some e => simp

/-- An object is not read as a note exactly if a member is not of its type, and the first that is
not is blamed. -/
theorem ofMembers_eq_error_iff {e : SourceError} :
    ofMembers members = .error e ↔ FirstMisfit members e := by
  have blamed : ofMembers members = .error e ↔
      typedFields.findSome? (misfit? members) = some e := by
    rw [ofMembers_eq]
    cases typedFields.findSome? (misfit? members) with
    | none => simp
    | some => simp
  rw [blamed, List.findSome?_eq_some_iff]
  constructor
  · rintro ⟨front, field, back, split, misfit, fits⟩
    obtain ⟨v, found, unfit, named⟩ := misfit?_eq_some_iff.1 misfit
    exact ⟨front, field, back, v, split, fun other h => misfit?_eq_none_iff.1 (fits other h), found,
      unfit, named⟩
  · rintro ⟨front, field, back, v, split, fits, found, unfit, named⟩
    exact ⟨front, field, back, split, misfit?_eq_some_iff.2 ⟨v, found, unfit, named⟩,
      fun other h => misfit?_eq_none_iff.2 (fits other h)⟩

end Note

end LoanDesk
