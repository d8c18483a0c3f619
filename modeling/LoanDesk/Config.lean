import LoanDesk.Json5

/-!
# Members of a configuration

A configuration is an object of a JSON5 text.  Members that it does not know are ignored, one that
it knows may appear once under one of its names, and a value of another type than expected refuses
the whole text.
-/

namespace LoanDesk.Config

/-- The value under the only one of the names that is a key, `none` inside if none of them is. -/
def member? (names : List String) (members : List (String × Json)) : Option (Option Json) :=
  match members.filter fun m => names.contains m.1 with
  | [] => some none
  | [(_, v)] => some (some v)
  | _ => none

/-- The value under one of the names as `read` takes it, or the default if none of them is a
key. -/
def field? {α : Type} (names : List String) (read : Json → Option α) (default : α)
    (members : List (String × Json)) : Option α :=
  (member? names members).bind fun
    | none => some default
    | some v => read v

/-- A number. -/
def number? : Json → Option Float
  | .number n => some n.toNumber
  | _ => none

/-- A string. -/
def text? : Json → Option String
  | .string s => some s
  | _ => none

/-- A string or nothing. -/
def optionalText? : Json → Option (Option String)
  | .null => some none
  | v => (text? v).map some

/-- A list whose items `read` takes. -/
def list? {α : Type} (read : Json → Option α) : Json → Option (List α)
  | .array items => items.mapM read
  | _ => none

end LoanDesk.Config
