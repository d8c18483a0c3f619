import LoanDesk.Json

/-!
# Writing JSON

The compact form has no white space; the indented form gives each item and member a line of its own.
Only quotes, backslashes and controls are escaped.
-/

namespace LoanDesk.Json

/-- The escaped form of one character of a string. -/
def escapedChar (c : Char) : List Char :=
  if c = '"' then ['\\', '"']
  else if c = '\\' then ['\\', '\\']
  else if c = '\n' then ['\\', 'n']
  else if c = '\r' then ['\\', 'r']
  else if c = '\t' then ['\\', 't']
  else if c.toNat = 8 then ['\\', 'b']
  else if c.toNat = 12 then ['\\', 'f']
  else if c.toNat < 16 then ['\\', 'u', '0', '0', '0'] ++ Nat.toDigits 16 c.toNat
  else if c.toNat < 32 then ['\\', 'u', '0', '0'] ++ Nat.toDigits 16 c.toNat
  else [c]

/-- A string in quotes. -/
def quoted (s : String) : String :=
  "\"" ++ String.ofList (s.toList.flatMap escapedChar) ++ "\""

mutual

/-- The text without white space. -/
def compact : Json → String
  | null => "null"
  | bool true => "true"
  | bool false => "false"
  | number n => n.text
  | string s => quoted s
  | array items => "[" ++ ",".intercalate (compactItems items) ++ "]"
  | object members => "\x7b" ++ ",".intercalate (compactMembers members) ++ "\x7d"

/-- The texts of the items. -/
def compactItems : List Json → List String
  | [] => []
  | item :: items => item.compact :: compactItems items

/-- The texts of the members. -/
def compactMembers : List (String × Json) → List String
  | [] => []
  | (key, value) :: members => (quoted key ++ ":" ++ value.compact) :: compactMembers members

end

/-- Lines between two brackets, each indented by one step more than the brackets. -/
def block (opening closing : String) (indent : Nat) (lines : List String) : String :=
  let margin := String.ofList (List.replicate indent ' ')
  opening ++ "\n" ++ ",\n".intercalate (lines.map fun line => margin ++ "  " ++ line) ++ "\n" ++
    margin ++ closing

mutual

/-- The text with items and members on lines of their own, where the value itself stands at the
given margin. -/
def indentedAt (indent : Nat) : Json → String
  | array [] => "[]"
  | array (item :: items) => block "[" "]" indent (indentedItems (indent + 2) (item :: items))
  | object [] => "\x7b\x7d"
  | object (member :: members) =>
    block "\x7b" "\x7d" indent (indentedMembers (indent + 2) (member :: members))
  | null => "null"
  | bool true => "true"
  | bool false => "false"
  | number n => n.text
  | string s => quoted s

/-- The texts of the items. -/
def indentedItems (indent : Nat) : List Json → List String
  | [] => []
  | item :: items => item.indentedAt indent :: indentedItems indent items

/-- The texts of the members. -/
def indentedMembers (indent : Nat) : List (String × Json) → List String
  | [] => []
  | (key, value) :: members =>
    (quoted key ++ ": " ++ value.indentedAt indent) :: indentedMembers indent members

end

/-- The text with items and members on lines of their own. -/
def indented (v : Json) : String := v.indentedAt 0

end LoanDesk.Json
