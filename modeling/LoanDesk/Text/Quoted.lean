import LoanDesk.Text.Unprintable

/-!
# Quoted text

Text in a message stands between double quotes.  A quote and a backslash inside it follow a
backslash, the common controls have letters, and any other character that is not shown as it is
gives its code point in hexadecimal digits.
-/

namespace LoanDesk.Text

/-- The quoted form of one character. -/
def quotedChar (c : Char) : List Char :=
  if c = '"' then ['\\', '"']
  else if c = '\\' then ['\\', '\\']
  else if c = '\n' then ['\\', 'n']
  else if c = '\r' then ['\\', 'r']
  else if c = '\t' then ['\\', 't']
  else if c.toNat = 0 then ['\\', '0']
  else if isUnprintable c then ['\\', 'u', '\x7b'] ++ Nat.toDigits 16 c.toNat ++ ['\x7d']
  else [c]

/-- The quoted form of a text. -/
def quoted (s : String) : String :=
  String.ofList ('"' :: s.toList.flatMap quotedChar ++ ['"'])

end LoanDesk.Text
