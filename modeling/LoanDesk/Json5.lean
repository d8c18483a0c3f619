import LoanDesk.Json.Read
import LoanDesk.Text.Identifier

/-!
# Reading JSON5

JSON5 is JSON with comments, commas after the last item or member, single quotes, keys without
quotes, lines continued by a backslash, and numbers with a plus sign, in hexadecimal digits,
without digits on one side of the point, or not finite.  An object keeps all of its members in the
order of the text, also those with one key.

The readers of values call each other with a budget, which falls with every call.  A value takes at
least one character, so the length of a text is enough for it.
-/

namespace LoanDesk.Json5

/-! ### Gaps -/

/-- The white space of JSON5. -/
def isSpace (c : Char) : Bool :=
  let n := c.toNat
  (9 ≤ n && n ≤ 13) || n == 0x20 || n == 0xa0 || n == 0xfeff || n == 0x1680 ||
    (0x2000 ≤ n && n ≤ 0x200a) || n == 0x2028 || n == 0x2029 || n == 0x202f || n == 0x205f ||
    n == 0x3000

/-- The characters that end a line, and with it a comment. -/
def endsLine (c : Char) : Bool := c == '\n' || c == '\r' || c.toNat == 0x2028 || c.toNat == 0x2029

mutual

/-- The text without white space and comments in front, unless a comment has no end. -/
def skip : List Char → Option (List Char)
  | [] => some []
  | '/' :: '/' :: cs => skipLine cs
  | '/' :: '*' :: cs => skipBlock cs
  | c :: cs => if isSpace c then skip cs else some (c :: cs)

/-- The text after the rest of a line. -/
def skipLine : List Char → Option (List Char)
  | [] => some []
  | c :: cs => if endsLine c then skip cs else skipLine cs

/-- The text after the rest of a comment between marks. -/
def skipBlock : List Char → Option (List Char)
  | [] => none
  | '*' :: '/' :: cs => skip cs
  | _ :: cs => skipBlock cs

end

/-! ### Strings and keys -/

/-- The character that stands for itself or for a control after a backslash.  The marks of code
units and the digits do not. -/
def escaped? (c : Char) : Option Char :=
  if c = 'b' then some (Char.ofNat 8)
  else if c = 'f' then some (Char.ofNat 12)
  else if c = 'n' then some '\n'
  else if c = 'r' then some '\r'
  else if c = 't' then some '\t'
  else if c = 'v' then some (Char.ofNat 11)
  else if c = 'x' ∨ c = 'u' ∨ c.isDigit then none
  else some c

/-- The character of a code unit that is no half of a surrogate pair. -/
def wholeUnit? (unit : Nat) : Option Char :=
  if 0xd800 ≤ unit ∧ unit < 0xe000 then none else some (Char.ofNat unit)

/-- The characters up to the closing quote. -/
def readText (quote : Char) : List Char → Option (List Char × List Char)
  | [] => none
  | '\\' :: cs =>
    match cs with
    | 'x' :: a :: b :: cs =>
      match JsonReader.hexFour? '0' '0' a b with
      | some unit => (readText quote cs).map fun (s, rest) => (Char.ofNat unit :: s, rest)
      | none => none
    | 'u' :: a :: b :: c :: d :: cs =>
      match JsonReader.hexFour? a b c d with
      | none => none
      | some unit =>
        match wholeUnit? unit, cs with
        | some c, cs => (readText quote cs).map fun (s, rest) => (c :: s, rest)
        | none, '\\' :: 'u' :: e :: f :: g :: h :: cs =>
          match JsonReader.readUnit unit ['\\', 'u', e, f, g, h] with
          | some (c, _) => (readText quote cs).map fun (s, rest) => (c :: s, rest)
          | none => none
        | none, _ => none
    | '\r' :: '\n' :: cs => readText quote cs
    | '0' :: cs =>
      if (cs.head?.map Char.isDigit).getD false then none
      else (readText quote cs).map fun (s, rest) => (Char.ofNat 0 :: s, rest)
    | c :: cs =>
      if endsLine c then readText quote cs
      else
        match escaped? c with
        | some c => (readText quote cs).map fun (s, rest) => (c :: s, rest)
        | none => none
    | [] => none
  | c :: cs =>
    if c = quote then some ([], cs)
    else if c = '\n' ∨ c = '\r' then none
    else (readText quote cs).map fun (s, rest) => (c :: s, rest)

/-- A character in front of those that were read, if it satisfies `p`. -/
def withFirst (p : Char → Bool) (c : Char) (read : Option (List Char × List Char)) :
    Option (List Char × List Char) :=
  if p c then read.map fun (name, rest) => (c :: name, rest) else none

/-- The characters of a key without quotes, of which the first has to satisfy `p`. -/
def readIdentifier (p : Char → Bool) : List Char → Option (List Char × List Char)
  | '\\' :: 'u' :: a :: b :: c :: d :: cs =>
    match JsonReader.hexFour? a b c d with
    | none => none
    | some unit =>
      match wholeUnit? unit, cs with
      | some c, cs => withFirst p c (readIdentifier Text.continuesIdentifier cs)
      | none, '\\' :: 'u' :: e :: f :: g :: h :: cs =>
        match JsonReader.readUnit unit ['\\', 'u', e, f, g, h] with
        | some (c, _) => withFirst p c (readIdentifier Text.continuesIdentifier cs)
        | none => none
      | none, _ => none
  | c :: cs =>
    if p c then withFirst p c (readIdentifier Text.continuesIdentifier cs)
    else some ([], c :: cs)
  | [] => some ([], [])

/-- A key with or without quotes. -/
def readName (cs : List Char) : Option (String × List Char) :=
  match cs with
  | '"' :: cs => (readText '"' cs).map fun (s, rest) => (String.ofList s, rest)
  | '\'' :: cs => (readText '\'' cs).map fun (s, rest) => (String.ofList s, rest)
  | cs =>
    match readIdentifier Text.startsIdentifier cs with
    | none | some ([], _) => none
    | some (name, rest) => some (String.ofList name, rest)

/-- A key and the text after its colon. -/
def readKey (cs : List Char) : Option (String × List Char) :=
  (readName cs).bind fun (key, rest) =>
    (skip rest).bind fun
      | ':' :: rest => (skip rest).map fun rest => (key, rest)
      | _ => none

/-! ### Numbers -/

/-- A whole number that fits 64 bits, with sign or without. -/
def ofWhole (negative : Bool) (n : Nat) : Numeral :=
  if negative then
    if n ≤ 0x8000000000000000 then .whole (-n) else .real (Number.Decimal.toNumber true ⟨n, 0⟩)
  else
    if n < 0x10000000000000000 then .whole n else .real (Number.Decimal.toNumber false ⟨n, 0⟩)

/-- The digits after the point, if there is one, and the text after them. -/
def readFraction : List Char → Option (List Char) × List Char
  | '.' :: cs => (some (cs.takeWhile Char.isDigit), cs.dropWhile Char.isDigit)
  | cs => (none, cs)

/-- The power of ten, if there is one, and the text after it. -/
def readPower : List Char → Option (Option Int × List Char)
  | 'e' :: cs | 'E' :: cs => (Numeral.readPower cs).map fun (power, rest) => (some power, rest)
  | cs => some (none, cs)

/-- A number in decimal digits. -/
def readDecimal (negative : Bool) (cs : List Char) : Option (Numeral × List Char) :=
  let digits := cs.takeWhile Char.isDigit
  let (fraction, rest) := readFraction (cs.dropWhile Char.isDigit)
  if (digits ++ fraction.getD []).isEmpty || (digits.head? == some '0' && 1 < digits.length) then
    none
  else
    (readPower rest).map fun
      | (none, rest) =>
        match fraction with
        | none => (ofWhole negative (Nat.ofDigitChars 10 digits 0), rest)
        | some fraction => (.real (number digits fraction 0), rest)
      | (some power, rest) => (.real (number digits (fraction.getD []) power), rest)
where
  /-- The number that digits before and after the point and a power of ten spell. -/
  number (digits fraction : List Char) (power : Int) : Float :=
    Number.Decimal.toNumber negative
      ⟨Nat.ofDigitChars 10 (digits ++ fraction) 0, power - fraction.length⟩

/-- The number that hexadecimal digits spell after `taken`. -/
def hexNumber (taken : Nat) : List Char → Nat
  | [] => taken
  | c :: cs => hexNumber (taken * 16 + (JsonReader.hexDigit? c).getD 0) cs

/-- Whether a whole number fits 128 bits, a negative one with its sign. -/
def isHexNumber (negative : Bool) (n : Nat) : Bool :=
  if negative then n ≤ 0x80000000000000000000000000000000
  else n < 0x100000000000000000000000000000000

/-- A number in hexadecimal digits. -/
def readHex (negative : Bool) (cs : List Char) : Option (Numeral × List Char) :=
  let isHexDigit := fun c => (JsonReader.hexDigit? c).isSome
  match cs.takeWhile isHexDigit with
  | [] => none
  | digits =>
    let n := hexNumber 0 digits
    if isHexNumber negative n then some (ofWhole negative n, cs.dropWhile isHexDigit) else none

/-- A number without its sign. -/
def readUnsigned (negative : Bool) : List Char → Option (Numeral × List Char)
  | 'I' :: 'n' :: 'f' :: 'i' :: 'n' :: 'i' :: 't' :: 'y' :: rest =>
    some (.real (Number.ofMagnitude negative Number.infinity (Nat.le_refl _)), rest)
  | 'N' :: 'a' :: 'N' :: rest => some (.real Number.undefined, rest)
  | '0' :: 'x' :: rest | '0' :: 'X' :: rest => readHex negative rest
  | cs => readDecimal negative cs

/-- A number. -/
def readNumber : List Char → Option (Numeral × List Char)
  | '-' :: cs => readUnsigned true cs
  | '+' :: cs => readUnsigned false cs
  | cs => readUnsigned false cs

/-! ### Values -/

/-- A word, a string or a number. -/
def readScalar : List Char → Option (Json × List Char)
  | 'n' :: 'u' :: 'l' :: 'l' :: rest => some (.null, rest)
  | 't' :: 'r' :: 'u' :: 'e' :: rest => some (.bool true, rest)
  | 'f' :: 'a' :: 'l' :: 's' :: 'e' :: rest => some (.bool false, rest)
  | '"' :: cs => (readText '"' cs).map fun (s, rest) => (.string (String.ofList s), rest)
  | '\'' :: cs => (readText '\'' cs).map fun (s, rest) => (.string (String.ofList s), rest)
  | cs => (readNumber cs).map fun (n, rest) => (.number n, rest)

mutual

/-- A value. -/
def readValue : Nat → List Char → Option (Json × List Char)
  | 0, _ => none
  | budget + 1, '[' :: cs =>
    (skip cs).bind fun cs => (readItems budget cs).map fun (items, rest) => (.array items, rest)
  | budget + 1, '\x7b' :: cs =>
    (skip cs).bind fun cs =>
      (readMembers budget cs).map fun (members, rest) => (.object members, rest)
  | _ + 1, cs => readScalar cs

/-- The items up to the closing bracket. -/
def readItems : Nat → List Char → Option (List Json × List Char)
  | _, ']' :: rest => some ([], rest)
  | 0, _ => none
  | budget + 1, cs =>
    (readValue budget cs).bind fun (item, rest) =>
      (skip rest).bind fun
        | ']' :: rest => some ([item], rest)
        | ',' :: rest =>
          (skip rest).bind fun rest =>
            (readItems budget rest).map fun (items, rest) => (item :: items, rest)
        | _ => none

/-- The members up to the closing brace. -/
def readMembers : Nat → List Char → Option (List (String × Json) × List Char)
  | _, '\x7d' :: rest => some ([], rest)
  | 0, _ => none
  | budget + 1, cs =>
    (readKey cs).bind fun (key, rest) =>
      (readValue budget rest).bind fun (value, rest) =>
        (skip rest).bind fun
          | '\x7d' :: rest => some ([(key, value)], rest)
          | ',' :: rest =>
            (skip rest).bind fun rest =>
              (readMembers budget rest).map fun (members, rest) => ((key, value) :: members, rest)
          | _ => none

end

/-- The value that a text spells. -/
def read? (s : String) : Option Json :=
  (skip s.toList).bind fun cs =>
    (readValue (2 * cs.length) cs).bind fun (v, rest) =>
      (skip rest).bind fun rest => if rest.isEmpty then some v else none

end LoanDesk.Json5
