import LoanDesk.Json.Numeral

/-!
# Reading JSON

A text is read strictly: nothing but white space stands around its one value, strings hold no
controls and no half of a surrogate pair, and at most 127 arrays and objects nest.  Of members with
one key the last counts.  A `JsonReader` takes a value off the front of a text; since it always
takes a character, arrays and objects end.
-/

namespace LoanDesk

/-- A function that takes a value of at least one character off the front of a text. -/
structure JsonReader where
  read : List Char → Option (Json × List Char)
  progress : ∀ {cs v rest}, read cs = some (v, rest) → rest.length < cs.length

namespace JsonReader

/-- The white space of JSON. -/
def isSpace (c : Char) : Bool := c == ' ' || c == '\n' || c == '\t' || c == '\r'

/-- The text without white space in front. -/
def skip (cs : List Char) : List Char := cs.dropWhile isSpace

/-- Skipping white space leaves no more characters. -/
theorem length_skip_le (cs : List Char) : (skip cs).length ≤ cs.length :=
  Numeral.length_dropWhile_le _ _

/-- Behind a character that stands after white space there are fewer characters. -/
theorem length_lt_of_skip {cs rest : List Char} {c : Char} (h : skip cs = c :: rest) :
    rest.length < cs.length := by
  have := length_skip_le cs
  rw [h, List.length_cons] at this
  omega

/-! ### Strings -/

/-- The value of a hexadecimal digit. -/
def hexDigit? (c : Char) : Option Nat :=
  if c.isDigit then some (c.toNat - 48)
  else if 'a' ≤ c ∧ c ≤ 'f' then some (c.toNat - 87)
  else if 'A' ≤ c ∧ c ≤ 'F' then some (c.toNat - 55)
  else none

/-- The number that four hexadecimal digits spell. -/
def hexFour? (a b c d : Char) : Option Nat :=
  match hexDigit? a, hexDigit? b, hexDigit? c, hexDigit? d with
  | some a, some b, some c, some d => some (((a * 16 + b) * 16 + c) * 16 + d)
  | _, _, _, _ => none

/-- The character of a surrogate pair. -/
def pairChar (high low : Nat) : Char :=
  Char.ofNat (0x10000 + (high - 0xd800) * 0x400 + (low - 0xdc00))

/-- The character of a code unit, with the low half of a surrogate pair where the unit is the high
half. -/
def readUnit (unit : Nat) (cs : List Char) : Option (Char × List Char) :=
  if 0xd800 ≤ unit ∧ unit < 0xdc00 then
    match cs with
    | '\\' :: 'u' :: a :: b :: c :: d :: rest =>
      match hexFour? a b c d with
      | some low =>
        if 0xdc00 ≤ low ∧ low < 0xe000 then some (pairChar unit low, rest) else none
      | none => none
    | _ => none
  else if 0xdc00 ≤ unit ∧ unit < 0xe000 then none
  else some (Char.ofNat unit, cs)

/-- The characters that a letter after a backslash stands for. -/
def escaped? : Char → Option Char
  | '"' => some '"'
  | '\\' => some '\\'
  | '/' => some '/'
  | 'b' => some (Char.ofNat 8)
  | 'f' => some (Char.ofNat 12)
  | 'n' => some '\n'
  | 'r' => some '\r'
  | 't' => some '\t'
  | _ => none

/-- What stands after a backslash. -/
def readEscape : List Char → Option (Char × List Char)
  | 'u' :: a :: b :: c :: d :: rest =>
    match hexFour? a b c d with
    | some unit => readUnit unit rest
    | none => none
  | c :: rest => (escaped? c).map fun c => (c, rest)
  | [] => none

/-- What a code unit leaves is no longer than what it was given. -/
theorem length_readUnit {unit : Nat} {cs rest : List Char} {c : Char}
    (h : readUnit unit cs = some (c, rest)) : rest.length ≤ cs.length := by
  unfold readUnit at h
  split at h
  · split at h
    · split at h
      · split at h
        · obtain ⟨_, rfl⟩ := Prod.mk.inj (Option.some.inj h)
          simp only [List.length_cons]
          omega
        · cases h
      · cases h
    · cases h
  split at h
  · cases h
  · obtain ⟨_, rfl⟩ := Prod.mk.inj (Option.some.inj h)
    exact Nat.le_refl _

/-- An escape takes at least one character. -/
theorem length_readEscape {cs rest : List Char} {c : Char} (h : readEscape cs = some (c, rest)) :
    rest.length < cs.length := by
  unfold readEscape at h
  split at h
  · split at h
    · have := length_readUnit h
      simp only [List.length_cons]
      omega
    · cases h
  · obtain ⟨d, _, heq⟩ := Option.map_eq_some_iff.1 h
    cases heq
    simp
  · cases h

/-- The characters up to the closing quote, after those in `done`, which are in reverse. -/
def readText (done : List Char) (cs : List Char) : Option (String × List Char) :=
  match cs with
  | [] => none
  | c :: rest =>
    if c = '"' then some (String.ofList done.reverse, rest)
    else if c = '\\' then
      match _h : readEscape rest with
      | some (d, rest) => readText (d :: done) rest
      | none => none
    else if c.toNat < 32 then none
    else readText (c :: done) rest
termination_by cs.length
decreasing_by
  · have := length_readEscape _h
    simp only [List.length_cons]
    omega
  · simp

/-- A string takes at least its closing quote. -/
theorem length_readText {done cs rest : List Char} {s : String}
    (h : readText done cs = some (s, rest)) : rest.length < cs.length := by
  fun_induction readText done cs with
  | case1 => cases h
  | case2 => cases h; simp
  | case3 done rest' d rest'' he h1 ih =>
    have h1 := length_readEscape he
    have h2 := ih h
    simp only [List.length_cons]
    omega
  | case4 => cases h
  | case5 => cases h
  | case6 done c rest' h1 h2 h3 ih =>
    have h2 := ih h
    simp only [List.length_cons]
    omega

/-! ### Arrays and objects -/

/-- The items after those in `done`, which are in reverse, up to the closing bracket. -/
def readItems (item : JsonReader) (done : List Json) (cs : List Char) :
    Option (Json × List Char) :=
  match _h : item.read (skip cs) with
  | none => none
  | some (v, rest) =>
    match _hrest : skip rest with
    | ',' :: rest => readItems item (v :: done) rest
    | ']' :: rest => some (.array (v :: done).reverse, rest)
    | _ => none
termination_by cs.length
decreasing_by
  have h1 := item.progress _h
  have h2 := length_skip_le cs
  have h3 := length_lt_of_skip _hrest
  omega

/-- A key and the colon after it. -/
def readKey (cs : List Char) : Option (String × List Char) :=
  match skip cs with
  | '"' :: rest =>
    match readText [] rest with
    | none => none
    | some (key, rest) =>
      match skip rest with
      | ':' :: rest => some (key, rest)
      | _ => none
  | _ => none

/-- A key takes at least one character. -/
theorem length_readKey {cs rest : List Char} {key : String} (h : readKey cs = some (key, rest)) :
    rest.length < cs.length := by
  unfold readKey at h
  split at h
  next inside hquote =>
    have h1 := length_lt_of_skip hquote
    split at h
    · cases h
    next k afterKey htext =>
      have h2 := length_readText htext
      split at h
      next afterColon hcolon =>
        have h3 := length_lt_of_skip hcolon
        cases h
        omega
      · cases h
  · cases h

/-- The members after those in `done`, which are in reverse, up to the closing brace. -/
def readMembers (item : JsonReader) (done : List (String × Json)) (cs : List Char) :
    Option (Json × List Char) :=
  match _hkey : readKey cs with
  | none => none
  | some (key, afterKey) =>
    match _hvalue : item.read (skip afterKey) with
    | none => none
    | some (v, afterValue) =>
      match _hmark : skip afterValue with
      | ',' :: rest => readMembers item ((key, v) :: done) rest
      | '\x7d' :: rest => some (.object (Dict.ofList ((key, v) :: done).reverse).entries, rest)
      | _ => none
termination_by cs.length
decreasing_by
  have h1 := length_readKey _hkey
  have h2 := item.progress _hvalue
  have h3 := length_skip_le afterKey
  have h4 := length_lt_of_skip _hmark
  omega

/-- The items of an array take at least its closing bracket. -/
theorem length_readItems {item : JsonReader} {done : List Json} {cs rest : List Char} {v : Json}
    (h : readItems item done cs = some (v, rest)) : rest.length < cs.length := by
  fun_induction readItems item done cs with
  | case1 => cases h
  | case2 done cs v' rest' hitem rest'' hmark ih =>
    have h1 := item.progress hitem
    have h2 := length_skip_le cs
    have h3 := length_lt_of_skip hmark
    have h4 := ih h
    omega
  | case3 done cs v' rest' hitem rest'' hmark =>
    have h1 := item.progress hitem
    have h2 := length_skip_le cs
    have h3 := length_lt_of_skip hmark
    cases h
    omega
  | case4 => cases h

/-- The members of an object take at least its closing brace. -/
theorem length_readMembers {item : JsonReader} {done : List (String × Json)} {cs rest : List Char}
    {v : Json} (h : readMembers item done cs = some (v, rest)) : rest.length < cs.length := by
  fun_induction readMembers item done cs with
  | case1 => cases h
  | case2 => cases h
  | case3 done cs key afterKey hkey v' afterValue hvalue rest' hmark ih =>
    have h1 := length_readKey hkey
    have h2 := item.progress hvalue
    have h3 := length_skip_le afterKey
    have h4 := length_lt_of_skip hmark
    have h5 := ih h
    omega
  | case4 done cs key afterKey hkey v' afterValue hvalue rest' hmark =>
    have h1 := length_readKey hkey
    have h2 := item.progress hvalue
    have h3 := length_skip_le afterKey
    have h4 := length_lt_of_skip hmark
    cases h
    omega
  | case5 => cases h

/-- The rest of an array after its opening bracket. -/
def readArray (item : JsonReader) (cs : List Char) : Option (Json × List Char) :=
  match skip cs with
  | ']' :: rest => some (.array [], rest)
  | _ => readItems item [] cs

/-- The rest of an object after its opening brace. -/
def readObject (item : JsonReader) (cs : List Char) : Option (Json × List Char) :=
  match skip cs with
  | '\x7d' :: rest => some (.object [], rest)
  | _ => readMembers item [] cs

/-- A number, a string or a word. -/
def readScalar : List Char → Option (Json × List Char)
  | 'n' :: 'u' :: 'l' :: 'l' :: rest => some (.null, rest)
  | 't' :: 'r' :: 'u' :: 'e' :: rest => some (.bool true, rest)
  | 'f' :: 'a' :: 'l' :: 's' :: 'e' :: rest => some (.bool false, rest)
  | '"' :: rest => (readText [] rest).map fun (s, rest) => (.string s, rest)
  | cs => (Numeral.read cs).map fun (n, rest) => (.number n, rest)

/-- A value that is neither an array nor an object takes at least one character. -/
theorem length_readScalar {cs rest : List Char} {v : Json} (h : readScalar cs = some (v, rest)) :
    rest.length < cs.length := by
  unfold readScalar at h
  split at h
  · cases h
    simp only [List.length_cons]
    omega
  · cases h
    simp only [List.length_cons]
    omega
  · cases h
    simp only [List.length_cons]
    omega
  · obtain ⟨⟨s, left⟩, hs, heq⟩ := Option.map_eq_some_iff.1 h
    cases heq
    have := length_readText hs
    simp only [List.length_cons]
    omega
  · obtain ⟨⟨n, left⟩, hn, heq⟩ := Option.map_eq_some_iff.1 h
    cases heq
    exact Numeral.length_read hn

/-- A value whose items, if it may have any, are read by `item`. -/
def readValue (item : Option JsonReader) : List Char → Option (Json × List Char)
  | '[' :: rest => item.bind fun item => readArray item rest
  | '\x7b' :: rest => item.bind fun item => readObject item rest
  | cs => readScalar cs

/-- A value whose items, if it may have any, are read by `item`. -/
def value (item : Option JsonReader) : JsonReader where
  read := readValue item
  progress := by
    intro cs v rest h
    unfold readValue at h
    split at h
    · obtain ⟨item, _, h⟩ := Option.bind_eq_some_iff.1 h
      unfold readArray at h
      simp only [List.length_cons]
      split at h
      next hclose =>
        have := length_lt_of_skip hclose
        cases h
        omega
      · have := length_readItems h
        omega
    · obtain ⟨item, _, h⟩ := Option.bind_eq_some_iff.1 h
      unfold readObject at h
      simp only [List.length_cons]
      split at h
      next hclose =>
        have := length_lt_of_skip hclose
        cases h
        omega
      · have := length_readMembers h
        omega
    · exact length_readScalar h

/-- A value with at most `depth` arrays and objects around any part of it. -/
def nested : Nat → JsonReader
  | 0 => value none
  | depth + 1 => value (some (nested depth))

end JsonReader

namespace Json

/-- The greatest number of arrays and objects around a part of a text. -/
def maxDepth : Nat := 127

/-- The value that a text spells. -/
def read? (s : String) : Option Json :=
  match (JsonReader.nested maxDepth).read (JsonReader.skip s.toList) with
  | some (v, rest) => if (JsonReader.skip rest).isEmpty then some v else none
  | none => none

end Json

end LoanDesk
