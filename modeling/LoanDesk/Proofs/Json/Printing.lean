import LoanDesk.Json.Print
import LoanDesk.Json.Read
import LoanDesk.Proofs.Json.Numeral
import LoanDesk.Proofs.Separated
import Mathlib.Data.List.Forall2

/-!
# Values that are printed are read back

A value is read from its text with the members of its objects in the order of their keys, whether
the text is compact or has lines of its own for items and members, if no more arrays and objects
nest than a reader takes and the text of every number is read back as that number:
`Json.read?_compact` and `Json.read?_indented`.  Both forms put texts between brackets, with a gap
of white space in front of each (`JsonReader.enclosed`), and a reader takes one of them after the
other.
-/

namespace LoanDesk

namespace JsonReader

variable {cs rest done : List Char} {c d : Char}

/-! ### Strings -/

/-- A backslash and an escape are read as the character that the escape stands for. -/
lemma readText_escape (h : readEscape cs = some (d, rest)) :
    readText done ('\\' :: cs) = readText (d :: done) rest := by
  rw [readText, if_neg (by decide), if_pos rfl]
  split
  next h' =>
    cases h.symm.trans h'
    rfl
  next h' => cases h.symm.trans h'

/-- A character that is no quote, backslash or control is read as itself. -/
lemma readText_plain (quote : c ≠ '"') (backslash : c ≠ '\\') (control : ¬c.toNat < 32) :
    readText done (c :: cs) = readText (c :: done) cs := by
  rw [readText, if_neg quote, if_neg backslash, if_neg control]

/-- The two digits of a control are read as its code. -/
lemma hexFour?_control : ∀ n < 32,
    (if n < 16 then '0' :: Nat.toDigits 16 n else Nat.toDigits 16 n) =
        [if n < 16 then '0' else '1', (n % 16).digitChar] ∧
      hexFour? '0' '0' (if n < 16 then '0' else '1') (n % 16).digitChar = some n := by
  decide +kernel

/-- The escape with the two digits of a control is read as the control. -/
lemma readEscape_control {n : Nat} (h : n < 32) (cs : List Char) :
    readEscape ('u' :: '0' :: '0' ::
        (if n < 16 then '0' :: Nat.toDigits 16 n else Nat.toDigits 16 n) ++ cs) =
      some (Char.ofNat n, cs) := by
  obtain ⟨spelled, read⟩ := hexFour?_control n h
  rw [spelled]
  simp only [List.cons_append, List.nil_append, readEscape, read, readUnit]
  rw [if_neg (by omega), if_neg (by omega)]

/-- The escaped form of a character is read as the character. -/
lemma readText_escapedChar (c : Char) :
    readText done (Json.escapedChar c ++ cs) = readText (c :: done) cs := by
  have byCode {n : Nat} (h : c.toNat = n) : c = Char.ofNat n := by
    rw [← h, Char.ofNat_toNat]
  unfold Json.escapedChar
  split_ifs with quote backslash newline lineReturn tab backspace formFeed short control
  · rw [quote]
    exact readText_escape rfl
  · rw [backslash]
    exact readText_escape rfl
  · rw [newline]
    exact readText_escape rfl
  · rw [lineReturn]
    exact readText_escape rfl
  · rw [tab]
    exact readText_escape rfl
  · rw [byCode backspace]
    exact readText_escape rfl
  · rw [byCode formFeed]
    exact readText_escape rfl
  · have read := readEscape_control (show c.toNat < 32 by omega) cs
    rw [if_pos short, Char.ofNat_toNat] at read
    exact readText_escape read
  · have read := readEscape_control control cs
    rw [if_neg short, Char.ofNat_toNat] at read
    exact readText_escape read
  · exact readText_plain quote backslash control

/-- A string in quotes is read as the string. -/
lemma readText_quoted (s : String) (rest : List Char) :
    readText [] (s.toList.flatMap Json.escapedChar ++ '"' :: rest) = some (s, rest) := by
  -- The reader keeps what it has read in reverse, so the induction is for any such characters.
  have go (chars done : List Char) : readText done (chars.flatMap Json.escapedChar ++ '"' :: rest) =
      some (String.ofList (done.reverse ++ chars), rest) := by
    induction chars generalizing done with
    | nil =>
      rw [List.flatMap_nil, List.nil_append, readText, if_pos rfl, List.append_nil]
    | cons c chars ih =>
      rw [List.flatMap_cons, List.append_assoc, readText_escapedChar, ih]
      simp
  rw [go]
  simp

/-! ### Values in front of a text -/

/-- The characters are white space. -/
def Blank (gap : List Char) : Prop := ∀ c ∈ gap, isSpace c = true

/-- The text is read as the value wherever it is followed by what ends a number; neither white space
nor the end of an array is taken for its beginning. -/
structure ReadsAs (item : JsonReader) (text : List Char) (v : Json) : Prop where
  begins : ∃ c cs, text = c :: cs ∧ isSpace c = false ∧ c ≠ ']'
  reads : ∀ {rest}, Numeral.Ends rest → item.read (text ++ rest) = some (v, rest)

variable {item : JsonReader} {gap tail text left : List Char} {texts : List (List Char)} {v : Json}

/-- White space in front of a text is skipped. -/
lemma skip_append (blank : Blank gap) (cs : List Char) : skip (gap ++ cs) = skip cs :=
  List.dropWhile_append_of_pos blank

/-- Nothing is skipped in front of a character that is not white space. -/
lemma skip_cons (h : isSpace c = false) : skip (c :: cs) = c :: cs := by
  rw [skip, List.dropWhile_cons, h]
  rfl

/-- A comma or a closing bracket ends a number. -/
lemma ends_of_mark (h : c ∈ [',', ']', '\x7d']) : Numeral.Ends (c :: cs) := by
  intro d hd
  cases hd
  simp only [List.mem_cons, List.not_mem_nil, or_false] at h
  rcases h with rfl | rfl | rfl <;> decide

/-- White space is a blank, a line feed, a tab or a carriage return. -/
lemma eq_of_isSpace (h : isSpace c = true) : c = ' ' ∨ c = '\n' ∨ c = '\t' ∨ c = '\r' := by
  simpa [isSpace, or_assoc] using h

/-- White space in front of what ends a number ends it too. -/
lemma ends_append (blank : Blank gap) (ends : Numeral.Ends rest) :
    Numeral.Ends (gap ++ rest) := by
  cases gap with
  | nil => exact ends
  | cons c gap =>
    intro d hd
    cases hd
    rcases eq_of_isSpace (blank c List.mem_cons_self) with rfl | rfl | rfl | rfl <;> decide

/-- Skipping the gap in front of a value stops at the value. -/
lemma ReadsAs.skip (h : ReadsAs item text v) (blank : Blank gap) (rest : List Char) :
    skip (gap ++ (text ++ rest)) = text ++ rest := by
  obtain ⟨c, cs, rfl, solid, -⟩ := h.begins
  rw [skip_append blank, List.cons_append, skip_cons solid]

/-! ### Arrays -/

/-- An item is read, and a comma or the closing bracket behind it says how to go on. -/
lemma readItems_eq (done : List Json) (cs : List Char) :
    readItems item done cs =
      match item.read (skip cs) with
      | none => none
      | some (v, left) =>
        match skip left with
        | ',' :: rest => readItems item (v :: done) rest
        | ']' :: rest => some (.array (v :: done).reverse, rest)
        | _ => none := by
  rw [readItems]
  split
  next h => simp only [h]
  next h =>
    simp only [h]
    split
    next h => simp [h]
    next h => simp [h]
    next comma close => split <;> simp_all

/-- Texts with a comma and a gap in front of each. -/
def row (gap : List Char) (texts : List (List Char)) : List Char :=
  texts.flatMap fun text => ',' :: (gap ++ text)

/-- A row begins with the comma and the gap in front of its first text. -/
lemma row_cons (gap text : List Char) (texts : List (List Char)) (rest : List Char) :
    row gap (text :: texts) ++ rest = ',' :: (gap ++ (text ++ (row gap texts ++ rest))) := by
  simp [row]

/-- A number in front of a row ends there. -/
lemma ends_row (gap : List Char) (texts : List (List Char)) (ends : Numeral.Ends rest) :
    Numeral.Ends (row gap texts ++ rest) := by
  cases texts with
  | nil => exact ends
  | cons text texts =>
    rw [row_cons]
    exact ends_of_mark (by simp)

/-- The items of a row are read one after the other, up to the closing bracket. -/
lemma readItems_row (blank : Blank gap) (blankTail : Blank tail) {vs : List Json}
    (first : ReadsAs item text v) (others : List.Forall₂ (ReadsAs item) texts vs)
    (done : List Json) (rest : List Char) :
    readItems item done (gap ++ (text ++ (row gap texts ++ (tail ++ ']' :: rest)))) =
      some (.array (done.reverse ++ v :: vs), rest) := by
  -- Whatever comes next, a comma, white space or the bracket, the value in front ends there.
  have ends : Numeral.Ends (tail ++ ']' :: rest) := ends_append blankTail (ends_of_mark (by simp))
  induction others generalizing text v done with
  | nil =>
    have read := first.reads ends
    rw [← first.skip blank] at read
    rw [row, List.flatMap_nil, List.nil_append, readItems_eq, read]
    simp only [skip_append blankTail, skip_cons (show isSpace ']' = false by decide),
      List.reverse_cons]
  | @cons t _ ts _ next others ih =>
    have read := first.reads (ends_row gap (t :: ts) ends)
    rw [← first.skip blank] at read
    rw [readItems_eq, read, row_cons]
    simp only [skip_cons (show isSpace ',' = false by decide), ih next, List.reverse_cons,
      List.append_assoc, List.singleton_append]

/-! ### Objects -/

/-- The text is read as the member: its key in quotes, a colon, and after a gap its value. -/
def ReadsMember (item : JsonReader) (text : List Char) (member : String × Json) : Prop :=
  ∃ gap value, Blank gap ∧ ReadsAs item value member.2 ∧
    text = '"' :: (member.1.toList.flatMap Json.escapedChar ++ '"' :: ':' :: (gap ++ value))

/-- A key in quotes is read up to the colon behind it. -/
lemma readKey_quoted (blank : Blank gap) (key : String) (rest : List Char) :
    readKey (gap ++ '"' :: (key.toList.flatMap Json.escapedChar ++ '"' :: ':' :: rest)) =
      some (key, rest) := by
  rw [readKey, skip_append blank, skip_cons (by decide)]
  simp only [readText_quoted, skip_cons (show isSpace ':' = false by decide)]

/-- A key and its value are read, and what is behind them says how to go on. -/
lemma readMembers_eq (done : List (String × Json)) (cs : List Char) :
    readMembers item done cs =
      match readKey cs with
      | none => none
      | some (key, afterKey) =>
        match item.read (skip afterKey) with
        | none => none
        | some (v, left) =>
          match skip left with
          | ',' :: rest => readMembers item ((key, v) :: done) rest
          | '\x7d' :: rest => some (.object (Dict.ofList ((key, v) :: done).reverse).entries, rest)
          | _ => none := by
  rw [readMembers]
  split
  next h => rw [h]
  next h =>
    rw [h]
    split
    next h => simp only [h]
    next h =>
      simp only [h]
      split
      next h => simp [h]
      next h => simp [h]
      next comma close => split <;> simp_all

/-- The members of a row are read one after the other, up to the closing brace. -/
lemma readMembers_row (blank : Blank gap) (blankTail : Blank tail)
    {member : String × Json} {members : List (String × Json)}
    (first : ReadsMember item text member)
    (others : List.Forall₂ (ReadsMember item) texts members)
    (done : List (String × Json)) (rest : List Char) :
    readMembers item done (gap ++ (text ++ (row gap texts ++ (tail ++ '\x7d' :: rest)))) =
      some (.object (Dict.ofList (done.reverse ++ member :: members)).entries, rest) := by
  have ends : Numeral.Ends (tail ++ '\x7d' :: rest) :=
    ends_append blankTail (ends_of_mark (by simp))
  induction others generalizing text member done with
  | nil =>
    obtain ⟨colon, value, blankColon, first, rfl⟩ := first
    have read := first.reads ends
    rw [← first.skip blankColon] at read
    simp only [row, List.flatMap_nil, List.nil_append, List.cons_append, List.append_assoc]
    rw [readMembers_eq, readKey_quoted blank]
    simp only [read, skip_append blankTail, skip_cons (show isSpace '\x7d' = false by decide),
      List.reverse_cons]
  | @cons t _ ts _ next others ih =>
    obtain ⟨colon, value, blankColon, first, rfl⟩ := first
    have read := first.reads (ends_row gap (t :: ts) ends)
    rw [← first.skip blankColon] at read
    simp only [List.cons_append, List.append_assoc]
    rw [row_cons] at read ⊢
    rw [readMembers_eq, readKey_quoted blank]
    simp only [read, skip_cons (show isSpace ',' = false by decide), ih next,
      List.reverse_cons, List.append_assoc, List.singleton_append]

/-! ### Texts between brackets -/

/-- Texts between brackets: a gap in front of each, commas, and white space before the last
bracket. -/
def enclosed (opening closing : Char) (gap tail : List Char) : List (List Char) → List Char
  | [] => [opening, closing]
  | text :: texts => opening :: (gap ++ (text ++ (row gap texts ++ (tail ++ [closing]))))

/-- Texts that are read as values are read as an array of them in brackets. -/
lemma readsAs_array (blank : Blank gap) (blankTail : Blank tail) {vs : List Json}
    (items : List.Forall₂ (ReadsAs item) texts vs) :
    ReadsAs (value (some item)) (enclosed '[' ']' gap tail texts) (.array vs) := by
  cases items with
  | nil =>
    refine ⟨⟨_, _, rfl, by decide, by decide⟩, fun {rest} _ => ?_⟩
    change readArray item (']' :: rest) = _
    simp only [readArray, skip_cons (show isSpace ']' = false by decide)]
  | cons first others =>
    refine ⟨⟨_, _, rfl, by decide, by decide⟩, fun {rest} _ => ?_⟩
    have read := readItems_row blank blankTail first others [] rest
    change readArray item ((gap ++ _) ++ rest) = _
    simp only [List.append_assoc, List.singleton_append]
    rw [readArray]
    split
    next close =>
      rw [first.skip blank] at close
      obtain ⟨c, cs, rfl, -, opens⟩ := first.begins
      exact absurd (List.cons.inj close).1 opens
    next => exact read

/-- Texts that are read as members are read as an object of them in braces. -/
lemma readsAs_object (blank : Blank gap) (blankTail : Blank tail)
    {members : List (String × Json)}
    (all : List.Forall₂ (ReadsMember item) texts members) :
    ReadsAs (value (some item)) (enclosed '\x7b' '\x7d' gap tail texts)
      (.object (Dict.ofList members).entries) := by
  cases all with
  | nil =>
    refine ⟨⟨_, _, rfl, by decide, by decide⟩, fun {rest} _ => ?_⟩
    change readObject item ('\x7d' :: rest) = _
    simp only [readObject, skip_cons (show isSpace '\x7d' = false by decide)]
    rfl
  | cons first others =>
    refine ⟨⟨_, _, rfl, by decide, by decide⟩, fun {rest} _ => ?_⟩
    have read := readMembers_row blank blankTail first others [] rest
    change readObject item ((gap ++ _) ++ rest) = _
    simp only [List.append_assoc, List.singleton_append]
    rw [readObject]
    split
    next close =>
      obtain ⟨colon, value, -, -, rfl⟩ := first
      rw [skip_append blank, List.cons_append, skip_cons (by decide)] at close
      cases close
    next => exact read

end JsonReader

namespace Json
open JsonReader

/-- The value can be printed and read back by a reader that takes so many nested arrays and objects:
its numbers are read back. -/
inductive Printable : Nat → Json → Prop where
  | null {depth : Nat} : Printable depth .null
  | bool {depth : Nat} (b : Bool) : Printable depth (.bool b)
  | number {depth : Nat} {n : Numeral} (h : n.ReadsBack) : Printable depth (.number n)
  | string {depth : Nat} (s : String) : Printable depth (.string s)
  | array {depth : Nat} {items : List Json} (h : ∀ v ∈ items, Printable depth v) :
      Printable (depth + 1) (.array items)
  | object {depth : Nat} {members : List (String × Json)}
      (h : ∀ member ∈ members, Printable depth member.2) : Printable (depth + 1) (.object members)

/-- Each item is printed on its own. -/
lemma compactItems_eq (items : List Json) : compactItems items = items.map compact := by
  induction items with
  | nil => rfl
  | cons item items ih => rw [compactItems, ih, List.map_cons]

/-- Each member is printed as its key, a colon and its value. -/
lemma compactMembers_eq (members : List (String × Json)) :
    compactMembers members = members.map fun m => quoted m.1 ++ ":" ++ m.2.compact := by
  induction members with
  | nil => rfl
  | cons member members ih => rw [compactMembers, ih, List.map_cons]

/-- Each item is printed on its own, at the indent of the block. -/
lemma indentedItems_eq (indent : Nat) (items : List Json) :
    indentedItems indent items = items.map (indentedAt indent) := by
  induction items with
  | nil => rfl
  | cons item items ih => rw [indentedItems, ih, List.map_cons]

/-- Each member is printed as its key, a colon and its value, at the indent of the block. -/
lemma indentedMembers_eq (indent : Nat) (members : List (String × Json)) :
    indentedMembers indent members =
      members.map fun m => quoted m.1 ++ ": " ++ m.2.indentedAt indent := by
  induction members with
  | nil => rfl
  | cons member members ih => rw [indentedMembers, ih, List.map_cons]

/-- Each item is sorted on its own. -/
lemma sortedItems_eq (items : List Json) : sortedItems items = items.map sorted := by
  induction items with
  | nil => rfl
  | cons item items ih => rw [sortedItems, ih, List.map_cons]

/-- Sorting goes into the value of each member and keeps the key. -/
lemma sortedMembers_eq (members : List (String × Json)) :
    sortedMembers members = members.map fun m => (m.1, m.2.sorted) := by
  induction members with
  | nil => rfl
  | cons member members ih => rw [sortedMembers, ih, List.map_cons]

/-- The compact text of an array is the texts of its items in brackets, without gaps. -/
lemma toList_compactArray (items : List Json) :
    (array items).compact.toList =
      enclosed '[' ']' [] [] (items.map fun v => v.compact.toList) := by
  cases items with
  | nil => rfl
  | cons v items =>
    simp [compact, compactItems_eq, enclosed, row, intercalate_cons_append, List.flatMap_map]

/-- The compact text of an object is the texts of its members in braces, without gaps. -/
lemma toList_compactObject (members : List (String × Json)) :
    (object members).compact.toList =
      enclosed '\x7b' '\x7d' [] [] (members.map fun m =>
        (quoted m.1).toList ++ ':' :: ([] ++ m.2.compact.toList)) := by
  cases members with
  | nil => rfl
  | cons m members =>
    simp [compact, compactMembers_eq, enclosed, row, intercalate_cons_append, List.flatMap_map]

/-- The break before a line that stands at a margin. -/
def lineBreak (indent : Nat) : List Char := '\n' :: List.replicate indent ' '

/-- A block of lines is the lines in brackets, with a line break in front of each. -/
lemma toList_block {opening closing : String} {first last : Char} (indent : Nat)
    {lines : List String} (ho : opening.toList = [first]) (hc : closing.toList = [last])
    (nonempty : lines ≠ []) :
    (block opening closing indent lines).toList =
      enclosed first last (lineBreak indent ++ [' ', ' ']) (lineBreak indent)
        (lines.map String.toList) := by
  obtain ⟨line, lines, rfl⟩ := List.exists_cons_of_ne_nil nonempty
  simp [block, ho, hc, enclosed, row, lineBreak, intercalate_cons_append, List.flatMap_map]

/-- An array with lines of its own is a block of its items, indented by two more. -/
lemma toList_indentedArray (indent : Nat) (items : List Json) :
    ((array items).indentedAt indent).toList =
      enclosed '[' ']' (lineBreak indent ++ [' ', ' ']) (lineBreak indent)
        (items.map fun v => (v.indentedAt (indent + 2)).toList) := by
  cases items with
  | nil =>
    rw [indentedAt]
    rfl
  | cons v items =>
    have brackets : "[".toList = ['['] ∧ "]".toList = [']'] := ⟨rfl, rfl⟩
    rw [indentedAt, indentedItems_eq, toList_block indent brackets.1 brackets.2 (by simp),
      List.map_map]
    rfl

/-- An object with lines of its own is a block of its members, indented by two more. -/
lemma toList_indentedObject (indent : Nat) (members : List (String × Json)) :
    ((object members).indentedAt indent).toList =
      enclosed '\x7b' '\x7d' (lineBreak indent ++ [' ', ' ']) (lineBreak indent)
        (members.map fun m =>
          (quoted m.1).toList ++ ':' :: ([' '] ++ (m.2.indentedAt (indent + 2)).toList)) := by
  cases members with
  | nil =>
    rw [indentedAt]
    rfl
  | cons m members =>
    have braces : "\x7b".toList = ['\x7b'] ∧ "\x7d".toList = ['\x7d'] := ⟨rfl, rfl⟩
    rw [indentedAt, indentedMembers_eq, toList_block indent braces.1 braces.2 (by simp),
      List.map_map]
    simp [Function.comp_def]

/-- A line break and its indent are white space. -/
lemma blank_lineBreak (indent : Nat) : Blank (lineBreak indent) := by
  intro c hc
  rcases List.mem_cons.1 hc with rfl | hc
  · rfl
  · rw [List.eq_of_mem_replicate hc]
    rfl

/-- The line break in front of an item of a block is white space. -/
lemma blank_step (indent : Nat) : Blank (lineBreak indent ++ [' ', ' ']) := by
  intro c hc
  rcases List.mem_append.1 hc with hc | hc
  · exact blank_lineBreak indent c hc
  · simp only [List.mem_cons, List.not_mem_nil, or_false, or_self] at hc
    rw [hc]
    rfl

/-! ### Scalars -/

variable {item : Option JsonReader} {depth : Nat} {v : Json}

/-- The text of a string is read as the string. -/
lemma readsAs_string (s : String) : ReadsAs (value item) (quoted s).toList (.string s) := by
  have chars : (quoted s).toList = '"' :: (s.toList.flatMap escapedChar ++ ['"']) := by
    simp [quoted]
  rw [chars]
  refine ⟨⟨_, _, rfl, by decide, by decide⟩, fun {rest} _ => ?_⟩
  have read := readText_quoted s rest
  change (readText [] ((_ ++ ['"']) ++ rest)).map _ = _
  rw [List.append_assoc, List.singleton_append, read]
  rfl

/-- A value that begins with a sign or a digit is read as a number. -/
lemma readValue_of_mark {c : Char} (mark : c = '-' ∨ c.isDigit = true) (cs : List Char) :
    readValue item (c :: cs) =
      (Numeral.read (c :: cs)).map fun (n, rest) => (.number n, rest) := by
  unfold readValue
  split
  case h_3 =>
    unfold readScalar
    split
    case h_5 => rfl
    all_goals
      rename_i same
      cases same
      exact absurd mark (by decide)
  all_goals
    rename_i same
    cases same
    exact absurd mark (by decide)

/-- The text of a number that reads back is read as the number. -/
lemma readsAs_number {n : Numeral} (h : n.ReadsBack) :
    ReadsAs (value item) n.text.toList (.number n) := by
  obtain ⟨c, cs, text, mark⟩ := Numeral.begins_of_read h
  refine ⟨⟨c, cs, text, ?_, ?_⟩, fun {rest} ends => ?_⟩
  · rw [Bool.eq_false_iff]
    intro space
    rcases eq_of_isSpace space with rfl | rfl | rfl | rfl <;> exact absurd mark (by decide)
  · rintro rfl
    exact absurd mark (by decide)
  · have read := Numeral.read_append ends h
    rw [text, List.cons_append, List.nil_append] at read
    change readValue item (_ ++ rest) = _
    rw [text, List.cons_append, readValue_of_mark mark, read]
    rfl

/-! ### Values -/

/-- A reader of any depth reads values, with one reader or none for what nests in them. -/
lemma exists_eq_nested (depth : Nat) : ∃ item, nested depth = value item := by
  cases depth <;> exact ⟨_, rfl⟩

/-- The name of a truth value is read as it. -/
lemma readsAs_bool (b : Bool) : ReadsAs (value item) (bool b).compact.toList (.bool b) := by
  cases b with
  | false => exact ⟨⟨_, _, rfl, by decide, by decide⟩, fun _ => rfl⟩
  | true => exact ⟨⟨_, _, rfl, by decide, by decide⟩, fun _ => rfl⟩

section

variable {item : JsonReader} {gap colon tail : List Char} (text : Json → List Char)

/-- An array whose items are read back sorted is read back sorted. -/
lemma readsAs_items {items : List Json} (blank : Blank gap) (blankTail : Blank tail)
    (each : ∀ v ∈ items, ReadsAs item (text v) v.sorted) :
    ReadsAs (value (some item)) (enclosed '[' ']' gap tail (items.map text))
      (array items).sorted := by
  rw [sorted, sortedItems_eq]
  refine readsAs_array blank blankTail ?_
  rw [List.forall₂_map_left_iff, List.forall₂_map_right_iff]
  exact List.forall₂_same.2 each

/-- An object whose values are read back sorted is read back sorted, keys and all. -/
lemma readsAs_members {members : List (String × Json)} (blank : Blank gap)
    (blankColon : Blank colon) (blankTail : Blank tail)
    (each : ∀ member ∈ members, ReadsAs item (text member.2) member.2.sorted) :
    ReadsAs (value (some item))
      (enclosed '\x7b' '\x7d' gap tail
        (members.map fun m => (quoted m.1).toList ++ ':' :: (colon ++ text m.2)))
      (object members).sorted := by
  rw [sorted, sortedMembers_eq]
  refine readsAs_object blank blankTail ?_
  rw [List.forall₂_map_left_iff, List.forall₂_map_right_iff]
  refine List.forall₂_same.2 fun member hmember => ?_
  exact ⟨colon, text member.2, blankColon, each member hmember, by simp [quoted]⟩

end

/-- A printed value is read wherever it stands. -/
lemma Printable.readsAs (h : Printable depth v) :
    ReadsAs (nested depth) v.compact.toList v.sorted ∧
      ∀ indent, ReadsAs (nested depth) (v.indentedAt indent).toList v.sorted := by
  have none : Blank [] := nofun
  have space : Blank [' '] := List.forall_mem_singleton.2 rfl
  induction h with
  -- Scalars have one form, and what reads items does not matter for them.
  | @null depth =>
    obtain ⟨item, eq⟩ := exists_eq_nested depth
    have word : ReadsAs (value item) "null".toList .null :=
      ⟨⟨_, _, rfl, by decide, by decide⟩, fun _ => rfl⟩
    rw [eq]
    exact ⟨word, fun _ => word⟩
  | @bool depth b =>
    obtain ⟨item, eq⟩ := exists_eq_nested depth
    rw [eq]
    refine ⟨readsAs_bool b, fun _ => ?_⟩
    cases b with
    | false => exact readsAs_bool false
    | true => exact readsAs_bool true
  | @number depth n back =>
    obtain ⟨item, eq⟩ := exists_eq_nested depth
    rw [eq]
    exact ⟨readsAs_number back, fun _ => readsAs_number back⟩
  | @string depth s =>
    obtain ⟨item, eq⟩ := exists_eq_nested depth
    rw [eq]
    exact ⟨readsAs_string s, fun _ => readsAs_string s⟩
  | @array depth items _ ih =>
    refine ⟨?_, fun indent => ?_⟩
    · rw [toList_compactArray]
      exact readsAs_items (fun v => v.compact.toList) none none fun v hv => (ih v hv).1
    · rw [toList_indentedArray]
      exact readsAs_items (fun v => (v.indentedAt (indent + 2)).toList) (blank_step indent)
        (blank_lineBreak indent) fun v hv => (ih v hv).2 _
  | @object depth members _ ih =>
    refine ⟨?_, fun indent => ?_⟩
    · rw [toList_compactObject]
      exact readsAs_members (fun v => v.compact.toList) none none none fun m hm => (ih m hm).1
    · rw [toList_indentedObject]
      exact readsAs_members (fun v => (v.indentedAt (indent + 2)).toList) (blank_step indent) space
        (blank_lineBreak indent) fun m hm => (ih m hm).2 _

/-- A whole text is read as the value it holds, with white space behind it or not. -/
lemma read?_of_readsAs {text tail : String} (h : ReadsAs (nested maxDepth) text.toList v)
    (blank : Blank tail.toList) : read? (text ++ tail) = some v := by
  have ends : Numeral.Ends tail.toList := by
    rw [← List.append_nil tail.toList]
    exact ends_append blank nofun
  have none : Blank [] := nofun
  have skipped := h.skip none tail.toList
  rw [List.nil_append] at skipped
  rw [read?, String.toList_append, skipped, h.reads ends]
  have rest := skip_append blank []
  rw [List.append_nil] at rest
  simp only [rest]
  rfl

/-- A value is read back from its compact text. -/
theorem read?_compact (h : Printable maxDepth v) {tail : String} (blank : Blank tail.toList) :
    read? (v.compact ++ tail) = some v.sorted :=
  read?_of_readsAs h.readsAs.1 blank

/-- A value is read back from its indented text. -/
theorem read?_indented (h : Printable maxDepth v) {tail : String} (blank : Blank tail.toList) :
    read? (v.indented ++ tail) = some v.sorted :=
  read?_of_readsAs (h.readsAs.2 0) blank

end Json

end LoanDesk
