import LoanDesk.Json.Numeral
import Mathlib.Tactic.ByContra
import Mathlib.Tactic.Lemma
import Mathlib.Tactic.SplitIfs

/-!
# Numbers in front of a text

A number begins with its sign or a digit, and is read alike where a text goes on after it, if what
follows does not go on with the number: `Numeral.read_append`.  An exponent may follow the digits
before the point or those after it (`readExponent`), and has a sign before its own digits.
-/

namespace LoanDesk

namespace Numeral

/-- What follows a number does not go on with it. -/
def Ends (rest : List Char) : Prop :=
  ∀ c ∈ rest.head?, c.isDigit = false ∧ c ≠ '.' ∧ c ≠ 'e' ∧ c ≠ 'E'

/-- The text of the number is read as the number. -/
def ReadsBack (n : Numeral) : Prop := Numeral.read n.text.toList = some (n, [])

variable {negative : Bool} {cs left rest whole : List Char} {n : Numeral} {power : Int}

/-- What ends a number adds no digit in front of it. -/
lemma takeWhile_append_of_ends (ends : Ends rest) (cs : List Char) :
    (cs ++ rest).takeWhile Char.isDigit = cs.takeWhile Char.isDigit := by
  induction cs with
  | nil =>
    cases rest with
    | nil => rfl
    | cons c rest =>
      rw [List.nil_append, List.takeWhile_cons, (ends c rfl).1]
      rfl
  | cons c cs ih => rw [List.cons_append, List.takeWhile_cons, List.takeWhile_cons, ih]

/-- What ends a number stays behind its digits. -/
lemma dropWhile_append_of_ends (ends : Ends rest) (cs : List Char) :
    (cs ++ rest).dropWhile Char.isDigit = cs.dropWhile Char.isDigit ++ rest := by
  have whole := @List.takeWhile_append_dropWhile _ Char.isDigit (cs ++ rest)
  rw [takeWhile_append_of_ends ends] at whole
  refine List.append_cancel_left (whole.trans ?_)
  rw [← List.append_assoc, List.takeWhile_append_dropWhile]

/-- What begins with a mark neither in front nor where it goes on does not begin with it. -/
lemma not_begins_append {mark : Char} (front : ∀ left, cs = mark :: left → False)
    (next : ∀ c ∈ rest.head?, c ≠ mark) (left : List Char) (h : cs ++ rest = mark :: left) :
    False := by
  cases cs with
  | nil =>
    obtain rfl : rest = mark :: left := h
    exact next mark rfl rfl
  | cons c cs =>
    cases h
    exact front _ rfl

/-- The digits of an exponent whose sign is known. -/
def readPowerDigits (negative : Bool) (cs : List Char) : Option (Int × List Char) :=
  match cs.takeWhile Char.isDigit with
  | [] => none
  | digits =>
    let n : Int := Nat.ofDigitChars 10 digits 0
    some (if negative then -n else n, cs.dropWhile Char.isDigit)

/-- The first character of a power is a sign, or its first digit. -/
lemma readPower_cons (c : Char) (cs : List Char) :
    readPower (c :: cs) =
      if c = '-' then readPowerDigits true cs
      else if c = '+' then readPowerDigits false cs
      else readPowerDigits false (c :: cs) := by
  split_ifs with minus plus
  · rw [minus]
    rfl
  · rw [plus]
    rfl
  · unfold readPower
    split
    next sign =>
      split at sign
      next same => exact absurd (List.cons.inj same).1 minus
      next same => exact absurd (List.cons.inj same).1 plus
      next =>
        cases sign
        rfl

/-- The digits of a power are read alike in front of what ends a number. -/
lemma readPowerDigits_append (ends : Ends rest)
    (h : readPowerDigits negative cs = some (power, left)) :
    readPowerDigits negative (cs ++ rest) = some (power, left ++ rest) := by
  unfold readPowerDigits at h ⊢
  rw [takeWhile_append_of_ends ends, dropWhile_append_of_ends ends]
  split at h
  · cases h
  · cases h
    rfl

/-- A power is read alike in front of what ends a number. -/
lemma readPower_append (ends : Ends rest) (h : readPower cs = some (power, left)) :
    readPower (cs ++ rest) = some (power, left ++ rest) := by
  cases cs with
  | nil => cases h
  | cons c cs =>
    rw [List.cons_append, readPower_cons]
    rw [readPower_cons] at h
    split_ifs at h ⊢
    · exact readPowerDigits_append ends h
    · exact readPowerDigits_append ends h
    · exact readPowerDigits_append ends h

/-- An exponent after the digits of a number. -/
def readScaled (negative : Bool) (whole fraction cs : List Char) : Option (Numeral × List Char) :=
  (readPower cs).bind fun (power, rest) =>
    (ofParts negative whole fraction power).map fun n => (n, rest)

/-- A number with a power is read alike in front of what ends a number. -/
lemma readScaled_append (ends : Ends rest) {fraction : List Char}
    (h : readScaled negative whole fraction cs = some (n, left)) :
    readScaled negative whole fraction (cs ++ rest) = some (n, left ++ rest) := by
  obtain ⟨⟨power, after⟩, read, h⟩ := Option.bind_eq_some_iff.1 h
  obtain ⟨m, parts, same⟩ := Option.map_eq_some_iff.1 h
  cases same
  rw [readScaled, readPower_append ends read]
  exact Option.map_eq_some_iff.2 ⟨n, parts, rfl⟩

/-- The number after its whole digits and, if there are any, those after the point. -/
def readExponent (negative : Bool) (whole fraction cs : List Char) (plain : Option Numeral) :
    Option (Numeral × List Char) :=
  match cs with
  | 'e' :: rest | 'E' :: rest => readScaled negative whole fraction rest
  | rest => plain.map fun n => (n, rest)

/-- Without the letter of an exponent the number is the plain one. -/
lemma readExponent_of_ne {fraction : List Char} {plain : Option Numeral}
    (lower : ∀ rest, cs = 'e' :: rest → False) (upper : ∀ rest, cs = 'E' :: rest → False) :
    readExponent negative whole fraction cs plain = plain.map fun n => (n, cs) := by
  unfold readExponent
  split
  · exact (lower _ rfl).elim
  · exact (upper _ rfl).elim
  · rfl

/-- An exponent, or its absence, is read alike in front of what ends a number. -/
lemma readExponent_append (ends : Ends rest) {fraction : List Char} {plain : Option Numeral}
    (h : readExponent negative whole fraction cs plain = some (n, left)) :
    readExponent negative whole fraction (cs ++ rest) plain = some (n, left ++ rest) := by
  unfold readExponent at h
  split at h
  · exact readScaled_append ends h
  · exact readScaled_append ends h
  next lower upper =>
    obtain ⟨m, parts, same⟩ := Option.map_eq_some_iff.1 h
    cases same
    rw [readExponent_of_ne (not_begins_append lower fun c hc => (ends c hc).2.2.1)
      (not_begins_append upper fun c hc => (ends c hc).2.2.2), parts]
    rfl

/-- A point asks for a digit and may have an exponent behind its digits. -/
lemma readTail_point (cs : List Char) :
    readTail negative whole ('.' :: cs) =
      if cs.takeWhile Char.isDigit = [] then none
      else readExponent negative whole (cs.takeWhile Char.isDigit) (cs.dropWhile Char.isDigit)
        (ofParts negative whole (cs.takeWhile Char.isDigit) 0) := by
  unfold readTail readExponent
  simp only
  split_ifs with none
  · rw [none]
  · split
    · contradiction
    all_goals split <;> simp_all [readScaled]

/-- Without a point the digits are all of the number, but for an exponent. -/
lemma readTail_of_ne (other : ∀ rest, cs = '.' :: rest → False) :
    readTail negative whole cs = readExponent negative whole [] cs (ofDigits negative whole) := by
  unfold readTail
  split
  · exact (other _ rfl).elim
  · rfl
  · rfl
  next lower upper => exact (readExponent_of_ne lower upper).symm

/-- What stands behind the whole digits is read alike in front of what ends a number. -/
lemma readTail_append (ends : Ends rest) (h : readTail negative whole cs = some (n, left)) :
    readTail negative whole (cs ++ rest) = some (n, left ++ rest) := by
  by_cases point : ∃ digits, cs = '.' :: digits
  · obtain ⟨digits, rfl⟩ := point
    rw [List.cons_append, readTail_point, takeWhile_append_of_ends ends,
      dropWhile_append_of_ends ends]
    rw [readTail_point] at h
    split_ifs at h ⊢
    exact readExponent_append ends h
  · have other : ∀ digits, cs = '.' :: digits → False := fun digits same => point ⟨digits, same⟩
    rw [readTail_of_ne other] at h
    rw [readTail_of_ne (not_begins_append other fun c hc => (ends c hc).2.1)]
    exact readExponent_append ends h

/-- A number without its sign is read alike in front of what ends a number. -/
lemma readUnsigned_append (ends : Ends rest) (h : readUnsigned negative cs = some (n, left)) :
    readUnsigned negative (cs ++ rest) = some (n, left ++ rest) := by
  unfold readUnsigned at h ⊢
  rw [takeWhile_append_of_ends ends, dropWhile_append_of_ends ends]
  split at h
  · cases h
  · cases h
  next leading digits => exact readTail_append ends h

/-- A number is read alike where a text goes on after it. -/
lemma read_append (ends : Ends rest) (h : read cs = some (n, left)) :
    read (cs ++ rest) = some (n, left ++ rest) := by
  unfold read at h
  split at h
  next cs => exact readUnsigned_append ends h
  next unsigned =>
    cases cs with
    | nil => cases h
    | cons c cs =>
      unfold read
      split
      next same =>
        cases same
        exact (unsigned _ rfl).elim
      next => exact readUnsigned_append ends h

/-- A number begins with its sign or a digit. -/
lemma begins_of_read (h : read cs = some (n, rest)) :
    ∃ c cs', cs = c :: cs' ∧ (c = '-' ∨ c.isDigit = true) := by
  unfold read at h
  split at h
  next => exact ⟨_, _, rfl, .inl rfl⟩
  next =>
    unfold readUnsigned at h
    split at h
    · cases h
    · cases h
    next digits _ =>
      cases cs with
      | nil => exact absurd rfl digits
      | cons c cs =>
        refine ⟨c, cs, rfl, .inr ?_⟩
        by_contra other
        exact digits (by rw [List.takeWhile_cons, if_neg other])

end Numeral

end LoanDesk
