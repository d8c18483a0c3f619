import LoanDesk.Json

/-!
# Reading JSON numbers

The digits of a number are taken up to the greatest natural number of 64 bits.  What they spell is
then scaled by one power of ten, and rounded as the multiplication or division by it rounds.
-/

namespace LoanDesk.Numeral

/-- The digits as far as they fit 64 bits after `taken`, and those left over. -/
def takeDigits (taken : Nat) : List Char → Nat × List Char
  | [] => (taken, [])
  | c :: cs =>
    let next := Nat.ofDigitChars 10 [c] taken
    if next < 0x10000000000000000 then takeDigits next cs else (taken, c :: cs)

/-- The power of ten nearest to `10 ^ k`. -/
def powerOfTen (k : Nat) : Float := Number.Decimal.toNumber false ⟨1, k⟩

/-- A nonnegative number scaled by a power of ten; there is none beyond the finite numbers. -/
def scaled (x : Float) (power : Int) : Option Float :=
  if power < -308 then
    if Number.isZero x then some x else scaled (x / powerOfTen 308) (power + 308)
  else if power < 0 then some (x / powerOfTen power.natAbs)
  else if power ≤ 308 then (some (x * powerOfTen power.toNat)).filter Number.isFinite
  else if Number.isZero x then some x
  else none
termination_by (-power).toNat
decreasing_by omega

/-- A number with a point or an exponent, or of more than 64 bits. -/
def ofParts (negative : Bool) (whole fraction : List Char) (power : Int) : Option Numeral :=
  let (taken, dropped) := takeDigits 0 whole
  let (digits, left) := takeDigits taken fraction
  let places := (fraction.length : Int) - left.length
  (scaled (Number.Decimal.toNumber false ⟨digits, 0⟩) (power + dropped.length - places)).map
    fun x => real (if negative then -x else x)

/-- A number without point and exponent. -/
def ofDigits (negative : Bool) (digits : List Char) : Option Numeral :=
  let n := Nat.ofDigitChars 10 digits 0
  if negative then
    if 0 < n ∧ n ≤ 0x8000000000000000 then some (whole (-n)) else ofParts true digits [] 0
  else
    if n < 0x10000000000000000 then some (whole n) else ofParts false digits [] 0

/-- The digits of an exponent with its sign, and the characters after them. -/
def readPower (cs : List Char) : Option (Int × List Char) :=
  let (negative, cs) := match cs with
    | '-' :: rest => (true, rest)
    | '+' :: rest => (false, rest)
    | _ => (false, cs)
  match cs.takeWhile Char.isDigit with
  | [] => none
  | digits =>
    let n : Int := Nat.ofDigitChars 10 digits 0
    some (if negative then -n else n, cs.dropWhile Char.isDigit)

/-- The number after its whole digits. -/
def readTail (negative : Bool) (whole : List Char) : List Char → Option (Numeral × List Char)
  | '.' :: cs =>
    match cs.takeWhile Char.isDigit, cs.dropWhile Char.isDigit with
    | [], _ => none
    | fraction, 'e' :: rest | fraction, 'E' :: rest =>
      (readPower rest).bind fun (power, rest) =>
        (ofParts negative whole fraction power).map fun n => (n, rest)
    | fraction, rest => (ofParts negative whole fraction 0).map fun n => (n, rest)
  | 'e' :: rest | 'E' :: rest =>
    (readPower rest).bind fun (power, rest) =>
      (ofParts negative whole [] power).map fun n => (n, rest)
  | rest => (ofDigits negative whole).map fun n => (n, rest)

/-- A number without its sign; a zero cannot have a digit after it. -/
def readUnsigned (negative : Bool) (cs : List Char) : Option (Numeral × List Char) :=
  match cs.takeWhile Char.isDigit with
  | [] => none
  | '0' :: _ :: _ => none
  | digits => readTail negative digits (cs.dropWhile Char.isDigit)

/-! ### A number takes at least one character -/

/-- Dropping a prefix leaves no more characters. -/
theorem length_dropWhile_le (p : Char → Bool) (cs : List Char) :
    (cs.dropWhile p).length ≤ cs.length := by
  have := congrArg List.length (@List.takeWhile_append_dropWhile _ p cs)
  rw [List.length_append] at this
  omega

/-- What a power leaves is no longer than what it was given. -/
theorem length_readPower {cs rest : List Char} {power : Int}
    (h : readPower cs = some (power, rest)) : rest.length ≤ cs.length := by
  unfold readPower at h
  split at h
  next negative ds hds =>
    have hle : ds.length ≤ cs.length := by
      split at hds <;> cases hds <;> simp
    split at h
    · cases h
    · obtain ⟨_, rfl⟩ := Prod.mk.inj (Option.some.inj h)
      exact Nat.le_trans (length_dropWhile_le _ _) hle

/-- What a fraction and an exponent leave is no longer than what they were given. -/
theorem length_readTail {negative : Bool} {digits cs rest : List Char} {n : Numeral}
    (h : readTail negative digits cs = some (n, rest)) : rest.length ≤ cs.length := by
  have afterPower {cs rest : List Char} {n : Numeral} {fraction : List Char}
      (h : ((readPower cs).bind fun (power, rest) =>
        (ofParts negative digits fraction power).map fun n => (n, rest)) = some (n, rest)) :
      rest.length ≤ cs.length := by
    obtain ⟨⟨power, left⟩, hp, h⟩ := Option.bind_eq_some_iff.1 h
    obtain ⟨m, _, heq⟩ := Option.map_eq_some_iff.1 h
    cases heq
    exact length_readPower hp
  unfold readTail at h
  split at h
  next cs =>
    have hle := length_dropWhile_le Char.isDigit cs
    split at h
    · cases h
    next hdrop _ =>
      have := afterPower h
      rw [hdrop, List.length_cons] at hle
      simp only [List.length_cons]
      omega
    next hdrop _ =>
      have := afterPower h
      rw [hdrop, List.length_cons] at hle
      simp only [List.length_cons]
      omega
    next =>
      obtain ⟨m, _, heq⟩ := Option.map_eq_some_iff.1 h
      cases heq
      simp only [List.length_cons]
      omega
  · have := afterPower h
    simp only [List.length_cons]
    omega
  · have := afterPower h
    simp only [List.length_cons]
    omega
  · obtain ⟨m, _, heq⟩ := Option.map_eq_some_iff.1 h
    cases heq
    exact Nat.le_refl _

/-- A number without its sign takes at least one digit. -/
theorem length_readUnsigned {negative : Bool} {cs rest : List Char} {n : Numeral}
    (h : readUnsigned negative cs = some (n, rest)) : rest.length < cs.length := by
  have happ := congrArg List.length (@List.takeWhile_append_dropWhile _ Char.isDigit cs)
  rw [List.length_append] at happ
  unfold readUnsigned at h
  split at h
  · cases h
  · cases h
  next hne _ =>
    have hle := length_readTail h
    have : 0 < (cs.takeWhile Char.isDigit).length := List.length_pos_iff.2 hne
    omega

/-- A number at the front of a text, and the characters after it. -/
def read : List Char → Option (Numeral × List Char)
  | '-' :: cs => readUnsigned true cs
  | cs => readUnsigned false cs

/-- A number takes at least one character. -/
theorem length_read {cs rest : List Char} {n : Numeral} (h : read cs = some (n, rest)) :
    rest.length < cs.length := by
  unfold read at h
  split at h
  · have := length_readUnsigned h
    simp only [List.length_cons]
    omega
  · exact length_readUnsigned h

end LoanDesk.Numeral
