import LoanDesk.Calendar

/-!
# Names of portfolios

A portfolio is named by a pattern, in which a percent sign and what follows it stand for a part of
the date or the time.  A number may be padded in another way than usual by a mark after the percent
sign.  A pattern with a percent sign that stands for nothing is refused as a whole.
-/

namespace LoanDesk

namespace Portfolio

/-- How a number is filled up to its width. -/
inductive Padding where
  | none
  | zeros
  | spaces
deriving DecidableEq, Repr

/-- A number of a date or a time. -/
inductive NumberPart where
  | year
  | century
  | yearOfCentury
  | isoYear
  | isoYearOfCentury
  | quarter
  | month
  | day
  | weekFromSunday
  | weekFromMonday
  | isoWeek
  | weekdayFromSunday
  | weekdayFromMonday
  | dayOfYear
  | hour
  | hour12
  | minute
  | second
  | nanosecond
  | timestamp
deriving DecidableEq, Repr

/-- A text of a date or a time. -/
inductive TextPart where
  | shortMonth
  | longMonth
  | shortWeekday
  | longWeekday
  | upperHalf
  | lowerHalf
  /-- The fraction of the second in as many groups of three digits as it needs, after a point. -/
  | fraction
  /-- The fraction of the second in a number of groups of three digits. -/
  | fractionGroups (point : Bool) (groups : Nat)
  /-- The offset in hours, minutes and seconds, of which `parts` are given. -/
  | offset (colons : Bool) (parts : Nat)
  /-- Date, time and offset as machines exchange them. -/
  | complete
deriving DecidableEq, Repr

/-- An item of a pattern. -/
inductive Item where
  | literal (c : Char)
  | number (part : NumberPart) (padding : Padding)
  | text (part : TextPart)
deriving DecidableEq, Repr

/-! ### Patterns -/

open NumberPart TextPart in
/-- The number that a letter stands for, with its usual padding. -/
def numberPart? : Char → Option (NumberPart × Padding)
  | 'Y' => some (year, .zeros)
  | 'C' => some (century, .zeros)
  | 'y' => some (yearOfCentury, .zeros)
  | 'G' => some (isoYear, .zeros)
  | 'g' => some (isoYearOfCentury, .zeros)
  | 'q' => some (quarter, .none)
  | 'm' => some (month, .zeros)
  | 'd' => some (day, .zeros)
  | 'e' => some (day, .spaces)
  | 'U' => some (weekFromSunday, .zeros)
  | 'W' => some (weekFromMonday, .zeros)
  | 'V' => some (isoWeek, .zeros)
  | 'w' => some (weekdayFromSunday, .none)
  | 'u' => some (weekdayFromMonday, .none)
  | 'j' => some (dayOfYear, .zeros)
  | 'H' => some (hour, .zeros)
  | 'k' => some (hour, .spaces)
  | 'I' => some (hour12, .zeros)
  | 'l' => some (hour12, .spaces)
  | 'M' => some (minute, .zeros)
  | 'S' => some (second, .zeros)
  | 'f' => some (nanosecond, .zeros)
  | 's' => some (timestamp, .none)
  | _ => none

/-- The text or the character that a letter stands for. -/
def textItem? : Char → Option Item
  | 'b' | 'h' => some (.text .shortMonth)
  | 'B' => some (.text .longMonth)
  | 'a' => some (.text .shortWeekday)
  | 'A' => some (.text .longWeekday)
  | 'p' => some (.text .upperHalf)
  | 'P' => some (.text .lowerHalf)
  | 'z' => some (.text (.offset false 2))
  | 'Z' => some (.text (.offset true 2))
  | '+' => some (.text .complete)
  | 'n' => some (.literal '\n')
  | 't' => some (.literal '\t')
  | '%' => some (.literal '%')
  | _ => none

/-- What a letter stands for, if it is neither a number with padding of its own nor composed. -/
def simpleItem? (c : Char) : Option Item :=
  match numberPart? c with
  | some (part, padding) => some (.number part padding)
  | none => textItem? c

/-- The items of letters, where other characters stand for themselves. -/
def composed (letters : List Char) : List Item :=
  letters.map fun c => (if c.isAlpha then simpleItem? c else none).getD (.literal c)

/-- The items that a letter stands for. -/
def items? (c : Char) : Option (List Item) :=
  match c with
  | 'D' | 'x' => some (composed "m/d/y".toList)
  | 'F' => some (composed "Y-m-d".toList)
  | 'R' => some (composed "H:M".toList)
  | 'T' | 'X' => some (composed "H:M:S".toList)
  | 'r' => some (composed "I:M:S p".toList)
  | 'c' => some (composed "a b e H:M:S Y".toList)
  | 'v' => some (composed "e-b-Y".toList)
  | c => (simpleItem? c).map fun item => [item]

/-- A number with a padding that is not the usual one. -/
def padded? (padding : Padding) (c : Char) : Option (List Item) :=
  (numberPart? c).map fun (part, _) => [.number part padding]

/-- The items that `first` finds and those of the rest, if there are both. -/
def withRest (first rest : Option (List Item)) : Option (List Item) :=
  first.bind fun items => rest.map fun others => items ++ others

/-- The items of a pattern. -/
def parse? : List Char → Option (List Item)
  | [] => some []
  | '%' :: '-' :: c :: cs => withRest (padded? .none c) (parse? cs)
  | '%' :: '0' :: c :: cs => withRest (padded? .zeros c) (parse? cs)
  | '%' :: '_' :: c :: cs => withRest (padded? .spaces c) (parse? cs)
  | '%' :: ':' :: 'z' :: cs => withRest (some [.text (.offset true 2)]) (parse? cs)
  | '%' :: ':' :: ':' :: 'z' :: cs => withRest (some [.text (.offset true 3)]) (parse? cs)
  | '%' :: ':' :: ':' :: ':' :: 'z' :: cs => withRest (some [.text (.offset true 1)]) (parse? cs)
  | '%' :: '.' :: 'f' :: cs => withRest (some [.text .fraction]) (parse? cs)
  | '%' :: '.' :: '3' :: 'f' :: cs => withRest (some [.text (.fractionGroups true 1)]) (parse? cs)
  | '%' :: '.' :: '6' :: 'f' :: cs => withRest (some [.text (.fractionGroups true 2)]) (parse? cs)
  | '%' :: '.' :: '9' :: 'f' :: cs => withRest (some [.text (.fractionGroups true 3)]) (parse? cs)
  | '%' :: '3' :: 'f' :: cs => withRest (some [.text (.fractionGroups false 1)]) (parse? cs)
  | '%' :: '6' :: 'f' :: cs => withRest (some [.text (.fractionGroups false 2)]) (parse? cs)
  | '%' :: '9' :: 'f' :: cs => withRest (some [.text (.fractionGroups false 3)]) (parse? cs)
  | '%' :: c :: cs => withRest (items? c) (parse? cs)
  | ['%'] => none
  | c :: cs => withRest (some [.literal c]) (parse? cs)

/-! ### Names -/

/-- The digits with a fill in front, up to a width. -/
def fill (padding : Padding) (width : Nat) (digits : List Char) : List Char :=
  match padding with
  | .none => digits
  | .zeros => List.replicate (width - digits.length) '0' ++ digits
  | .spaces => List.replicate (width - digits.length) ' ' ++ digits

/-- A natural number. -/
def writeNat (padding : Padding) (width n : Nat) : List Char :=
  fill padding width (Nat.toDigits 10 n)

/-- An integer, whose sign counts for the width and stands before zeros. -/
def writeInt (padding : Padding) (width : Nat) (n : Int) (sign : List Char) : List Char :=
  let digits := Nat.toDigits 10 n.natAbs
  match padding with
  | .spaces => fill .spaces width (sign ++ digits)
  | padding => sign ++ fill padding (width - sign.length) digits

/-- A year, which has a sign unless it is of at most four digits and after the beginning of our
era. -/
def writeYear (padding : Padding) (year : Int) : List Char :=
  if year < 0 then writeInt padding 5 year ['-']
  else if year < 10000 then writeNat padding 4 year.toNat
  else writeInt padding 5 year ['+']

/-- A number of a moment. -/
def writeNumber (m : Moment) (part : NumberPart) (padding : Padding) : List Char :=
  match part with
  | .year => writeYear padding m.date.year
  | .century => writeNat padding 2 (m.date.year / 100).toNat
  | .yearOfCentury => writeNat padding 2 (m.date.year % 100).toNat
  | .isoYear => writeYear padding m.date.isoWeek.1
  | .isoYearOfCentury => writeNat padding 2 (m.date.isoWeek.1 % 100).toNat
  | .quarter => writeNat .none 1 m.date.quarter
  | .month => writeNat padding 2 m.date.month
  | .day => writeNat padding 2 m.date.day
  | .weekFromSunday => writeNat padding 2 (m.date.weekFrom 6)
  | .weekFromMonday => writeNat padding 2 (m.date.weekFrom 0)
  | .isoWeek => writeNat padding 2 m.date.isoWeek.2
  | .weekdayFromSunday => writeNat .none 1 ((m.date.weekday + 1) % 7)
  | .weekdayFromMonday => writeNat .none 1 (m.date.weekday + 1)
  | .dayOfYear => writeNat padding 3 m.date.ordinal
  | .hour => writeNat padding 2 m.hour
  | .hour12 => writeNat padding 2 m.hour12
  | .minute => writeNat padding 2 m.minute
  | .second => writeNat padding 2 m.second
  | .nanosecond => writeNat padding 9 m.nanosecond
  | .timestamp => writeInt padding 9 m.timestamp (if m.timestamp < 0 then ['-'] else [])

/-- The names of the months. -/
def monthNames : List String :=
  ["January", "February", "March", "April", "May", "June", "July", "August", "September",
    "October", "November", "December"]

/-- The names of the days of the week. -/
def weekdayNames : List String :=
  ["Monday", "Tuesday", "Wednesday", "Thursday", "Friday", "Saturday", "Sunday"]

/-- The name of a month. -/
def monthName (m : Moment) : List Char := (monthNames.getD (m.date.month - 1) "").toList

/-- The name of a day of the week. -/
def weekdayName (m : Moment) : List Char := (weekdayNames.getD m.date.weekday "").toList

/-- The first groups of three digits of the fraction of the second. -/
def writeFraction (m : Moment) (groups : Nat) : List Char :=
  writeNat .zeros (3 * groups) (m.nanosecond / Nat.pow 10 (9 - 3 * groups))

/-- The fraction of the second in as many groups as it needs, after a point. -/
def writeShortFraction (m : Moment) : List Char :=
  if m.nanosecond = 0 then []
  else if m.nanosecond % 1000000 = 0 then '.' :: writeFraction m 1
  else if m.nanosecond % 1000 = 0 then '.' :: writeFraction m 2
  else '.' :: writeFraction m 3

/-- The offset in hours, minutes and seconds, of which `parts` are given. -/
def writeOffset (m : Moment) (colons : Bool) (parts : Nat) : List Char :=
  let seconds := m.offset.natAbs
  let numbers := [seconds / 3600, seconds / 60 % 60, seconds % 60].take parts
  (if m.offset < 0 then '-' else '+') ::
    (if colons then [':'] else []).intercalate (numbers.map (writeNat .zeros 2))

/-- Date, time and offset as machines exchange them. -/
def writeComplete (m : Moment) : List Char :=
  writeYear .zeros m.date.year ++ '-' :: writeNat .zeros 2 m.date.month ++
    '-' :: writeNat .zeros 2 m.date.day ++ 'T' :: writeNat .zeros 2 m.hour ++
    ':' :: writeNat .zeros 2 m.minute ++ ':' :: writeNat .zeros 2 m.second ++
    writeShortFraction m ++ writeOffset m true 2

/-- A text of a moment. -/
def writeText (m : Moment) : TextPart → List Char
  | .shortMonth => (monthName m).take 3
  | .longMonth => monthName m
  | .shortWeekday => (weekdayName m).take 3
  | .longWeekday => weekdayName m
  | .upperHalf => if m.isAfternoon then ['P', 'M'] else ['A', 'M']
  | .lowerHalf => if m.isAfternoon then ['p', 'm'] else ['a', 'm']
  | .fraction => writeShortFraction m
  | .fractionGroups point groups => (if point then ['.'] else []) ++ writeFraction m groups
  | .offset colons parts => writeOffset m colons parts
  | .complete => writeComplete m

/-- An item of a moment. -/
def write (m : Moment) : Item → List Char
  | .literal c => [c]
  | .number part padding => writeNumber m part padding
  | .text part => writeText m part

/-- The name that a pattern gives at a moment, if it is a pattern. -/
def name? (pattern : String) (m : Moment) : Option String :=
  (parse? pattern.toList).map fun items => String.ofList (items.flatMap (write m))

/-- The message about a pattern that is refused. -/
def invalidPattern (pattern : String) : String :=
  "Invalid portfolio name pattern '" ++ pattern ++ "'"

end Portfolio

end LoanDesk
