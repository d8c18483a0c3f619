import LoanDesk.Text.Blank

/-!
# The status of a note

A status is given by a text, in any case of letters and with white space around it.  A text that
ends in a status after the word `status:` stands for that status, and any text that begins with
`late` says that payments are late.
-/

namespace LoanDesk

/-- What has become of a note. -/
inductive NoteStatus where
  | current
  | inGracePeriod
  | late
  | default
  | fullyPaid
  | chargedOff
  | issued
  | issuing
  | inFunding
  | inReview
  | other
deriving DecidableEq, Repr

namespace NoteStatus

/-- The texts of the statuses that have only one. -/
def names : List (List Char × NoteStatus) :=
  [("current".toList, current), ("in grace period".toList, inGracePeriod),
    ("default".toList, default), ("fully paid".toList, fullyPaid),
    ("charged off".toList, chargedOff), ("issued".toList, issued), ("issuing".toList, issuing),
    ("in funding".toList, inFunding), ("in review".toList, inReview)]

/-- The text after the last place of a marker that is not empty. -/
def afterLast? (marker : List Char) : List Char → Option (List Char)
  | [] => none
  | c :: cs =>
    match afterLast? marker cs with
    | some rest => some rest
    | none =>
      if marker.isPrefixOf (c :: cs) then some ((c :: cs).drop marker.length) else none

/-- The status of a text in small letters without white space around it. -/
def ofName (name : List Char) : NoteStatus :=
  match names.lookup name with
  | some status => status
  | none => if "late".toList.isPrefixOf name then late else other

/-- The status that a text stands for. -/
def ofChars (cs : List Char) : NoteStatus :=
  let small := (Text.trim cs).map Char.toLower
  ofName (Text.trim ((afterLast? "status:".toList small).getD small))

/-- The status that a text stands for. -/
def ofText (s : String) : NoteStatus := ofChars s.toList

/-- All payments were made so far. -/
def isCurrent (s : NoteStatus) : Bool := s == current

/-- Payments are late, also those in the grace period and those of a note in default. -/
def isLate : NoteStatus → Bool
  | inGracePeriod | late | default => true
  | _ => false

/-- Payments are still to come. -/
def isOpen : NoteStatus → Bool
  | fullyPaid | chargedOff => false
  | _ => true

/-- The loan has passed its review and its funding. -/
def isIssued : NoteStatus → Bool
  | inReview | inFunding | issuing => false
  | _ => true

end NoteStatus

end LoanDesk
