import Mathlib.Data.List.Infix
import Mathlib.Data.List.TakeWhile
import Mathlib.Tactic.Lemma
import LoanDesk.Note.Status

/-!
# Texts that stand for one status

A status after the word `status:` counts whatever stands before it, and neither the case of ASCII
letters nor white space at the ends of a text matters: `NoteStatus.ofText_marked`.  Two facts carry
this.  The places of the marker in a text do not overlap, since no beginning of the marker is also
an end of it, so what stands before a place of it never hides another (`afterLast?_marked`).  And
the marker holds no white space, so the text may be trimmed before or after the part behind the last
marker is taken (`trim_afterLast_blanks`).
-/

namespace LoanDesk

/-! ### White space at the ends of a text -/

namespace Text

variable {before cs after : List Char}

/-- White space in front is trimmed. -/
lemma trim_blank_append (h : ∀ c ∈ before, isBlank c = true) : trim (before ++ cs) = trim cs := by
  rw [trim, List.dropWhile_append_of_pos h, trim]

/-- White space behind is trimmed. -/
lemma trim_append_blank (h : ∀ c ∈ after, isBlank c = true) : trim (cs ++ after) = trim cs := by
  have reversed : ∀ c ∈ after.reverse, isBlank c = true := fun c hc => h c (List.mem_reverse.1 hc)
  rw [trim, trim, List.dropWhile_append]
  split
  next allBlank =>
    rw [List.isEmpty_iff.1 allBlank, List.dropWhile_eq_nil_iff.2 h]
  next =>
    rw [List.reverse_append, List.dropWhile_append_of_pos reversed]

/-- A text is what is left of it between white space. -/
lemma exists_eq_trim (cs : List Char) :
    ∃ before after, (∀ c ∈ before, isBlank c = true) ∧ (∀ c ∈ after, isBlank c = true) ∧
      cs = before ++ trim cs ++ after := by
  have blank {ds : List Char} : ∀ c ∈ ds.takeWhile isBlank, isBlank c = true :=
    fun _ => List.mem_takeWhile_imp
  refine ⟨cs.takeWhile isBlank, ((cs.dropWhile isBlank).reverse.takeWhile isBlank).reverse, blank,
    fun c hc => blank c (List.mem_reverse.1 hc), ?_⟩
  rw [trim, List.append_assoc, ← List.reverse_append, List.takeWhile_append_dropWhile,
    List.reverse_reverse, List.takeWhile_append_dropWhile]

/-- Small letters are white space where the character itself is. -/
lemma isBlank_toLower (c : Char) : isBlank c.toLower = isBlank c := by
  by_cases upper : 'A'.val ≤ c.val ∧ c.val ≤ 'Z'.val
  · have low : 65 ≤ c.toNat := UInt32.le_iff_toNat_le.1 upper.1
    have high : c.toNat ≤ 90 := UInt32.le_iff_toNat_le.1 upper.2
    have moved : c.toLower.toNat = c.toNat + 32 := by
      have lowered : c.toLower.toNat = (c.val + ('a'.val - 'A'.val)).toNat :=
        congrArg Char.toNat (dif_pos upper)
      rw [lowered, UInt32.toNat_add]
      change (c.toNat + 32) % 2 ^ 32 = _
      omega
    simp only [isBlank, moved]
    grind
  · exact congrArg isBlank (dif_neg upper)

/-- A text may be put in small letters before or after it is trimmed. -/
lemma trim_map_toLower (cs : List Char) :
    trim (cs.map Char.toLower) = (trim cs).map Char.toLower := by
  have same : isBlank ∘ Char.toLower = isBlank := funext isBlank_toLower
  simp only [trim, List.dropWhile_map, ← List.map_reverse, same]

/-- A text is put in small letters character by character. -/
lemma toList_toLower (s : String) : s.toLower.toList = s.toList.map Char.toLower :=
  String.toList_map

end Text

namespace NoteStatus

/-! ### The last place of a marker -/

/-- A word without white space of which no beginning is also an end, but for the whole word. -/
structure IsMarker (marker : List Char) : Prop where
  ne_nil : marker ≠ []
  visible : ∀ c ∈ marker, Text.isBlank c = false
  unbordered : ∀ border ∈ marker.tails, border <+: marker → border = [] ∨ border = marker

/-- The text after the last place of a marker, or all of it if there is none. -/
def afterLast (marker cs : List Char) : List Char := (afterLast? marker cs).getD cs

variable {marker before cs rest : List Char}

/-- There is nothing after a marker exactly if the text does not hold it. -/
lemma afterLast?_eq_none_iff (nonempty : marker ≠ []) :
    afterLast? marker cs = none ↔ ¬ marker <:+: cs := by
  induction cs with
  | nil => simpa [afterLast?] using nonempty
  | cons c cs ih =>
    rw [afterLast?, List.infix_cons_iff, ← List.isPrefixOf_iff_prefix]
    cases found : afterLast? marker cs with
    | some rest =>
      have later : marker <:+: cs := by
        rw [← Decidable.not_not (p := marker <:+: cs), ← ih, found]
        nofun
      simp [later]
    | none =>
      have absent := ih.1 found
      simp [absent]

/-- The text splits at the last place of the marker. -/
lemma eq_append_of_afterLast? (nonempty : marker ≠ []) (h : afterLast? marker cs = some rest) :
    (∃ before, cs = before ++ marker ++ rest) ∧ ¬ marker <:+: rest := by
  induction cs with
  | nil => cases h
  | cons c cs ih =>
    rw [afterLast?] at h
    cases found : afterLast? marker cs with
    | some rest' =>
      rw [found] at h
      cases h
      obtain ⟨⟨before, rfl⟩, last⟩ := ih found
      exact ⟨⟨c :: before, rfl⟩, last⟩
    | none =>
      rw [found] at h
      simp only [Option.ite_none_right_eq_some, List.isPrefixOf_iff_prefix] at h
      obtain ⟨⟨rest', here⟩, dropped⟩ := h
      rw [← here, List.drop_left, Option.some_inj] at dropped
      subst dropped
      refine ⟨⟨[], here.symm⟩, fun later => ?_⟩
      -- The rest is an end of the text after its first character, where there is no marker.
      have ending : rest' <:+ cs := by
        cases marker with
        | nil => exact absurd rfl nonempty
        | cons m marker => exact ⟨marker, (List.cons_eq_cons.1 here).2⟩
      exact (afterLast?_eq_none_iff nonempty).1 found (later.trans ending.isInfix)

/-- No place of the marker begins within a part of the marker. -/
lemma afterLast?_end_append (isMarker : IsMarker marker) {ending : List Char}
    (suffix : ending <:+ marker) (proper : ending.length < marker.length) (rest : List Char) :
    afterLast? marker (ending ++ rest) = afterLast? marker rest := by
  induction ending with
  | nil => rfl
  | cons c ending ih =>
    have shorter : ending.length < marker.length := Nat.lt_of_succ_lt proper
    have notHere : marker.isPrefixOf (c :: ending ++ rest) = false := by
      rw [Bool.eq_false_iff, Ne, List.isPrefixOf_iff_prefix]
      intro here
      have border : c :: ending <+: marker :=
        List.prefix_of_prefix_length_le (List.prefix_append _ _) here proper.le
      rcases isMarker.unbordered _ ((List.mem_tails _ _).2 suffix) border with none | whole
      · cases none
      · exact absurd (congrArg List.length whole) proper.ne
    rw [List.cons_append] at notHere ⊢
    rw [afterLast?, ih ((List.suffix_cons c ending).trans suffix) shorter, notHere]
    cases afterLast? marker rest <;> rfl

/-- What stands before a place of the marker does not count. -/
lemma afterLast?_marked (isMarker : IsMarker marker) (before rest : List Char) :
    afterLast? marker (before ++ marker ++ rest) = some (afterLast marker rest) := by
  induction before with
  | nil =>
    rw [List.nil_append]
    cases marker with
    | nil => exact absurd rfl isMarker.ne_nil
    | cons m marker =>
      have within := afterLast?_end_append isMarker (List.suffix_cons m marker)
        (Nat.lt_succ_self _) rest
      have here : (m :: marker).isPrefixOf (m :: (marker ++ rest)) = true :=
        List.isPrefixOf_iff_prefix.2 (List.prefix_append _ _)
      rw [List.cons_append, afterLast?, within, here, afterLast]
      cases afterLast? (m :: marker) rest with
      | some later => rfl
      | none => exact congrArg some List.drop_left
  | cons c before ih =>
    rw [List.cons_append, List.cons_append, afterLast?, ih]

/-- The text after the last marker does not depend on what is in front of a marker. -/
lemma afterLast_marked (isMarker : IsMarker marker) (before rest : List Char) :
    afterLast marker (before ++ marker ++ rest) = afterLast marker rest := by
  rw [afterLast, afterLast?_marked isMarker, Option.getD_some]

/-- A text without the marker is left as it is. -/
lemma afterLast_eq_self (nonempty : marker ≠ []) (h : ¬ marker <:+: cs) :
    afterLast marker cs = cs := by
  rw [afterLast, (afterLast?_eq_none_iff nonempty).2 h, Option.getD_none]

/-! ### White space around a text with a marker -/

/-- No part of a marker is blank. -/
lemma IsMarker.eq_nil_of_blank (isMarker : IsMarker marker) {part blanks : List Char}
    (ofMarker : part ⊆ marker) (ofBlanks : part ⊆ blanks)
    (blank : ∀ c ∈ blanks, Text.isBlank c = true) : part = [] := by
  refine List.eq_nil_iff_forall_not_mem.2 fun c hc => ?_
  have visible := isMarker.visible c (ofMarker hc)
  rw [blank c (ofBlanks hc)] at visible
  cases visible

/-- White space does not hold a marker. -/
lemma IsMarker.not_infix_of_blank (isMarker : IsMarker marker) {blanks : List Char}
    (blank : ∀ c ∈ blanks, Text.isBlank c = true) : ¬ marker <:+: blanks :=
  fun h => isMarker.ne_nil (isMarker.eq_nil_of_blank (List.Subset.refl _) h.subset blank)

/-- A marker that stands in a text between white space stands in the text itself. -/
lemma IsMarker.infix_of_blanks (isMarker : IsMarker marker) {after : List Char}
    (blankBefore : ∀ c ∈ before, Text.isBlank c = true)
    (blankAfter : ∀ c ∈ after, Text.isBlank c = true) (h : marker <:+: before ++ cs ++ after) :
    marker <:+: cs := by
  have inFront : marker <:+: before ++ cs := by
    rcases List.infix_append_iff.1 h with h | h | ⟨front, back, split, ending, beginning⟩
    · exact h
    · exact absurd h (isMarker.not_infix_of_blank blankAfter)
    · have none := isMarker.eq_nil_of_blank (split ▸ List.subset_append_right _ _)
        beginning.subset blankAfter
      rw [split, none, List.append_nil]
      exact ending.isInfix
  rcases List.infix_append_iff.1 inFront with h | h | ⟨front, back, split, ending, beginning⟩
  · exact absurd h (isMarker.not_infix_of_blank blankBefore)
  · exact h
  · have none := isMarker.eq_nil_of_blank (split ▸ List.subset_append_left _ _)
      ending.subset blankBefore
    rw [split, none, List.nil_append]
    exact beginning.isInfix

/-- White space around a text stays around what follows its last marker. -/
lemma trim_afterLast_blanks (isMarker : IsMarker marker) {after : List Char}
    (blankBefore : ∀ c ∈ before, Text.isBlank c = true)
    (blankAfter : ∀ c ∈ after, Text.isBlank c = true) :
    Text.trim (afterLast marker (before ++ cs ++ after)) = Text.trim (afterLast marker cs) := by
  cases found : afterLast? marker cs with
  | none =>
    have absent := (afterLast?_eq_none_iff isMarker.ne_nil).1 found
    have absent' : ¬ marker <:+: before ++ cs ++ after :=
      mt (isMarker.infix_of_blanks blankBefore blankAfter) absent
    rw [afterLast_eq_self isMarker.ne_nil absent, afterLast_eq_self isMarker.ne_nil absent',
      Text.trim_append_blank blankAfter, Text.trim_blank_append blankBefore]
  | some rest =>
    obtain ⟨⟨front, rfl⟩, last⟩ := eq_append_of_afterLast? isMarker.ne_nil found
    have nothing : ∀ c ∈ ([] : List Char), Text.isBlank c = true := nofun
    have last' : ¬ marker <:+: rest ++ after :=
      mt (isMarker.infix_of_blanks nothing blankAfter) last
    calc Text.trim (afterLast marker (before ++ (front ++ marker ++ rest) ++ after))
        = Text.trim (afterLast marker (before ++ front ++ marker ++ (rest ++ after))) := by
          simp only [List.append_assoc]
      _ = Text.trim (rest ++ after) := by
          rw [afterLast_marked isMarker, afterLast_eq_self isMarker.ne_nil last']
      _ = Text.trim (afterLast marker (front ++ marker ++ rest)) := by
          rw [Text.trim_append_blank blankAfter, afterLast_marked isMarker,
            afterLast_eq_self isMarker.ne_nil last]

/-! ### Statuses -/

/-- The word after which a status counts, in small letters. -/
def statusWord : List Char := "status:".toList

/-- The word after which a status counts is a marker. -/
lemma isMarker_statusWord : IsMarker statusWord where
  ne_nil := by decide
  visible := by
    have all : statusWord.all (fun c => !Text.isBlank c) = true := by decide
    simpa using all
  unbordered := by decide

/-- A text may be trimmed before or after the part behind the last marker is taken. -/
lemma ofChars_eq (cs : List Char) :
    ofChars cs = ofName (Text.trim (afterLast statusWord (cs.map Char.toLower))) := by
  obtain ⟨before, after, blankBefore, blankAfter, split⟩ :=
    Text.exists_eq_trim (cs.map Char.toLower)
  rw [split, trim_afterLast_blanks isMarker_statusWord blankBefore blankAfter,
    Text.trim_map_toLower]
  rfl

/-- The status of a text is that of what follows the word `status:` in it, in any case of letters,
whatever stands before that word and however often the word stands in either part.  Neither the case
of ASCII letters matters nor white space at the ends.  A text without the word stands for the status
that its small letters name. -/
theorem ofText_marked :
    (∀ before word rest : String, word.toLower = "status:" →
      ofText (before ++ word ++ rest) = ofText rest) ∧
    (∀ s s' : String, s.toLower = s'.toLower → ofText s = ofText s') ∧
    (∀ before s after : String, (∀ c ∈ before.toList, Text.isBlank c = true) →
      (∀ c ∈ after.toList, Text.isBlank c = true) → ofText (before ++ s ++ after) = ofText s) ∧
    ∀ s : String, ¬ "status:".toList <:+: s.toLower.toList →
      ofText s = ofName (Text.trim s.toLower.toList) := by
  refine ⟨?_, ?_, ?_, ?_⟩
  · intro before word rest spelled
    have small : word.toList.map Char.toLower = statusWord := by
      rw [← Text.toList_toLower]
      exact congrArg String.toList spelled
    rw [ofText, ofText, ofChars_eq, ofChars_eq, String.toList_append, String.toList_append,
      List.map_append, List.map_append, small, afterLast_marked isMarker_statusWord]
  · intro s s' same
    have small : s.toList.map Char.toLower = s'.toList.map Char.toLower := by
      rw [← Text.toList_toLower, ← Text.toList_toLower]
      exact congrArg String.toList same
    rw [ofText, ofText, ofChars_eq, ofChars_eq, small]
  · intro before s after blankBefore blankAfter
    rw [ofText, ofText, String.toList_append, String.toList_append, ofChars, ofChars,
      Text.trim_append_blank blankAfter, Text.trim_blank_append blankBefore]
  · intro s absent
    rw [Text.toList_toLower] at absent ⊢
    rw [ofText, ofChars_eq, afterLast_eq_self isMarker_statusWord.ne_nil absent]

/-- Both parts of a text hold the word, and white space stands around the status, the letters of
which are partly capital. -/
theorem ofText_marked_twice :
    ofText ("Status: Late. " ++ "sTATUS:" ++ " Was status: Fully Paid") =
        ofText " Was status: Fully Paid" ∧
      ofText (" Was " ++ "status:" ++ " Fully Paid") = ofText " Fully Paid" ∧
      ofText ("\t" ++ "fULLY pAID" ++ " \n") = ofText "Fully Paid" ∧
      ofText "Fully Paid" = .fullyPaid := by
  obtain ⟨marked, anyCase, blanks, plain⟩ := ofText_marked
  have small : "fULLY pAID".toLower = "fully paid" := by decide +kernel
  have small' : "Fully Paid".toLower = "fully paid" := by decide +kernel
  refine ⟨marked _ _ _ (by decide +kernel), marked _ _ _ (by decide +kernel), ?_, ?_⟩
  · calc ofText ("\t" ++ "fULLY pAID" ++ " \n")
        = ofText "fULLY pAID" := blanks _ _ _ (List.all_eq_true.1 rfl) (List.all_eq_true.1 rfl)
      _ = ofText "Fully Paid" := anyCase _ _ (small.trans small'.symm)
  · calc ofText "Fully Paid"
        = ofName (Text.trim "Fully Paid".toLower.toList) := plain _ (by decide +kernel)
      _ = .fullyPaid := by decide +kernel

end NoteStatus

end LoanDesk
