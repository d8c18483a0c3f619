import LoanDesk.Proofs.Expr.Fields
import LoanDesk.Proofs.Listing

/-!
# Loans that are written and read back

A loan is written with its quality as one more member, in the place of a field of that name, and is
read back with this member as a field like any other.  All other fields come back as they were, but
for numbers that are not finite, of which there are none in JSON and which come back as nothing
(`Value.settled`).  So a condition that does not ask for the quality says the same of both loans.

Main statement: `Listing.ofJson_map_toJson`.
-/

namespace LoanDesk

/-! ### Fields -/

namespace Value

/-- What is left of a value once it was written. -/
def settled : Value → Value
  | number x => if Number.isFinite x then number x else null
  | v => v

/-- A value that is written is read back, but for a number that is not finite. -/
lemma ofJson_toJson (v : Value) : ofJson v.toJson = v.settled := by
  cases v with
  | number x =>
    rw [toJson, Json.ofNumber, settled]
    split <;> rfl
  | _ => rfl

/-- What is left of a value once it was written is written the same way. -/
lemma toJson_settled (v : Value) : v.settled.toJson = v.toJson := by
  cases v with
  | number x =>
    rw [settled, toJson, Json.ofNumber]
    split
    next fin => rw [toJson, Json.ofNumber, if_pos fin]
    next => rfl
  | _ => rfl

end Value

/-! ### Loans -/

namespace Loan

/-- The members of the object that reports a loan. -/
def members (loan : Loan) : Dict Json :=
  (loan.fields.map Value.toJson).insert "quality" (.number (.whole loan.quality))

lemma toJson_eq (loan : Loan) : loan.toJson = .object loan.members.entries := rfl

/-- The loan as it is read back. -/
def readBack (loan : Loan) : Loan where
  fields :=
    (loan.fields.map Value.settled).insert "quality" (.number (Numeral.ofWhole loan.quality))
  quality := defaultQuality

/-- The members of a loan are read as the loan that it reads back as. -/
lemma ofMembers_members (loan : Loan) : ofMembers loan.members.entries = loan.readBack := by
  have settles : Value.ofJson ∘ Value.toJson = Value.settled := funext Value.ofJson_toJson
  rw [ofMembers_entries, members, Dict.map_insert, Dict.map_map, settles]
  rfl

/-- Writing again puts the new quality in the place of the old one. -/
lemma members_readBack (loan : Loan) :
    loan.readBack.members = loan.members.insert "quality" (.number (.whole defaultQuality)) := by
  have written : Value.toJson ∘ Value.settled = Value.toJson := funext Value.toJson_settled
  rw [members, readBack, Dict.map_insert, Dict.map_map, written, Dict.insert_insert, members,
    Dict.insert_insert]

/-- Reading back settles each field but the quality. -/
lemma find?_readBack (loan : Loan) {name : String} (other : name ≠ "quality") :
    loan.readBack.fields.find? name = (loan.fields.find? name).map Value.settled := by
  rw [readBack, Dict.find?_insert, if_neg other, Dict.find?_map]

/-- A loan with finite numbers does not change but for its quality. -/
lemma fields_readBack {loan : Loan} (fin : loan.IsFinite) :
    loan.readBack.fields =
      loan.fields.insert "quality" (.number (Numeral.ofWhole loan.quality)) := by
  have unchanged : loan.fields.map Value.settled = loan.fields := by
    refine Dict.map_eq_self fun name value found => ?_
    cases value with
    | number x =>
      have reported : loan.get name = .number x := by rw [get, found]; rfl
      rw [Value.settled, if_pos (fin name x reported)]
    | _ => rfl
  rw [readBack, unchanged]

/-- Reading a finite loan back changes no field but the quality. -/
lemma get_readBack {loan : Loan} (fin : loan.IsFinite) {name : String} (other : name ≠ "quality") :
    loan.readBack.get name = loan.get name := by
  rw [get, get, fields_readBack fin, Dict.find?_insert, if_neg other]

/-- Reading a finite loan back keeps its id. -/
lemma id?_readBack {loan : Loan} (fin : loan.IsFinite) : loan.readBack.id? = loan.id? := by
  rw [id?, id?, get_readBack fin (by decide), get_readBack fin (by decide)]

/-- Reading a finite loan back changes no answer to an expression without the quality. -/
lemma satisfies_readBack {loan : Loan} (fin : loan.IsFinite) {e : Expr} (h : "quality" ∉ e.fields) :
    loan.readBack.satisfies e = loan.satisfies e := by
  have same : ∀ name ∈ e.fieldNames, loan.readBack.get name = loan.get name := by
    intro name hname
    refine get_readBack fin ?_
    rintro rfl
    exact h (Expr.mem_fields.2 hname)
  rw [satisfies, satisfies, Expr.holds, Expr.holds, Expr.value_congr same]

/-- What becomes of a loan that is written and read back. -/
structure ReadsBackAs (loan again : Loan) : Prop where
  ranked : again.fields.find? "quality" = some (.number (Numeral.ofWhole loan.quality))
  others : ∀ name, name ≠ "quality" →
    again.fields.find? name = (loan.fields.find? name).map Value.settled
  quality : again.quality = defaultQuality
  fields : loan.IsFinite →
    again.fields = loan.fields.insert "quality" (.number (Numeral.ofWhole loan.quality))
  satisfies : loan.IsFinite → ∀ e : Expr, "quality" ∉ e.fields →
    again.satisfies e = loan.satisfies e
  evaluate : loan.IsFinite → ∀ r : Rule, (∀ e, Expr.parse r.source = .ok e → "quality" ∉ e.fields) →
    r.evaluate again = r.evaluate loan
  id : loan.IsFinite → again.id? = loan.id?
  /-- Written again, it is the same object but for its quality. -/
  written : ∃ members : Dict Json, loan.toJson = .object members.entries ∧
    again.toJson = .object (members.insert "quality" (.number (.whole defaultQuality))).entries

/-- The loan that is read back is what a loan reads back as. -/
theorem readsBackAs_readBack (loan : Loan) : loan.ReadsBackAs loan.readBack where
  ranked := by rw [readBack, Dict.find?_insert, if_pos rfl]
  others _ other := loan.find?_readBack other
  quality := rfl
  fields := fields_readBack
  satisfies fin _ := satisfies_readBack fin
  evaluate fin r h := by
    refine Rule.evaluate_congr fun e parsed => satisfies_readBack fin (h e ?_)
    rw [← r.expr_eq, parsed]
  id := id?_readBack
  written := ⟨loan.members, loan.toJson_eq, by rw [toJson_eq, members_readBack]⟩

end Loan

/-! ### Listings -/

namespace Listing

/-- Loans that were written are read back one after the other. -/
lemma readEach_readLoan_toJson (index : Nat) (loans : List Loan) :
    readEach readLoan index (loans.map Loan.toJson) = .ok (loans.map Loan.readBack) := by
  rw [readEach_eq_ok_iff readsItem_readLoan, List.forall₂_map_left_iff,
    List.forall₂_map_right_iff]
  exact List.forall₂_same.2 fun loan _ => ⟨_, rfl, loan.ofMembers_members.symm⟩

/-- The array of the loans that were written is read as the same number of loans in the same order,
and so is any text that spells this array.  Of each loan there are the quality as a number, in the
place of a field of that name, and the other fields as they were; a number that is not finite has
become nothing.  If there is none, conditions that do not ask for the quality come to the same, a
failure included, and so does the id.  Written again, only the quality differs. -/
theorem ofJson_map_toJson (loans : List Loan) :
    ∃ again, ofJson (.array (loans.map Loan.toJson)) = .ok again ∧
      (∀ text, Json.read? text = some (.array (loans.map Loan.toJson)) → read text = .ok again) ∧
      List.Forall₂ Loan.ReadsBackAs loans again := by
  have reads : ofJson (.array (loans.map Loan.toJson)) = .ok (loans.map Loan.readBack) :=
    readEach_readLoan_toJson 0 loans
  refine ⟨loans.map Loan.readBack, reads, ?_, ?_⟩
  · intro text h
    rw [read, h]
    exact reads
  · refine List.forall₂_map_right_iff.2 (List.forall₂_same.2 ?_)
    exact fun loan _ => loan.readsBackAs_readBack

/-- A field of the name `quality` gives way, and a quotient of zeros becomes nothing. -/
theorem ofJson_map_toJson_ranked :
    let ranked : Loan :=
      ⟨Dict.ofList [("id", .text "7"), ("quality", .text "high"), ("rate", .number 15.5)], 9⟩
    let undefined : Loan := ⟨Dict.ofList [("id", .number 8), ("rate", .number (0 / 0))], -1⟩
    let rule := Rule.ofSource "{rate} > 5 and {term} < 60" .exclusion
    ∃ first second, ofJson (.array ([ranked, undefined].map Loan.toJson)) = .ok [first, second] ∧
      first.fields =
        Dict.ofList [("id", .text "7"), ("quality", .number 9), ("rate", .number 15.5)] ∧
      rule.evaluate first = rule.evaluate ranked ∧ first.id? = some "7" ∧
      second.fields.find? "quality" = some (.number (-1)) ∧
      second.fields.find? "rate" = some .null := by
  intro ranked undefined rule
  have fin : ranked.IsFinite := by
    intro name x h
    simp only [ranked, Loan.get, Dict.ofList, List.foldl, Dict.find?_insert] at h
    split at h
    · cases h
      decide +kernel
    · split at h
      · cases h
      · split at h <;> cases h
  have unasked (e : Expr) (parsed : Expr.parse rule.source = .ok e) : "quality" ∉ e.fields := by
    have names : (Expr.parse rule.source).toOption.map Expr.fieldNames = some ["rate", "term"] := by
      decide +kernel
    rw [parsed] at names
    rw [Expr.mem_fields, show e.fieldNames = _ from Option.some.inj names]
    decide
  obtain ⟨again, reads, -, back⟩ := ofJson_map_toJson [ranked, undefined]
  cases back with
  | @cons _ first _ _ ofRanked rest =>
    cases rest with
    | @cons _ second _ _ ofUndefined none =>
      cases none
      refine ⟨first, second, reads, ?_, ofRanked.evaluate fin rule unasked, ?_, ?_, ?_⟩
      · rw [ofRanked.fields fin]
        decide +kernel
      · rw [ofRanked.id fin]
        decide +kernel
      · rw [ofUndefined.ranked]
        decide +kernel
      · rw [ofUndefined.others "rate" (by decide)]
        decide +kernel

end Listing

end LoanDesk
