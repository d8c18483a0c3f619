import LoanDesk.Proofs.Owned
import LoanDesk.Proofs.Purchase

/-!
# The ids that orders name

An order names the id of a loan that is listed.  A loan whose `id` is a whole number is spelled as
the binary number nearest to it, so two such loans have one id exactly if one binary number is
nearest to both of them: `Listing.id_of_whole`.  Up to `2 ^ 53` that is the number of the listing,
and beyond it may be another.
-/

namespace LoanDesk

/-- A loan with a whole number as its `id` is spelled as the nearest binary number. -/
lemma Loan.id?_ofMembers_whole {members : List (String × Json)} (sorted : SortedEntries members)
    {n : Int} (hid : members.lookup "id" = some (.number (.whole n))) :
    (ofMembers members).id? = some (Number.text (Numeral.ofWhole n)) :=
  id?_ofMembers sorted hid rfl

/-- An order of a plan names the id of a candidate. -/
lemma Plan.id?_of_mem_orders {α : Type} [Amount α] {candidates : List Loan} {cash amount : α}
    {portfolioId accountId : Option String} {order : Order α}
    (h : order ∈ (ofCandidates candidates cash amount portfolioId accountId).1.orders) :
    ∃ loan ∈ candidates, loan.id? = some order.loanId := by
  rw [ofCandidates_orders] at h
  obtain ⟨id, taken, rfl⟩ := List.mem_map.1 h
  exact List.mem_filterMap.1 (List.mem_of_mem_take taken)

namespace Listing

/-- A listed loan with a whole number as its `id` has the decimal text of a whole number as its id
that has the same nearest binary number, and of the listed number itself up to `2 ^ 53`.  Two such
loans have one id exactly if one binary number is nearest to both their numbers.  Every order that
is planned for loans of the listing names the id of one of them. -/
theorem id_of_whole {text : String} {doc : Json} {loans : List Loan}
    (hdoc : Json.read? text = some doc) (hloans : read text = .ok loans) :
    (∀ object ∈ objects doc, ∀ n : Int, object.lookup "id" = some (.number (.whole n)) →
      Loan.ofMembers object ∈ loans ∧
        (∃ k : Int, (Loan.ofMembers object).id? = some (toString k) ∧
          Numeral.ofWhole k = Numeral.ofWhole n) ∧
        (n.natAbs ≤ 2 ^ 53 → (Loan.ofMembers object).id? = some (toString n)) ∧
        ∀ other ∈ objects doc, ∀ k : Int, other.lookup "id" = some (.number (.whole k)) →
          ((Loan.ofMembers object).id? = (Loan.ofMembers other).id? ↔
            Numeral.ofWhole n = Numeral.ofWhole k)) ∧
      ∀ (α : Type) [Amount α] (candidates : List Loan) (cash amount : α)
        (portfolioId accountId : Option String), candidates ⊆ loans →
        ∀ order ∈ (Plan.ofCandidates candidates cash amount portfolioId accountId).1.orders,
          ∃ object ∈ objects doc, (Loan.ofMembers object).id? = some order.loanId := by
  have made : loans = (objects doc).map Loan.ofMembers := by
    have parsed := hloans
    rw [read, hdoc] at parsed
    exact ofJson_eq parsed
  have listed {object : List (String × Json)} (h : object ∈ objects doc) :
      Loan.ofMembers object ∈ loans := made ▸ List.mem_map_of_mem h
  have sorted := sortedEntries_objects (Json.inOrder_of_read? hdoc)
  have finite {object : List (String × Json)} (h : object ∈ objects doc) {n : Int}
      (hid : object.lookup "id" = some (.number (.whole n))) :
      Number.isFinite (Numeral.ofWhole n) = true := by
    refine isFinite_of_read hloans (listed h) "id" _ ?_
    rw [Loan.get_ofMembers (sorted object h), hid]
    rfl
  refine ⟨fun object h n hid => ⟨listed h, ?_, ?_, ?_⟩, ?_⟩
  · obtain ⟨k, written, same⟩ := Number.exists_text_ofWhole (finite h hid)
    refine ⟨k, ?_, same⟩
    rw [Loan.id?_ofMembers_whole (sorted object h) hid, written]
  · intro small
    rw [Loan.id?_ofMembers_whole (sorted object h) hid, Number.text_ofWhole small]
  · intro other h' k hid'
    rw [Loan.id?_ofMembers_whole (sorted object h) hid,
      Loan.id?_ofMembers_whole (sorted other h') hid', Option.some_inj]
    constructor
    · exact Number.eq_of_text_eq (finite h hid) (finite h' hid')
    · exact congrArg Number.text
  · intro α _ candidates cash amount portfolioId accountId among order ordered
    obtain ⟨loan, candidate, named⟩ := Plan.id?_of_mem_orders ordered
    obtain ⟨object, h, rfl⟩ := List.mem_map.1 (made ▸ among candidate)
    exact ⟨object, h, named⟩

/-- The first of two loans is spelled as it is listed, the other is not spelled like it, and an
order names one of them. -/
theorem id_of_whole_seven :
    let seven : List (String × Json) := [("id", .number (.whole 7))]
    let large : List (String × Json) := [("id", .number (.whole 9007199254740993))]
    Json.read? "[\x7b\"id\":7\x7d,\x7b\"id\":9007199254740993\x7d]" =
        some (.array [.object seven, .object large]) ∧
      ∃ loans, read "[\x7b\"id\":7\x7d,\x7b\"id\":9007199254740993\x7d]" = .ok loans ∧
        (Loan.ofMembers seven).id? = some "7" ∧
        (Loan.ofMembers seven).id? ≠ (Loan.ofMembers large).id? ∧
        ∀ order ∈ (Plan.ofCandidates loans (60 : Float) 25 none none).1.orders,
          ∃ object ∈ [seven, large], (Loan.ofMembers object).id? = some order.loanId := by
  intro seven large
  have doc : Json.read? "[\x7b\"id\":7\x7d,\x7b\"id\":9007199254740993\x7d]" =
      some (.array [.object seven, .object large]) := by
    with_unfolding_all rfl
  have loans : read "[\x7b\"id\":7\x7d,\x7b\"id\":9007199254740993\x7d]" =
      .ok ([seven, large].map Loan.ofMembers) := by
    rw [read, doc]
    rfl
  obtain ⟨ids, orders⟩ := id_of_whole doc loans
  obtain ⟨-, -, spelled, alike⟩ := ids seven (by simp [objects, members?]) 7 rfl
  refine ⟨doc, _, loans, spelled (by decide), ?_, ?_⟩
  · rw [Ne, alike large (by simp [objects, members?]) 9007199254740993 rfl]
    decide +kernel
  · exact orders Float _ 60 25 none none (List.Subset.refl _)

/-- Two listed loans with different numbers have one id, and it is that id that an order names. -/
theorem one_id_of_two_numbers :
    let first : List (String × Json) := [("id", .number (.whole 9007199254740992))]
    let second : List (String × Json) := [("id", .number (.whole 9007199254740993))]
    Json.read? "[\x7b\"id\":9007199254740992\x7d,\x7b\"id\":9007199254740993\x7d]" =
        some (.array [.object first, .object second]) ∧
      ∃ loans, read "[\x7b\"id\":9007199254740992\x7d,\x7b\"id\":9007199254740993\x7d]" =
          .ok loans ∧
        loans.map Loan.id? = [some "9007199254740992", some "9007199254740992"] ∧
        (Plan.ofCandidates loans (60 : Float) 25 none none).1.orders.map Order.loanId =
          ["9007199254740992", "9007199254740992"] := by
  intro first second
  have doc : Json.read? "[\x7b\"id\":9007199254740992\x7d,\x7b\"id\":9007199254740993\x7d]" =
      some (.array [.object first, .object second]) := by
    with_unfolding_all rfl
  have loans : read "[\x7b\"id\":9007199254740992\x7d,\x7b\"id\":9007199254740993\x7d]" =
      .ok ([first, second].map Loan.ofMembers) := by
    rw [read, doc]
    rfl
  exact ⟨doc, _, loans, by decide +kernel, by decide +kernel⟩

end Listing

end LoanDesk
