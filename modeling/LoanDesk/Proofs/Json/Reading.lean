import LoanDesk.Json.Read
import Mathlib.Tactic.Lemma

/-!
# What holds of every value that is read

A property that arrays and objects have if their parts have it, and that numbers have as they are
read, holds of every value of a text: `Json.of_read?`.  Since objects are read into dictionaries,
their members are in the order of their keys (`Json.inOrder_of_read?`).
-/

namespace LoanDesk

/-- A property that arrays and objects have if their parts have it, and that numbers have as they
are read. -/
structure Json.Inherited (P : Json → Prop) : Prop where
  null : P .null
  bool (b : Bool) : P (.bool b)
  number {cs rest : List Char} {n : Numeral} (h : Numeral.read cs = some (n, rest)) : P (.number n)
  string (s : String) : P (.string s)
  array {items : List Json} (h : ∀ v ∈ items, P v) : P (.array items)
  object {members : List (String × Json)} (sorted : SortedEntries members)
    (h : ∀ member ∈ members, P member.2) : P (.object members)

namespace JsonReader

/-- Every value that is read has the property. -/
def Ensures (item : JsonReader) (P : Json → Prop) : Prop :=
  ∀ {cs v rest}, item.read cs = some (v, rest) → P v

variable {P : Json → Prop} {item : JsonReader} {cs rest : List Char} {v : Json}

/-- The items of an array have what the reader of an item ensures, and the array inherits it. -/
lemma of_readItems (inherited : Json.Inherited P) (reads : item.Ensures P) {done : List Json}
    (hdone : ∀ v ∈ done, P v) (h : readItems item done cs = some (v, rest)) : P v := by
  fun_induction readItems item done cs with
  | case1 => cases h
  | case2 done cs v' rest' hitem rest'' hmark ih =>
    have all : ∀ v ∈ v' :: done, P v := List.forall_mem_cons.2 ⟨reads hitem, hdone⟩
    exact ih all h
  | case3 done cs v' rest' hitem rest'' hmark =>
    have all : ∀ v ∈ v' :: done, P v := List.forall_mem_cons.2 ⟨reads hitem, hdone⟩
    cases h
    apply inherited.array
    intro v hv
    exact all v (List.mem_reverse.1 hv)
  | case4 => cases h

/-- The members of an object have what the reader of a value ensures, and the object inherits it. -/
lemma of_readMembers (inherited : Json.Inherited P) (reads : item.Ensures P)
    {done : List (String × Json)} (hdone : ∀ member ∈ done, P member.2)
    (h : readMembers item done cs = some (v, rest)) : P v := by
  fun_induction readMembers item done cs with
  | case1 => cases h
  | case2 => cases h
  | case3 done cs key afterKey hkey v' afterValue hvalue rest' hmark ih =>
    have all : ∀ member ∈ (key, v') :: done, P member.2 :=
      List.forall_mem_cons.2 ⟨reads hvalue, hdone⟩
    exact ih all h
  | case4 done cs key afterKey hkey v' afterValue hvalue rest' hmark =>
    have all : ∀ member ∈ (key, v') :: done, P member.2 :=
      List.forall_mem_cons.2 ⟨reads hvalue, hdone⟩
    cases h
    apply inherited.object (Dict.ofList _).sorted
    intro member hmember
    exact all member (List.mem_reverse.1 (Dict.mem_of_mem_ofList hmember))
  | case5 => cases h

/-- A value that is neither an array nor an object has what is inherited. -/
lemma of_readScalar (inherited : Json.Inherited P) (h : readScalar cs = some (v, rest)) :
    P v := by
  unfold readScalar at h
  split at h
  · cases h
    exact inherited.null
  · cases h
    exact inherited.bool true
  · cases h
    exact inherited.bool false
  · obtain ⟨⟨s, left⟩, -, e⟩ := Option.map_eq_some_iff.1 h
    cases e
    exact inherited.string s
  · obtain ⟨⟨n, left⟩, hn, e⟩ := Option.map_eq_some_iff.1 h
    cases e
    exact inherited.number hn

/-- What a reader reads has the property if what it reads items with ensures it. -/
lemma ensures_value (inherited : Json.Inherited P) {item : Option JsonReader}
    (reads : ∀ r ∈ item, r.Ensures P) : (value item).Ensures P := by
  intro cs v rest h
  replace h : readValue item cs = some (v, rest) := h
  unfold readValue at h
  split at h
  · obtain ⟨item, hitem, h⟩ := Option.bind_eq_some_iff.1 h
    unfold readArray at h
    split at h
    · cases h
      exact inherited.array (by simp)
    · exact of_readItems inherited (reads item hitem) (by simp) h
  · obtain ⟨item, hitem, h⟩ := Option.bind_eq_some_iff.1 h
    unfold readObject at h
    split at h
    · cases h
      exact inherited.object .nil (by simp)
    · exact of_readMembers inherited (reads item hitem) (by simp) h
  · exact of_readScalar inherited h

/-- A reader of any depth ensures what is inherited. -/
lemma ensures_nested (inherited : Json.Inherited P) (depth : Nat) : (nested depth).Ensures P := by
  induction depth with
  | zero => exact ensures_value inherited (by simp)
  | succ depth ih =>
    apply ensures_value inherited
    intro r hr
    cases hr
    exact ih

end JsonReader

namespace Json

variable {s : String} {v : Json}

/-- What arrays and objects have if their parts have it holds of the value of every text. -/
theorem of_read? {P : Json → Prop} (inherited : Inherited P) (h : read? s = some v) : P v := by
  unfold read? at h
  split at h
  next v' rest hread =>
    split at h
    · cases h
      exact JsonReader.ensures_nested inherited _ hread
    · cases h
  next => cases h

/-- The members of all objects of a value are in the order of their keys, each key once. -/
inductive InOrder : Json → Prop where
  | null : InOrder .null
  | bool (b : Bool) : InOrder (.bool b)
  | number (n : Numeral) : InOrder (.number n)
  | string (s : String) : InOrder (.string s)
  | array {items : List Json} (h : ∀ v ∈ items, InOrder v) : InOrder (.array items)
  | object {members : List (String × Json)} (sorted : SortedEntries members)
      (h : ∀ member ∈ members, InOrder member.2) : InOrder (.object members)

/-- Objects are read in the order of their keys. -/
theorem inOrder_of_read? (h : read? s = some v) : v.InOrder :=
  of_read? ⟨.null, .bool, fun _ => .number _, .string, .array, .object⟩ h

end Json

end LoanDesk
