import Mathlib.Data.List.Nodup
import Mathlib.Logic.Function.Basic

/-! # Intrusive lists refine a placement

An intrusive link puts an element into a list at most once.  `Listed` says that a
list holds exactly the elements with a property, each once; the lemmas say which
property the list has after an append or a removal.

A family of lists indexed by `ι` that share one link keeps every element in at
most one of them.  Abstractly the family is a partial map `place` saying which
list an element is linked in.  `Placed` is the refinement, `Placed.pushBack` and
`Placed.remove` say that the two list operations simulate setting and clearing
`place` when they are used legally, and `LegalAll` is the legality of a whole
sequence of operations, each judged on the lists it is applied to.
-/

namespace Placement

variable {ι α : Type*}

/-! ## One list -/

/-- The list holds exactly the elements with the property, each once. -/
structure Listed (list : List α) (property : α → Prop) : Prop where
  nodup : list.Nodup
  mem_iff : ∀ element, element ∈ list ↔ property element

namespace Listed

variable {list : List α} {property property' : α → Prop} {element : α}

theorem nil (empty : ∀ element, ¬ property element) : Listed [] property where
  nodup := List.nodup_nil
  mem_iff element := by simp [empty]

theorem congr (listed : Listed list property) (same : ∀ other, property' other ↔ property other) :
    Listed list property' where
  nodup := listed.nodup
  mem_iff other := by rw [same, listed.mem_iff]

theorem append (listed : Listed list property) (absent : ¬ property element)
    (added : ∀ other, property' other ↔ property other ∨ other = element) :
    Listed (list ++ [element]) property' where
  nodup := by
    have outside : element ∉ list := mt (listed.mem_iff element).mp absent
    rw [← List.concat_eq_append]
    exact listed.nodup.concat outside
  mem_iff other := by simp [listed.mem_iff, added]

theorem erase [DecidableEq α] (listed : Listed list property)
    (removed : ∀ other, property' other ↔ property other ∧ other ≠ element) :
    Listed (list.erase element) property' where
  nodup := listed.nodup.erase element
  mem_iff other := by
    rw [listed.nodup.mem_erase_iff, listed.mem_iff, removed]
    exact and_comm

theorem count_eq_one [DecidableEq α] (listed : Listed list property) (holds : property element) :
    list.count element = 1 :=
  List.count_eq_one_of_mem listed.nodup ((listed.mem_iff element).mpr holds)

/-- A list is as long as the number of its elements in any list that holds them all. -/
theorem length_eq_countP {everyone : List α} {others : α → Prop} [DecidablePred property]
    (listed : Listed list property) (whole : Listed everyone others)
    (among : ∀ other, property other → others other) :
    list.length = everyone.countP fun other => decide (property other) := by
  classical
  have same : list.Perm (everyone.filter fun other => decide (property other)) := by
    apply (List.perm_ext_iff_of_nodup listed.nodup (whole.nodup.filter _)).mpr
    intro other
    simp only [listed.mem_iff, List.mem_filter, whole.mem_iff, decide_eq_true_eq]
    exact ⟨fun holds => ⟨among other holds, holds⟩, fun both => both.2⟩
  rw [same.length_eq, List.countP_eq_length_filter]

end Listed

theorem countP_or {list : List α} {first second : α → Bool}
    (apart : ∀ element, first element = true → second element = false) :
    (list.countP fun element => first element || second element) =
      list.countP first + list.countP second := by
  induction list with
  | nil => rfl
  | cons element list inductionHypothesis =>
    have here := apart element
    simp only [List.countP_cons, inductionHypothesis]
    cases holds : first element with
    | true =>
      simp [here holds]
      omega
    | false =>
      simp
      omega

/-! ## A family of lists -/

/-- The lists hold exactly the placed elements, each once and in its place. -/
def Placed (lists : ι → List α) (place : α → Option ι) : Prop :=
  ∀ index, Listed (lists index) fun element => place element = some index

inductive Op (ι α : Type*) where
  | pushBack (index : ι) (element : α)
  | remove (index : ι) (element : α)

/-- Append to one list, or remove from one list. -/
def Op.apply [DecidableEq ι] [DecidableEq α] (lists : ι → List α) : Op ι α → ι → List α
  | .pushBack index element => Function.update lists index (lists index ++ [element])
  | .remove index element => Function.update lists index ((lists index).erase element)

/-- Only an unlinked element may be appended, and only an element of that very
    list may be removed. -/
def Op.Legal (lists : ι → List α) : Op ι α → Prop
  | .pushBack _ element => ∀ index, element ∉ lists index
  | .remove index element => element ∈ lists index

section Sequences

variable [DecidableEq ι] [DecidableEq α]

/-- Each operation is legal on the lists the earlier ones leave behind. -/
def LegalAll : (ι → List α) → List (Op ι α) → Prop
  | _, [] => True
  | lists, op :: ops => op.Legal lists ∧ LegalAll (op.apply lists) ops

end Sequences

theorem placed_empty : Placed (fun _ : ι => ([] : List α)) (fun _ => none) :=
  fun _ => Listed.nil (by simp)

variable {lists : ι → List α} {place : α → Option ι} {index : ι} {element : α}

theorem Placed.unique (placed : Placed lists place) {other : ι} (here : element ∈ lists index)
    (there : element ∈ lists other) : index = other := by
  rw [(placed _).mem_iff] at here there
  exact Option.some.inj (here.symm.trans there)

theorem Placed.pushBack_legal (placed : Placed lists place) (index : ι)
    (unplaced : place element = none) : (Op.pushBack index element).Legal lists := by
  intro other member
  rw [(placed other).mem_iff, unplaced] at member
  cases member

theorem Placed.remove_legal (placed : Placed lists place) (here : place element = some index) :
    (Op.remove index element).Legal lists :=
  ((placed index).mem_iff element).mpr here

section Simulation

variable [DecidableEq ι] [DecidableEq α]

theorem Placed.pushBack (placed : Placed lists place) (unplaced : place element = none) :
    Placed ((Op.pushBack index element).apply lists)
      (Function.update place element (some index)) := by
  intro other
  by_cases here : other = index
  · subst here
    rw [Op.apply, Function.update_self]
    refine (placed other).append (by simp [unplaced]) fun candidate => ?_
    by_cases same : candidate = element <;> simp [same]
  · rw [Op.apply, Function.update_of_ne here]
    refine (placed other).congr fun candidate => ?_
    by_cases same : candidate = element
    · subst same; simp [unplaced, Ne.symm here]
    · simp [same]

theorem Placed.remove (placed : Placed lists place) (here : place element = some index) :
    Placed ((Op.remove index element).apply lists) (Function.update place element none) := by
  intro other
  by_cases there : other = index
  · subst there
    rw [Op.apply, Function.update_self]
    refine (placed other).erase fun candidate => ?_
    by_cases same : candidate = element <;> simp [same]
  · rw [Op.apply, Function.update_of_ne there]
    refine (placed other).congr fun candidate => ?_
    by_cases same : candidate = element
    · subst same; simp [here, Ne.symm there]
    · simp [same]

end Simulation

end Placement
