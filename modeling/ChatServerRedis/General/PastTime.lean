import Mathlib.Data.List.Induction

/-! # Past-time properties of finite histories

A history is the list of the events that happened so far, oldest first.  `Once`
and `Since` are the two past-time operators the invariants over runs are stated
with; `once_snoc` and `since_snoc` say how one more event changes them, which is
all an induction over a run needs.
-/

namespace PastTime

variable {ε : Type*}

def Once (mark : ε → Prop) (history : List ε) : Prop :=
  ∃ event ∈ history, mark event

/-- Some event of the history is marked and every later event satisfies `stay`. -/
def Since (stay mark : ε → Prop) (history : List ε) : Prop :=
  ∃ before event after, history = before ++ event :: after ∧ mark event ∧
    ∀ later ∈ after, stay later

/-! ## One more event -/

@[simp] theorem once_nil (mark : ε → Prop) : ¬ Once mark [] := by
  simp [Once]

theorem once_snoc (mark : ε → Prop) (history : List ε) (event : ε) :
    Once mark (history ++ [event]) ↔ Once mark history ∨ mark event := by
  simp only [Once, List.mem_append, List.mem_singleton]
  constructor
  · rintro ⟨marked, member | rfl, holds⟩
    · exact .inl ⟨marked, member, holds⟩
    · exact .inr holds
  · rintro (⟨marked, member, holds⟩ | holds)
    · exact ⟨marked, .inl member, holds⟩
    · exact ⟨event, .inr rfl, holds⟩

@[simp] theorem since_nil (stay mark : ε → Prop) : ¬ Since stay mark [] := by
  rintro ⟨before, event, after, split, _⟩
  cases before <;> cases split

theorem since_snoc (stay mark : ε → Prop) (history : List ε) (event : ε) :
    Since stay mark (history ++ [event]) ↔
      mark event ∨ (stay event ∧ Since stay mark history) := by
  constructor
  · rintro ⟨before, marked, after, split, holds, stays⟩
    rcases List.eq_nil_or_concat after with rfl | ⟨init, last, rfl⟩
    · obtain ⟨_, same⟩ := List.append_inj' split rfl
      cases same
      exact .inl holds
    · rw [List.concat_eq_append, ← List.cons_append, ← List.append_assoc] at split
      obtain ⟨same, lastSame⟩ := List.append_inj' split rfl
      cases lastSame
      refine .inr ⟨stays _ (by simp), before, marked, init, same, holds, ?_⟩
      intro later member
      exact stays later (by simp [member])
  · rintro (holds | ⟨stays, before, marked, after, rfl, holds, rest⟩)
    · exact ⟨history, event, [], rfl, holds, by simp⟩
    · refine ⟨before, marked, after ++ [event], by simp, holds, ?_⟩
      intro later member
      rcases List.mem_append.mp member with old | new
      · exact rest later old
      · rw [List.mem_singleton.mp new]; exact stays

/-! ## Comparing two marks -/

theorem Since.once {stay mark : ε → Prop} {history : List ε} (since : Since stay mark history) :
    Once mark history := by
  obtain ⟨before, event, after, rfl, holds, _⟩ := since
  exact ⟨event, by simp, holds⟩

theorem Since.mono {stay stay' mark mark' : ε → Prop} {history : List ε}
    (stays : ∀ event ∈ history, stay event → stay' event)
    (marks : ∀ event ∈ history, mark event → mark' event)
    (since : Since stay mark history) : Since stay' mark' history := by
  obtain ⟨before, event, after, rfl, holds, rest⟩ := since
  refine ⟨before, event, after, rfl, marks event (by simp) holds, ?_⟩
  intro later member
  exact stays later (by simp [member]) (rest later member)

/-! ## The events since the last mark -/

/-- The events after the last marked one, or all of them. -/
def sinceLast (mark : ε → Bool) (history : List ε) : List ε :=
  (history.reverse.takeWhile fun event => !mark event).reverse

@[simp] theorem sinceLast_nil (mark : ε → Bool) : sinceLast mark [] = [] := rfl

theorem sinceLast_snoc (mark : ε → Bool) (history : List ε) (event : ε) :
    sinceLast mark (history ++ [event]) =
      if mark event then [] else sinceLast mark history ++ [event] := by
  cases marked : mark event <;> simp [sinceLast, marked]

end PastTime
