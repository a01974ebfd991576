import ChatServerRedis.General.Transition
import Mathlib.Data.Option.Basic

/-! # Two states in lockstep

Two states are in lockstep under a relation when every admitted event is taken from both
with the same calls and keeps the relation, or is possible from neither.  Sequences of
admitted events are then taken alike (`execute_alike`), so that nobody who sees the calls
can tell the states apart.
-/

namespace Lockstep

open Transition

variable {σ ε κ : Type*}

/-- The same calls and related states, or nothing on both sides. -/
def Alike {calls : Type*} (related : σ → σ → Prop) :
    Option (σ × calls) → Option (σ × calls) → Prop :=
  Option.Rel fun first second => related first.1 second.1 ∧ first.2 = second.2

section Alike

variable {calls : Type*} {related : σ → σ → Prop} {first second : Option (σ × calls)}

theorem Alike.both {state state' : σ} {made : calls} (here : related state state') :
    Alike related (some (state, made)) (some (state', made)) :=
  .some ⟨here, rfl⟩

theorem Alike.guarded {condition condition' : Prop} [Decidable condition] [Decidable condition']
    (same : condition ↔ condition') (inside : condition → Alike related first second) :
    Alike related (if condition then first else none) (if condition' then second else none) := by
  by_cases holds : condition
  · rw [if_pos holds, if_pos (same.mp holds)]
    exact inside holds
  · rw [if_neg holds, if_neg (mt same.mpr holds)]
    exact .none

theorem Alike.map {others : Type*} (alike : Alike related first second) (next : calls → others) :
    Alike related (first.map fun outcome => (outcome.1, next outcome.2))
      (second.map fun outcome => (outcome.1, next outcome.2)) := by
  cases alike with
  | none => exact .none
  | some both => exact .some ⟨both.1, congrArg next both.2⟩

theorem Alike.imp {related' : σ → σ → Prop} (alike : Alike related first second)
    (each : ∀ {state state' made}, first = some (state, made) → second = some (state', made) →
      related state state' → related' state state') : Alike related' first second := by
  cases alike with
  | none => exact .none
  | @some here there both =>
    obtain ⟨state, made⟩ := here
    obtain ⟨state', made'⟩ := there
    obtain ⟨close, rfl⟩ : related state state' ∧ made = made' := both
    exact .both (each rfl rfl close)

theorem Alike.bind {others : Type*} {next : σ × calls → Option (σ × others)}
    (alike : Alike related first second)
    (each : ∀ state state' made, first = some (state, made) → related state state' →
      Alike related (next (state, made)) (next (state', made))) :
    Alike related (first.bind next) (second.bind next) := by
  cases alike with
  | none => exact .none
  | @some here there both =>
    obtain ⟨state, made⟩ := here
    obtain ⟨state', made'⟩ := there
    obtain ⟨close, rfl⟩ : related state state' ∧ made = made' := both
    exact each state state' made rfl close

end Alike

def observed (system : System σ ε κ) (state : σ) (events : List ε) : Option (σ × List (List κ)) :=
  (system.execute state events).map fun (history, last) => (last, history.map Taken.calls)

end Lockstep
