import ChatServerRedis.General.Transition
import Mathlib.Data.List.Forall2

/-! # Two runs side by side

A statement about two runs of one system, taken event by event, is an invariant of
the pair of states.  `Twin` pairs two runs whose events are related, transition by
transition; `Twin.of_runs` obtains it from the two runs, and `Twin.forall_pairs` is the
rule: a relation of the states that the pairs of steps keep, as far as they are
admitted, shows in every admitted pair of transitions.
-/

namespace TwoRuns

open Transition

variable {σ ε κ : Type*}

inductive Twin (system : System σ ε κ) (related : ε → ε → Prop) :
    List (Taken σ ε κ × Taken σ ε κ) → σ → σ → Prop where
  | start {state state' : σ} : system.init state → system.init state' →
      Twin system related [] state state'
  | snoc {pairs : List (Taken σ ε κ × Taken σ ε κ)} {state state' post post' : σ} {event event' : ε}
      {calls calls' : List κ} : Twin system related pairs state state' → related event event' →
      system.step state event = some (post, calls) →
      system.step state' event' = some (post', calls') →
      Twin system related (pairs ++ [(⟨state, event, calls, post⟩, ⟨state', event', calls', post'⟩)])
        post post'

variable {system : System σ ε κ} {related : ε → ε → Prop}
  {pairs : List (Taken σ ε κ × Taken σ ε κ)} {history history' : List (Taken σ ε κ)}
  {state state' : σ}

theorem Twin.first (twin : Twin system related pairs state state') :
    Run system (pairs.map Prod.fst) state := by
  induction twin with
  | start initial _ => exact .start initial
  | snoc _ _ taken _ inductionHypothesis =>
    rw [List.map_append]
    exact inductionHypothesis.snoc taken

theorem Twin.second (twin : Twin system related pairs state state') :
    Run system (pairs.map Prod.snd) state' := by
  induction twin with
  | start _ initial => exact .start initial
  | snoc _ _ _ taken inductionHypothesis =>
    rw [List.map_append]
    exact inductionHypothesis.snoc taken

theorem zip_snoc {taken taken' : Taken σ ε κ} (length : history.length = history'.length) :
    (history ++ [taken]).zip (history' ++ [taken']) = history.zip history' ++ [(taken, taken')] :=
  List.zip_append length

theorem Twin.of_runs (run : Run system history state) (run' : Run system history' state')
    (same : List.Forall₂ (fun taken taken' => related taken.event taken'.event) history history') :
    Twin system related (history.zip history') state state' := by
  induction run generalizing history' state' with
  | start initial =>
    obtain rfl := List.forall₂_nil_left_iff.mp same
    exact .start initial run'.init
  | @snoc history state post event calls run taken inductionHypothesis =>
    rcases List.eq_nil_or_concat history' with rfl | ⟨front, last, rfl⟩
    · simp at same
    · rw [List.concat_eq_append] at run' same ⊢
      have length : history.length = front.length := by simpa using same.length_eq
      have fronts := List.forall₂_take_append _ _ _ same
      have lasts := List.forall₂_drop_append _ _ _ same
      rw [← length, List.take_left] at fronts
      rw [← length, List.drop_left, List.forall₂_cons] at lasts
      obtain ⟨before, rfl, taken'⟩ := run'.last
      rw [zip_snoc length]
      exact .snoc (inductionHypothesis before fronts) lasts.1 taken taken'

theorem forall₂_of_execute {start start' last last' : σ} {events events' : List ε}
    (same : List.Forall₂ related events events')
    (executed : system.execute start events = some (history, last))
    (executed' : system.execute start' events' = some (history', last')) :
    List.Forall₂ (fun taken taken' => related taken.event taken'.event) history history' := by
  rw [← System.execute_events executed, ← System.execute_events executed',
    List.forall₂_map_left_iff, List.forall₂_map_right_iff] at same
  exact same

/-- The rule for what two runs have in common: a relation of the states that admitted
    pairs of steps keep, and a property that every such pair has. -/
theorem Twin.forall_pairs {admitted : Taken σ ε κ → Taken σ ε κ → Prop}
    {property : List (Taken σ ε κ × Taken σ ε κ) → Taken σ ε κ → Taken σ ε κ → Prop}
    {inv : σ → σ → Prop}
    (base : ∀ state state', system.init state → system.init state' → inv state state')
    (preserved : ∀ pairs state state' post post' event event' calls calls',
      Twin system related pairs state state' → inv state state' → related event event' →
      system.step state event = some (post, calls) →
      system.step state' event' = some (post', calls') →
      admitted ⟨state, event, calls, post⟩ ⟨state', event', calls', post'⟩ →
      inv post post' ∧
        property pairs ⟨state, event, calls, post⟩ ⟨state', event', calls', post'⟩)
    (twin : Twin system related pairs state state') (good : ∀ pair ∈ pairs, admitted pair.1 pair.2) :
    inv state state' ∧ ∀ before pair after, pairs = before ++ pair :: after →
      property before pair.1 pair.2 := by
  induction twin with
  | start initial initial' => exact ⟨base _ _ initial initial', by simp⟩
  | @snoc pairs state state' post post' event event' calls calls' twin alike taken taken'
      inductionHypothesis =>
    obtain ⟨holds, shown⟩ := inductionHypothesis fun pair member =>
      good pair (List.mem_append_left _ member)
    have here := good _ (List.mem_append_right pairs (List.mem_singleton_self _))
    obtain ⟨kept, shows⟩ := preserved _ _ _ _ _ _ _ _ _ twin holds alike taken taken' here
    refine ⟨kept, fun before pair after split => ?_⟩
    rcases List.eq_nil_or_concat after with rfl | ⟨rest, last, rfl⟩
    · obtain ⟨rfl, same⟩ := List.append_inj' split rfl
      cases same
      exact shows
    · rw [List.concat_eq_append, ← List.cons_append, ← List.append_assoc] at split
      exact shown before pair rest (List.append_inj' split rfl).1

end TwoRuns
