import ChatServerRedis.General.Transition
import Mathlib.Data.Set.Basic

/-! # Refinement of a component

A `Component` says what a system is for: a state, actions on it, and what an action
shows.  A transition system refines it under an abstraction that reads an abstract state
off every state, and off every transition the action it performs, if any, and what it
shows.  What every transition matches, whole runs match (`Run.refines`).
-/

namespace Refinement

open Transition

variable {σ ε κ ρ α ν : Type*}

structure Component (ρ α ν : Type*) where
  start : ρ
  act : ρ → α → ρ × Set ν

def Component.after (component : Component ρ α ν) (acts : List α) : ρ :=
  acts.foldl (fun state act => (component.act state act).1) component.start

theorem Component.after_snoc (component : Component ρ α ν) (acts : List α) (act : α) :
    component.after (acts ++ [act]) = (component.act (component.after acts) act).1 := by
  simp [Component.after]

/-- What an observer sees of the actions, one observation at a time: `visible` is what it
    makes of a thing that is shown. -/
inductive Component.Sees {μ : Type*} (component : Component ρ α ν) (visible : ν → Option μ) :
    List α → List μ → Prop where
  | start : component.Sees visible [] []
  | told {acts : List α} {seen : List μ} {act : α} {shown : ν} {observation : μ} :
      component.Sees visible acts seen → shown ∈ (component.act (component.after acts) act).2 →
      visible shown = some observation →
      component.Sees visible (acts ++ [act]) (seen ++ [observation])
  | untold {acts : List α} {seen : List μ} {act : α} : component.Sees visible acts seen →
      (∀ shown ∈ (component.act (component.after acts) act).2, visible shown = none) →
      component.Sees visible (acts ++ [act]) seen

/-- An observer that every action shows one thing at most has seen one thing after all
    of them. -/
theorem Component.Sees.unique {μ : Type*} {component : Component ρ α ν} {visible : ν → Option μ}
    (once : ∀ state act, ∀ first ∈ (component.act state act).2, ∀ second ∈ (component.act state act).2,
      ∀ observation observation', visible first = some observation →
        visible second = some observation' → observation = observation')
    {acts : List α} {seen seen' : List μ} (sees : component.Sees visible acts seen)
    (sees' : component.Sees visible acts seen') : seen = seen' := by
  induction sees generalizing seen' with
  | start =>
    generalize whole : ([] : List α) = acts at sees'
    cases sees' with
    | start => rfl
    | told | untold => simp at whole
  | @told acts seen act shown observation _ member here inductionHypothesis =>
    generalize whole : acts ++ [act] = acts' at sees'
    cases sees' with
    | start => simp at whole
    | told sees' member' here' =>
      obtain ⟨rfl, same⟩ := List.append_inj' whole rfl
      cases same
      rw [inductionHypothesis sees', once _ _ _ member _ member' _ _ here here']
    | untold sees' invisible =>
      obtain ⟨rfl, same⟩ := List.append_inj' whole rfl
      cases same
      rw [invisible _ member] at here
      cases here
  | @untold acts seen act _ invisible inductionHypothesis =>
    generalize whole : acts ++ [act] = acts' at sees'
    cases sees' with
    | start => simp at whole
    | told sees' member' here' =>
      obtain ⟨rfl, same⟩ := List.append_inj' whole rfl
      cases same
      rw [invisible _ member'] at here'
      cases here'
    | untold sees' =>
      obtain ⟨rfl, same⟩ := List.append_inj' whole rfl
      cases same
      exact inductionHypothesis sees'

structure Abstraction (σ ε κ ρ α ν : Type*) where
  view : σ → ρ
  act : Taken σ ε κ → Option α
  shows : Taken σ ε κ → Set ν

variable (component : Component ρ α ν) (abstraction : Abstraction σ ε κ ρ α ν)

def Abstraction.acts (history : List (Taken σ ε κ)) : List α := history.filterMap abstraction.act

/-- A transition performs its action, or changes and shows nothing. -/
def Abstraction.Matches (taken : Taken σ ε κ) : Prop :=
  match abstraction.act taken with
  | some act => component.act (abstraction.view taken.pre) act =
      (abstraction.view taken.post, abstraction.shows taken)
  | none => abstraction.view taken.post = abstraction.view taken.pre ∧ abstraction.shows taken = ∅

/-- What a transition shows, as the component says it. -/
def Abstraction.Expected (before : List (Taken σ ε κ)) (taken : Taken σ ε κ) : Set ν :=
  match abstraction.act taken with
  | some act => (component.act (component.after (abstraction.acts before)) act).2
  | none => ∅

variable {component abstraction} {system : System σ ε κ} {history : List (Taken σ ε κ)} {state : σ}

theorem view_after (run : Run system history state)
    (initial : ∀ state, system.init state → abstraction.view state = component.start)
    (each : ∀ taken ∈ history, abstraction.Matches component taken) :
    abstraction.view state = component.after (abstraction.acts history) := by
  induction run with
  | start here => exact initial _ here
  | @snoc history server post event calls run taken inductionHypothesis =>
    have before := inductionHypothesis fun earlier member => each earlier (by simp [member])
    have last : abstraction.Matches component ⟨server, event, calls, post⟩ := each _ (by simp)
    rw [Abstraction.acts, List.filterMap_append, ← Abstraction.acts]
    unfold Abstraction.Matches at last
    cases performed : abstraction.act ⟨server, event, calls, post⟩ with
    | some act =>
      simp only [performed] at last
      simp only [List.filterMap_cons, performed, List.filterMap_nil, component.after_snoc, ← before, last]
    | none =>
      simp only [performed] at last
      simp only [List.filterMap_cons, performed, List.filterMap_nil, List.append_nil, ← before]
      exact last.1

/-- A run is a sequence of actions: they lead to its last state, and each transition
    shows what its action shows after the actions before it. -/
theorem Run.refines (run : Run system history state)
    (initial : ∀ state, system.init state → abstraction.view state = component.start)
    (each : ∀ taken ∈ history, abstraction.Matches component taken) :
    abstraction.view state = component.after (abstraction.acts history) ∧
    ∀ before taken after, history = before ++ taken :: after →
      abstraction.shows taken = abstraction.Expected component before taken := by
  refine ⟨view_after run initial each, fun before taken after split => ?_⟩
  subst split
  have here := view_after run.split.1 initial fun earlier member => each earlier (by simp [member])
  have last : abstraction.Matches component taken := each _ (by simp)
  unfold Abstraction.Matches at last
  unfold Abstraction.Expected
  cases performed : abstraction.act taken with
  | some act =>
    simp only [performed] at last
    simp only [← here, last]
  | none =>
    simp only [performed] at last
    exact last.2

/-- The observations are those of the transition: one thing that it shows, or nothing. -/
def Abstraction.Observed {μ : Type*} (abstraction : Abstraction σ ε κ ρ α ν) (visible : ν → Option μ)
    (taken : Taken σ ε κ) (observations : List μ) : Prop :=
  (∃ shown ∈ abstraction.shows taken, ∃ observation, visible shown = some observation ∧
    observations = [observation]) ∨
  (∀ shown ∈ abstraction.shows taken, visible shown = none) ∧ observations = []

theorem Run.sees {μ : Type*} {visible : ν → Option μ} {observe : Taken σ ε κ → List μ}
    (run : Run system history state)
    (initial : ∀ state, system.init state → abstraction.view state = component.start)
    (each : ∀ taken ∈ history, abstraction.Matches component taken)
    (observed : ∀ taken ∈ history, abstraction.Observed visible taken (observe taken)) :
    component.Sees visible (abstraction.acts history) (history.flatMap observe) := by
  induction run with
  | start => exact .start
  | @snoc history server post event calls run taken inductionHypothesis =>
    have earlier : ∀ other ∈ history, abstraction.Matches component other :=
      fun other member => each other (by simp [member])
    have before := view_after run initial earlier
    have seen := inductionHypothesis earlier fun other member => observed other (by simp [member])
    have last : abstraction.Matches component ⟨server, event, calls, post⟩ := each _ (by simp)
    have here : abstraction.Observed visible ⟨server, event, calls, post⟩
      (observe ⟨server, event, calls, post⟩) := observed _ (by simp)
    rw [List.flatMap_append, List.flatMap_singleton, Abstraction.acts, List.filterMap_append,
      ← Abstraction.acts]
    unfold Abstraction.Matches at last
    cases performed : abstraction.act ⟨server, event, calls, post⟩ with
    | some act =>
      simp only [performed, before] at last
      simp only [List.filterMap_cons, performed, List.filterMap_nil]
      have shows := (Prod.ext_iff.mp last).2
      obtain ⟨shown, member, observation, visible', same⟩ | ⟨invisible, same⟩ := here
      · rw [same]
        exact .told seen (shows ▸ member) visible'
      · rw [same, List.append_nil]
        exact .untold seen (shows ▸ invisible)
    | none =>
      simp only [performed] at last
      simp only [List.filterMap_cons, performed, List.filterMap_nil, List.append_nil]
      obtain ⟨shown, member, _⟩ | ⟨_, same⟩ := here
      · rw [last.2] at member
        cases member
      · rw [same, List.append_nil]
        exact seen

end Refinement
