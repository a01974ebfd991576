import Mathlib.Data.List.Induction

/-! # Labelled transition systems with observed calls

A `System` has initial states and a partial step function; a step consumes an
event and emits the calls it made on its environment.  A `Run` carries the whole
history of transitions, so that a property may speak about the past of a state
and not only about the state.

`Run.induction` is the rule every invariant goes through: what one step preserves
holds after every run.
-/

namespace Transition

variable {σ ε κ : Type*}

/-- A transition system: states `σ`, events `ε`, emitted calls `κ`. -/
structure System (σ ε κ : Type*) where
  init : σ → Prop
  step : σ → ε → Option (σ × List κ)

structure Taken (σ ε κ : Type*) where
  pre : σ
  event : ε
  calls : List κ
  post : σ

/-- `Run system history state`: the transitions of `history`, oldest first, lead
    from an initial state to `state`. -/
inductive Run (system : System σ ε κ) : List (Taken σ ε κ) → σ → Prop where
  | start {state : σ} : system.init state → Run system [] state
  | snoc {history : List (Taken σ ε κ)} {state post : σ} {event : ε} {calls : List κ} :
      Run system history state → system.step state event = some (post, calls) →
      Run system (history ++ [⟨state, event, calls, post⟩]) post

variable {system : System σ ε κ}

/-- An invariant of the history and the state: it holds at the start and every
    step keeps it. -/
theorem Run.induction {inv : List (Taken σ ε κ) → σ → Prop}
    (base : ∀ state, system.init state → inv [] state)
    (preserved : ∀ history state event post calls, Run system history state →
      inv history state → system.step state event = some (post, calls) →
      inv (history ++ [⟨state, event, calls, post⟩]) post)
    {history : List (Taken σ ε κ)} {state : σ} (run : Run system history state) :
    inv history state := by
  induction run with
  | start initial => exact base _ initial
  | snoc run taken inductionHypothesis => exact preserved _ _ _ _ _ run inductionHypothesis taken

theorem Run.invariant {inv : σ → Prop} (base : ∀ state, system.init state → inv state)
    (preserved : ∀ state event post calls, inv state →
      system.step state event = some (post, calls) → inv post)
    {history : List (Taken σ ε κ)} {state : σ} (run : Run system history state) : inv state :=
  run.induction base
    (fun _ state event post calls _ holds taken => preserved state event post calls holds taken)

theorem Run.init {state : σ} (run : Run system [] state) : system.init state := by
  generalize whole : ([] : List (Taken σ ε κ)) = history at run
  cases run with
  | start initial => exact initial
  | snoc => simp at whole

theorem Run.last {history : List (Taken σ ε κ)} {taken : Taken σ ε κ} {state : σ}
    (run : Run system (history ++ [taken]) state) :
    Run system history taken.pre ∧ state = taken.post ∧
      system.step taken.pre taken.event = some (taken.post, taken.calls) := by
  generalize whole : history ++ [taken] = steps at run
  cases run with
  | start => simp at whole
  | snoc run step =>
    obtain ⟨rfl, same⟩ := List.append_inj' whole rfl
    cases same
    exact ⟨run, rfl, step⟩

/-- Every transition of a run was taken from a state the run had reached. -/
theorem Run.split {before after : List (Taken σ ε κ)} {taken : Taken σ ε κ} {state : σ}
    (run : Run system (before ++ taken :: after) state) :
    Run system before taken.pre ∧
      system.step taken.pre taken.event = some (taken.post, taken.calls) := by
  generalize whole : before ++ taken :: after = history at run
  induction run generalizing after with
  | start _ => simp at whole
  | @snoc history state post event calls run step inductionHypothesis =>
    rcases List.eq_nil_or_concat after with rfl | ⟨init, last, rfl⟩
    · obtain ⟨rfl, same⟩ := List.append_inj' whole rfl
      cases same
      exact ⟨run, step⟩
    · rw [List.concat_eq_append, ← List.cons_append, ← List.append_assoc] at whole
      exact inductionHypothesis (List.append_inj' whole rfl).1

/-- A property of single transitions that holds from every reached state holds of
    every transition of a run. -/
theorem Run.forall_taken {property : List (Taken σ ε κ) → Taken σ ε κ → Prop}
    (each : ∀ history state event post calls, Run system history state →
      system.step state event = some (post, calls) → property history ⟨state, event, calls, post⟩)
    {history : List (Taken σ ε κ)} {state : σ} (run : Run system history state)
    {before after : List (Taken σ ε κ)} {taken : Taken σ ε κ}
    (split : history = before ++ taken :: after) : property before taken := by
  subst split
  obtain ⟨reached, step⟩ := run.split
  exact each before taken.pre taken.event taken.post taken.calls reached step

/-! ## Executing a list of events -/

def System.taken (system : System σ ε κ) (state : σ) (event : ε)
    (enabled : (system.step state event).isSome = true) : Taken σ ε κ where
  pre := state
  event := event
  calls := ((system.step state event).get enabled).2
  post := ((system.step state event).get enabled).1

theorem System.taken_pre {state : σ} {event : ε}
    (enabled : (system.step state event).isSome = true) :
    (system.taken state event enabled).pre = state := rfl

theorem System.step_taken {state : σ} {event : ε}
    (enabled : (system.step state event).isSome = true) :
    system.step state event = some ((system.taken state event enabled).post,
      (system.taken state event enabled).calls) :=
  (Option.some_get enabled).symm

theorem Run.advance {history : List (Taken σ ε κ)} {state : σ} (run : Run system history state)
    {event : ε} (enabled : (system.step state event).isSome = true) :
    Run system (history ++ [system.taken state event enabled])
      (system.taken state event enabled).post :=
  run.snoc (System.step_taken enabled)

/-- The transitions the events cause one after the other, and the last state. -/
def System.execute (system : System σ ε κ) (state : σ) :
    List ε → Option (List (Taken σ ε κ) × σ)
  | [] => some ([], state)
  | event :: events =>
    match system.step state event with
    | none => none
    | some (post, calls) =>
      (system.execute post events).map fun (history, last) =>
        (⟨state, event, calls, post⟩ :: history, last)

theorem System.execute_cons {state last : σ} {event : ε} {events : List ε} {steps : List (Taken σ ε κ)} :
    system.execute state (event :: events) = some (steps, last) ↔
      ∃ post calls later, system.step state event = some (post, calls) ∧
        system.execute post events = some (later, last) ∧ steps = ⟨state, event, calls, post⟩ :: later := by
  cases taken : system.step state event with
  | none => simp [System.execute, taken]
  | some outcome =>
    obtain ⟨post, calls⟩ := outcome
    simp only [System.execute, taken, Option.map_eq_some_iff, Prod.exists, Prod.mk.injEq,
      Option.some.injEq]
    constructor
    · rintro ⟨later, _, rest, rfl, rfl⟩
      exact ⟨post, calls, later, ⟨rfl, rfl⟩, rest, rfl⟩
    · rintro ⟨_, _, later, ⟨rfl, rfl⟩, rest, rfl⟩
      exact ⟨later, last, rest, rfl, rfl⟩

theorem System.execute_events {state last : σ} {events : List ε} {steps : List (Taken σ ε κ)}
    (executed : system.execute state events = some (steps, last)) : steps.map Taken.event = events := by
  induction events generalizing state steps with
  | nil =>
    cases executed
    rfl
  | cons event events inductionHypothesis =>
    obtain ⟨_, _, _, _, later, rfl⟩ := System.execute_cons.mp executed
    rw [List.map_cons, inductionHypothesis later]

theorem Run.execute {before after : List (Taken σ ε κ)} {state last : σ} {events : List ε}
    (run : Run system before state) (executed : system.execute state events = some (after, last)) :
    Run system (before ++ after) last := by
  induction events generalizing before state after with
  | nil =>
    cases executed
    simpa using run
  | cons event events inductionHypothesis =>
    obtain ⟨_, _, later, taken, rest, rfl⟩ := System.execute_cons.mp executed
    rw [← List.singleton_append, ← List.append_assoc]
    exact inductionHypothesis (run.snoc taken) rest

end Transition
