import Mathlib.Logic.Basic

/-! # Handlers: state, calls and two kinds of failure

A handler runs on a state `σ`, appends the calls `κ` it makes to a log and may
end early: by throwing an error `ε`, which a surrounding `catchThrown` handles
with the state as it was at the throw, or by a fault `φ`, which nothing handles.
The monad is `EStateM`, whose states are not rolled back by an error.

The lemmas evaluate a handler on a machine, so that a straight-line handler is
computed by `simp`.
-/

namespace Handlers

/-- How a handler ends other than by returning. -/
inductive Abort (ε φ : Type) where
  | thrown (error : ε)
  | fault (fault : φ)

/-- The state a handler works on and the calls it has made so far. -/
structure Machine (σ κ : Type) where
  state : σ
  calls : List κ

abbrev Handler (σ κ ε φ : Type) := EStateM (Abort ε φ) (Machine σ κ)

variable {σ κ ε φ α β : Type}

def readState : Handler σ κ ε φ σ := fun machine => .ok machine.state machine

def modifyState (change : σ → σ) : Handler σ κ ε φ Unit := fun machine =>
  .ok () { machine with state := change machine.state }

def call (made : κ) : Handler σ κ ε φ Unit := fun machine =>
  .ok () { machine with calls := machine.calls ++ [made] }

def raise (error : ε) : Handler σ κ ε φ α := fun machine => .error (.thrown error) machine

def stop (fault : φ) : Handler σ κ ε φ α := fun machine => .error (.fault fault) machine

/-- `try body catch (error) { rescue }`: a thrown error is handled in the state the
    body left behind, a fault is not handled. -/
def catchThrown (body : Handler σ κ ε φ α) (rescue : ε → Handler σ κ ε φ α) :
    Handler σ κ ε φ α := fun machine =>
  match body machine with
  | .error (.thrown error) left => rescue error left
  | result => result

/-- What a handler started on `state` leaves behind when it returns. -/
def run (handler : Handler σ κ ε φ α) (state : σ) : Option (σ × List κ) :=
  match handler ⟨state, []⟩ with
  | .ok _ left => some (left.state, left.calls)
  | .error _ _ => none

def complete (handler : Handler σ κ Empty Empty α) (state : σ) : σ × List κ :=
  match handler ⟨state, []⟩ with
  | .ok _ left => (left.state, left.calls)
  | .error (.thrown error) _ => nomatch error
  | .error (.fault fault) _ => nomatch fault

/-! ## Evaluation on a machine -/

variable (machine : Machine σ κ)

@[simp] theorem pure_apply (value : α) :
    (pure value : Handler σ κ ε φ α) machine = .ok value machine := rfl

@[simp] theorem bind_apply (first : Handler σ κ ε φ α) (next : α → Handler σ κ ε φ β) :
    (first >>= next) machine = match first machine with
      | .ok value left => next value left
      | .error abort left => .error abort left := by
  change EStateM.bind first next machine = _
  unfold EStateM.bind
  cases first machine <;> rfl

@[simp] theorem map_apply (change : α → β) (handler : Handler σ κ ε φ α) :
    (change <$> handler) machine = match handler machine with
      | .ok value left => .ok (change value) left
      | .error abort left => .error abort left := by
  change EStateM.map change handler machine = _
  unfold EStateM.map
  cases handler machine <;> rfl

@[simp] theorem readState_apply :
    (readState : Handler σ κ ε φ σ) machine = .ok machine.state machine := rfl

@[simp] theorem modifyState_apply (change : σ → σ) :
    (modifyState change : Handler σ κ ε φ Unit) machine =
      .ok () ⟨change machine.state, machine.calls⟩ := rfl

@[simp] theorem call_apply (made : κ) :
    (call made : Handler σ κ ε φ Unit) machine = .ok () ⟨machine.state, machine.calls ++ [made]⟩ := rfl

@[simp] theorem raise_apply (error : ε) :
    (raise error : Handler σ κ ε φ α) machine = .error (.thrown error) machine := rfl

@[simp] theorem stop_apply (fault : φ) :
    (stop fault : Handler σ κ ε φ α) machine = .error (.fault fault) machine := rfl

@[simp] theorem branch_apply (condition : Prop) [Decidable condition]
    (first second : Handler σ κ ε φ α) :
    (if condition then first else second) machine =
      if condition then first machine else second machine := by
  split <;> rfl

theorem catchThrown_apply (body : Handler σ κ ε φ α) (rescue : ε → Handler σ κ ε φ α) :
    catchThrown body rescue machine = match body machine with
      | .error (.thrown error) left => rescue error left
      | result => result := rfl

theorem run_eq_some {handler : Handler σ κ ε φ α} {state post : σ} {calls : List κ} :
    run handler state = some (post, calls) ↔
      ∃ value, handler ⟨state, []⟩ = .ok value ⟨post, calls⟩ := by
  unfold run
  cases outcome : handler ⟨state, []⟩ with
  | ok value left => obtain ⟨_, _⟩ := left; simp
  | error abort left => simp

theorem complete_eq {handler : Handler σ κ Empty Empty α} {state post : σ} {calls : List κ}
    {value : α} (returns : handler ⟨state, []⟩ = .ok value ⟨post, calls⟩) :
    complete handler state = (post, calls) := by
  simp only [complete, returns]

/-! ## Loops over a list -/

/-- A loop whose body always returns and only makes calls makes the calls of its
    iterations one after the other. -/
theorem forM_calls (body : α → Handler σ κ ε φ PUnit) (emitted : α → List κ) (state : σ)
    (each : ∀ item calls, body item ⟨state, calls⟩ = .ok ⟨⟩ ⟨state, calls ++ emitted item⟩)
    (items : List α) (calls : List κ) :
    (forM items body) ⟨state, calls⟩ = .ok ⟨⟩ ⟨state, calls ++ items.flatMap emitted⟩ := by
  induction items generalizing calls with
  | nil => simp
  | cons item items inductionHypothesis =>
    simp only [List.forM_cons, bind_apply, each, inductionHypothesis, List.flatMap_cons,
      List.append_assoc]

end Handlers
