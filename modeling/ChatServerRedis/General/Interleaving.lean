import ChatServerRedis.General.Transition

/-! # Interleavings

A `Part` of a transition system is what a set of events, the part's own, reads and
writes alone: the own events change the view of the part as a function of the view,
and no other event touches it.  Two executions whose own events come in the same
order therefore leave the same view behind and emit the same visible outputs, in
whatever way the other events are interleaved with them (`Part.interleaved`).

What a part promises it promises under an invariant and for the events of a set that
are executed.
-/

namespace Interleaving

open Transition

variable {σ ε κ ν ω : Type*}

structure Part (system : System σ ε κ) (ν ω : Type*) where
  invariant : σ → Prop
  executed : ε → Prop
  own : ε → Bool
  view : σ → ν
  visible : Taken σ ε κ → List ω
  /-- What an own event does to the view, and what it shows. -/
  react : ε → ν → ν × List ω
  keeps : ∀ {state post : σ} {event : ε} {calls : List κ}, invariant state → executed event →
    system.step state event = some (post, calls) → invariant post
  reacts : ∀ {state post : σ} {event : ε} {calls : List κ}, invariant state → executed event →
    system.step state event = some (post, calls) → own event = true →
    (view post, visible ⟨state, event, calls, post⟩) = react event (view state)
  frame : ∀ {state post : σ} {event : ε} {calls : List κ}, invariant state → executed event →
    system.step state event = some (post, calls) → own event = false →
    view post = view state ∧ visible ⟨state, event, calls, post⟩ = []

namespace Part

variable {system : System σ ε κ} (part : Part system ν ω)

def respond : List ε → ν → ν × List ω
  | [], view => (view, [])
  | event :: events, view =>
    let (next, shown) := part.react event view
    let (last, later) := respond events next
    (last, shown ++ later)

theorem execute_respond {state last : σ} {events : List ε} {steps : List (Taken σ ε κ)}
    (holds : part.invariant state) (allowed : ∀ event ∈ events, part.executed event)
    (run : system.execute state events = some (steps, last)) :
    (part.view last, steps.flatMap part.visible) =
      part.respond (events.filter part.own) (part.view state) := by
  induction events generalizing state steps with
  | nil =>
    cases run
    rfl
  | cons event events inductionHypothesis =>
    cases taken : system.step state event with
    | none => simp [System.execute, taken] at run
    | some outcome =>
      obtain ⟨post, calls⟩ := outcome
      simp only [System.execute, taken, Option.map_eq_some_iff, Prod.exists, Prod.mk.injEq] at run
      obtain ⟨rest, _, run, rfl, rfl⟩ := run
      have here : part.executed event := allowed event List.mem_cons_self
      have later := inductionHypothesis (part.keeps holds here taken)
        (fun other member => allowed other (List.mem_cons_of_mem event member)) run
      rw [List.flatMap_cons]
      cases mine : part.own event with
      | true =>
        have reaction := part.reacts holds here taken mine
        rw [List.filter_cons_of_pos mine, respond, ← reaction]
        simp only [← later]
      | false =>
        obtain ⟨kept, nothing⟩ := part.frame holds here taken mine
        rw [List.filter_cons_of_neg (by simp [mine]), ← kept, ← later, nothing, List.nil_append]

/-- Two interleavings that keep the order of the own events end in the same view and
    show the same. -/
theorem interleaved {state last last' : σ} {events events' : List ε}
    {steps steps' : List (Taken σ ε κ)} (holds : part.invariant state)
    (allowed : ∀ event ∈ events, part.executed event)
    (allowed' : ∀ event ∈ events', part.executed event)
    (order : events.filter part.own = events'.filter part.own)
    (run : system.execute state events = some (steps, last))
    (run' : system.execute state events' = some (steps', last')) :
    part.view last = part.view last' ∧ steps.flatMap part.visible = steps'.flatMap part.visible := by
  have outcome := part.execute_respond holds allowed run
  have outcome' := part.execute_respond holds allowed' run'
  rw [← order, ← outcome] at outcome'
  exact Prod.mk.inj outcome'.symm

end Part

end Interleaving
