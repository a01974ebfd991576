import ChatServerRedis.General.Transition
import Mathlib.Logic.Function.Basic

/-! # Deferred transmission

A handler that sends a packet only queues a reference to it; the bytes are read when
the packet is transmitted, at any later step.  `deferred` adds the queues of the
destinations to a transition system.  Every queued reference is stamped with what
the state was when its handler was called, so that the bytes can be compared with
it.

`queued_show` is the rule: what a reference shows right after it is queued, and what
every step keeps for the references that are queued, holds of all that is queued
and of all that is transmitted.
-/

namespace Deferred

open Transition

variable {σ ε κ δ ρ τ β : Type*}

/-- How the calls of a system send, how a state is stamped, and what is read from a
    reference. -/
structure Medium (σ κ δ ρ τ β : Type*) where
  sends : κ → Option (δ × ρ)
  stamp : σ → τ
  content : σ → ρ → β

structure Entry (ρ τ : Type*) where
  ref : ρ
  stamp : τ

structure Outbox (σ δ ρ τ : Type*) where
  inner : σ
  queue : δ → List (Entry ρ τ)

inductive Event (ε δ : Type*) where
  | handle (event : ε)
  | transmit (destination : δ)

structure Transmission (δ ρ τ β : Type*) where
  destination : δ
  entry : Entry ρ τ
  bytes : β

variable [DecidableEq δ]

/-- The references the calls of a handler add to a queue. -/
def Medium.added (medium : Medium σ κ δ ρ τ β) (state : σ) (calls : List κ) (destination : δ) :
    List (Entry ρ τ) :=
  calls.filterMap fun call =>
    match medium.sends call with
    | some (other, ref) => if other = destination then some ⟨ref, medium.stamp state⟩ else none
    | none => none

def deferred (base : System σ ε κ) (medium : Medium σ κ δ ρ τ β) :
    System (Outbox σ δ ρ τ) (Event ε δ) (Transmission δ ρ τ β) where
  init outbox := base.init outbox.inner ∧ outbox.queue = fun _ => []
  step outbox
    | .handle event => (base.step outbox.inner event).map fun (post, calls) =>
      (⟨post, fun destination =>
        outbox.queue destination ++ medium.added outbox.inner calls destination⟩, [])
    | .transmit destination =>
      match outbox.queue destination with
      | [] => none
      | entry :: rest => some (⟨outbox.inner, Function.update outbox.queue destination rest⟩,
        [⟨destination, entry, medium.content outbox.inner entry.ref⟩])

variable {base : System σ ε κ} {medium : Medium σ κ δ ρ τ β}
  {history : List (Taken (Outbox σ δ ρ τ) (Event ε δ) (Transmission δ ρ τ β))}
  {outbox post : Outbox σ δ ρ τ} {transmissions : List (Transmission δ ρ τ β)}

theorem mem_added {state : σ} {calls : List κ} {destination : δ} {entry : Entry ρ τ} :
    entry ∈ medium.added state calls destination ↔
      ∃ call ∈ calls, medium.sends call = some (destination, entry.ref) ∧
        entry.stamp = medium.stamp state := by
  simp only [Medium.added, List.mem_filterMap]
  apply exists_congr
  intro call
  apply and_congr_right
  intro _
  cases medium.sends call with
  | none => simp
  | some sent =>
    obtain ⟨other, ref⟩ := sent
    obtain ⟨entryRef, entryStamp⟩ := entry
    by_cases same : other = destination
    · simp only [same, if_true, Option.some.injEq, Entry.mk.injEq, Prod.mk.injEq, true_and]
      exact and_congr_right fun _ => eq_comm
    · simp [same]

theorem handle_iff {event : ε} :
    (deferred base medium).step outbox (.handle event) = some (post, transmissions) ↔
      ∃ calls, base.step outbox.inner event = some (post.inner, calls) ∧ transmissions = [] ∧
        ∀ destination, post.queue destination =
          outbox.queue destination ++ medium.added outbox.inner calls destination := by
  simp only [deferred, Option.map_eq_some_iff, Prod.exists, Prod.mk.injEq]
  constructor
  · intro taken
    obtain ⟨inner, calls, step, rfl, rfl⟩ := taken
    exact ⟨calls, step, rfl, fun destination => rfl⟩
  · intro taken
    obtain ⟨calls, step, rfl, queues⟩ := taken
    obtain ⟨inner, queue⟩ := post
    exact ⟨inner, calls, step, congrArg _ (funext queues).symm, rfl⟩

theorem transmit_iff {destination : δ} :
    (deferred base medium).step outbox (.transmit destination) = some (post, transmissions) ↔
      ∃ entry rest, outbox.queue destination = entry :: rest ∧
        post = ⟨outbox.inner, Function.update outbox.queue destination rest⟩ ∧
        transmissions = [⟨destination, entry, medium.content outbox.inner entry.ref⟩] := by
  simp only [deferred]
  cases queue : outbox.queue destination with
  | nil => simp
  | cons entry rest =>
    simp only [Option.some.injEq, Prod.mk.injEq, List.cons.injEq]
    constructor
    · intro taken
      obtain ⟨rfl, rfl⟩ := taken
      exact ⟨entry, rest, ⟨rfl, rfl⟩, rfl, rfl⟩
    · intro taken
      obtain ⟨_, _, ⟨rfl, rfl⟩, rfl, rfl⟩ := taken
      exact ⟨rfl, rfl⟩

theorem handle_run (run : Run (deferred base medium) history outbox) {event : ε} {next : σ}
    {calls : List κ} (step : base.step outbox.inner event = some (next, calls)) :
    let post : Outbox σ δ ρ τ := ⟨next, fun destination =>
      outbox.queue destination ++ medium.added outbox.inner calls destination⟩
    Run (deferred base medium) (history ++ [⟨outbox, .handle event, [], post⟩]) post := by
  intro post
  exact run.snoc (handle_iff.mpr ⟨calls, step, rfl, fun destination => rfl⟩)

theorem transmit_run (run : Run (deferred base medium) history outbox) {destination : δ}
    {entry : Entry ρ τ} {rest : List (Entry ρ τ)} (queue : outbox.queue destination = entry :: rest) :
    let post : Outbox σ δ ρ τ := ⟨outbox.inner, Function.update outbox.queue destination rest⟩
    Run (deferred base medium) (history ++ [⟨outbox, .transmit destination,
      [⟨destination, entry, medium.content outbox.inner entry.ref⟩], post⟩]) post := by
  intro post
  exact run.snoc (transmit_iff.mpr ⟨entry, rest, queue, rfl, rfl⟩)

theorem inner_run (run : Run (deferred base medium) history outbox) :
    ∃ steps, Run base steps outbox.inner := by
  induction run with
  | start initial => exact ⟨[], .start initial.1⟩
  | @snoc _ outbox post event _ _ taken inductionHypothesis =>
    obtain ⟨steps, inner⟩ := inductionHypothesis
    cases event with
    | handle event =>
      obtain ⟨calls, step, _⟩ := handle_iff.mp taken
      exact ⟨_, inner.snoc step⟩
    | transmit destination =>
      obtain ⟨_, _, _, rfl, _⟩ := transmit_iff.mp taken
      exact ⟨steps, inner⟩

/-- A handled event of a run is a step of the system under the queues, and queues what
    its calls send. -/
theorem handled_step (run : Run (deferred base medium) history outbox)
    {taken : Taken (Outbox σ δ ρ τ) (Event ε δ) (Transmission δ ρ τ β)} (member : taken ∈ history)
    {event : ε} (handles : taken.event = .handle event) :
    ∃ calls, base.step taken.pre.inner event = some (taken.post.inner, calls) ∧
      ∀ destination, taken.post.queue destination =
        taken.pre.queue destination ++ medium.added taken.pre.inner calls destination := by
  obtain ⟨before, after, rfl⟩ := List.append_of_mem member
  obtain ⟨_, step⟩ := run.split
  rw [handles] at step
  obtain ⟨calls, inner, _, queues⟩ := handle_iff.mp step
  exact ⟨calls, inner, queues⟩

theorem transmit_inner (run : Run (deferred base medium) history outbox)
    {taken : Taken (Outbox σ δ ρ τ) (Event ε δ) (Transmission δ ρ τ β)} (member : taken ∈ history)
    {destination : δ} (transmits : taken.event = .transmit destination) :
    taken.post.inner = taken.pre.inner := by
  obtain ⟨before, after, rfl⟩ := List.append_of_mem member
  obtain ⟨_, step⟩ := run.split
  rw [transmits] at step
  obtain ⟨_, _, _, post, _⟩ := transmit_iff.mp step
  rw [post]

section Shows

variable {shows : σ → Entry ρ τ → Prop}

/-- The step keeps what the queued references show. -/
def KeepsQueued (shows : σ → Entry ρ τ → Prop)
    (taken : Taken (Outbox σ δ ρ τ) (Event ε δ) (Transmission δ ρ τ β)) : Prop :=
  ∀ destination, ∀ entry ∈ taken.pre.queue destination, shows taken.pre.inner entry →
    shows taken.post.inner entry

/-- The step leaves behind what the references it queues are to show. -/
def ShowsFresh (base : System σ ε κ) (medium : Medium σ κ δ ρ τ β) (shows : σ → Entry ρ τ → Prop)
    (taken : Taken (Outbox σ δ ρ τ) (Event ε δ) (Transmission δ ρ τ β)) : Prop :=
  ∀ steps event calls, Run base steps taken.pre.inner → taken.event = .handle event →
    base.step taken.pre.inner event = some (taken.post.inner, calls) →
    ∀ call ∈ calls, ∀ destination ref, medium.sends call = some (destination, ref) →
      shows taken.post.inner ⟨ref, medium.stamp taken.pre.inner⟩

/-- What every step keeps holds of all that is queued. -/
theorem queued_show (run : Run (deferred base medium) history outbox)
    (fresh : ∀ taken ∈ history, ShowsFresh base medium shows taken)
    (kept : ∀ taken ∈ history, KeepsQueued shows taken) :
    ∀ destination, ∀ entry ∈ outbox.queue destination, shows outbox.inner entry := by
  induction run with
  | start initial => simp [initial.2]
  | @snoc history outbox post event transmissions run taken inductionHypothesis =>
    have before := inductionHypothesis (fun earlier member => fresh earlier (by simp [member]))
      fun earlier member => kept earlier (by simp [member])
    have last : KeepsQueued shows ⟨outbox, event, transmissions, post⟩ := kept _ (by simp)
    have new : ShowsFresh base medium shows ⟨outbox, event, transmissions, post⟩ := fresh _ (by simp)
    intro destination entry member
    cases event with
    | handle event =>
      obtain ⟨calls, step, _, queues⟩ := handle_iff.mp taken
      rw [queues, List.mem_append] at member
      cases member with
      | inl old => exact last destination entry old (before destination entry old)
      | inr added =>
        obtain ⟨call, made, sent, stamp⟩ := mem_added.mp added
        obtain ⟨steps, inner⟩ := inner_run run
        obtain ⟨ref, _⟩ := entry
        subst stamp
        exact new steps event calls inner rfl step call made destination ref sent
    | transmit other =>
      obtain ⟨head, rest, queue, rfl, _⟩ := transmit_iff.mp taken
      apply before destination
      by_cases same : destination = other
      · subst same
        simp only [Function.update_self] at member
        simp [queue, member]
      · simpa [same] using member

theorem queued_show_before (run : Run (deferred base medium) history outbox)
    (fresh : ∀ taken ∈ history, ShowsFresh base medium shows taken)
    (kept : ∀ taken ∈ history, KeepsQueued shows taken) :
    ∀ taken ∈ history, ∀ destination, ∀ entry ∈ taken.pre.queue destination,
      shows taken.pre.inner entry := by
  intro taken member
  obtain ⟨before, after, rfl⟩ := List.append_of_mem member
  obtain ⟨reached, _⟩ := run.split
  exact queued_show reached (fun earlier old => fresh earlier (by simp [old]))
    fun earlier old => kept earlier (by simp [old])

theorem queued_show_after (run : Run (deferred base medium) history outbox)
    (fresh : ∀ taken ∈ history, ShowsFresh base medium shows taken)
    (kept : ∀ taken ∈ history, KeepsQueued shows taken) :
    ∀ taken ∈ history, ∀ destination, ∀ entry ∈ taken.post.queue destination,
      shows taken.post.inner entry := by
  intro taken member
  obtain ⟨before, after, rfl⟩ := List.append_of_mem member
  obtain ⟨reached, step⟩ := run.split
  have earlier : ∀ old ∈ before ++ [taken], old ∈ before ++ taken :: after := by
    intro old found
    simp only [List.mem_append, List.mem_cons, List.not_mem_nil, or_false] at found ⊢
    exact found.imp_right .inl
  exact queued_show (reached.snoc step) (fun old found => fresh old (earlier old found))
    fun old found => kept old (earlier old found)

/-- What every step keeps holds of all that is transmitted. -/
theorem transmitted_show (run : Run (deferred base medium) history outbox)
    (fresh : ∀ taken ∈ history, ShowsFresh base medium shows taken)
    (kept : ∀ taken ∈ history, KeepsQueued shows taken) :
    ∀ taken ∈ history, ∀ transmission ∈ taken.calls, shows taken.pre.inner transmission.entry ∧
      transmission.bytes = medium.content taken.pre.inner transmission.entry.ref := by
  intro taken member transmission made
  have queued := queued_show_before run fresh kept taken member
  obtain ⟨before, after, rfl⟩ := List.append_of_mem member
  obtain ⟨_, step⟩ := run.split
  obtain ⟨pre, event, calls, post⟩ := taken
  cases event with
  | handle event =>
    obtain ⟨_, _, silent, _⟩ := handle_iff.mp step
    rw [silent] at made
    cases made
  | transmit destination =>
    obtain ⟨entry, rest, queue, _, sent⟩ := transmit_iff.mp step
    rw [sent, List.mem_singleton] at made
    subst made
    have head : entry ∈ pre.queue destination := by
      change pre.queue destination = entry :: rest at queue
      rw [queue]
      exact List.mem_cons_self
    exact ⟨queued destination entry head, rfl⟩

end Shows

/-! ## The order of transmission -/

section Order

/-- The references transmitted to a destination, in order. -/
def transmitted (history : List (Taken (Outbox σ δ ρ τ) (Event ε δ) (Transmission δ ρ τ β)))
    (destination : δ) : List (Entry ρ τ) :=
  (history.flatMap Taken.calls).filterMap fun transmission =>
    if transmission.destination = destination then some transmission.entry else none

/-- The references that the steps of the system under the queues add to a queue. -/
def Medium.addedBy (medium : Medium σ κ δ ρ τ β) (steps : List (Taken σ ε κ)) (destination : δ) :
    List (Entry ρ τ) :=
  steps.flatMap fun taken => medium.added taken.pre taken.calls destination

def handled (history : List (Taken (Outbox σ δ ρ τ) (Event ε δ) (Transmission δ ρ τ β))) : List ε :=
  history.filterMap fun taken =>
    match taken.event with
    | .handle event => some event
    | .transmit _ => none

/-- The handled events as steps of the system under the queues, with the calls they make. -/
def innerSteps (base : System σ ε κ)
    (history : List (Taken (Outbox σ δ ρ τ) (Event ε δ) (Transmission δ ρ τ β))) :
    List (Taken σ ε κ) :=
  history.filterMap fun taken =>
    match taken.event with
    | .handle event => some ⟨taken.pre.inner, event,
        ((base.step taken.pre.inner event).map Prod.snd).getD [], taken.post.inner⟩
    | .transmit _ => none

omit [DecidableEq δ] in
theorem innerSteps_events
    (history : List (Taken (Outbox σ δ ρ τ) (Event ε δ) (Transmission δ ρ τ β))) :
    (innerSteps base history).map Taken.event = handled history := by
  simp only [innerSteps, handled, List.map_filterMap]
  refine congrArg (fun select => history.filterMap select) (funext fun taken => ?_)
  cases taken.event <;> rfl

/-- Nothing is lost, duplicated or overtaken: what has been transmitted to a destination
    and what is still queued for it are together what was sent to it, in order. -/
theorem transmitted_append_queue (run : Run (deferred base medium) history outbox) :
    Run base (innerSteps base history) outbox.inner ∧
      ∀ destination, transmitted history destination ++ outbox.queue destination =
        medium.addedBy (innerSteps base history) destination := by
  induction run with
  | @start outbox initial =>
    refine ⟨.start initial.1, fun destination => ?_⟩
    rw [initial.2]
    rfl
  | @snoc history outbox post event transmissions run taken inductionHypothesis =>
    obtain ⟨inner, order⟩ := inductionHypothesis
    cases event with
    | handle event =>
      obtain ⟨calls, step, rfl, queues⟩ := handle_iff.mp taken
      have steps : innerSteps base (history ++ [⟨outbox, .handle event, [], post⟩]) =
          innerSteps base history ++ [⟨outbox.inner, event, calls, post.inner⟩] := by
        simp [innerSteps, step]
      rw [steps]
      refine ⟨inner.snoc step, fun destination => ?_⟩
      have before := order destination
      simp only [transmitted, Medium.addedBy] at before ⊢
      simp only [List.flatMap_append, List.flatMap_cons, List.flatMap_nil, List.append_nil]
      rw [queues, ← before, List.append_assoc]
    | transmit other =>
      obtain ⟨entry, rest, queue, rfl, rfl⟩ := transmit_iff.mp taken
      simp only [innerSteps, List.filterMap_append, List.filterMap_cons, List.filterMap_nil,
        List.append_nil]
      refine ⟨inner, fun destination => ?_⟩
      have before := order destination
      rw [innerSteps] at before
      rw [← before]
      -- the head of the queue moves to the end of what has been transmitted
      by_cases same : destination = other
      · subst same
        simp [transmitted, queue]
      · simp [transmitted, same, Ne.symm same]

theorem transmission_bytes (run : Run (deferred base medium) history outbox) :
    ∀ transmission ∈ history.flatMap Taken.calls,
      ∃ taken ∈ history, transmission.bytes = medium.content taken.pre.inner transmission.entry.ref := by
  intro transmission made
  obtain ⟨taken, member, call⟩ := List.mem_flatMap.mp made
  have shown := @transmitted_show _ _ _ _ _ _ _ _ base medium history outbox (fun _ _ => True) run
    (fun _ _ _ _ _ _ _ _ _ _ _ _ _ => trivial) (fun _ _ _ _ _ _ => trivial)
  exact ⟨taken, member, (shown taken member transmission call).2⟩

end Order

end Deferred
