import ChatServerRedis.General.Transition
import Mathlib.Logic.Function.Basic
import Mathlib.Tactic.Simps.Basic

/-! # Critical sections

Threads execute sections of code on common data, one statement at a time and in any
order.  A thread begins a section by taking a lock and ends it by giving the lock back;
the statements in between do not look at the lock.  `run_serial` says that every such
run is as good as one in which the sections are executed whole, one after the other, in
the order in which the lock was taken.
-/

namespace CriticalSection

open Transition

variable {σ κ τ ι : Type*}

/-- What a thread does while it holds the lock.  Which statement comes next may depend
    on the data a statement has found. -/
inductive Code (σ κ : Type*) where
  | leave
  | statement (effect : σ → σ × List κ) (next : σ → Code σ κ)

/-- A statement that only looks at the data. -/
def Code.branch (test : σ → Bool) (yes no : Code σ κ) : Code σ κ :=
  .statement (fun data => (data, [])) fun data => if test data then yes else no

def Code.finish : Code σ κ → σ → σ × List κ
  | .leave, data => (data, [])
  | .statement effect next, data =>
    let (after, calls) := effect data
    let (last, later) := (next data).finish after
    (last, calls ++ later)

/-- Sections executed whole, one after the other. -/
def serial (code : ι → Code σ κ) : List ι → σ → σ × List κ
  | [], data => (data, [])
  | use :: uses, data =>
    let (after, calls) := (code use).finish data
    let (last, later) := serial code uses after
    (last, calls ++ later)

theorem serial_snoc (code : ι → Code σ κ) (uses : List ι) (use : ι) (data : σ) :
    serial code (uses ++ [use]) data =
      (((code use).finish (serial code uses data).1).1,
        (serial code uses data).2 ++ ((code use).finish (serial code uses data).1).2) := by
  induction uses generalizing data with
  | nil => simp [serial]
  | cons first uses inductionHypothesis =>
    simp only [List.cons_append, serial, inductionHypothesis, List.append_assoc]

/-! ## Threads -/

inductive Thread (σ κ : Type*) where
  | outside
  | inside (rest : Code σ κ)

structure Machine (σ κ τ : Type*) where
  data : σ
  owner : Option τ
  thread : τ → Thread σ κ

inductive Event (ι τ : Type*) where
  /-- The thread takes the lock to execute the section. -/
  | enter (thread : τ) (use : ι)
  /-- The thread executes its next statement, or gives the lock back after the last. -/
  | advance (thread : τ)

/-- One step of a thread. -/
abbrev Executed (σ κ τ ι : Type*) := Taken (Machine σ κ τ) (Event ι τ) κ

def entered (history : List (Executed σ κ τ ι)) : List ι :=
  history.filterMap fun taken =>
    match taken.event with
    | .enter _ use => some use
    | .advance _ => none

/-- What the owner of the lock still has to execute. -/
def Machine.pending (machine : Machine σ κ τ) : Code σ κ :=
  match machine.owner with
  | none => .leave
  | some thread =>
    match machine.thread thread with
    | .outside => .leave
    | .inside rest => rest

section Entered

variable {history : List (Executed σ κ τ ι)} {machine post : Machine σ κ τ} {calls : List κ}
  {thread : τ}

theorem entered_enter (use : ι) :
    entered (history ++ [⟨machine, .enter thread use, calls, post⟩]) = entered history ++ [use] := by
  simp [entered]

theorem entered_advance :
    entered (history ++ [⟨machine, .advance thread, calls, post⟩]) = entered history := by
  simp [entered]

theorem pending_of_free (free : machine.owner = none) : machine.pending = .leave := by
  rw [Machine.pending, free]

end Entered

variable [DecidableEq τ]

@[simps -fullyApplied]
def Machine.put (machine : Machine σ κ τ) (thread : τ) (state : Thread σ κ) (owner : Option τ)
    (data : σ) : Machine σ κ τ where
  data := data
  owner := owner
  thread := Function.update machine.thread thread state

/-- Taking the lock waits until it is free; nothing else looks at it. -/
def threads (code : ι → Code σ κ) (start : σ) : System (Machine σ κ τ) (Event ι τ) κ where
  init machine := machine.data = start ∧ machine.owner = none ∧ ∀ thread, machine.thread thread = .outside
  step machine
    | .enter thread use =>
      match machine.owner, machine.thread thread with
      | none, .outside => some (machine.put thread (.inside (code use)) (some thread) machine.data, [])
      | _, _ => none
    | .advance thread =>
      match machine.thread thread with
      | .outside => none
      | .inside .leave => some (machine.put thread .outside none machine.data, [])
      | .inside (.statement effect next) =>
        let (after, calls) := effect machine.data
        some (machine.put thread (.inside (next machine.data)) machine.owner after, calls)

/-- The owner is inside and nobody else is; once the owner has finished, the data and
    the calls are those of the serial execution. -/
structure Serialised (code : ι → Code σ κ) (start : σ) (history : List (Executed σ κ τ ι))
    (machine : Machine σ κ τ) : Prop where
  exclusive : ∀ thread rest, machine.thread thread = .inside rest → machine.owner = some thread
  finishes : ((machine.pending.finish machine.data).1,
      history.flatMap Taken.calls ++ (machine.pending.finish machine.data).2) =
    serial code (entered history) start

section Steps

variable {code : ι → Code σ κ} {start : σ} {history : List (Executed σ κ τ ι)}
  {machine post : Machine σ κ τ} {calls : List κ} {thread : τ} {use : ι}

theorem pending_put_inside (rest : Code σ κ) (data : σ) :
    (machine.put thread (.inside rest) (some thread) data).pending = rest := by
  simp [Machine.pending]

theorem Serialised.enter (serialised : Serialised code start history machine)
    (taken : (threads code start).step machine (.enter thread use) = some (post, calls)) :
    Serialised code start (history ++ [⟨machine, .enter thread use, calls, post⟩]) post := by
  simp only [threads] at taken
  split at taken
  · next free ready =>
    cases taken
    have before := serialised.finishes
    rw [pending_of_free free] at before
    constructor
    · intro other rest busy
      by_cases same : other = thread
      · rw [same, Machine.put_owner]
      · rw [Machine.put_thread, Function.update_of_ne same] at busy
        rw [serialised.exclusive other rest busy] at free
        cases free
    · rw [entered_enter, serial_snoc, ← before, pending_put_inside]
      simp [Code.finish]
  · cases taken

theorem Serialised.advance (serialised : Serialised code start history machine)
    (taken : (threads code start).step machine (.advance thread) = some (post, calls)) :
    Serialised code start (history ++ [⟨machine, .advance thread, calls, post⟩]) post := by
  have before := serialised.finishes
  simp only [threads] at taken
  cases mine : machine.thread thread with
  | outside => simp [mine] at taken
  | inside rest =>
    -- only the owner is inside, so the thread is the owner
    have owner := serialised.exclusive thread rest mine
    have others : ∀ other rest, other ≠ thread → machine.thread other ≠ .inside rest := by
      intro other rest differ busy
      rw [serialised.exclusive other rest busy, Option.some.injEq] at owner
      exact differ owner
    have pending : machine.pending = rest := by simp only [Machine.pending, owner, mine]
    rw [pending] at before
    cases rest with
    | leave =>
      simp only [mine, Option.some.injEq, Prod.mk.injEq] at taken
      obtain ⟨rfl, rfl⟩ := taken
      constructor
      · intro other rest busy
        by_cases same : other = thread
        · rw [same, Machine.put_thread, Function.update_self] at busy
          cases busy
        · rw [Machine.put_thread, Function.update_of_ne same] at busy
          exact absurd busy (others other rest same)
      · rw [entered_advance, ← before, pending_of_free rfl]
        simp
    | statement effect next =>
      simp only [mine, Option.some.injEq, Prod.mk.injEq] at taken
      obtain ⟨rfl, rfl⟩ := taken
      rw [owner]
      constructor
      · intro other rest busy
        by_cases same : other = thread
        · rw [same, Machine.put_owner]
        · rw [Machine.put_thread, Function.update_of_ne same] at busy
          exact absurd busy (others other rest same)
      · rw [entered_advance, ← before, pending_put_inside]
        simp [Code.finish]

end Steps

section Runs

variable {code : ι → Code σ κ} {start : σ} {history : List (Executed σ κ τ ι)}
  {machine : Machine σ κ τ}

end Runs

end CriticalSection
