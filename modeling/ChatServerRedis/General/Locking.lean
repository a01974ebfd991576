import ChatServerRedis.General.Handler
import Mathlib.Data.List.Basic

/-! # The discipline of a lock

A recursive lock is used by handlers that may throw or stop halfway.  A sequence of
acquisitions and releases is `Balanced` when nothing is released that is not held and
nothing is held at the end; balanced sequences compose.  `Avoids` says that a handler
does not use the lock, on any path and in any state, with one rule for each way a
handler is built.
-/

namespace Locking

open Handlers

/-! ## Sequences of lock operations -/

inductive LockOp where
  | acquire
  | release
  deriving DecidableEq

structure Balanced (ops : List LockOp) : Prop where
  held : ∀ front, front <+: ops → front.count .release ≤ front.count .acquire
  even : ops.count .acquire = ops.count .release

theorem Balanced.nil : Balanced [] where
  held front begins := by
    rw [List.prefix_nil.mp begins]
    exact Nat.le_refl 0
  even := rfl

theorem Balanced.append {first second : List LockOp} (balanced : Balanced first)
    (balanced' : Balanced second) : Balanced (first ++ second) where
  held front begins := by
    obtain inside | beyond := List.prefix_or_prefix_of_prefix begins (List.prefix_append first second)
    · exact balanced.held front inside
    · obtain ⟨rest, rfl⟩ := beyond
      have later := balanced'.held rest ((List.prefix_append_right_inj first).mp begins)
      have settled := balanced.even
      rw [List.count_append, List.count_append]
      omega
  even := by rw [List.count_append, List.count_append, balanced.even, balanced'.even]

/-- The lock is taken and given back. -/
theorem Balanced.pair : Balanced [.acquire, .release] where
  held front begins := by
    obtain ⟨rest, whole⟩ := begins
    match front, whole with
    | [], _ => exact Nat.le_refl 0
    | [_], whole => cases whole; decide
    | [_, _], whole => cases whole; decide
  even := rfl

theorem not_balanced_release : ¬ Balanced [.release] := fun balanced =>
  absurd balanced.even (by decide)

/-! ## Handlers -/

variable {σ κ ε φ α β : Type}

def left : EStateM.Result (Abort ε φ) (Machine σ κ) α → Machine σ κ
  | .ok _ machine | .error _ machine => machine

/-- The calls of a handler up to its end, also when it throws or stops. -/
def callsMade (handler : Handler σ κ ε φ α) (state : σ) : List κ := (left (handler ⟨state, []⟩)).calls

variable (lockOp : κ → Option LockOp)

def lockOps (calls : List κ) : List LockOp := calls.filterMap lockOp

theorem lockOps_append (calls calls' : List κ) :
    lockOps lockOp (calls ++ calls') = lockOps lockOp calls ++ lockOps lockOp calls' :=
  List.filterMap_append

def Avoids (handler : Handler σ κ ε φ α) : Prop :=
  ∀ machine, lockOps lockOp (left (handler machine)).calls = lockOps lockOp machine.calls

namespace Avoids

variable {lockOp}

theorem pure (value : α) : Avoids lockOp (pure value : Handler σ κ ε φ α) := fun _ => rfl

theorem readState : Avoids lockOp (readState : Handler σ κ ε φ σ) := fun _ => rfl

theorem modifyState (change : σ → σ) : Avoids lockOp (modifyState change : Handler σ κ ε φ Unit) :=
  fun _ => rfl

theorem stop (fault : φ) : Avoids lockOp (stop fault : Handler σ κ ε φ α) := fun _ => rfl

theorem raise (error : ε) : Avoids lockOp (raise error : Handler σ κ ε φ α) := fun _ => rfl

theorem call {made : κ} (other : lockOp made = none) :
    Avoids lockOp (call made : Handler σ κ ε φ Unit) := by
  intro machine
  rw [call_apply, left, lockOps_append]
  simp [lockOps, other]

theorem bind {first : Handler σ κ ε φ α} {next : α → Handler σ κ ε φ β} (avoids : Avoids lockOp first)
    (after : ∀ value, Avoids lockOp (next value)) : Avoids lockOp (first >>= next) := by
  intro machine
  have here := avoids machine
  rw [bind_apply]
  cases outcome : first machine with
  | error abort machine' => rwa [outcome] at here
  | ok value machine' =>
    rw [outcome] at here
    exact (after value machine').trans here

theorem ite {condition : Prop} [Decidable condition] {first second : Handler σ κ ε φ α}
    (avoids : condition → Avoids lockOp first) (avoids' : ¬ condition → Avoids lockOp second) :
    Avoids lockOp (if condition then first else second) := by
  split
  · next holds => exact avoids holds
  · next fails => exact avoids' fails

theorem catchThrown {body : Handler σ κ ε φ α} {rescue : ε → Handler σ κ ε φ α}
    (avoids : Avoids lockOp body) (avoids' : ∀ error, Avoids lockOp (rescue error)) :
    Avoids lockOp (catchThrown body rescue) := by
  intro machine
  have here := avoids machine
  rw [catchThrown_apply]
  cases outcome : body machine with
  | ok value machine' => rwa [outcome] at here
  | error abort machine' =>
    rw [outcome] at here
    cases abort with
    | thrown error => exact (avoids' error machine').trans here
    | fault fault => exact here

theorem callsMade {handler : Handler σ κ ε φ α} (avoids : Avoids lockOp handler) (state : σ) :
    lockOps lockOp (callsMade handler state) = [] := avoids ⟨state, []⟩

end Avoids

end Locking
