import ChatServerRedis.General.PastTime
import Mathlib.Logic.Function.Basic

/-! # Takeover registers

A register gives every key at most one owner.  Claiming a key takes it over: the
former owner is evicted and the claimant becomes the owner.  A client that
releases gives up the key it owns, but only if it still owns it, because a
successor may have taken the key over in the meantime.

Evicted clients linger: eviction only asks a client to leave, and the client may
claim nothing and release much later.  `Registered` is the invariant that makes
this safe.  It ties the owner to the history (the owner of a key is its most
recent claimant that has not released) and records that every other client
still holding on to the key was evicted.
-/

namespace Takeover

open PastTime

variable {ε K C : Type*}

/-- How events claim keys and release clients. -/
structure Protocol (ε K C : Type*) where
  claims : ε → K → C → Prop
  releases : ε → C → Prop

section History

variable (protocol : Protocol ε K C) (key : K) (client : C)

/-- `client` claimed `key` most recently and has not released since. -/
def Latest : List ε → Prop :=
  Since (fun event => (∀ other, ¬ protocol.claims event key other) ∧ ¬ protocol.releases event client)
    (fun event => protocol.claims event key client)

/-- `client` claimed `key` and has not released since. -/
def Held : List ε → Prop :=
  Since (fun event => ¬ protocol.releases event client) (fun event => protocol.claims event key client)

variable {protocol key client}

theorem Latest.held {history : List ε} (latest : Latest protocol key client history) :
    Held protocol key client history :=
  Since.mono (fun _ _ stays => stays.2) (fun _ _ claims => claims) latest

end History

/-- The invariant of a register: `owner` is the register, `holding client key`
    says that the client claimed the key and has not released, and `evicted` are
    the clients that were asked to leave. -/
structure Registered (protocol : Protocol ε K C) (history : List ε) (owner : K → Option C)
    (holding : C → K → Prop) (evicted : C → Prop) : Prop where
  latest : ∀ key client, owner key = some client ↔ Latest protocol key client history
  held : ∀ key client, holding client key ↔ Held protocol key client history
  replaced : ∀ key client, holding client key → owner key ≠ some client → evicted client

variable {protocol : Protocol ε K C} {history : List ε} {owner owner' : K → Option C}
  {holding holding' : C → K → Prop} {evicted evicted' : C → Prop} {event : ε}

theorem Registered.owner_holding (registered : Registered protocol history owner holding evicted)
    {key : K} {client : C} (owned : owner key = some client) : holding client key :=
  (registered.held key client).mpr ((registered.latest key client).mp owned).held

theorem Registered.nil (unheld : ∀ client key, ¬ holding client key) :
    Registered protocol [] (fun _ => none) holding evicted where
  latest key client := by simp [Latest]
  held key client := by simp [Held, unheld]
  replaced key client holds _ := absurd holds (unheld client key)

theorem Registered.idle (registered : Registered protocol history owner holding evicted)
    (claimless : ∀ key client, ¬ protocol.claims event key client)
    (releaseless : ∀ client, ¬ protocol.releases event client)
    (same : ∀ client key, holding' client key ↔ holding client key)
    (evicts : ∀ client key, holding client key → evicted client → evicted' client) :
    Registered protocol (history ++ [event]) owner holding' evicted' where
  latest key client := by
    rw [registered.latest, Latest, since_snoc]
    simp [claimless, releaseless]
  held key client := by
    rw [same, registered.held, Held, since_snoc]
    simp [claimless, releaseless]
  replaced key client holds unowned :=
    have held := (same client key).mp holds
    evicts client key held (registered.replaced key client held unowned)

/-- A client takes `key` over; the former owner is evicted. -/
theorem Registered.claim [DecidableEq K] (registered : Registered protocol history owner holding evicted)
    {key : K} {client : C}
    (claims : ∀ other someone, protocol.claims event other someone ↔ other = key ∧ someone = client)
    (releaseless : ∀ someone, ¬ protocol.releases event someone)
    (holds : ∀ someone other, holding' someone other ↔
      holding someone other ∨ (someone = client ∧ other = key))
    (evictsOwner : ∀ former, owner key = some former → evicted' former)
    (evicts : ∀ someone other, holding someone other → evicted someone → evicted' someone) :
    Registered protocol (history ++ [event]) (Function.update owner key (some client))
      holding' evicted' where
  latest other someone := by
    rw [Latest, since_snoc]
    by_cases same : other = key
    · subst same; simp [claims, releaseless, eq_comm]
    · simp only [Function.update_of_ne same, registered.latest, claims, same, releaseless]
      simp [Latest]
  held other someone := by
    rw [holds, registered.held, Held, since_snoc, claims]
    simp only [releaseless, not_false_eq_true, true_and]
    rw [or_comm, @and_comm (someone = client)]
  replaced other someone held unowned := by
    rcases (holds _ _).mp held with before | ⟨rfl, rfl⟩
    -- an earlier holder is the owner taken over now, or was replaced before
    · by_cases owned : owner other = some someone
      · by_cases same : other = key
        · subst same; exact evictsOwner someone owned
        · rw [Function.update_of_ne same] at unowned
          exact absurd owned unowned
      · exact evicts _ _ before (registered.replaced other someone before owned)
    · rw [Function.update_self] at unowned
      exact absurd rfl unowned

/-- A client releases `key`: the register forgets the client if it is still the
    owner, and every other owner stays. -/
theorem Registered.release (registered : Registered protocol history owner holding evicted)
    {key : K} {client : C} (only : ∀ other, holding client other → other = key)
    (claimless : ∀ other someone, ¬ protocol.claims event other someone)
    (releases : ∀ someone, protocol.releases event someone ↔ someone = client)
    (holds : ∀ someone other, holding' someone other ↔ holding someone other ∧ someone ≠ client)
    (released : ∀ other someone, owner' other = some someone ↔
      owner other = some someone ∧ ¬ (other = key ∧ someone = client))
    (evicts : ∀ someone other, holding someone other → evicted someone → evicted' someone) :
    Registered protocol (history ++ [event]) owner' holding' evicted' := by
  -- the client holds no other key, so it owns none afterwards
  have gone : ∀ other someone, owner' other = some someone ↔
      owner other = some someone ∧ someone ≠ client := by
    intro other someone
    rw [released]
    refine and_congr_right fun owned => ⟨fun kept same => kept ⟨?_, same⟩, fun differ kept => differ kept.2⟩
    exact only other (same ▸ registered.owner_holding owned)
  constructor
  · intro other someone
    rw [gone, registered.latest, Latest, since_snoc]
    simp only [claimless, releases, not_false_eq_true, implies_true, true_and, false_or]
    exact and_comm
  · intro other someone
    rw [holds, registered.held, Held, since_snoc]
    simp only [claimless, releases, false_or]
    exact and_comm
  · intro other someone held unowned
    obtain ⟨before, differ⟩ := (holds _ _).mp held
    refine evicts _ _ before (registered.replaced other someone before fun owned => unowned ?_)
    exact (gone other someone).mpr ⟨owned, differ⟩

end Takeover
