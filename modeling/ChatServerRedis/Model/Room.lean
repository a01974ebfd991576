import ChatServerRedis.General.Refinement
import Mathlib.Data.Set.Insert
import Mathlib.Logic.Function.Basic

/-! # The chat room

What the server is for, without slots, lists and packets: sessions `S` enter a room
under an account `A` and a name `N`, take places `P`, and hear what is said at the places
near theirs.  An account has one session and there is one monitoring client; who takes
over dismisses the one before.  Nothing here is translated from the source.
-/

namespace ChatRoom

open Refinement

variable {S A N P T : Type*}

structure Member (A N P : Type*) where
  account : A
  name : N
  ordinary : Bool
  place : Option P

@[ext]
structure Room (S A N P : Type*) where
  member : S → Option (Member A N P)
  /-- The session that has the account. -/
  holder : A → Option S
  /-- The session that monitors. -/
  monitor : Option S

inductive Act (S A N P T : Type*) where
  | enter (who : S) (account : A) (name : N) (ordinary : Bool)
  /-- The session becomes the monitoring client, before it enters. -/
  | watch (who : S)
  | move (who : S) (place : P)
  | speak (who : S) (text : T)
  /-- The session has asked for something it may not have. -/
  | offend (who : S)
  | leave (who : S)

inductive Notice (A N P T : Type*) where
  | welcome (account : A)
  | moved (account : A) (place : P)
  | said (account : A) (name : N) (text : T)
  | dismissed

namespace Room

variable (near : P → P → Prop) (room : Room S A N P)

def empty : Room S A N P where
  member := fun _ => none
  holder := fun _ => none
  monitor := none

def standsAt (who : S) (place : P) : Prop :=
  ∃ member, room.member who = some member ∧ member.place = some place

/-- Whom the message of a member reaches. -/
def heard (who : S) (text : T) : Set (S × Notice A N P T) :=
  { shown | ∃ member place there, room.member who = some member ∧ member.place = some place ∧
    room.standsAt shown.1 there ∧ near there place ∧
    shown.2 = .said member.account member.name text }

def dismissal (former : Option S) : Set (S × Notice A N P T) :=
  { shown | former = some shown.1 ∧ shown.2 = .dismissed }

variable [DecidableEq S] [DecidableEq A]

def act : Act S A N P T → Room S A N P × Set (S × Notice A N P T)
  | .enter who account name ordinary =>
    ({ room with
        member := Function.update room.member who (some ⟨account, name, ordinary, none⟩)
        holder := if ordinary then Function.update room.holder account (some who) else room.holder },
      if ordinary then insert (who, .welcome account) (dismissal (room.holder account)) else ∅)
  | .watch who => ({ room with monitor := some who }, dismissal room.monitor)
  | .move who place =>
    match room.member who with
    | some member =>
      ({ room with member := Function.update room.member who (some { member with place := some place }) },
        {(who, .moved member.account place)})
    | none => (room, ∅)
  | .speak who text => (room, room.heard near who text)
  | .offend who => (room, {(who, .dismissed)})
  | .leave who =>
    ({ member := Function.update room.member who none
       holder := fun account => if room.holder account = some who then none else room.holder account
       monitor := if room.monitor = some who then none else room.monitor }, ∅)

theorem act_shows_once {act : Act S A N P T} {who : S} {notice notice' : Notice A N P T}
    (shown : (who, notice) ∈ (room.act near act).2) (shown' : (who, notice') ∈ (room.act near act).2)
    (stays : notice ≠ .dismissed) (stays' : notice' ≠ .dismissed) : notice = notice' := by
  cases act with
  | enter other account name ordinary =>
    cases ordinary with
    | false => cases shown
    | true =>
      obtain welcome | dismissed := shown
      · obtain welcome' | dismissed' := shown'
        · exact (Prod.mk.inj welcome).2.trans (Prod.mk.inj welcome').2.symm
        · exact absurd dismissed'.2 stays'
      · exact absurd dismissed.2 stays
  | watch => exact absurd shown.2 stays
  | move other place =>
    simp only [Room.act] at shown shown'
    cases present : room.member other with
    | none =>
      simp only [present] at shown
      cases shown
    | some member =>
      simp only [present, Set.mem_singleton_iff, Prod.mk.injEq] at shown shown'
      rw [shown.2, shown'.2]
  | speak other text =>
    obtain ⟨member, _, _, present, _, _, _, said⟩ := shown
    obtain ⟨member', _, _, present', _, _, _, said'⟩ := shown'
    rw [present] at present'
    cases present'
    exact said.trans said'.symm
  | offend => exact absurd (Prod.mk.inj shown).2 stays
  | leave => cases shown

end Room

/-- The room over a notion of nearness. -/
def chatRoom [DecidableEq S] [DecidableEq A] (near : P → P → Prop) :
    Component (Room S A N P) (Act S A N P T) (S × Notice A N P T) where
  start := Room.empty
  act room := room.act near

end ChatRoom
