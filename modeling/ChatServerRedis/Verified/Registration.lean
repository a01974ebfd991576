import ChatServerRedis.General.PastTime
import ChatServerRedis.Verified.Lifecycle

/-! # Where the players are registered

Two views of the sector lists.  Over the history, a player in CHAT is registered
at the sector of its last accepted move.  Over the state, the lists are a
placement: they hold exactly the registered players, each at its stored
coordinates, and every list operation is legal.
-/

namespace ChatServerRedis

open PastTime Placement Transition

/-! ## The last accepted move -/

section LastMove

variable (config : Config) (pPlayer : PlayerPtr)

/-- The player's last accepted SECTOR_MOVE went to the sector, and the player has
    not left since. -/
def LastMove (sectorX sectorY : WORD) : List Step → Prop :=
  Since (fun taken => taken.event ≠ .chatLeave pPlayer ∧
      ∀ otherX otherY, ¬ MovesTo config pPlayer taken otherX otherY)
    (fun taken => MovesTo config pPlayer taken sectorX sectorY)

end LastMove

namespace Server

variable (server : Server) (pPlayer : PlayerPtr)

def registered : Prop :=
  server.phase pPlayer = .chat ∧ (server.players pPlayer).bRegisterAtSector = true

instance : Decidable (server.registered pPlayer) :=
  inferInstanceAs (Decidable (_ ∧ _))

def registeredAt (sectorX sectorY : WORD) : Prop :=
  server.registered pPlayer ∧ (server.players pPlayer).sectorX = sectorX ∧
    (server.players pPlayer).sectorY = sectorY

/-- The offset of the list a player is linked in. -/
def place : Option Nat :=
  if server.registered pPlayer then some (server.storedOffset pPlayer) else none

end Server

def Call.sectorOp : Call → Option (Op Nat PlayerPtr)
  | .listArr (.pushBack pPlayer) y x => some (.pushBack (sectorOffset y x) pPlayer)
  | .listArr (.remove pPlayer) y x => some (.remove (sectorOffset y x) pPlayer)
  | _ => none

def sectorOps (calls : List Call) : List (Op Nat PlayerPtr) := calls.filterMap Call.sectorOp

section Step

variable {config : Config} {server post : Server} {event : Event} {calls : List Call}
  {history : List Step} {pPlayer : PlayerPtr}

/-- A step that is neither an accepted move nor a leave of the player keeps its
    registration. -/
theorem StepCase.registeredAt_kept (lifecycle : Lifecycle server)
    (outcome : StepCase config server event post calls)
    (unmoved : ∀ sectorX sectorY, ¬ MovesTo config pPlayer ⟨server, event, calls, post⟩ sectorX sectorY)
    (unleft : event ≠ .chatLeave pPlayer) (sectorX sectorY : WORD) :
    post.registeredAt pPlayer sectorX sectorY ↔ server.registeredAt pPlayer sectorX sectorY := by
  by_cases same : pPlayer = event.slot
  · have flags := (lifecycle.slots pPlayer).unregistered
    cases outcome with
    | moved _ request accepts =>
      simp only [Event.slot] at same
      subst same
      exact absurd (movesTo_chatRecv.mpr ⟨rfl, _, request, accepts⟩) (unmoved _ _)
    | chatLeave | chatLeaveEarly => exact absurd (by rw [same]; rfl) unleft
    | loginIdle | chatIdle | spoke | sectorInfo => exact Iff.rfl
    | accept | loginEnter | loggedIn | monitorLogin | loginLeave | chatEnter =>
      simp only [Event.slot] at same
      subst same
      simp_all [Server.registeredAt, Server.registered]
  · obtain ⟨phase, _, player⟩ := outcome.frame same
    unfold Server.registeredAt Server.registered
    rw [phase, player]

theorem StepCase.registeredAt_moved {otherX otherY : WORD}
    (outcome : StepCase config server event post calls)
    (moves : MovesTo config pPlayer ⟨server, event, calls, post⟩ otherX otherY)
    (sectorX sectorY : WORD) :
    post.registeredAt pPlayer sectorX sectorY ↔
      MovesTo config pPlayer ⟨server, event, calls, post⟩ sectorX sectorY := by
  obtain ⟨chat, stored, _⟩ := outcome.of_movesTo moves
  constructor
  · intro registered
    obtain ⟨_, sameX, sameY⟩ := registered
    simp only [stored, Server.moved_players, Function.update_self] at sameX sameY
    subst sameX sameY
    exact moves
  · intro same
    obtain ⟨rfl, rfl⟩ := moves.sector_eq same
    simp [stored, Server.registeredAt, Server.registered, chat]

theorem registeredAt_step (lifecycle : Lifecycle server)
    (outcome : StepCase config server event post calls)
    (before : ∀ pPlayer sectorX sectorY, server.registeredAt pPlayer sectorX sectorY ↔
      LastMove config pPlayer sectorX sectorY history)
    (pPlayer : PlayerPtr) (sectorX sectorY : WORD) :
    post.registeredAt pPlayer sectorX sectorY ↔
      LastMove config pPlayer sectorX sectorY (history ++ [⟨server, event, calls, post⟩]) := by
  rw [LastMove, since_snoc]
  by_cases moves : ∃ otherX otherY, MovesTo config pPlayer ⟨server, event, calls, post⟩ otherX otherY
  · obtain ⟨otherX, otherY, moves⟩ := moves
    rw [outcome.registeredAt_moved moves]
    refine ⟨.inl, fun last => last.elim id fun stays => ?_⟩
    exact absurd moves (stays.1.2 otherX otherY)
  · have unmoved : ∀ otherX otherY,
        ¬ MovesTo config pPlayer ⟨server, event, calls, post⟩ otherX otherY :=
      fun otherX otherY moves' => moves ⟨otherX, otherY, moves'⟩
    by_cases left : event = .chatLeave pPlayer
    · subst left
      have gone : post.phase pPlayer = .free := by
        cases outcome <;> simp
      simp [Server.registeredAt, Server.registered, gone, unmoved]
    · rw [outcome.registeredAt_kept lifecycle unmoved left, before]
      simp [unmoved, left, LastMove]

end Step

theorem ServerRun.registeredAt_iff {config : Config} {history : List Step} {state : Server}
    (run : ServerRun config history state) : ∀ pPlayer sectorX sectorY,
      state.registeredAt pPlayer sectorX sectorY ↔
        LastMove config pPlayer sectorX sectorY history := by
  induction run with
  | start initial =>
    obtain ⟨memory, rfl⟩ := initial
    simp [Server.registeredAt, Server.registered, Server.initial, LastMove]
  | snoc run taken inductionHypothesis =>
    exact registeredAt_step (ServerRun.lifecycle run) (step_cases taken) inductionHypothesis

/-! ## The lists -/

section Step

variable {config : Config} {server post : Server} {event : Event} {calls : List Call}
  {pPlayer : PlayerPtr}

theorem place_eq_of_registered (registered : server.registered pPlayer) :
    server.place pPlayer = some (server.storedOffset pPlayer) := if_pos registered

theorem place_eq_none (unregistered : ¬ server.registered pPlayer) : server.place pPlayer = none :=
  if_neg unregistered

theorem place_congr (phase : post.phase pPlayer = server.phase pPlayer)
    (player : post.players pPlayer = server.players pPlayer) :
    post.place pPlayer = server.place pPlayer := by
  have same : post.registered pPlayer ↔ server.registered pPlayer := by
    simp [Server.registered, phase, player]
  by_cases registered : server.registered pPlayer
  · rw [place_eq_of_registered registered, place_eq_of_registered (same.mpr registered)]
    simp [Server.storedOffset, player]
  · rw [place_eq_none registered, place_eq_none (mt same.mp registered)]

theorem placed_without (placed : Placed server.sectors server.place)
    (chat : server.phase pPlayer = .chat) :
    Placed (server.sectorsWithout pPlayer) (Function.update server.place pPlayer none) := by
  unfold Server.sectorsWithout
  split
  · next flag => exact placed.remove (place_eq_of_registered ⟨chat, flag⟩)
  · next flag =>
    have unregistered : ¬ server.registered pPlayer := fun registered => flag registered.2
    rw [← place_eq_none unregistered, Function.update_eq_self]
    exact placed

/-- The removal a handler starts with is legal and leaves the lists without the player. -/
theorem removeCalls_legal (placed : Placed server.sectors server.place)
    (chat : server.phase pPlayer = .chat) (ops : List (Op Nat PlayerPtr)) :
    LegalAll server.sectors (sectorOps (removeCalls server pPlayer) ++ ops) ↔
      LegalAll (server.sectorsWithout pPlayer) ops := by
  unfold Server.sectorsWithout removeCalls
  split
  · next flag =>
    have legal := placed.remove_legal (place_eq_of_registered ⟨chat, flag⟩)
    exact and_iff_right legal
  · rfl

/-- A step that registers and unregisters nobody keeps the lists and the placement. -/
theorem StepCase.place_kept (lifecycle : Lifecycle server)
    (outcome : StepCase config server event post calls)
    (unmoved : ∀ pPlayer sectorX sectorY,
      ¬ MovesTo config pPlayer ⟨server, event, calls, post⟩ sectorX sectorY)
    (unleft : ∀ pPlayer, event ≠ .chatLeave pPlayer) : post.place = server.place := by
  funext pPlayer
  have same := outcome.registeredAt_kept lifecycle (unmoved pPlayer) (unleft pPlayer)
  by_cases registered : server.registered pPlayer
  · obtain ⟨after, sameX, sameY⟩ := (same _ _).mpr ⟨registered, rfl, rfl⟩
    rw [place_eq_of_registered registered, place_eq_of_registered after]
    simp only [Server.storedOffset, sameX, sameY]
  · rw [place_eq_none registered, place_eq_none]
    exact fun after => registered ((same _ _).mp ⟨after, rfl, rfl⟩).1

theorem StepCase.placed_step (lifecycle : Lifecycle server)
    (outcome : StepCase config server event post calls)
    (placed : Placed server.sectors server.place) : Placed post.sectors post.place := by
  have kept := outcome.place_kept lifecycle
  have frame := @StepCase.frame _ _ _ _ _ outcome
  cases outcome with
  | @moved pPlayer _ _ sectorX sectorY chat =>
    have next : (server.moved pPlayer sectorX sectorY).place =
        Function.update (Function.update server.place pPlayer none) pPlayer
          (some (sectorOffset sectorY.toNat sectorX.toNat)) := by
      funext other
      by_cases same : other = pPlayer
      · subst same
        simp [Server.place, Server.registered, Server.storedOffset, chat]
      · obtain ⟨phase, _, player⟩ := frame same
        simp [place_congr phase player, same]
    rw [next]
    exact (placed_without placed chat).pushBack (Function.update_self ..)
  | @chatLeave pPlayer chat =>
    have next : ((server.left pPlayer).setPhase pPlayer .free).place =
        Function.update server.place pPlayer none := by
      funext other
      by_cases same : other = pPlayer
      · subst same
        simp [Server.place, Server.registered]
      · obtain ⟨phase, _, player⟩ := frame same
        simp [place_congr phase player, same]
    rw [next]
    exact placed_without placed chat
  | chatLeaveEarly chat login => exact absurd login (lifecycle.chat_bLogin chat)
  | loginIdle | chatIdle | spoke | sectorInfo => exact placed
  | accept | loginEnter | loggedIn | monitorLogin | loginLeave | chatEnter =>
    rw [kept (by simp [MovesTo]) (by simp)]
    exact placed

theorem sectorOps_eq_nil (none : ∀ call ∈ calls, call.sectorOp = none) : sectorOps calls = [] :=
  List.filterMap_eq_nil_iff.mpr none

theorem sectorOps_quiet (quiet : calls.all Call.quiet = true) : sectorOps calls = [] := by
  refine sectorOps_eq_nil fun call member => ?_
  have harmless := List.all_eq_true.mp quiet call member
  cases call <;> first | rfl | cases harmless

theorem sectorOps_broadcastCalls (messageLen : WORD) (message : List BYTE) :
    sectorOps (broadcastCalls config server pPlayer messageLen message) = [] := by
  refine sectorOps_eq_nil fun call member => ?_
  obtain ⟨cell, _, rfl | ⟨other, _, rfl⟩⟩ := mem_broadcastCalls.mp member <;> rfl

theorem sectorOps_monitorCalls :
    sectorOps (monitorCalls server pPlayer ++ [.updateCntTps]) = [] := by
  refine sectorOps_eq_nil fun call member => ?_
  simp only [List.mem_append, mem_monitorCalls, List.mem_singleton] at member
  obtain (rfl | ⟨_, rfl⟩ | rfl | rfl) | rfl := member <;> rfl

theorem sectorOps_enterCalls : sectorOps (enterCalls config server pPlayer) = [] := by
  refine sectorOps_eq_nil fun call member => ?_
  obtain rfl | ⟨_, ⟨_, _, rfl⟩ | rfl⟩ := mem_enterCalls.mp member <;> rfl

theorem sectorOps_leaveCalls :
    sectorOps (leaveCalls server pPlayer) = sectorOps (removeCalls server pPlayer) := by
  unfold leaveCalls
  split <;> split <;> rfl

theorem sectorOps_moveCalls (sectorX sectorY : WORD) :
    sectorOps (moveCalls config server pPlayer sectorX sectorY ++ [.updateCntTps]) =
      sectorOps (removeCalls server pPlayer) ++
        [.pushBack (sectorOffset sectorY.toNat sectorX.toNat) pPlayer] := by
  simp [sectorOps, moveCalls, Call.sectorOp]

theorem StepCase.legal (lifecycle : Lifecycle server)
    (outcome : StepCase config server event post calls)
    (placed : Placed server.sectors server.place) : LegalAll server.sectors (sectorOps calls) := by
  cases outcome with
  | @moved pPlayer _ _ sectorX sectorY chat =>
    have unplaced := (placed_without placed chat).pushBack_legal
      (sectorOffset sectorY.toNat sectorX.toNat) (Function.update_self ..)
    rw [sectorOps_moveCalls, removeCalls_legal placed chat]
    exact ⟨unplaced, trivial⟩
  | chatLeave chat =>
    rw [sectorOps_leaveCalls, ← List.append_nil (sectorOps _), removeCalls_legal placed chat]
    trivial
  | chatLeaveEarly chat login => exact absurd login (lifecycle.chat_bLogin chat)
  | loginIdle _ _ _ quiet | chatIdle _ _ _ quiet =>
    rw [sectorOps_quiet quiet]
    trivial
  | spoke =>
    rw [sectorOps, List.filterMap_append, ← sectorOps, sectorOps_broadcastCalls]
    trivial
  | monitorLogin =>
    rw [sectorOps_monitorCalls]
    trivial
  | chatEnter =>
    rw [sectorOps_enterCalls]
    trivial
  | accept | loginEnter | loggedIn | loginLeave | sectorInfo => trivial

end Step

theorem ServerRun.placed {config : Config} {history : List Step} {state : Server}
    (run : ServerRun config history state) : Placed state.sectors state.place := by
  induction run with
  | start initial =>
    obtain ⟨memory, rfl⟩ := initial
    have nowhere : (Server.initial memory).place = fun _ => none := by
      funext pPlayer
      exact place_eq_none (by simp [Server.registered, Server.initial])
    rw [nowhere]
    exact placed_empty
  | snoc run taken inductionHypothesis =>
    exact (step_cases taken).placed_step (ServerRun.lifecycle run) inductionHypothesis

end ChatServerRedis
