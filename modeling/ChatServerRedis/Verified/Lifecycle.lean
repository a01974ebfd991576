import ChatServerRedis.General.Placement
import ChatServerRedis.Verified.Steps

/-! # The life of a session

Every session is accepted, logs in, moves to CHAT and leaves.  `Lifecycle` relates
the phase of a slot to the flags of its player, to the lists it is in and to the
counter `lPlayerNum`, in every reachable state.  The other invariants rest on it.
-/

namespace ChatServerRedis

open Handlers Transition Placement

/-- The slot whose session the event is about. -/
def Event.slot : Event → PlayerPtr
  | .accept pPlayer _ _ | .loginEnter pPlayer | .loginRecv pPlayer _ _ _ _ | .loginLeave pPlayer
  | .chatEnter pPlayer | .chatRecv pPlayer _ | .chatLeave pPlayer => pPlayer

section Invariant

variable {config : Config} {server post : Server} {event : Event} {calls : List Call}

/-- A step leaves every other slot alone. -/
theorem StepCase.frame (outcome : StepCase config server event post calls) {other : PlayerPtr}
    (differ : other ≠ event.slot) :
    post.phase other = server.phase other ∧ post.session other = server.session other ∧
      post.players other = server.players other := by
  cases outcome <;> simp only [Event.slot] at differ <;> simp [differ]

theorem StepCase.sessions_kept (outcome : StepCase config server event post calls)
    (unaccepted : ∀ pPlayer sessionID memory, event ≠ .accept pPlayer sessionID memory) :
    post.session = server.session ∧ post.issued = server.issued ∧
      ∀ other, post.phase other ≠ .free → server.phase other ≠ .free := by
  cases outcome with
  | accept => exact absurd rfl (unaccepted _ _ _)
  | loginIdle | chatIdle | spoke | sectorInfo | moved => exact ⟨rfl, rfl, fun _ used => used⟩
  | @loginEnter pPlayer | @loggedIn pPlayer | @monitorLogin pPlayer | @chatEnter pPlayer
  | @loginLeave pPlayer | @chatLeave pPlayer | @chatLeaveEarly pPlayer =>
    refine ⟨rfl, rfl, fun other used => ?_⟩
    by_cases same : other = pPlayer <;> simp_all

structure Consistent (phase : Phase) (session : ULONGLONG) (player : Player) : Prop where
  sessionId : phase ≠ .free → player.sessionId = session
  unregistered : phase = .accepted ∨ phase = .login ∨ phase = .moving →
    player.bRegisterAtSector = false
  loggedOut : phase = .login → player.bMonitoringLogin = false
  loggedIn : phase = .moving ∨ phase = .chat → player.bLogin = true

structure Lifecycle (server : Server) : Prop where
  slots : ∀ pPlayer,
    Consistent (server.phase pPlayer) (server.session pPlayer) (server.players pPlayer)
  chatters : Listed server.playerList fun pPlayer => server.phase pPlayer = .chat
  movers : Listed server.moving fun pPlayer => server.phase pPlayer = .moving
  counted : server.lPlayerNum = server.playerList.length
  issued : ∀ pPlayer, server.phase pPlayer ≠ .free → server.session pPlayer ∈ server.issued
  distinct : ∀ first second, server.phase first ≠ .free → server.phase second ≠ .free →
    server.session first = server.session second → first = second
  reserved : maxULongLong ∉ server.issued

namespace Lifecycle

theorem initial (memory : PlayerPtr → Player) : Lifecycle (Server.initial memory) where
  slots pPlayer := ⟨by simp [Server.initial], by simp [Server.initial], by simp [Server.initial],
    by simp [Server.initial]⟩
  chatters := Listed.nil (by simp [Server.initial])
  movers := Listed.nil (by simp [Server.initial])
  counted := rfl
  issued := by simp [Server.initial]
  distinct := by simp [Server.initial]
  reserved := by simp [Server.initial]

/-- Nobody in CHAT lacks `bLogin`, so `OnLeave` never returns early. -/
theorem chat_bLogin (lifecycle : Lifecycle server) {pPlayer : PlayerPtr}
    (chat : server.phase pPlayer = .chat) : (server.players pPlayer).bLogin ≠ false := by
  rw [(lifecycle.slots pPlayer).loggedIn (.inr chat)]
  exact Bool.noConfusion

section Step

variable (lifecycle : Lifecycle server) (outcome : StepCase config server event post calls)

include lifecycle outcome

theorem slots_step (pPlayer : PlayerPtr) :
    Consistent (post.phase pPlayer) (post.session pPlayer) (post.players pPlayer) := by
  have before := lifecycle.slots pPlayer
  -- the slot of the event by cases over the outcome, any other by the frame
  by_cases same : pPlayer = event.slot
  · obtain ⟨sessionId, unregistered, loggedOut, loggedIn⟩ := before
    cases outcome <;> simp only [Event.slot] at same <;> subst same <;> constructor <;>
      simp_all [Player.construct]
  · obtain ⟨phase, session, player⟩ := outcome.frame same
    rw [phase, session, player]
    exact before

theorem chatters_step : Listed post.playerList fun pPlayer => post.phase pPlayer = .chat := by
  have chatters := lifecycle.chatters
  cases outcome with
  | @chatEnter pPlayer moving =>
    refine chatters.append (by simp [moving]) fun other => ?_
    by_cases same : other = pPlayer <;> simp [same]
  | @chatLeave pPlayer chat login =>
    refine chatters.erase fun other => ?_
    by_cases same : other = pPlayer <;> simp [same]
  | @chatLeaveEarly pPlayer _ chat login =>
    refine chatters.erase fun other => ?_
    by_cases same : other = pPlayer <;> simp [same]
  | loginIdle | chatIdle | spoke => exact chatters
  | sectorInfo | moved => exact chatters
  | @accept pPlayer | @loginEnter pPlayer | @loginLeave pPlayer | @loggedIn pPlayer
  | @monitorLogin pPlayer =>
    refine chatters.congr fun other => ?_
    by_cases same : other = pPlayer <;> simp_all

theorem movers_step : Listed post.moving fun pPlayer => post.phase pPlayer = .moving := by
  have movers := lifecycle.movers
  cases outcome with
  | @loggedIn pPlayer | @monitorLogin pPlayer =>
    refine movers.append (by simp_all) fun other => ?_
    by_cases same : other = pPlayer <;> simp [same]
  | @chatEnter pPlayer =>
    refine movers.erase fun other => ?_
    by_cases same : other = pPlayer <;> simp [same]
  | loginIdle | chatIdle | spoke | sectorInfo | moved => exact movers
  | @accept pPlayer | @loginEnter pPlayer | @loginLeave pPlayer | @chatLeave pPlayer
  | @chatLeaveEarly pPlayer =>
    refine movers.congr fun other => ?_
    by_cases same : other = pPlayer <;> simp_all

theorem counted_step : post.lPlayerNum = post.playerList.length := by
  have counted := lifecycle.counted
  cases outcome with
  | chatEnter => simp [counted]
  | @chatLeave pPlayer chat =>
    have present : pPlayer ∈ server.playerList := (lifecycle.chatters.mem_iff pPlayer).mpr chat
    have positive := List.length_pos_of_mem present
    simp only [Server.setPhase_lPlayerNum, Server.setPhase_playerList, Server.left_lPlayerNum,
      Server.left_playerList, List.length_erase_of_mem present, counted]
    omega
  | chatLeaveEarly chat login => exact absurd login (lifecycle.chat_bLogin chat)
  | accept | loginEnter | loginIdle | loggedIn | monitorLogin | loginLeave | chatIdle | moved | spoke
  | sectorInfo => simpa using counted

/-- A session id is given out before its slot is used, and never twice. -/
theorem sessions_step :
    (∀ pPlayer, post.phase pPlayer ≠ .free → post.session pPlayer ∈ post.issued) ∧
    (∀ first second, post.phase first ≠ .free → post.phase second ≠ .free →
      post.session first = post.session second → first = second) ∧
    maxULongLong ∉ post.issued := by
  have issued := lifecycle.issued
  have distinct := lifecycle.distinct
  have reserved := lifecycle.reserved
  have kept := outcome.sessions_kept
  cases outcome with
  | @accept pPlayer sessionID _ free fresh valid =>
    refine ⟨fun other used => ?_, fun first second usedFirst usedSecond same => ?_, ?_⟩
    · by_cases here : other = pPlayer
      · simp [here]
      · have before := issued other (by simpa [here] using used)
        simp [here, before]
    -- a fresh id differs from the id of every slot in use
    · by_cases here : first = pPlayer <;> by_cases there : second = pPlayer
      · rw [here, there]
      · have before := issued second (by simpa [there] using usedSecond)
        simp only [Server.opened_session, here, Function.update_self, Function.update_of_ne there] at same
        exact absurd (same ▸ before) fresh
      · have before := issued first (by simpa [here] using usedFirst)
        simp only [Server.opened_session, there, Function.update_self, Function.update_of_ne here] at same
        exact absurd (same ▸ before) fresh
      · exact distinct first second (by simpa [here] using usedFirst)
          (by simpa [there] using usedSecond) (by simpa [here, there] using same)
    · simp [reserved, Ne.symm valid]
  | loginIdle | chatIdle | spoke | sectorInfo | moved => exact ⟨issued, distinct, reserved⟩
  | loginEnter | loggedIn | monitorLogin | chatEnter | loginLeave | chatLeave | chatLeaveEarly =>
    obtain ⟨session, given, used⟩ := kept (by simp)
    rw [session, given]
    exact ⟨fun other usedAfter => issued other (used other usedAfter),
      fun first second usedFirst usedSecond => distinct first second (used first usedFirst)
        (used second usedSecond), reserved⟩

theorem step : Lifecycle post where
  slots := lifecycle.slots_step outcome
  chatters := lifecycle.chatters_step outcome
  movers := lifecycle.movers_step outcome
  counted := lifecycle.counted_step outcome
  issued := (lifecycle.sessions_step outcome).1
  distinct := (lifecycle.sessions_step outcome).2.1
  reserved := (lifecycle.sessions_step outcome).2.2

end Step

end Lifecycle

end Invariant

/-! ## Runs -/

section Runs

variable {config : Config} {history : List Step} {state : Server}

theorem ServerRun.lifecycle (run : ServerRun config history state) : Lifecycle state := by
  refine run.invariant ?_ fun state event post calls lifecycle taken => ?_
  · rintro _ ⟨memory, rfl⟩
    exact Lifecycle.initial memory
  · exact lifecycle.step (step_cases taken)

theorem ServerRun.forall_split (run : ServerRun config history state)
    {property : List Step → Step → Prop}
    (each : ∀ before server event post calls, ServerRun config before server →
      StepCase config server event post calls → property before ⟨server, event, calls, post⟩) :
    ∀ before taken after, history = before ++ taken :: after → property before taken := by
  intro before taken after split
  exact run.forall_taken (fun before server event post calls reached taken =>
    each before server event post calls reached (step_cases taken)) split

theorem ServerRun.forall_mem (run : ServerRun config history state) {property : Step → Prop}
    (each : ∀ before server event post calls, ServerRun config before server →
      StepCase config server event post calls → property ⟨server, event, calls, post⟩) :
    ∀ taken ∈ history, property taken := by
  intro taken member
  obtain ⟨before, after, split⟩ := List.append_of_mem member
  exact @ServerRun.forall_split _ _ _ run (fun _ => property) each before taken after split

end Runs

/-! ## A small configuration

Concrete packets and events, on which the conditions of the results can be
evaluated. -/

namespace Sample

def config : Config where
  csChatReqLogin := 1
  csChatResLogin := 2
  csChatReqSectorMove := 3
  csChatResSectorMove := 4
  csChatReqMessage := 5
  csChatResMessage := 6
  csChatReqHeartbeat := 7
  csChatMonitorClientLogin := 8
  csChatReqSectorInfo := 9
  loginLabels := by decide
  chatLabels := by decide
  maxPlayerNum := 2

def memory : Player where
  bLogin := false
  bRegisterAtSector := false
  bMonitoringLogin := false
  sectorX := 0
  sectorY := 0
  sessionId := 0
  accountNo := 0
  ID := Vector.replicate _ 0
  nickName := Vector.replicate _ 0

def sessionKey : List BYTE := List.replicate sessionKeyLen 65

def loginPacket (accountNo : INT64) : List BYTE :=
  wordBytes config.csChatReqLogin ++ (int64Bytes accountNo ++ (List.replicate 80 0 ++ sessionKey))

/-- A session is accepted, logs in to the account and waits to enter CHAT. -/
def login (pPlayer : PlayerPtr) (sessionID : ULONGLONG) (accountNo : INT64) : List Event :=
  [.accept pPlayer sessionID memory, .loginEnter pPlayer,
    .loginRecv pPlayer 0 (.bulkString sessionKey) (fun _ => 0) (loginPacket accountNo)]

def monitorLogin (pPlayer : PlayerPtr) (sessionID : ULONGLONG) : List Event :=
  [.accept pPlayer sessionID memory, .loginEnter pPlayer,
    .loginRecv pPlayer 0 .null (fun _ => 0) (wordBytes config.csChatMonitorClientLogin)]

def play (events : List Event) : Option (List Step × Server) :=
  (chatServer config).execute (Server.initial fun _ => memory) events

theorem play_run (events : List Event) (played : (play events).isSome = true) :
    ServerRun config ((play events).get played).1 ((play events).get played).2 := by
  have start : ServerRun config [] (Server.initial fun _ => memory) := .start ⟨_, rfl⟩
  exact Run.execute start (Option.some_get played).symm

end Sample

end ChatServerRedis
