import ChatServerRedis.Model.MonitorSection
import ChatServerRedis.Verified.Monitoring

/-! # The guarded code is atomic

The server of `Model.Server` executes a whole handler in one step.  For the handlers
that share `MonitoringClientSessionID` this is no simplification: whatever the threads
do inside the critical sections, statement by statement, the handlers do one after the
other in the order in which the lock was taken.
-/

namespace ChatServerRedis

open CriticalSection Transition

def Call.disconnecting : Call → Bool
  | .disconnect _ => true
  | _ => false

section Finish

variable (server : Server) (pPlayer : PlayerPtr)

theorem login_finish : (MonitorSection.login pPlayer).code.finish server.guarded =
    ((server.monitorLoggedIn pPlayer).guarded,
      (monitorCalls server pPlayer).filter Call.disconnecting) := by
  have data : (server.monitorLoggedIn pPlayer).guarded =
      ⟨(server.players pPlayer).sessionId, Function.update server.players pPlayer
        { server.players pPlayer with bLogin := true, bMonitoringLogin := true }⟩ := by
    simp [Server.guarded]
  rw [data]
  by_cases set : server.monitoringClientSessionID = maxULongLong <;>
    simp [List.filter_cons, MonitorSection.code, Code.branch, assign, disconnectMonitor, Code.finish, Server.guarded,
      Guarded.setPlayer, Guarded.setMonitoringClientSessionID, monitorCalls, Call.disconnecting, set]

theorem leave_finish (monitoring : (server.players pPlayer).bMonitoringLogin = true) :
    (MonitorSection.leave pPlayer).code.finish server.guarded =
      (((server.left pPlayer).setPhase pPlayer .free).guarded,
        (leaveCalls server pPlayer).filter Call.disconnecting) := by
  have silent : (leaveCalls server pPlayer).filter Call.disconnecting = [] := by
    refine List.filter_eq_nil_iff.mpr fun made member => ?_
    simp only [mem_leaveCalls, mem_removeCalls] at member
    obtain ⟨_, rfl | rfl⟩ | ⟨_, rfl⟩ | ⟨_, rfl⟩ := member <;> simp [Call.disconnecting]
  rw [silent]
  by_cases own : server.monitoringClientSessionID = (server.players pPlayer).sessionId <;>
    simp [MonitorSection.code, Code.branch, assign, Code.finish, Server.guarded,
      Guarded.setMonitoringClientSessionID, Server.monitorAfter, monitoring, own]

end Finish

/-! ## The handlers of the guarded code -/

/-- The handler call that executes the section, for a player who is where it can. -/
inductive Performs (config : Config) (server : Server) : MonitorSection → Event → Prop where
  | login {pPlayer : PlayerPtr} {typeLocal : WORD} {reply : Reply} {beyond : Nat → BYTE}
      {pPacket : List BYTE} (login : server.phase pPlayer = .login)
      (monitor : IsMonitorLogin config pPacket) :
      Performs config server (.login pPlayer) (.loginRecv pPlayer typeLocal reply beyond pPacket)
  | leave {pPlayer : PlayerPtr} (chat : server.phase pPlayer = .chat)
      (monitoring : (server.players pPlayer).bMonitoringLogin = true) :
      Performs config server (.leave pPlayer) (.chatLeave pPlayer)

section Step

variable {config : Config} {server post : Server} {use : MonitorSection} {event : Event}
  {calls : List Call}

theorem Performs.step (lifecycle : Lifecycle server) (performs : Performs config server use event) :
    ∃ post calls, step config server event = some (post, calls) ∧
      use.code.finish server.guarded = (post.guarded, calls.filter Call.disconnecting) := by
  cases performs with
  | @login pPlayer typeLocal reply beyond pPacket login monitor =>
    refine ⟨server.monitorLoggedIn pPlayer, monitorCalls server pPlayer ++ [.updateCntTps], ?_, ?_⟩
    · rw [ChatServerRedis.step, if_pos login, LoginContents.onRecv_run]
      exact loginResult_monitor monitor
    · rw [login_finish, List.filter_append]
      simp [Call.disconnecting]
  | @leave pPlayer chat monitoring =>
    have login := (lifecycle.slots pPlayer).loggedIn (.inr chat)
    refine ⟨(server.left pPlayer).setPhase pPlayer .free, leaveCalls server pPlayer, ?_,
      leave_finish server pPlayer monitoring⟩
    simp [ChatServerRedis.step, leaving, chat, ChatContents.onLeave_run pPlayer server login]

theorem Performs.kept {other : Event} (performs : Performs config server use other)
    (outcome : StepCase config server event post calls) (differ : other.slot ≠ event.slot) :
    Performs config post use other := by
  obtain ⟨phase, _, player⟩ := outcome.frame differ
  cases performs with
  | login login monitor => exact .login (phase.trans login) monitor
  | leave chat monitoring => exact .leave (phase.trans chat) ((congrArg Player.bMonitoringLogin player).trans monitoring)

/-- The guarded code never disconnects the reserved session: what was tested is still
    there when it is read again. -/
theorem Performs.disconnect_valid (lifecycle : Lifecycle server)
    (performs : Performs config server use event)
    (taken : (chatServer config).step server event = some (post, calls)) {sessionID : ULONGLONG}
    (made : .disconnect sessionID ∈ calls) : sessionID ≠ maxULongLong := by
  cases performs with
  | login login monitor =>
    obtain ⟨_, result⟩ := step_loginRecv taken
    rw [loginResult_monitor monitor] at result
    cases result
    simp only [List.mem_append, mem_monitorCalls, List.mem_singleton] at made
    -- the one Disconnect stands behind the test
    obtain (same | ⟨set, same⟩ | same | same) | same := made <;> cases same
    exact set
  | leave chat monitoring =>
    cases step_cases taken with
    | chatLeave =>
      simp only [mem_leaveCalls, mem_removeCalls] at made
      obtain ⟨_, same | same⟩ | ⟨_, same⟩ | ⟨_, same⟩ := made <;> cases same
    | chatLeaveEarly chat login => exact absurd login (lifecycle.chat_bLogin chat)

theorem performs_kept (outcome : StepCase config server event post calls)
    {uses : List MonitorSection} {events : List Event}
    (performs : List.Forall₂ (Performs config server) uses events)
    (fresh : event.slot ∉ events.map Event.slot) :
    List.Forall₂ (Performs config post) uses events := by
  induction performs with
  | nil => exact .nil
  | cons first _ inductionHypothesis =>
    simp only [List.map_cons, List.mem_cons, not_or] at fresh
    exact .cons (first.kept outcome (Ne.symm fresh.1)) (inductionHypothesis fresh.2)

end Step

section Runs

variable {config : Config} {server : Server}

/-- The handlers of the sections, executed one after the other. -/
theorem performed (lifecycle : Lifecycle server) {uses : List MonitorSection} {events : List Event}
    (performs : List.Forall₂ (Performs config server) uses events)
    (once : (events.map Event.slot).Nodup) :
    ∃ later last, (chatServer config).execute server events = some (later, last) ∧
      serial MonitorSection.code uses server.guarded =
        (last.guarded, (later.flatMap Taken.calls).filter Call.disconnecting) ∧
      ∀ sessionID, .disconnect sessionID ∈ later.flatMap Taken.calls → sessionID ≠ maxULongLong := by
  induction events generalizing server uses with
  | nil =>
    cases performs
    exact ⟨[], server, rfl, rfl, by simp⟩
  | cons event events inductionHypothesis =>
    cases performs with
    | cons first rest =>
      obtain ⟨fresh, once⟩ := List.nodup_cons.mp once
      obtain ⟨post, calls, taken, finished⟩ := first.step lifecycle
      have outcome := step_cases taken
      obtain ⟨later, last, executed, serially, valid⟩ := inductionHypothesis
        (lifecycle.step outcome) (performs_kept outcome rest fresh) once
      refine ⟨⟨server, event, calls, post⟩ :: later, last, ?_, ?_, ?_⟩
      · exact System.execute_cons.mpr ⟨post, calls, later, taken, executed, rfl⟩
      · rw [serial, finished]
        simp [serially]
      · intro sessionID made
        rw [List.flatMap_cons, List.mem_append] at made
        rcases made with here | there
        · exact first.disconnect_valid lifecycle taken here
        · exact valid sessionID there

end Runs

namespace Sample

end Sample

end ChatServerRedis
