import ChatServerRedis.General.Locking
import ChatServerRedis.Verified.Lifecycle

/-! # MonitorSectorInfoCs

The section is entered for a monitoring login and when a monitoring client leaves.  The
`catch` block of `LoginContents::OnRecv` leaves it when the local `Type` holds the label
of the monitoring login, although nothing throws while the section is held.
-/

namespace ChatServerRedis

open Handlers Transition Locking LoginContents

def Call.lockOp : Call → Option LockOp
  | .enterCriticalSection => some .acquire
  | .leaveCriticalSection => some .release
  | _ => none

section Handlers

variable {config : Config} {server : Server} {pPlayer : PlayerPtr} {typeLocal : WORD} {reply : Reply}
  {beyond : Nat → BYTE} {pPacket rest : List BYTE}

/-! ## LOGIN -/

theorem copyText_avoids {length : Nat} (destination : Vector WCHAR length)
    (source : Option (List BYTE)) : Avoids Call.lockOp (copyText destination source) := by
  unfold copyText
  split
  · exact .pure _
  · exact .stop _

theorem memcmpDiffers_avoids (first : Option (List BYTE)) (second : Nat → BYTE) (size : Nat) :
    Avoids Call.lockOp (memcmpDiffers first second size) := by
  cases first with
  | none => exact .stop _
  | some bytes => exact .pure _

theorem extract_avoids (width : Nat) (pPacket : List BYTE) :
    Avoids Call.lockOp (extract width pPacket) := by
  unfold extract
  split
  · exact .pure _
  · exact .raise _

theorem csChatReqLogin_avoids :
    Avoids Call.lockOp (csChatReqLogin config reply beyond pPlayer pPacket) := by
  unfold csChatReqLogin csChatReqLoginOver
  apply Avoids.bind (.bind .readState fun _ => .pure _)
  intro sessionID
  apply Avoids.bind .readState
  intro state
  apply Avoids.ite (fun _ => .call rfl)
  intro room
  apply Avoids.bind (.bind (extract_avoids 8 pPacket) fun _ => .pure _)
  intro field
  apply Avoids.bind (.call rfl)
  intro _
  dsimp only
  apply Avoids.ite (fun _ => .call rfl)
  intro present
  apply Avoids.bind (memcmpDiffers_avoids _ _ _)
  intro failed
  apply Avoids.ite (fun _ => .call rfl)
  intro matched
  apply Avoids.bind (.modifyState _)
  intro _
  apply Avoids.bind (.modifyState _)
  intro _
  apply Avoids.bind (.bind .readState fun _ => .pure _)
  intro player
  apply Avoids.bind (copyText_avoids _ _)
  intro ID
  apply Avoids.bind (.modifyState _)
  intro _
  apply Avoids.bind (.bind .readState fun _ => .pure _)
  intro player
  apply Avoids.bind (copyText_avoids _ _)
  intro nickName
  apply Avoids.bind (.modifyState _)
  intro _
  exact .bind (.call rfl) fun _ => .modifyState _

theorem dispatch_avoids (ordinary : ¬ IsMonitorLogin config pPacket) :
    Avoids Call.lockOp
      (dispatch config (csChatReqLogin config reply beyond pPlayer) pPacket pPlayer) := by
  intro machine
  rw [dispatch, bind_apply, extractWord_apply]
  cases type : readWord pPacket with
  | none => rfl
  | some field =>
    obtain ⟨label, rest⟩ := field
    have other : label ≠ config.csChatMonitorClientLogin := fun monitor =>
      ordinary ⟨rest, monitor ▸ type⟩
    dsimp only
    rw [if_neg other]
    apply Avoids.ite (fun _ => csChatReqLogin_avoids)
    intro _
    exact .ite (fun _ => .pure _) fun _ => .stop _

/-- The `catch` block leaves the section only when it finds that label in `Type`. -/
theorem onRecv_avoids (unguarded : typeAtCatch typeLocal pPacket ≠ config.csChatMonitorClientLogin) :
    Avoids Call.lockOp (LoginContents.onRecv config typeLocal reply beyond pPacket pPlayer) := by
  have ordinary : ¬ IsMonitorLogin config pPacket := by
    intro monitor
    obtain ⟨rest, type⟩ := monitor
    rw [typeAtCatch_eq, type] at unguarded
    exact unguarded rfl
  apply Avoids.bind (.catchThrown (dispatch_avoids ordinary) fun errCode => ?_) fun _ => .call rfl
  rw [if_neg unguarded]
  cases errCode with
  | packetExtractFail =>
    apply Avoids.bind (.bind .readState fun _ => .pure _)
    intro sessionID
    exact .bind (.call rfl) fun _ => .pure _
  | packetResizeFail => exact .bind (.call rfl) fun _ => .bind (.stop _) fun _ => .pure _

theorem callsMade_of_run {α : Type} {handler : ChatServerRedis.Handler α} {post : Server}
    {calls : List Call} (returns : run handler server = some (post, calls)) :
    callsMade handler server = calls := by
  obtain ⟨value, outcome⟩ := run_eq_some.mp returns
  rw [callsMade, outcome, left]

/-- The packet is too short for its type, and the local `Type` happens to hold the label
    of the monitoring login. -/
def StaleMonitor (config : Config) (typeLocal : WORD) (pPacket : List BYTE) : Prop :=
  pPacket.length < 2 ∧ typeLocal = config.csChatMonitorClientLogin

theorem onRecv_balanced_iff :
    Balanced (lockOps Call.lockOp
      (callsMade (LoginContents.onRecv config typeLocal reply beyond pPacket pPlayer) server)) ↔
      ¬ StaleMonitor config typeLocal pPacket := by
  by_cases unguarded : typeAtCatch typeLocal pPacket ≠ config.csChatMonitorClientLogin
  · rw [(onRecv_avoids unguarded).callsMade]
    apply iff_of_true .nil
    rintro ⟨short, stale⟩
    rw [typeAtCatch_eq, readWord_eq_none.mpr short] at unguarded
    exact unguarded stale
  · rw [ne_eq, not_not, typeAtCatch_eq] at unguarded
    have returns := LoginContents.onRecv_run config typeLocal reply beyond pPacket pPlayer server
    cases type : readWord pPacket with
    | none =>
      -- the extraction throws and the `catch` block leaves a section it does not hold
      have stale : typeLocal = config.csChatMonitorClientLogin := by simpa [type] using unguarded
      simp only [loginResult, type, if_pos stale] at returns
      rw [callsMade_of_run returns]
      exact iff_of_false not_balanced_release (not_not.mpr ⟨readWord_eq_none.mp type, stale⟩)
    | some field =>
      obtain ⟨label, rest⟩ := field
      obtain rfl : label = config.csChatMonitorClientLogin := by simpa [type] using unguarded
      rw [loginResult_monitor ⟨rest, type⟩] at returns
      rw [callsMade_of_run returns]
      have paired : lockOps Call.lockOp (monitorCalls server pPlayer ++ [.updateCntTps]) =
          [.acquire, .release] := by
        unfold monitorCalls
        split <;> rfl
      rw [paired]
      apply iff_of_true .pair
      intro stale
      rw [readWord_eq_none.mpr stale.1] at type
      cases type

/-! ## CHAT -/

theorem lockOps_onLeave :
    lockOps Call.lockOp (callsMade (ChatContents.onLeave pPlayer) server) =
      if (server.players pPlayer).bMonitoringLogin then [.acquire, .release] else [] := by
  cases login : (server.players pPlayer).bLogin with
  | false =>
    rw [callsMade_of_run (ChatContents.onLeave_run_early pPlayer server login)]
    split <;> rfl
  | true =>
    rw [callsMade_of_run (ChatContents.onLeave_run pPlayer server login)]
    have others : lockOps Call.lockOp ((if server.loginPlayerMap (server.players pPlayer).accountNo =
        none then [.endDereference] else []) ++ removeCalls server pPlayer) = [] := by
      unfold removeCalls
      split <;> split <;> rfl
    rw [leaveCalls, List.append_assoc, lockOps_append, others, List.append_nil]
    split <;> rfl

theorem onLeave_balanced :
    Balanced (lockOps Call.lockOp (callsMade (ChatContents.onLeave pPlayer) server)) := by
  rw [lockOps_onLeave]
  split
  · exact .pair
  · exact .nil

end Handlers

/-! ## Sequences of handler calls -/

/-- The handler calls that may use the section. -/
inductive Visit where
  | loginRecv (pPlayer : PlayerPtr) (typeLocal : WORD) (reply : Reply) (beyond : Nat → BYTE)
      (pPacket : List BYTE)
  | chatLeave (pPlayer : PlayerPtr)

def Visit.handler (config : Config) : Visit → Handler Unit
  | .loginRecv pPlayer typeLocal reply beyond pPacket =>
    LoginContents.onRecv config typeLocal reply beyond pPacket pPlayer
  | .chatLeave pPlayer => ChatContents.onLeave pPlayer

def Visit.Stale (config : Config) : Visit → Prop
  | .loginRecv _ typeLocal _ _ pPacket => StaleMonitor config typeLocal pPacket
  | .chatLeave _ => False

/-- What a handler call does to the section, on whatever state the server is in. -/
def Visit.lockOps (config : Config) (server : Server) (visit : Visit) : List LockOp :=
  Locking.lockOps Call.lockOp (callsMade (visit.handler config) server)

theorem visit_balanced_iff (config : Config) (server : Server) (visit : Visit) :
    Balanced (visit.lockOps config server) ↔ ¬ visit.Stale config := by
  cases visit with
  | loginRecv => exact onRecv_balanced_iff
  | chatLeave => exact iff_of_true onLeave_balanced not_false

/-- Every handler call of a sequence gives the section back as often as it takes it, and
    only while it holds it, exactly when no packet of the sequence is stale. -/
theorem visits_balanced_iff (config : Config) (visits : List (Server × Visit)) :
    (∀ visit ∈ visits, Balanced (visit.2.lockOps config visit.1)) ↔
      ∀ visit ∈ visits, ¬ visit.2.Stale config :=
  forall₂_congr fun visit _ => visit_balanced_iff config visit.1 visit.2

/-- One byte in LOGIN while the local `Type` still holds the monitoring label: the
    `catch` block leaves a section that nobody has entered. -/
theorem lone_byte_releases :
    let played := (Sample.play [.accept 6 9 Sample.memory, .loginEnter 6]).get (by decide +kernel)
    let visit : Visit := .loginRecv 6 Sample.config.csChatMonitorClientLogin .null (fun _ => 0) [7]
    ServerRun Sample.config played.1 played.2 ∧ played.2.phase 6 = .login ∧
    visit.lockOps Sample.config played.2 = [.release] ∧
    ¬ ∀ each ∈ [(played.2, visit)], Balanced (Visit.lockOps Sample.config each.1 each.2) := by
  intro played visit
  have released : visit.lockOps Sample.config played.2 = [.release] := by decide +kernel
  refine ⟨Sample.play_run _ _, by decide +kernel, released, fun balanced => ?_⟩
  have alone := balanced (played.2, visit) List.mem_cons_self
  rw [released] at alone
  exact not_balanced_release alone

/-! ## Runs -/

section Runs

variable {config : Config} {history : List Step} {state post : Server} {event : Event}
  {calls : List Call}

def Event.Stale (config : Config) : Event → Prop
  | .loginRecv _ typeLocal _ _ pPacket => StaleMonitor config typeLocal pPacket
  | _ => False

def Call.ofRequest : Call → Bool
  | .disconnect _ | .sendPacket _ _ | .enqPacket _ _ | .listArr _ _ _ | .updateCntTps => true
  | _ => false

theorem requestResult_ofRequest {pPlayer : PlayerPtr} {request : ChatRequest}
    (result : requestResult config state pPlayer request = some (post, calls)) :
    ∀ made ∈ calls, made.ofRequest = true := by
  intro made member
  cases request_cases result with
  | moved =>
    simp only [List.mem_append, mem_moveCalls, mem_removeCalls, List.mem_singleton] at member
    obtain (⟨_, rfl⟩ | rfl | rfl) | rfl := member <;> rfl
  | spoke =>
    simp only [List.mem_append, mem_broadcastCalls, List.mem_singleton] at member
    obtain ⟨cell, _, rfl | ⟨other, _, rfl⟩⟩ | rfl := member <;> rfl
  | heartbeat | malformed =>
    rw [List.mem_singleton.mp member]
    rfl
  | refusedMove | refusedMessage | sectorInfo | refused | unknown =>
    simp only [List.mem_cons, List.not_mem_nil, or_false] at member
    obtain rfl | rfl := member <;> rfl

theorem lockOps_requestResult {pPlayer : PlayerPtr} {request : ChatRequest}
    (result : requestResult config state pPlayer request = some (post, calls)) :
    lockOps Call.lockOp calls = [] := by
  apply List.filterMap_eq_nil_iff.mpr
  intro made member
  have request := requestResult_ofRequest result made member
  cases made <;> first | rfl | cases request

theorem lockOps_step (taken : (chatServer config).step state event = some (post, calls))
    (fresh : ¬ event.Stale config) : Balanced (lockOps Call.lockOp calls) := by
  cases event with
  | loginRecv pPlayer typeLocal reply beyond pPacket =>
    simp only [chatServer, step] at taken
    split at taken
    · rw [← callsMade_of_run taken]
      exact onRecv_balanced_iff.mpr fresh
    · cases taken
  | chatLeave pPlayer =>
    simp only [chatServer, step, leaving] at taken
    split at taken
    · simp only [Option.map_eq_some_iff, Prod.exists, Prod.mk.injEq] at taken
      obtain ⟨left, made, returns, rfl, rfl⟩ := taken
      rw [← callsMade_of_run returns]
      exact onLeave_balanced
    · cases taken
  | chatRecv pPlayer pPacket =>
    rw [lockOps_requestResult (step_chatRecv taken).2]
    exact .nil
  | chatEnter pPlayer =>
    cases step_cases taken
    have others : lockOps Call.lockOp (enterCalls config state pPlayer) = [] := by
      apply List.filterMap_eq_nil_iff.mpr
      intro made member
      obtain rfl | ⟨_, ⟨_, _, rfl⟩ | rfl⟩ := mem_enterCalls.mp member <;> rfl
    rw [others]
    exact .nil
  | accept | loginEnter | loginLeave =>
    cases step_cases taken
    exact .nil

/-- In a run without a stale packet the section is free after every step. -/
theorem ServerRun.lock_balanced (run : ServerRun config history state)
    (fresh : ∀ taken ∈ history, ¬ taken.event.Stale config) :
    Balanced (lockOps Call.lockOp (history.flatMap Taken.calls)) := by
  induction run with
  | start _ => exact .nil
  | @snoc history state post event calls run taken inductionHypothesis =>
    rw [List.flatMap_append, lockOps_append]
    have before := inductionHypothesis fun other member => fresh other (List.mem_append_left _ member)
    have here : ¬ event.Stale config := fresh ⟨state, event, calls, post⟩ (by simp)
    apply before.append
    rw [List.flatMap_singleton]
    exact lockOps_step taken here

end Runs

end ChatServerRedis
