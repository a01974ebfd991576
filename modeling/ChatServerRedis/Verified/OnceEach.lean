import ChatServerRedis.Model.Network
import ChatServerRedis.Verified.Addressing
import ChatServerRedis.Verified.Broadcast

/-! # Nobody is told anything twice

The cells of a neighbourhood have different lists, whatever the centre is.  So a broadcast
meets no player twice, as long as there are only the lists of the block to meet: a use of
`listArr` behind the block reads other memory, and runs with one are left out.  Nor does
a handler call disconnect two sessions.
-/

namespace ChatServerRedis

open Placement Transition

/-! ## The lists of a neighbourhood -/

theorem step_of_mem_getSectorAround {sectorX sectorY : WORD} {cell : SectorCell}
    (member : cell ∈ getSectorAround sectorX sectorY) :
    (cell.sectorX.toInt - sectorX.toInt).natAbs ≤ 1 ∧ (cell.sectorY.toInt - sectorY.toInt).natAbs ≤ 1 := by
  have listed : cell.coordinates ∈ scalarAround sectorX.toInt sectorY.toInt := by
    rw [← getSectorAround_scalar]
    exact List.mem_map_of_mem member
  simp only [scalarAround, List.mem_map, List.mem_filter, mem_directions] at listed
  obtain ⟨⟨dx, dy⟩, ⟨small, _⟩, same⟩ := listed
  simp only [SectorCell.coordinates, Prod.mk.injEq] at same small
  omega

/-- A cell of the grid next to a centre outside of it has another list than the
    centre. -/
theorem sectorOffset_ne_centre {cell centre : SectorCell}
    (stepX : (cell.sectorX.toInt - centre.sectorX.toInt).natAbs ≤ 1)
    (stepY : (cell.sectorY.toInt - centre.sectorY.toInt).natAbs ≤ 1)
    (inside : cell.sectorX.toNat < 50 ∧ cell.sectorY.toNat < 50)
    (outside : ¬ (centre.sectorX.toNat < 50 ∧ centre.sectorY.toNat < 50)) :
    sectorOffset cell.sectorY.toNat cell.sectorX.toNat ≠
      sectorOffset centre.sectorY.toNat centre.sectorX.toNat := by
  simp only [sectorOffset, numOfSectorVertical]
  rw [BitVec.toInt_eq_toNat_cond, BitVec.toInt_eq_toNat_cond] at stepX stepY
  have boundX := centre.sectorX.isLt
  have boundY := centre.sectorY.isLt
  split at stepX <;> split at stepX <;> split at stepY <;> split at stepY <;> omega

theorem sectorOffset_injOn {sectorX sectorY : WORD} {first second : SectorCell}
    (memberFirst : first ∈ getSectorAround sectorX sectorY)
    (memberSecond : second ∈ getSectorAround sectorX sectorY)
    (same : sectorOffset first.sectorY.toNat first.sectorX.toNat =
      sectorOffset second.sectorY.toNat second.sectorX.toNat) : first = second := by
  obtain ⟨stepFirstX, stepFirstY⟩ := step_of_mem_getSectorAround memberFirst
  obtain ⟨stepSecondX, stepSecondY⟩ := step_of_mem_getSectorAround memberSecond
  have both : ∀ cell ∈ getSectorAround sectorX sectorY,
      ¬ (cell.sectorX.toNat < 50 ∧ cell.sectorY.toNat < 50) → cell = ⟨sectorX, sectorY⟩ :=
    fun cell member outside => (inGrid_of_mem_getSectorAround member).resolve_right outside
  by_cases insideFirst : first.sectorX.toNat < 50 ∧ first.sectorY.toNat < 50
  · by_cases insideSecond : second.sectorX.toNat < 50 ∧ second.sectorY.toNat < 50
    · obtain ⟨sameY, sameX⟩ := sectorOffset_injective insideFirst.1 insideSecond.1 same
      cases first
      cases second
      simp only [SectorCell.mk.injEq]
      exact ⟨BitVec.eq_of_toNat_eq sameX, BitVec.eq_of_toNat_eq sameY⟩
    · obtain rfl := both second memberSecond insideSecond
      exact absurd same (sectorOffset_ne_centre stepFirstX stepFirstY insideFirst insideSecond)
  · obtain rfl := both first memberFirst insideFirst
    by_cases insideSecond : second.sectorX.toNat < 50 ∧ second.sectorY.toNat < 50
    · exact absurd same.symm (sectorOffset_ne_centre stepSecondX stepSecondY insideSecond insideFirst)
    · exact (both second memberSecond insideSecond).symm

/-! ## The packets of one step -/

/-- The sessions that packets are queued for, in order. -/
def sessionsSent (calls : List Call) : List ULONGLONG :=
  calls.filterMap fun made => made.sent.map Prod.fst

def sessionsDisconnected (calls : List Call) : List ULONGLONG :=
  calls.filterMap fun made =>
    match made with
    | .disconnect sessionID => some sessionID
    | _ => none

section Step

variable {config : Config} {server post : Server} {event : Event} {calls : List Call}
  {pPlayer : PlayerPtr}

/-- A broadcast walks through nobody twice, from any centre. -/
theorem audience_around_nodup (placed : Placed server.sectors server.place) (sectorX sectorY : WORD) :
    (server.audience (getSectorAround sectorX sectorY)).Nodup := by
  refine List.nodup_flatMap.mpr ⟨fun cell _ => (placed _).nodup, ?_⟩
  refine (getSectorAround_nodup _ _).imp_of_mem fun {first second} memberFirst memberSecond differ => ?_
  intro pPlayer here there
  exact differ (sectorOffset_injOn memberFirst memberSecond (placed.unique here there))

theorem chat_of_audience (placed : Placed server.sectors server.place) {cells : List SectorCell}
    (member : pPlayer ∈ server.audience cells) : server.phase pPlayer = .chat := by
  obtain ⟨cell, _, linked⟩ := List.mem_flatMap.mp member
  exact chat_of_linked placed linked

theorem sessionsSent_broadcastCalls (messageLen : WORD) (message : List BYTE) :
    sessionsSent (broadcastCalls config server pPlayer messageLen message ++ [.updateCntTps]) =
      (server.audience (getSectorAround (server.players pPlayer).sectorX
        (server.players pPlayer).sectorY)).map fun other => (server.players other).sessionId := by
  simp only [sessionsSent, broadcastCalls, cellCalls, Server.audience, List.filterMap_append,
    List.filterMap_flatMap, List.map_flatMap]
  simp [List.filterMap_map, Call.sent]

theorem sessionsSent_quiet (quiet : calls.all Call.quiet = true) : sessionsSent calls = [] := by
  refine List.filterMap_eq_nil_iff.mpr fun made member => ?_
  have harmless := List.all_eq_true.mp quiet made member
  cases made <;> first | rfl | cases harmless

theorem sessionsSent_removeCalls : sessionsSent (removeCalls server pPlayer) = [] := by
  refine List.filterMap_eq_nil_iff.mpr fun made member => ?_
  obtain ⟨_, rfl⟩ := mem_removeCalls.mp member
  rfl

theorem sessionsSent_moveCalls (sectorX sectorY : WORD) :
    sessionsSent (moveCalls config server pPlayer sectorX sectorY ++ [.updateCntTps]) =
      [(server.players pPlayer).sessionId] := by
  rw [moveCalls, sessionsSent, List.filterMap_append, List.filterMap_append, ← sessionsSent,
    sessionsSent_removeCalls]
  rfl

theorem sessionsSent_enterCalls : sessionsSent (enterCalls config server pPlayer) =
    if (server.players pPlayer).bMonitoringLogin then [] else [(server.players pPlayer).sessionId] := by
  unfold enterCalls formerDisconnect
  split
  · rfl
  · split <;> rfl

theorem sessionsSent_leaveCalls : sessionsSent (leaveCalls server pPlayer) = [] := by
  refine List.filterMap_eq_nil_iff.mpr fun made member => ?_
  simp only [mem_leaveCalls, mem_removeCalls] at member
  obtain ⟨_, rfl | rfl⟩ | ⟨_, rfl⟩ | ⟨_, rfl⟩ := member <;> rfl

theorem sessionsSent_monitorCalls :
    sessionsSent (monitorCalls server pPlayer ++ [.updateCntTps]) = [] := by
  refine List.filterMap_eq_nil_iff.mpr fun made member => ?_
  simp only [List.mem_append, mem_monitorCalls, List.mem_singleton] at member
  obtain (rfl | ⟨_, rfl⟩ | rfl | rfl) | rfl := member <;> rfl

theorem StepCase.sent_once (lifecycle : Lifecycle server)
    (placed : Placed server.sectors server.place)
    (outcome : StepCase config server event post calls) : (sessionsSent calls).Nodup := by
  cases outcome with
  | spoke =>
    rw [sessionsSent_broadcastCalls]
    refine (audience_around_nodup placed _ _).map_on ?_
    intro first memberFirst second memberSecond same
    exact lifecycle.sessionId_injective (chat_of_audience placed memberFirst)
      (chat_of_audience placed memberSecond) same
  | moved =>
    rw [sessionsSent_moveCalls]
    exact List.nodup_singleton _
  | chatEnter =>
    rw [sessionsSent_enterCalls]
    split
    · exact List.nodup_nil
    · exact List.nodup_singleton _
  | loginIdle _ _ _ quiet | chatIdle _ _ _ quiet =>
    rw [sessionsSent_quiet quiet]
    exact List.nodup_nil
  | monitorLogin =>
    rw [sessionsSent_monitorCalls]
    exact List.nodup_nil
  | chatLeave =>
    rw [sessionsSent_leaveCalls]
    exact List.nodup_nil
  | chatLeaveEarly chat login => exact absurd login (lifecycle.chat_bLogin chat)
  | sectorInfo => exact List.nodup_singleton _
  | accept | loginEnter | loggedIn | loginLeave => exact List.nodup_nil

theorem sessionsDisconnected_eq_nil (spared : ∀ sessionID, .disconnect sessionID ∉ calls) :
    sessionsDisconnected calls = [] := by
  refine List.filterMap_eq_nil_iff.mpr fun made member => ?_
  cases made with
  | disconnect sessionID => exact absurd member (spared sessionID)
  | _ => rfl

theorem loginResult_disconnected {typeLocal : WORD} {reply : Reply} {beyond : Nat → BYTE}
    {pPacket : List BYTE}
    (result : loginResult config server pPlayer typeLocal reply beyond pPacket = some (post, calls)) :
    (sessionsDisconnected calls).length ≤ 1 := by
  cases login_cases result with
  | truncated type leaves => obtain rfl | rfl := leaves <;> exact Nat.le_refl 1
  | refused | denied => exact Nat.le_refl 1
  | granted | heartbeat => exact Nat.zero_le 1
  | monitor =>
    unfold monitorCalls
    split
    · exact Nat.le_refl 1
    · exact Nat.zero_le 1

theorem requestResult_disconnected {request : ChatRequest}
    (result : requestResult config server pPlayer request = some (post, calls)) :
    (sessionsDisconnected calls).length ≤ 1 := by
  cases request_cases result with
  | moved | spoke | sectorInfo =>
    rw [sessionsDisconnected_eq_nil]
    · exact Nat.zero_le 1
    · simp [mem_moveCalls, mem_removeCalls, mem_broadcastCalls]
  | heartbeat => exact Nat.zero_le 1
  | refusedMove | refusedMessage | refused | malformed | unknown => exact Nat.le_refl 1

theorem step_disconnected_once (lifecycle : Lifecycle server)
    (taken : (chatServer config).step server event = some (post, calls)) :
    (sessionsDisconnected calls).length ≤ 1 := by
  have outcome := step_cases taken
  cases event with
  | loginRecv => exact loginResult_disconnected (step_loginRecv taken).2
  | chatRecv => exact requestResult_disconnected (step_chatRecv taken).2
  | chatEnter =>
    cases outcome
    unfold enterCalls formerDisconnect
    split
    · exact Nat.zero_le 1
    · split
      · exact Nat.le_refl 1
      · exact Nat.zero_le 1
  | chatLeave =>
    cases outcome with
    | chatLeave =>
      rw [sessionsDisconnected_eq_nil]
      · exact Nat.zero_le 1
      · simp [mem_leaveCalls, mem_removeCalls]
    | chatLeaveEarly chat login => exact absurd login (lifecycle.chat_bLogin chat)
  | accept | loginEnter | loginLeave =>
    cases outcome
    exact Nat.zero_le 1

end Step

def Call.inBlock : Call → Bool
  | .listArr _ y x => decide (sectorOffset y x < sectorBlock)
  | _ => true

/-- A run that uses no list behind the block. -/
structure BlockRun (config : Config) (history : List Step) (state : Server) : Prop where
  run : ServerRun config history state
  inBlock : ∀ taken ∈ history, ∀ call ∈ taken.calls, call.inBlock = true

/-- No handler call queues two packets for one session, also where the coordinate 50
    leads to the list of another sector. -/
theorem sessionsSent_nodup {config : Config} {history : List Step} {state : Server}
    (run : BlockRun config history state) : ∀ taken ∈ history, (sessionsSent taken.calls).Nodup :=
  run.run.forall_mem fun _ _ _ _ _ reached outcome =>
    outcome.sent_once reached.lifecycle reached.placed

/-- A player whose slot was left with (50, 0) speaks before it moves: the list of its
    centre is the one of (0, 1). -/
theorem sessionsSent_nodup_sample :
    let played := (Sample.play ([.accept 0 5 { Sample.memory with sectorX := 50 }, .loginEnter 0,
      .loginRecv 0 0 (.bulkString Sample.sessionKey) (fun _ => 0) (Sample.loginPacket 7)] ++
      Sample.login 1 6 8 ++ [.chatEnter 0, .chatEnter 1,
        .chatRecv 1 (sectorMoveWire Sample.config 8 0 1),
        .chatRecv 0 (messageWire Sample.config 7 2 [72, 105])])).get (by decide +kernel)
    (played.1.map fun taken => sessionsSent taken.calls) = [[], [], [], [], [], [], [5], [6], [6], [6]] ∧
      ∀ taken ∈ played.1, (sessionsSent taken.calls).Nodup := by
  intro played
  exact ⟨by decide +kernel, sessionsSent_nodup ⟨Sample.play_run _ (by decide +kernel), by decide +kernel⟩⟩

end ChatServerRedis
