import ChatServerRedis.General.PastTime
import ChatServerRedis.Model.MonitoredServer
import ChatServerRedis.Verified.Lifecycle
import ChatServerRedis.Verified.ShutDown

/-! # What the monitoring server is told

However the calls of `OnMonitor` fall between the handler calls, `CHAT_UPDATE_TPS` is the
number of packets counted since the last exchange and `CHAT_PLAYER` the number of players
in CHAT at the time it was read.
-/

namespace ChatServerRedis

open Handlers PastTime Transition

/-- A malformed packet leaves `OnRecv` early. -/
def ChatRequest.reachesEnd : ChatRequest → Bool
  | .malformed => false
  | _ => true

/-- The packets that reach the end of their `OnRecv`. -/
def isCounted (config : Config) : Event → Bool
  | .loginRecv _ _ _ _ _ => true
  | .chatRecv _ pPacket => (decodeRequest config pPacket).reachesEnd
  | _ => false

section Counting

variable {config : Config} {server post : Server} {event : Event} {calls : List Call}
  {pPlayer : PlayerPtr}

theorem count_monitorCalls : (monitorCalls server pPlayer).count .updateCntTps = 0 :=
  List.count_eq_zero.mpr (by simp [mem_monitorCalls])

theorem count_loginResult {typeLocal : WORD} {reply : Reply} {beyond : Nat → BYTE}
    {pPacket : List BYTE}
    (result : loginResult config server pPlayer typeLocal reply beyond pPacket = some (post, calls)) :
    calls.count .updateCntTps = 1 := by
  cases login_cases result with
  | truncated type leaves => obtain rfl | rfl := leaves <;> rfl
  | refused | denied | granted | heartbeat => rfl
  | monitor =>
    rw [List.count_append, count_monitorCalls]
    rfl

theorem count_requestResult {request : ChatRequest}
    (result : requestResult config server pPlayer request = some (post, calls)) :
    calls.count .updateCntTps = if request.reachesEnd then 1 else 0 := by
  cases request_cases result with
  | @moved _ sectorX sectorY =>
    have moves : .updateCntTps ∉ moveCalls config server pPlayer sectorX sectorY := by
      simp [mem_moveCalls, mem_removeCalls]
    rw [List.count_append, List.count_eq_zero.mpr moves]
    rfl
  | @spoke _ messageLen message =>
    have broadcasts : .updateCntTps ∉ broadcastCalls config server pPlayer messageLen message := by
      simp [mem_broadcastCalls]
    rw [List.count_append, List.count_eq_zero.mpr broadcasts]
    rfl
  | refusedMove | refusedMessage | heartbeat | sectorInfo | refused | malformed | unknown => rfl

theorem count_step (lifecycle : Lifecycle server)
    (taken : (chatServer config).step server event = some (post, calls)) :
    calls.count .updateCntTps = if isCounted config event then 1 else 0 := by
  have outcome := step_cases taken
  cases event with
  | loginRecv => exact count_loginResult (step_loginRecv taken).2
  | chatRecv => exact count_requestResult (step_chatRecv taken).2
  | accept | loginEnter | loginLeave =>
    cases outcome
    rfl
  | chatEnter =>
    cases outcome with
    | chatEnter => exact List.count_eq_zero.mpr (by simp [mem_enterCalls])
  | chatLeave =>
    cases outcome with
    | chatLeave => exact List.count_eq_zero.mpr (by simp [mem_leaveCalls, mem_removeCalls])
    | chatLeaveEarly chat login => exact absurd login (lifecycle.chat_bLogin chat)

end Counting

/-! ## Runs with the monitoring thread -/

namespace MonitoredEvent

def isExchange : MonitoredEvent → Bool
  | .exchange _ => true
  | _ => false

def isCounted (config : Config) : MonitoredEvent → Bool
  | .handler event => ChatServerRedis.isCounted config event
  | _ => false

end MonitoredEvent

/-- The packets counted since the last exchange. -/
def countedSince (config : Config) (history : List MonitoredStep) : Nat :=
  (sinceLast (fun taken => taken.event.isExchange) history).countP
    fun taken => taken.event.isCounted config

/-- At the last reading of `lPlayerNum_` that many players were in CHAT. -/
def LastReading (playerNum : Int) : List MonitoredStep → Prop :=
  Since (fun taken => taken.event ≠ .readPlayerNum) fun taken =>
    taken.event = .readPlayerNum ∧ playerNum = taken.pre.server.playerList.length

structure Accounted (config : Config) (history : List MonitoredStep) (monitored : MonitoredServer) :
    Prop where
  reached : ∃ handled, ServerRun config handled monitored.server
  counter : monitored.updateCntTps = BitVec.ofNat 32 (countedSince config history)
  reading : ∀ playerNum, monitored.playerNum = some playerNum → LastReading playerNum history

section Monitored

variable {config : Config} {history : List MonitoredStep} {monitored post : MonitoredServer}
  {event : MonitoredEvent} {calls : List MonitoredCall}

theorem countedSince_snoc (taken : MonitoredStep) :
    countedSince config (history ++ [taken]) = if taken.event.isExchange then 0 else
      countedSince config history + if taken.event.isCounted config then 1 else 0 := by
  unfold countedSince
  rw [sinceLast_snoc]
  split
  · rfl
  · rw [List.countP_append, List.countP_singleton]

theorem Accounted.initial (memory : PlayerPtr → Player) :
    Accounted config [] (MonitoredServer.initial memory) where
  reached := ⟨[], .start ⟨memory, rfl⟩⟩
  counter := rfl
  reading := by simp [MonitoredServer.initial]

theorem Accounted.step (accounted : Accounted config history monitored)
    (taken : (monitoredServer config).step monitored event = some (post, calls)) :
    Accounted config (history ++ [⟨monitored, event, calls, post⟩]) post := by
  obtain ⟨handled, reached⟩ := accounted.reached
  simp only [monitoredServer] at taken
  cases event with
  | handler event =>
    simp only [MonitoredServer.step, Option.map_eq_some_iff, Prod.exists, Prod.mk.injEq] at taken
    obtain ⟨server, made, step, rfl, rfl⟩ := taken
    refine ⟨⟨_, reached.snoc step⟩, ?_, fun playerNum reading => ?_⟩
    · rw [countedSince_snoc, count_step reached.lifecycle step, accounted.counter, ← BitVec.ofNat_add]
      rfl
    · exact (since_snoc _ _ _ _).mpr (.inr ⟨by simp, accounted.reading playerNum reading⟩)
  | readPlayerNum =>
    simp only [MonitoredServer.step] at taken
    split at taken
    · cases taken
      refine ⟨⟨_, reached⟩, ?_, fun playerNum reading => ?_⟩
      · rw [countedSince_snoc, accounted.counter]
        rfl
      · cases reading
        exact (since_snoc _ _ _ _).mpr (.inl ⟨rfl, reached.lifecycle.counted⟩)
    · cases taken
  | exchange reading =>
    simp only [MonitoredServer.step] at taken
    split at taken
    · cases taken
    · cases taken
      -- the counter starts again, and the reading is used up
      refine ⟨⟨_, reached⟩, ?_, by simp⟩
      rw [countedSince_snoc]
      rfl

theorem MonitoredRun.accounted (run : MonitoredRun config history monitored) :
    Accounted config history monitored := by
  refine run.induction ?_ fun history state event post calls _ accounted taken => accounted.step taken
  rintro _ ⟨memory, rfl⟩
  exact .initial memory

theorem LoginChatServer.mem_onMonitor {reading : Reading} {monitor : LoginChatServer}
    {dataType : MonitorDataType} {value curTime : Int}
    (sent : .sendToMonitoringServer dataType value curTime ∈
      (complete (LoginChatServer.onMonitor reading) monitor).2) :
    dataType = .chatServerRun ∨ value = reading.value dataType := by
  rw [complete_eq (LoginChatServer.onMonitor_apply monitor reading)] at sent
  simp only [List.mem_cons, reduceCtorEq, false_or, LoginChatServer.lastCalls] at sent
  split at sent
  · simp at sent
  · split at sent
    · simp only [List.mem_cons, MonitorCall.sendToMonitoringServer.injEq, List.mem_map] at sent
      obtain ⟨rfl, _⟩ | ⟨_, _, rfl, rfl, _⟩ := sent
      · exact .inl rfl
      · exact .inr rfl
    · cases sent

/-- What a call of `OnMonitor` reports: the packets counted since the call before it, with
    the overflow of a `LONG`, and the players in CHAT when `lPlayerNum_` was read. -/
theorem reports_exact (run : MonitoredRun config history monitored) :
    ∀ before taken after, history = before ++ taken :: after →
      ∀ dataType value curTime, .onMonitor (.sendToMonitoringServer dataType value curTime) ∈ taken.calls →
      (dataType = .chatUpdateTps → value = (BitVec.ofNat 32 (countedSince config before)).toInt) ∧
      (dataType = .chatPlayer → LastReading value before) := by
  rintro before taken after rfl dataType value curTime sent
  obtain ⟨reached, step⟩ := Run.split run
  have accounted := MonitoredRun.accounted reached
  obtain ⟨pre, event, calls, post⟩ := taken
  simp only [monitoredServer] at step
  cases event with
  | handler event =>
    simp only [MonitoredServer.step, Option.map_eq_some_iff, Prod.exists, Prod.mk.injEq] at step
    obtain ⟨_, _, _, _, rfl⟩ := step
    simp at sent
  | readPlayerNum =>
    simp only [MonitoredServer.step] at step
    split at step
    · cases step
      cases sent
    · cases step
  | exchange reading =>
    simp only [MonitoredServer.step] at step
    split at step
    · cases step
    · next playerNum pending =>
      cases step
      simp only [List.mem_map, MonitoredCall.onMonitor.injEq, exists_eq_right] at sent
      have told := LoginChatServer.mem_onMonitor sent
      refine ⟨?_, ?_⟩
      · rintro rfl
        obtain running | told := told
        · cases running
        · rw [told, ← accounted.counter]
          rfl
      · rintro rfl
        obtain running | told := told
        · cases running
        · rw [told]
          exact accounted.reading playerNum pending

end Monitored

namespace Sample

def reading : Reading where
  homeKeyState := 0
  bLogin := true
  acceptTPS := 3
  recvTPS := 5
  value := fun _ => 0
  curTime := 100

def monitor (events : List MonitoredEvent) : Option (List MonitoredStep × MonitoredServer) :=
  (monitoredServer config).execute (MonitoredServer.initial fun _ => memory) events

theorem monitor_run (events : List MonitoredEvent) (played : (monitor events).isSome = true) :
    MonitoredRun config ((monitor events).get played).1 ((monitor events).get played).2 := by
  have start : MonitoredRun config [] (MonitoredServer.initial fun _ => memory) := .start ⟨_, rfl⟩
  exact Run.execute start (Option.some_get played).symm

end Sample

/-- The second call of `OnMonitor`: a packet is handled between its two readings, and a
    second player has come since the first of them. -/
theorem reports_exact_sample :
    let played := (Sample.monitor ((Sample.login 0 5 7).map .handler ++ [.handler (.chatEnter 0),
      .readPlayerNum, .exchange Sample.reading, .readPlayerNum,
      .handler (.chatRecv 0 (wordBytes Sample.config.csChatReqHeartbeat)),
      .handler (.chatRecv 0 (sectorMoveWire Sample.config 7 1 1 ++ [0]))] ++
      (Sample.login 1 6 8).map .handler ++ [.handler (.chatEnter 1)])).get (by decide +kernel)
    (BitVec.ofNat 32 (countedSince Sample.config played.1)).toInt = 2 ∧ LastReading 1 played.1 := by
  intro played
  have run : MonitoredRun Sample.config played.1 played.2 := Sample.monitor_run _ (by decide +kernel)
  let last := (monitoredServer Sample.config).taken played.2 (.exchange Sample.reading) (by decide +kernel)
  have next : MonitoredRun Sample.config (played.1 ++ [last]) last.post := run.advance _
  have exact := reports_exact next played.1 last [] rfl
  have updates : .onMonitor (.sendToMonitoringServer .chatUpdateTps 2 100) ∈ last.calls := by decide +kernel
  have players : .onMonitor (.sendToMonitoringServer .chatPlayer 1 100) ∈ last.calls := by decide +kernel
  exact ⟨((exact .chatUpdateTps 2 100 updates).1 rfl).symm, (exact .chatPlayer 1 100 players).2 rfl⟩

end ChatServerRedis
