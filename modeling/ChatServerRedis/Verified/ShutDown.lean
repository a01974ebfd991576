import ChatServerRedis.General.Windows
import ChatServerRedis.Model.LoginChatServer

/-! # Stopping the server with the HOME key

The static counters of `OnMonitor` are two views of one window of 60 calls:
`sdfCleanFlag` is the position in the window and `shutDownFlag` counts its
presses down from ten.
-/

namespace ChatServerRedis.LoginChatServer

open Handlers Windows

section Call

variable (server : LoginChatServer) (reading : Reading)

/-- The static counters after the reset of a call, before its press is counted. -/
def cleaned : Int × Int :=
  if server.sdfCleanFlag + 1 = 60 then (10, 0) else (server.shutDownFlag, server.sdfCleanFlag + 1)

/-- What is left of `shutDownFlag` at the end of a call. -/
def remaining : Int := server.cleaned.1 - if reading.pressed then 1 else 0

def lastCalls : List MonitorCall :=
  if reading.pressed ∧ server.remaining reading = 0 then [.print "Start ShutDown !", .requestShutDown]
  else if reading.bLogin then
    .sendToMonitoringServer .chatServerRun 1 reading.curTime :: reported.map fun dataType =>
      .sendToMonitoringServer dataType (reading.value dataType) reading.curTime
  else []

theorem sendReport_apply (calls : List MonitorCall) :
    sendReport reading ⟨server, calls⟩ = .ok ⟨⟩ ⟨server, calls ++
      .sendToMonitoringServer .chatServerRun 1 reading.curTime :: reported.map fun dataType =>
        .sendToMonitoringServer dataType (reading.value dataType) reading.curTime⟩ := by
  simp only [sendReport, bind_apply, call_apply]
  rw [forM_calls _ (fun dataType =>
    [.sendToMonitoringServer dataType (reading.value dataType) reading.curTime])]
  · simp [List.map_eq_flatMap]
  · intro dataType calls
    rfl

theorem onMonitor_apply :
    onMonitor reading ⟨server, []⟩ = .ok ()
      ⟨{ shutDownFlag := server.remaining reading
         sdfCleanFlag := server.cleaned.2
         acceptTotal := server.acceptTotal + reading.acceptTPS
         recvTotal := server.recvTotal + reading.recvTPS },
       .printStatus server.shutDownFlag reading.bLogin (server.acceptTotal + reading.acceptTPS) ::
         server.lastCalls reading⟩ := by
  simp only [onMonitor, bind_apply, modifyState_apply, readState_apply, call_apply, branch_apply,
    pure_apply, remaining, lastCalls, cleaned]
  -- the window ends or goes on, the key is pressed or not, the monitoring client is there or not
  by_cases boundary : server.sdfCleanFlag + 1 = 60 <;>
    by_cases pressed : reading.pressed = true <;>
      by_cases connected : reading.bLogin = true <;>
        simp [boundary, pressed, connected, sendReport_apply]
  · by_cases last : server.shutDownFlag - 1 = 0 <;> simp [last]
  · by_cases last : server.shutDownFlag - 1 = 0 <;> simp [last]

theorem requestShutDown_count :
    (server.lastCalls reading).count .requestShutDown =
      if reading.pressed ∧ server.remaining reading = 0 then 1 else 0 := by
  have unreported : ∀ dataTypes : List MonitorDataType, .requestShutDown ∉
      dataTypes.map fun dataType =>
        MonitorCall.sendToMonitoringServer dataType (reading.value dataType) reading.curTime := by
    simp
  unfold lastCalls
  split
  · rfl
  · split
    · rw [List.count_cons_of_ne (by simp), List.count_eq_zero]
      exact unreported reported
    · rfl

end Call

/-! ## The calls one after the other -/

section Calls

variable (readings : Nat → Reading)

def presses (call : Nat) : Bool := (readings call).pressed

/-- The presses of a window, up to the call. -/
def pressesUntil (call : Nat) : Nat := marksIn (presses readings) (max 1 (60 * (call / 60))) call

theorem afterCalls_succ (count : Nat) :
    let server := (afterCalls readings count).1
    (afterCalls readings (count + 1)).1.shutDownFlag = server.remaining (readings (count + 1)) ∧
    (afterCalls readings (count + 1)).1.sdfCleanFlag = server.cleaned.2 ∧
    (afterCalls readings (count + 1)).2.count .requestShutDown =
      if presses readings (count + 1) ∧ server.remaining (readings (count + 1)) = 0 then 1 else 0 := by
  intro server
  have step : afterCalls readings (count + 1) = _ := complete_eq (onMonitor_apply server _)
  rw [step, List.count_cons_of_ne (by simp), requestShutDown_count]
  exact ⟨rfl, rfl, rfl⟩

/-- The two counters are the position in the window and the presses of the window,
    counted down from ten. -/
theorem counters_eq (count : Nat) :
    (afterCalls readings count).1.sdfCleanFlag = (count % 60 : Nat) ∧
    (afterCalls readings count).1.shutDownFlag = 10 - resetCount (presses readings) 60 count := by
  induction count with
  | zero => exact ⟨rfl, rfl⟩
  | succ count inductionHypothesis =>
    obtain ⟨position, left⟩ := inductionHypothesis
    obtain ⟨left', position', _⟩ := afterCalls_succ readings count
    rw [left', position', remaining, cleaned, position, left, resetCount]
    by_cases boundary : 60 ∣ count + 1
    · have ends : ((count % 60 : Nat) : Int) + 1 = 60 := by omega
      have next : (count + 1) % 60 = 0 := by omega
      rw [if_pos ends, if_pos boundary, next]
      by_cases pressed : (readings (count + 1)).pressed = true <;> simp [presses, pressed]
    · have continues : ¬ ((count % 60 : Nat) : Int) + 1 = 60 := by omega
      rw [if_neg continues, if_neg boundary]
      have position'' : (count + 1) % 60 = count % 60 + 1 := by omega
      rw [position'']
      by_cases pressed : (readings (count + 1)).pressed = true
      · simp only [presses, pressed, if_true]
        omega
      · simp only [presses, pressed, if_false, Bool.false_eq_true]
        omega

/-- The static counters stay within the range of an `int`. -/
theorem counters_bounded (count : Nat) :
    0 ≤ (afterCalls readings count).1.sdfCleanFlag ∧ (afterCalls readings count).1.sdfCleanFlag < 60 ∧
    -50 ≤ (afterCalls readings count).1.shutDownFlag ∧
    (afterCalls readings count).1.shutDownFlag ≤ 10 := by
  obtain ⟨position, left⟩ := counters_eq readings count
  have counted := @resetCount_le (presses readings) 60 (by decide) count
  omega

/-- The tenth press of a window, and no other, stops the server. -/
theorem requestShutDown_tenth (call : Nat) :
    (afterCalls readings call).2.count .requestShutDown =
      if presses readings call ∧ resetCount (presses readings) 60 call = 10 then 1 else 0 := by
  cases call with
  | zero => simp [afterCalls, resetCount]
  | succ call =>
    obtain ⟨left, _, requests⟩ := afterCalls_succ readings call
    obtain ⟨_, counted⟩ := counters_eq readings (call + 1)
    rw [requests, ← left, counted]
    have same : (10 - (resetCount (presses readings) 60 (call + 1) : Int) = 0) ↔
        resetCount (presses readings) 60 (call + 1) = 10 := by omega
    simp only [same]

/-- `OnMonitor` requests the shutdown at a call exactly when the key is pressed there
    and ten calls of the window so far were pressed; a window with fewer presses never
    stops the server, and a window stops it at most once. -/
theorem requestShutDown_iff :
    (∀ call, .requestShutDown ∈ (afterCalls readings call).2 ↔
      presses readings call = true ∧ pressesUntil readings call = 10) ∧
    (∀ window, marksIn (presses readings) (max 1 (60 * window)) (60 * window + 59) < 10 →
      ∀ call, call / 60 = window → .requestShutDown ∉ (afterCalls readings call).2) ∧
    (∀ call, (afterCalls readings call).2.count .requestShutDown ≤ 1) ∧
    (∀ first second, first / 60 = second / 60 → .requestShutDown ∈ (afterCalls readings first).2 →
      .requestShutDown ∈ (afterCalls readings second).2 → first = second) := by
  have tenth : ∀ call, .requestShutDown ∈ (afterCalls readings call).2 ↔
      presses readings call = true ∧ resetCount (presses readings) 60 call = 10 := by
    intro call
    rw [← List.count_pos_iff, requestShutDown_tenth]
    split <;> simp_all
  have exact : ∀ call, .requestShutDown ∈ (afterCalls readings call).2 ↔
      presses readings call = true ∧ pressesUntil readings call = 10 := by
    intro call
    rw [tenth, resetCount_eq]
    rfl
  refine ⟨exact, ?_, fun call => ?_, fun first second window => ?_⟩
  · intro window few call inside requested
    subst inside
    have counted : marksIn _ _ call = 10 := ((exact call).mp requested).2
    have total : marksIn _ _ call ≤ _ :=
      @marksIn_mono (presses readings) (max 1 (60 * (call / 60))) call (60 * (call / 60) + 59) (by omega)
    omega
  · rw [requestShutDown_tenth]
    split <;> omega
  · intro requested requested'
    obtain ⟨pressed, counted⟩ := (tenth first).mp requested
    obtain ⟨pressed', counted'⟩ := (tenth second).mp requested'
    rcases Nat.lt_trichotomy first second with earlier | same | later
    · have grows := resetCount_lt earlier window pressed'
      omega
    · exact same
    · have grows := resetCount_lt later window.symm pressed
      omega

end Calls

end ChatServerRedis.LoginChatServer
