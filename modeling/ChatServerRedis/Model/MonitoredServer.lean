import ChatServerRedis.Model.LoginChatServer
import ChatServerRedis.Model.Server

/-! # The server and its monitoring thread

The handlers count packets in `UPDATE_CNT_TPS` while another thread runs `OnMonitor`,
which reads `lPlayerNum_`, exchanges the counter with 0 and reports both.  The two
accesses are single interlocked operations, so handler calls may come between them.
-/

namespace ChatServerRedis

open Handlers Transition

structure MonitoredServer where
  server : Server
  /-- `UPDATE_CNT_TPS`, a `LONG`. -/
  updateCntTps : BitVec 32
  monitor : LoginChatServer
  /-- The local `playerNum` of the call of `OnMonitor` that is under way. -/
  playerNum : Option Int

inductive MonitoredEvent where
  | handler (event : Event)
  /-- `LONG playerNum = lPlayerNum_` -/
  | readPlayerNum
  /-- `InterlockedExchange(&UPDATE_CNT_TPS, 0)` and the rest of `OnMonitor`; what it reads
      besides the two counters comes with the event. -/
  | exchange (reading : Reading)

inductive MonitoredCall where
  | handler (made : Call)
  | onMonitor (made : MonitorCall)
  deriving DecidableEq

namespace MonitoredServer

def initial (memory : PlayerPtr → Player) : MonitoredServer where
  server := Server.initial memory
  updateCntTps := 0
  monitor := LoginChatServer.initial
  playerNum := none

/-- The reading of a call of `OnMonitor`, with the two counters of this server. -/
def readingOf (updateTPS : BitVec 32) (playerNum : Int) (reading : Reading) : Reading :=
  { reading with
    value := fun
      | .chatUpdateTps => updateTPS.toInt
      | .chatPlayer => playerNum
      | dataType => reading.value dataType }

variable (config : Config)

def step (monitored : MonitoredServer) :
    MonitoredEvent → Option (MonitoredServer × List MonitoredCall)
  | .handler event =>
    (ChatServerRedis.step config monitored.server event).map fun (post, calls) =>
      -- every call of the increment adds one, with the overflow of a LONG
      ({ monitored with
          server := post
          updateCntTps := monitored.updateCntTps + BitVec.ofNat 32 (calls.count .updateCntTps) },
        calls.map .handler)
  | .readPlayerNum =>
    match monitored.playerNum with
    | none => some ({ monitored with playerNum := some monitored.server.lPlayerNum }, [])
    | some _ => none
  | .exchange reading =>
    match monitored.playerNum with
    | none => none
    | some playerNum =>
      let (monitor, calls) := complete
        (LoginChatServer.onMonitor (readingOf monitored.updateCntTps playerNum reading)) monitored.monitor
      some ({ monitored with monitor := monitor, updateCntTps := 0, playerNum := none }, calls.map .onMonitor)

end MonitoredServer

def monitoredServer (config : Config) : System MonitoredServer MonitoredEvent MonitoredCall where
  init monitored := ∃ memory, monitored = MonitoredServer.initial memory
  step := MonitoredServer.step config

abbrev MonitoredStep := Taken MonitoredServer MonitoredEvent MonitoredCall

abbrev MonitoredRun (config : Config) : List MonitoredStep → MonitoredServer → Prop :=
  Run (monitoredServer config)

end ChatServerRedis
