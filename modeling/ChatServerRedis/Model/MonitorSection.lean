import ChatServerRedis.General.CriticalSection
import ChatServerRedis.Model.Server

/-! # The code under MonitorSectorInfoCs

Handlers of LOGIN run on several threads.  Two pieces of code are guarded by
`Player::MonitorSectorInfoCs`: the monitoring login of LOGIN and a block of
`ChatContents::OnLeave`.  Here they are statement by statement, each access to
`MonitoringClientSessionID` a statement of its own.
-/

namespace ChatServerRedis

open CriticalSection

structure Guarded where
  monitoringClientSessionID : ULONGLONG
  players : PlayerPtr → Player

def Server.guarded (server : Server) : Guarded where
  monitoringClientSessionID := server.monitoringClientSessionID
  players := server.players

namespace Guarded

def setPlayer (pPlayer : PlayerPtr) (change : Player → Player) (data : Guarded) : Guarded :=
  { data with players := Function.update data.players pPlayer (change (data.players pPlayer)) }

def setMonitoringClientSessionID (sessionID : Guarded → ULONGLONG) (data : Guarded) : Guarded :=
  { data with monitoringClientSessionID := sessionID data }

end Guarded

def assign (change : Guarded → Guarded) (next : Code Guarded Call) : Code Guarded Call :=
  .statement (fun data => (change data, [])) fun _ => next

/-- `pGameServer_->Disconnect(Player::MonitoringClientSessionID)` reads the id again. -/
def disconnectMonitor (next : Code Guarded Call) : Code Guarded Call :=
  .statement (fun data => (data, [.disconnect data.monitoringClientSessionID])) fun _ => next

/-- The guarded code, by the player it is executed for. -/
inductive MonitorSection where
  /-- `LoginContents::OnRecv`, label `en_PACKET_CS_CHAT_MONITOR_CLIENT_LOGIN`. -/
  | login (pPlayer : PlayerPtr)
  /-- `ChatContents::OnLeave` of a player with `bMonitoringLogin_`. -/
  | leave (pPlayer : PlayerPtr)
  deriving DecidableEq

def MonitorSection.code : MonitorSection → Code Guarded Call
  | .login pPlayer =>
    let claim := assign (Guarded.setMonitoringClientSessionID fun data =>
      (data.players pPlayer).sessionId) .leave
    assign (Guarded.setPlayer pPlayer fun player => { player with bLogin := true }) <|
      assign (Guarded.setPlayer pPlayer fun player => { player with bMonitoringLogin := true }) <|
        .branch (fun data => data.monitoringClientSessionID ≠ maxULongLong)
          (disconnectMonitor claim) claim
  | .leave pPlayer =>
    .branch (fun data => data.monitoringClientSessionID = (data.players pPlayer).sessionId)
      (assign (Guarded.setMonitoringClientSessionID fun _ => maxULongLong) .leave) .leave

end ChatServerRedis
