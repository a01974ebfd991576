import ChatServerRedis.Model.Types

/-! # LoginChatServer.cpp: OnMonitor

The framework calls `OnMonitor` again and again.  Its two static counters decide
whether the pressed HOME keys stop the server.
-/

namespace ChatServerRedis

open Handlers

inductive MonitorDataType where
  | chatServerRun
  | chatServerCpu
  | chatServerMem
  | chatSession
  | chatPlayer
  | chatUpdateTps
  | chatPacketPool
  | monitorCpuTotal
  | monitorNonpagedMemory
  | monitorNetworkRecv
  | monitorNetworkSend
  | monitorAvailableMemory
  deriving DecidableEq

/-- What one call reads: the keyboard, the monitoring client, the counters of the
    framework and, already cast to `int`, the values it reports. -/
structure Reading where
  /-- `GetAsyncKeyState(VK_HOME)`. -/
  homeKeyState : WORD
  /-- `pLanClient_->bLogin_`. -/
  bLogin : Bool
  acceptTPS : ULONGLONG
  recvTPS : ULONGLONG
  value : MonitorDataType → Int
  curTime : Int

def Reading.pressed (reading : Reading) : Bool := reading.homeKeyState &&& 0x0001 ≠ 0

inductive MonitorCall where
  | printStatus (shutDownFlag : Int) (connected : Bool) (acceptTotal : ULONGLONG)
  | print (text : String)
  | requestShutDown
  | sendToMonitoringServer (dataType : MonitorDataType) (value curTime : Int)
  deriving DecidableEq

/-- The static variables of `OnMonitor` and the totals it keeps. -/
structure LoginChatServer where
  shutDownFlag : Int
  sdfCleanFlag : Int
  acceptTotal : ULONGLONG
  recvTotal : ULONGLONG

namespace LoginChatServer

def initial : LoginChatServer where
  shutDownFlag := 10
  sdfCleanFlag := 0
  acceptTotal := 0
  recvTotal := 0

/-- The data types in the order they are sent, the first with the value 1. -/
def reported : List MonitorDataType :=
  [.chatServerCpu, .chatServerMem, .chatSession, .chatPlayer, .chatUpdateTps, .chatPacketPool,
    .monitorCpuTotal, .monitorNonpagedMemory, .monitorNetworkRecv, .monitorNetworkSend,
    .monitorAvailableMemory]

abbrev MonitorHandler := Handlers.Handler LoginChatServer MonitorCall Empty Empty

def sendReport (reading : Reading) : MonitorHandler Unit := do
  call (.sendToMonitoringServer .chatServerRun 1 reading.curTime)
  forM reported fun dataType =>
    call (.sendToMonitoringServer dataType (reading.value dataType) reading.curTime)

def onMonitor (reading : Reading) : MonitorHandler Unit := do
  modifyState fun server => { server with acceptTotal := server.acceptTotal + reading.acceptTPS }
  modifyState fun server => { server with recvTotal := server.recvTotal + reading.recvTPS }
  let server ← readState
  call (.printStatus server.shutDownFlag reading.bLogin server.acceptTotal)
  modifyState fun server => { server with sdfCleanFlag := server.sdfCleanFlag + 1 }
  if (← readState).sdfCleanFlag = 60 then
    modifyState fun server => { server with shutDownFlag := 10 }
    modifyState fun server => { server with sdfCleanFlag := 0 }
  -- the press of a call is counted after the reset of the same call
  if reading.pressed then
    modifyState fun server => { server with shutDownFlag := server.shutDownFlag - 1 }
    if (← readState).shutDownFlag = 0 then
      call (.print "Start ShutDown !")
      call .requestShutDown
      return
  if !reading.bLogin then
    return
  sendReport reading

/-- The state after the calls numbered 1 to `count`, and the calls the last one made. -/
def afterCalls (readings : Nat → Reading) : Nat → LoginChatServer × List MonitorCall
  | 0 => (initial, [])
  | count + 1 => complete (onMonitor (readings (count + 1))) (afterCalls readings count).1

end LoginChatServer

end ChatServerRedis
