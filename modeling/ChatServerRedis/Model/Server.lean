import ChatServerRedis.General.Transition
import ChatServerRedis.Model.ChatContents
import ChatServerRedis.Model.LoginContents

/-! # The server as a transition system

One event is one handler call; the framework guarantees that a handler call is
not interleaved with another one that touches the same data.  The guards of
`step` are what the framework promises: session ids are fresh and never
`MAXULONGLONG`, a slot is used again only after its session has left, a session
enters CHAT once and only after `RegisterLeave`, LOGIN handles no packet of a
session after its `RegisterLeave`, and `Disconnect` by itself changes nothing.
A step on which the process would stop has no successor.
-/

namespace ChatServerRedis

open Handlers Transition

/-- `LoginChatServer::OnAccept`; `FirstEnter` makes LOGIN call `OnEnter` later. -/
def onAccept (pPlayer : PlayerPtr) : Handler Unit := do
  -- placement new on the memory the former player of the slot left behind
  setPlayer pPlayer Player.construct
  let sessionID ← getSessionID pPlayer
  setPlayer pPlayer fun player => { player with sessionId := sessionID }

inductive Event where
  /-- A session with a new id gets the slot; `memory` is what the slot held. -/
  | accept (pPlayer : PlayerPtr) (sessionID : ULONGLONG) (memory : Player)
  | loginEnter (pPlayer : PlayerPtr)
  | loginRecv (pPlayer : PlayerPtr) (typeLocal : WORD) (reply : Reply) (beyond : Nat → BYTE)
      (pPacket : List BYTE)
  | loginLeave (pPlayer : PlayerPtr)
  | chatEnter (pPlayer : PlayerPtr)
  | chatRecv (pPlayer : PlayerPtr) (pPacket : List BYTE)
  | chatLeave (pPlayer : PlayerPtr)

namespace Server

def initial (memory : PlayerPtr → Player) : Server where
  phase := fun _ => .free
  session := fun _ => 0
  issued := []
  moving := []
  lPlayerNum := 0
  players := memory
  monitoringClientSessionID := maxULongLong
  loginPlayerMap := fun _ => none
  playerList := []
  sectors := fun _ => []
  sectorInfo := none

/-- The framework gives the slot to a new session. -/
def openSession (server : Server) (pPlayer : PlayerPtr) (sessionID : ULONGLONG) (memory : Player) :
    Server :=
  { (server.setPhase pPlayer .accepted).setPlayer pPlayer fun _ => memory with
    session := Function.update server.session pPlayer sessionID
    issued := sessionID :: server.issued }

@[simps! -fullyApplied]
def enterChat (server : Server) (pPlayer : PlayerPtr) : Server :=
  { server.setPhase pPlayer .chat with moving := server.moving.erase pPlayer }

end Server

variable (config : Config)

/-- The player's slot is freed once its `OnLeave` has returned. -/
def leaving (handler : Handler Unit) (pPlayer : PlayerPtr) (server : Server) :
    Option (Server × List Call) :=
  (run handler server).map fun (left, calls) => (left.setPhase pPlayer .free, calls)

def step (server : Server) : Event → Option (Server × List Call)
  | .accept pPlayer sessionID memory =>
    if server.phase pPlayer = .free ∧ sessionID ∉ server.issued ∧ sessionID ≠ maxULongLong then
      run (onAccept pPlayer) (server.openSession pPlayer sessionID memory)
    else none
  | .loginEnter pPlayer =>
    if server.phase pPlayer = .accepted then
      run (LoginContents.onEnter pPlayer) (server.setPhase pPlayer .login)
    else none
  | .loginRecv pPlayer typeLocal reply beyond pPacket =>
    if server.phase pPlayer = .login then
      run (LoginContents.onRecv config typeLocal reply beyond pPacket pPlayer) server
    else none
  | .loginLeave pPlayer =>
    if server.phase pPlayer = .login then leaving (LoginContents.onLeave pPlayer) pPlayer server
    else none
  | .chatEnter pPlayer =>
    if server.phase pPlayer = .moving then
      run (ChatContents.onEnter config pPlayer) (server.enterChat pPlayer)
    else none
  | .chatRecv pPlayer pPacket =>
    if server.phase pPlayer = .chat then run (ChatContents.onRecv config pPacket pPlayer) server
    else none
  | .chatLeave pPlayer =>
    if server.phase pPlayer = .chat then leaving (ChatContents.onLeave pPlayer) pPlayer server
    else none

def chatServer : System Server Event Call where
  init server := ∃ memory, server = Server.initial memory
  step := step config

abbrev Step := Taken Server Event Call

abbrev ServerRun : List Step → Server → Prop := Run (chatServer config)

end ChatServerRedis
