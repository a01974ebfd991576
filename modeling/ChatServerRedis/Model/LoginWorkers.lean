import ChatServerRedis.Model.LoginContents

/-! # LoginContents.cpp in parts

LOGIN handles the packets of different sessions on several threads at once.  `startRecv` is
`OnRecv` up to and including its one access to data of other sessions, `lPlayerNum_` or the
code under `MonitorSectorInfoCs`; it answers what is left of the call.  What is left are
statements on the player of the call, so the other threads may run in between.
-/

namespace ChatServerRedis.LoginContents

open Handlers

variable (config : Config)

/-- A statement on the player of the call, or a call on the framework or on Redis. -/
inductive Statement where
  | make (made : Call)
  | setBLogin
  | setAccountNo (accountNo : INT64)
  | copyID (pID : Option (List BYTE))
  | copyNickName (pNickName : Option (List BYTE))
  | registerLeave
  | stop (fault : Fault)

def Statement.execute (pPlayer : PlayerPtr) : Statement → Handler Unit
  | .make made => call made
  | .setBLogin => setPlayer pPlayer fun player => { player with bLogin := true }
  | .setAccountNo accountNo => setPlayer pPlayer fun player => { player with accountNo := accountNo }
  | .copyID pID => do
    let ID ← copyText (← player pPlayer).ID pID
    setPlayer pPlayer fun player => { player with ID := ID }
  | .copyNickName pNickName => do
    let nickName ← copyText (← player pPlayer).nickName pNickName
    setPlayer pPlayer fun player => { player with nickName := nickName }
  | .registerLeave => ChatServerRedis.registerLeave pPlayer .chat
  | .stop fault => Handlers.stop fault

/-- `CS_CHAT_REQ_LOGIN` from the call of Redis on. -/
def keyStatements (reply : Reply) (beyond : Nat → BYTE) (sessionID : ULONGLONG) (accountNo : INT64)
    (pID pNickName pSessionKey : Option (List BYTE)) : List Statement :=
  .make (.redisGet (toString accountNo.toInt)) ::
    if reply.isNull then [.make (.disconnect sessionID)]
    else
      match pSessionKey with
      | none => [.stop .nullPointer]
      | some key =>
        if key.take sessionKeyLen ≠ (List.range sessionKeyLen).map (cStr reply.asString beyond) then
          [.make (.disconnect sessionID)]
        else [.setBLogin, .setAccountNo accountNo, .copyID pID, .copyNickName pNickName, .registerLeave]

def startLogin (reply : Reply) (beyond : Nat → BYTE) (pPlayer : PlayerPtr) (pPacket : List BYTE) :
    Handler (List Statement) := do
  let sessionID ← getSessionID pPlayer
  if (← readState).lPlayerNum ≥ config.maxPlayerNum then
    pure [.make (.disconnect sessionID)]
  else
    let (accountNo, rest) ← extractInt64 pPacket
    let (pID, rest) := getPointer (sizeofWChar * idLen) rest
    let (pNickName, rest) := getPointer (sizeofWChar * nickNameLen) rest
    let (pSessionKey, _) := getPointer sessionKeyLen rest
    pure (keyStatements reply beyond sessionID accountNo pID pNickName pSessionKey)

def startDispatch (reply : Reply) (beyond : Nat → BYTE) (pPacket : List BYTE) (pPlayer : PlayerPtr) :
    Handler (List Statement) := do
  let (type, rest) ← extractWord pPacket
  if type = config.csChatReqLogin then
    startLogin config reply beyond pPlayer rest
  else if type = config.csChatReqHeartbeat then
    pure []
  else if type = config.csChatMonitorClientLogin then
    -- the critical section excludes the other ones, so it is one step
    call .enterCriticalSection
    setPlayer pPlayer fun player => { player with bLogin := true }
    setPlayer pPlayer fun player => { player with bMonitoringLogin := true }
    if (← readState).monitoringClientSessionID ≠ maxULongLong then
      disconnect (← readState).monitoringClientSessionID
    let sessionId := (← player pPlayer).sessionId
    modifyState fun server => { server with monitoringClientSessionID := sessionId }
    call .leaveCriticalSection
    pure [.registerLeave]
  else
    pure [.stop .debugbreak]

def startRecv (typeLocal : WORD) (reply : Reply) (beyond : Nat → BYTE) (pPacket : List BYTE)
    (pPlayer : PlayerPtr) : Handler (List Statement) := do
  let statements ← catchThrown (startDispatch config reply beyond pPacket pPlayer) fun errCode => do
    match errCode with
    | .packetExtractFail =>
      let sessionID ← getSessionID pPlayer
      pure (.make (.disconnect sessionID) ::
        if typeAtCatch typeLocal pPacket = config.csChatMonitorClientLogin then
          [.make .leaveCriticalSection]
        else [])
    | .packetResizeFail => pure [.make (.log "Resize Fail ShutDown Server"), .stop .debugbreak]
  pure (statements ++ [.make .updateCntTps])

end ChatServerRedis.LoginContents
