import ChatServerRedis.Model.Sector

/-! # ChatContents.cpp -/

namespace ChatServerRedis.ChatContents

open Handlers

variable (config : Config)

def onEnter (pPlayer : PlayerPtr) : Handler Unit := do
  modifyState fun server => { server with playerList := server.playerList ++ [pPlayer] }
  call (.setLogin (← player pPlayer).sessionId)
  if (← player pPlayer).bMonitoringLogin then
    -- a monitoring client is counted but gets no entry in the map
    modifyState fun server => { server with lPlayerNum := server.lPlayerNum + 1 }
  else
    let accountNo := (← player pPlayer).accountNo
    match (← readState).loginPlayerMap accountNo with
    | some found =>
      disconnect (← player found).sessionId
      modifyState fun server =>
        { server with loginPlayerMap := Function.update server.loginPlayerMap accountNo none }
    | none => pure ()
    call (.sendPacket (← player pPlayer).sessionId (.alloc (makeCsChatResLogin config 1 accountNo)))
    modifyState fun server =>
      { server with loginPlayerMap := Function.update server.loginPlayerMap accountNo (some pPlayer) }
    modifyState fun server => { server with lPlayerNum := server.lPlayerNum + 1 }

def onLeave (pPlayer : PlayerPtr) : Handler Unit := do
  modifyState fun server => { server with playerList := server.playerList.erase pPlayer }
  if (← player pPlayer).bMonitoringLogin then
    call .enterCriticalSection
    if (← readState).monitoringClientSessionID = (← player pPlayer).sessionId then
      modifyState fun server => { server with monitoringClientSessionID := maxULongLong }
    call .leaveCriticalSection
  if !(← player pPlayer).bLogin then
    pure ()
  else
    let accountNo := (← player pPlayer).accountNo
    match (← readState).loginPlayerMap accountNo with
    | some found =>
      if found = pPlayer then
        modifyState fun server =>
          { server with loginPlayerMap := Function.update server.loginPlayerMap accountNo none }
    -- `iter` is `end()` here and `iter->second` is read all the same
    | none => call .endDereference
    if (← player pPlayer).bRegisterAtSector then
      removeClientAtSector (← player pPlayer).sectorX (← player pPlayer).sectorY pPlayer
    modifyState fun server => { server with lPlayerNum := server.lPlayerNum - 1 }

def csChatReqSectorMove (accountNo : INT64) (sectorX sectorY : WORD) (pPlayer : PlayerPtr) :
    Handler Unit := do
  if !(← player pPlayer).bLogin then
    disconnect (← player pPlayer).sessionId
  else if (← player pPlayer).accountNo ≠ accountNo then
    disconnect (← player pPlayer).sessionId
  else if isNonValidSector sectorX sectorY then
    disconnect (← player pPlayer).sessionId
  else
    if !(← player pPlayer).bRegisterAtSector then
      setPlayer pPlayer fun player => { player with bRegisterAtSector := true }
    else
      removeClientAtSector (← player pPlayer).sectorX (← player pPlayer).sectorY pPlayer
    setPlayer pPlayer fun player => { player with sectorX := sectorX }
    setPlayer pPlayer fun player => { player with sectorY := sectorY }
    registerClientAtSector sectorX sectorY pPlayer
    call (.enqPacket (← player pPlayer).sessionId
      (.alloc (makeCsChatResSectorMove config accountNo sectorX sectorY)))

def csChatReqMessage (accountNo : INT64) (messageLen : WORD) (message : List BYTE)
    (pPlayer : PlayerPtr) : Handler Unit := do
  if !(← player pPlayer).bLogin then
    disconnect (← player pPlayer).sessionId
  else if (← player pPlayer).accountNo ≠ accountNo then
    disconnect (← player pPlayer).sessionId
  else
    let sp := makeCsChatResMessage config accountNo (← player pPlayer).ID (← player pPlayer).nickName
      messageLen message
    let sectorAround := getSectorAround (← player pPlayer).sectorX (← player pPlayer).sectorY
    sendPacketAround sectorAround (.alloc sp)

/-- The first request creates the shared packet, every request refills and sends it. -/
def csChatReqSectorInfo (sessionID : ULONGLONG) : Handler Unit := do
  if (← readState).sectorInfo.isNone then
    modifyState fun server => { server with sectorInfo := some [] }
  sendInfo sessionID

/-- The body of the `try` block of `OnRecv`; it answers whether control reaches the
    end of the function, which an early `return` skips. -/
def dispatch (pPacket : List BYTE) (pPlayer : PlayerPtr) : Handler Bool := do
  let (type, rest) ← extractWord pPacket
  if type = config.csChatReqSectorMove then
    let (accountNo, rest) ← extractInt64 rest
    let (sectorX, rest) ← extractWord rest
    let (sectorY, rest) ← extractWord rest
    if !rest.isEmpty then
      -- an early return: the packet is not counted in `UPDATE_CNT_TPS`
      disconnect (← player pPlayer).sessionId
      pure false
    else
      csChatReqSectorMove config accountNo sectorX sectorY pPlayer
      pure true
  else if type = config.csChatReqMessage then
    let (accountNo, rest) ← extractInt64 rest
    let (messageLen, rest) ← extractWord rest
    match getPointer messageLen.toNat rest with
    | (some pMessage, []) =>
      csChatReqMessage config accountNo messageLen pMessage pPlayer
      pure true
    | _ =>
      disconnect (← player pPlayer).sessionId
      pure false
  else if type = config.csChatReqHeartbeat then
    pure true
  else if type = config.csChatMonitorClientLogin then
    disconnect (← player pPlayer).sessionId
    pure true
  else if type = config.csChatReqSectorInfo then
    csChatReqSectorInfo (← player pPlayer).sessionId
    pure true
  else
    disconnect (← getSessionID pPlayer)
    pure true

def onRecv (pPacket : List BYTE) (pPlayer : PlayerPtr) : Handler Unit := do
  let reachesEnd ← catchThrown (dispatch config pPacket pPlayer) fun errCode => do
    match errCode with
    | .packetExtractFail => disconnect (← player pPlayer).sessionId
    | .packetResizeFail =>
      call (.log "Resize Fail ShutDown Server")
      disconnect (← player pPlayer).sessionId
    pure true
  if reachesEnd then call .updateCntTps

end ChatServerRedis.ChatContents
