import ChatServerRedis.Model.Packet

/-! # LoginContents.cpp -/

namespace ChatServerRedis.LoginContents

open Handlers

variable (config : Config)

def onEnter (pPlayer : PlayerPtr) : Handler Unit := do
  setPlayer pPlayer fun player => { player with bLogin := false }
  setPlayer pPlayer fun player => { player with bRegisterAtSector := false }
  setPlayer pPlayer fun player => { player with bMonitoringLogin := false }

def onLeave (_pPlayer : PlayerPtr) : Handler Unit := pure ()

/-! ## The C library -/

/-- The memory at `c_str()`: the text, its NUL, and whatever follows. -/
def cStr (text : List BYTE) (beyond : Nat → BYTE) (position : Nat) : BYTE :=
  if inside : position < text.length then text[position]
  else if position = text.length then 0 else beyond position

/-- `memcmp(first, second, size) != 0`; a null `first` is an access violation. -/
def memcmpDiffers (first : Option (List BYTE)) (second : Nat → BYTE) (size : Nat) : Handler Bool :=
  match first with
  | none => stop .nullPointer
  | some bytes => pure (decide (bytes.take size ≠ (List.range size).map second))

/-- The characters at a pointer into a packet. -/
def wchars (length : Nat) (bytes : List BYTE) : Vector WCHAR length :=
  Vector.ofFn fun i => BitVec.ofNat 16
    (LittleEndian.value ((bytes.drop (sizeofWChar * i)).take sizeofWChar))

/-- `wcscpy_s(destination, length, source)` copies up to and including the first
    NUL and leaves the rest of the destination alone; `none` when there is no NUL
    within the size of the destination. -/
def wcscpyS {length : Nat} (destination source : Vector WCHAR length) :
    Option (Vector WCHAR length) :=
  match source.toList.findIdx? (· = 0) with
  | some nul => some (Vector.ofFn fun i => if i.val ≤ nul then source[i] else destination[i])
  | none => none

/-- `wcscpy_s` from a pointer into the packet; a null source or a source without
    NUL ends the process in the invalid parameter handler. -/
def copyText {length : Nat} (destination : Vector WCHAR length) (source : Option (List BYTE)) :
    Handler (Vector WCHAR length) :=
  match source.bind fun bytes => wcscpyS destination (wchars length bytes) with
  | some copied => pure copied
  | none => stop .invalidParameter

/-! ## The handlers -/

/-- `CS_CHAT_REQ_LOGIN`, over the comparison of the session key with the reply of Redis. -/
def csChatReqLoginOver (isNull : Bool) (differs : Option (List BYTE) → Handler Bool)
    (pPlayer : PlayerPtr) (pPacket : List BYTE) : Handler Unit := do
  let sessionID ← getSessionID pPlayer
  if (← readState).lPlayerNum ≥ config.maxPlayerNum then
    disconnect sessionID
  else
    let (accountNo, rest) ← extractInt64 pPacket
    -- the pointers are not tested: a packet that is too short leaves them null
    let (pID, rest) := getPointer (sizeofWChar * idLen) rest
    let (pNickName, rest) := getPointer (sizeofWChar * nickNameLen) rest
    let (pSessionKey, _) := getPointer sessionKeyLen rest
    call (.redisGet (toString accountNo.toInt))
    let failed ← if isNull then pure true else differs pSessionKey
    if failed then
      disconnect sessionID
    else
      setPlayer pPlayer fun player => { player with bLogin := true }
      setPlayer pPlayer fun player => { player with accountNo := accountNo }
      let ID ← copyText (← player pPlayer).ID pID
      setPlayer pPlayer fun player => { player with ID := ID }
      let nickName ← copyText (← player pPlayer).nickName pNickName
      setPlayer pPlayer fun player => { player with nickName := nickName }
      registerLeave pPlayer .chat

/-- `reply` is the answer of Redis to the `GET` and `beyond` the memory after it: 64 bytes are
    compared whatever the kind and the length of the reply. -/
def csChatReqLogin (reply : Reply) (beyond : Nat → BYTE) (pPlayer : PlayerPtr)
    (pPacket : List BYTE) : Handler Unit :=
  csChatReqLoginOver config reply.isNull
    (fun pSessionKey => memcmpDiffers pSessionKey (cStr reply.asString beyond) sessionKeyLen)
    pPlayer pPacket

/-- The body of the `try` block of `OnRecv`, over the handler of its LOGIN label. -/
def dispatch (login : List BYTE → Handler Unit) (pPacket : List BYTE) (pPlayer : PlayerPtr) :
    Handler Unit := do
  let (type, rest) ← extractWord pPacket
  if type = config.csChatReqLogin then
    login rest
  else if type = config.csChatReqHeartbeat then
    pure ()
  else if type = config.csChatMonitorClientLogin then
    call .enterCriticalSection
    -- `accountNo_` keeps what the memory of the slot held
    setPlayer pPlayer fun player => { player with bLogin := true }
    setPlayer pPlayer fun player => { player with bMonitoringLogin := true }
    if (← readState).monitoringClientSessionID ≠ maxULongLong then
      disconnect (← readState).monitoringClientSessionID
    let sessionId := (← player pPlayer).sessionId
    modifyState fun server => { server with monitoringClientSessionID := sessionId }
    call .leaveCriticalSection
    registerLeave pPlayer .chat
  else
    stop .debugbreak

/-- What the `catch` block finds in the local `Type`: the extracted type, or the
    arbitrary value the local held when the extraction threw. -/
def typeAtCatch (typeLocal : WORD) (pPacket : List BYTE) : WORD :=
  match LittleEndian.read 2 pPacket with
  | some (value, _) => BitVec.ofNat 16 value
  | none => typeLocal

def onRecvOver (login : List BYTE → Handler Unit) (typeLocal : WORD) (pPacket : List BYTE)
    (pPlayer : PlayerPtr) : Handler Unit := do
  catchThrown (dispatch config login pPacket pPlayer) fun errCode => do
    match errCode with
    | .packetExtractFail => disconnect (← getSessionID pPlayer)
    | .packetResizeFail =>
      call (.log "Resize Fail ShutDown Server")
      stop .debugbreak
    -- a monitoring login throws nothing: only a stale local leads here
    if typeAtCatch typeLocal pPacket = config.csChatMonitorClientLogin then
      call .leaveCriticalSection
  call .updateCntTps

def onRecv (typeLocal : WORD) (reply : Reply) (beyond : Nat → BYTE) (pPacket : List BYTE)
    (pPlayer : PlayerPtr) : Handler Unit :=
  onRecvOver config (csChatReqLogin config reply beyond pPlayer) typeLocal pPacket pPlayer

end ChatServerRedis.LoginContents
