import Mathlib.Logic.Function.Basic
import Mathlib.Tactic.Simps.Basic
import ChatServerRedis.General.Handler

/-! # The data of the chat server

The types of `Player.h`, `Sector.h`, `ChatContents.h` and of the parts of the
framework the handlers touch.  A `Player*` is the number of a session slot; the
memory of a slot is reused by later sessions.  The intrusive links of a player
(`contentLink`, `sectorLink`) are the lists that hold it.
-/

namespace ChatServerRedis

open Handlers

abbrev BYTE := BitVec 8
abbrev WORD := BitVec 16
abbrev WCHAR := BitVec 16
abbrev INT64 := BitVec 64
abbrev ULONGLONG := BitVec 64

def maxULongLong : ULONGLONG := BitVec.allOnes 64

/-- A `Player*`: the slot of the session. -/
abbrev PlayerPtr := Nat

/-! ## Player.h -/

def idLen : Nat := 20
def nickNameLen : Nat := 20
def sessionKeyLen : Nat := 64
def sizeofWChar : Nat := 2

structure Player where
  bLogin : Bool
  bRegisterAtSector : Bool
  bMonitoringLogin : Bool
  sectorX : WORD
  sectorY : WORD
  sessionId : ULONGLONG
  accountNo : INT64
  ID : Vector WCHAR idLen
  nickName : Vector WCHAR nickNameLen

/-- `Player::Player()` by placement new: the members without an initialiser keep
    what the memory of the slot held. -/
def Player.construct (memory : Player) : Player :=
  { memory with bLogin := false, bRegisterAtSector := false }

/-! ## Sector.h -/

def numOfSectorVertical : Nat := 50
def numOfSectorHorizontal : Nat := 50

/-- Distance of `listArr[y][x]` from the start of the block: a row of `listArr`
    has `NUM_OF_SECTOR_VERTICAL` lists. -/
def sectorOffset (y x : Nat) : Nat := y * numOfSectorVertical + x

/-- The number of lists in the block `SectorArray` allocates. -/
def sectorBlock : Nat := numOfSectorHorizontal * numOfSectorVertical

def isNonValidSector (sectorX sectorY : WORD) : Bool :=
  -- both upper bounds are compared with `<=`
  !((0 ≤ sectorX.toNat && sectorX.toNat ≤ numOfSectorVertical) &&
    (0 ≤ sectorY.toNat && sectorY.toNat ≤ numOfSectorHorizontal))

/-! ## Configuration

`CommonProtocol.h` is not part of the repository.  The packet types are
parameters; the labels of one `switch` are distinct. -/

structure PacketTypes where
  csChatReqLogin : WORD
  csChatResLogin : WORD
  csChatReqSectorMove : WORD
  csChatResSectorMove : WORD
  csChatReqMessage : WORD
  csChatResMessage : WORD
  csChatReqHeartbeat : WORD
  csChatMonitorClientLogin : WORD
  csChatReqSectorInfo : WORD
  loginLabels : [csChatReqLogin, csChatReqHeartbeat, csChatMonitorClientLogin].Nodup
  chatLabels : [csChatReqSectorMove, csChatReqMessage, csChatReqHeartbeat,
    csChatMonitorClientLogin, csChatReqSectorInfo].Nodup

structure Config extends PacketTypes where
  /-- `Player::MAX_PLAYER_NUM`, set once from the configuration file. -/
  maxPlayerNum : Int

/-! ## Redis replies -/

/-- The replies a `GET` can have, with the text `as_string` returns. -/
inductive Reply where
  | null
  | bulkString (text : List BYTE)
  | simpleString (text : List BYTE)
  | error (text : List BYTE)

def Reply.isNull : Reply → Bool
  | .null => true
  | _ => false

def Reply.asString : Reply → List BYTE
  | .null => []
  | .bulkString text | .simpleString text | .error text => text

/-! ## Calls on the environment -/

inductive ContentsType where
  | login
  | chat
  deriving DecidableEq

/-- What is sent: a packet of its own, whose payload never changes, or the one
    packet that `SectorInfoPacket` owns and refills. -/
inductive PacketRef where
  | alloc (payload : List BYTE)
  | sectorInfo
  deriving DecidableEq

inductive ListUse where
  | pushBack (pPlayer : PlayerPtr)
  | remove (pPlayer : PlayerPtr)
  | getFirst
  deriving DecidableEq

/-- The calls a handler makes on the framework, the sector lists and the lock, in
    the order it makes them.  `endDereference` stands for reading through
    `loginPlayerMap.end()`. -/
inductive Call where
  | disconnect (sessionID : ULONGLONG)
  | setLogin (sessionID : ULONGLONG)
  | sendPacket (sessionID : ULONGLONG) (packet : PacketRef)
  | enqPacket (sessionID : ULONGLONG) (packet : PacketRef)
  | registerLeave (pPlayer : PlayerPtr) (nextContents : ContentsType)
  | redisGet (key : String)
  | listArr (use : ListUse) (y x : Nat)
  | endDereference
  | enterCriticalSection
  | leaveCriticalSection
  | log (text : String)
  | updateCntTps
  deriving DecidableEq

/-- The `int` a packet operation throws. -/
inductive ErrCode where
  | packetExtractFail
  | packetResizeFail
  deriving DecidableEq

/-- What ends the process instead of the handler.  `overRead`, a read behind the end of
    an object, need not end it: only the handlers with checked reads stop there. -/
inductive Fault where
  | debugbreak
  | nullPointer
  | invalidParameter
  | overRead
  deriving DecidableEq

/-! ## The state of the server -/

/-- Where the framework has the session of a slot: `moving` is a session whose
    handler called `RegisterLeave` for CHAT and that has not entered it yet. -/
inductive Phase where
  | free
  | accepted
  | login
  | moving
  | chat
  deriving DecidableEq

structure Server where
  /-- The framework's view of the slots: phase, `GetSessionID`, the session ids
      given out so far, and the players on their way to CHAT. -/
  phase : PlayerPtr → Phase
  session : PlayerPtr → ULONGLONG
  issued : List ULONGLONG
  moving : List PlayerPtr
  lPlayerNum : Int
  players : PlayerPtr → Player
  monitoringClientSessionID : ULONGLONG
  loginPlayerMap : INT64 → Option PlayerPtr
  playerList : List PlayerPtr
  /-- `sectors.listArr` by the offset from the start of the block. -/
  sectors : Nat → List PlayerPtr
  /-- Payload of the packet of `pSectorInfo`, once it is created. -/
  sectorInfo : Option (List BYTE)

abbrev Handler := Handlers.Handler Server Call ErrCode Fault

namespace Server

@[simps -fullyApplied]
def setPlayer (server : Server) (pPlayer : PlayerPtr) (change : Player → Player) : Server :=
  { server with players := Function.update server.players pPlayer (change (server.players pPlayer)) }

@[simps -fullyApplied]
def setPhase (server : Server) (pPlayer : PlayerPtr) (phase : Phase) : Server :=
  { server with phase := Function.update server.phase pPlayer phase }

/-- The list at `listArr[y][x]`. -/
def listAt (server : Server) (y x : Nat) : List PlayerPtr := server.sectors (sectorOffset y x)

end Server

/-! ## The framework calls -/

def getSessionID (pPlayer : PlayerPtr) : Handler ULONGLONG := do
  return (← readState).session pPlayer

def player (pPlayer : PlayerPtr) : Handler Player := do
  return (← readState).players pPlayer

def setPlayer (pPlayer : PlayerPtr) (change : Player → Player) : Handler Unit :=
  modifyState fun server => server.setPlayer pPlayer change

def disconnect (sessionID : ULONGLONG) : Handler Unit := call (.disconnect sessionID)

/-- `RegisterLeave(pPlayer, CHAT)`: the player enters CHAT in a later step. -/
def registerLeave (pPlayer : PlayerPtr) (nextContents : ContentsType) : Handler Unit := do
  call (.registerLeave pPlayer nextContents)
  -- from here on the player waits in the queue of the framework
  modifyState fun server => { server.setPhase pPlayer .moving with moving := server.moving ++ [pPlayer] }

variable (pPlayer : PlayerPtr) (machine : Machine Server Call)

@[simp] theorem getSessionID_apply :
    getSessionID pPlayer machine = .ok (machine.state.session pPlayer) machine := rfl

@[simp] theorem player_apply :
    player pPlayer machine = .ok (machine.state.players pPlayer) machine := rfl

@[simp] theorem setPlayer_apply (change : Player → Player) :
    setPlayer pPlayer change machine =
      .ok () ⟨machine.state.setPlayer pPlayer change, machine.calls⟩ := rfl

@[simp] theorem disconnect_apply (sessionID : ULONGLONG) :
    disconnect sessionID machine =
      .ok () ⟨machine.state, machine.calls ++ [.disconnect sessionID]⟩ := rfl

end ChatServerRedis
