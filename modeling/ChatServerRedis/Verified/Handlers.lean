import ChatServerRedis.General.Placement
import ChatServerRedis.Model.Server

/-! # What the handlers do

One equation per handler: the state it leaves behind and the calls it makes, with
every branch.  Later modules use these equations and never unfold a handler.
-/

namespace ChatServerRedis

open Handlers Placement

/-! ## State updates -/

namespace Server

variable (server : Server) (pPlayer other : PlayerPtr) (change : Player → Player)

@[simp] theorem setPlayer_setPlayer (next : Player → Player) :
    (server.setPlayer pPlayer change).setPlayer pPlayer next =
      server.setPlayer pPlayer fun player => next (change player) := by
  simp [setPlayer]

/-- The player enters CHAT: the ordinary players also take their account over. -/
@[simps -fullyApplied]
def entered : Server :=
  { server with
    playerList := server.playerList ++ [pPlayer]
    loginPlayerMap :=
      if (server.players pPlayer).bMonitoringLogin then server.loginPlayerMap
      else Function.update server.loginPlayerMap (server.players pPlayer).accountNo (some pPlayer)
    lPlayerNum := server.lPlayerNum + 1 }

/-- The monitoring id after the player has left: its own id is cleared. -/
def monitorAfter : ULONGLONG :=
  if (server.players pPlayer).bMonitoringLogin ∧
      server.monitoringClientSessionID = (server.players pPlayer).sessionId then maxULongLong
  else server.monitoringClientSessionID

/-- The offset of the list the stored coordinates of the player point at. -/
def storedOffset : Nat :=
  sectorOffset (server.players pPlayer).sectorY.toNat (server.players pPlayer).sectorX.toNat

/-- The sector lists without the player, if it is registered. -/
def sectorsWithout : Nat → List PlayerPtr :=
  if (server.players pPlayer).bRegisterAtSector then
    (Op.remove (server.storedOffset pPlayer) pPlayer).apply server.sectors
  else server.sectors

/-- A logged-in player leaves CHAT. -/
@[simps -fullyApplied]
def left : Server :=
  { server with
    playerList := server.playerList.erase pPlayer
    monitoringClientSessionID := server.monitorAfter pPlayer
    loginPlayerMap :=
      if server.loginPlayerMap (server.players pPlayer).accountNo = some pPlayer then
        Function.update server.loginPlayerMap (server.players pPlayer).accountNo none
      else server.loginPlayerMap
    sectors := server.sectorsWithout pPlayer
    lPlayerNum := server.lPlayerNum - 1 }

/-- The player is registered at the sector, and nowhere else. -/
@[simps! -fullyApplied]
def moved (sectorX sectorY : WORD) : Server :=
  { server.setPlayer pPlayer fun player =>
      { player with bRegisterAtSector := true, sectorX := sectorX, sectorY := sectorY } with
    sectors := (Op.pushBack (sectorOffset sectorY.toNat sectorX.toNat) pPlayer).apply
      (server.sectorsWithout pPlayer) }

end Server

/-- The removal a registered player goes through before it is registered again or
    gone. -/
def removeCalls (server : Server) (pPlayer : PlayerPtr) : List Call :=
  if (server.players pPlayer).bRegisterAtSector then
    [.listArr (.remove pPlayer) (server.players pPlayer).sectorY.toNat
      (server.players pPlayer).sectorX.toNat]
  else []

theorem mem_removeCalls {server : Server} {pPlayer : PlayerPtr} {made : Call} :
    made ∈ removeCalls server pPlayer ↔ (server.players pPlayer).bRegisterAtSector = true ∧
      made = .listArr (.remove pPlayer) (server.players pPlayer).sectorY.toNat
        (server.players pPlayer).sectorX.toNat := by
  simp [removeCalls]

/-! ## Entering -/

theorem onAccept_run (pPlayer : PlayerPtr) (server : Server) :
    run (onAccept pPlayer) server = some (server.setPlayer pPlayer fun memory =>
      { memory.construct with sessionId := server.session pPlayer }, []) := by
  simp [run, onAccept, Server.setPlayer]

theorem LoginContents.onEnter_run (pPlayer : PlayerPtr) (server : Server) :
    run (LoginContents.onEnter pPlayer) server = some (server.setPlayer pPlayer fun player =>
      { player with bLogin := false, bRegisterAtSector := false, bMonitoringLogin := false }, []) := by
  simp [run, LoginContents.onEnter]

/-- The session that `OnEnter` disconnects, if the account is taken. -/
def formerDisconnect (server : Server) (pPlayer : PlayerPtr) : List Call :=
  match server.loginPlayerMap (server.players pPlayer).accountNo with
  | some former => [.disconnect (server.players former).sessionId]
  | none => []

def enterCalls (config : Config) (server : Server) (pPlayer : PlayerPtr) : List Call :=
  .setLogin (server.players pPlayer).sessionId ::
    if (server.players pPlayer).bMonitoringLogin then []
    else formerDisconnect server pPlayer ++ [.sendPacket (server.players pPlayer).sessionId
      (.alloc (makeCsChatResLogin config 1 (server.players pPlayer).accountNo))]

theorem mem_enterCalls {config : Config} {server : Server} {pPlayer : PlayerPtr} {made : Call} :
    made ∈ enterCalls config server pPlayer ↔ made = .setLogin (server.players pPlayer).sessionId ∨
      ((server.players pPlayer).bMonitoringLogin = false ∧
        ((∃ former, server.loginPlayerMap (server.players pPlayer).accountNo = some former ∧
          made = .disconnect (server.players former).sessionId) ∨
        made = .sendPacket (server.players pPlayer).sessionId
          (.alloc (makeCsChatResLogin config 1 (server.players pPlayer).accountNo)))) := by
  unfold enterCalls formerDisconnect
  cases (server.players pPlayer).bMonitoringLogin <;>
    cases server.loginPlayerMap (server.players pPlayer).accountNo <;> simp

theorem ChatContents.onEnter_run (config : Config) (pPlayer : PlayerPtr) (server : Server) :
    run (ChatContents.onEnter config pPlayer) server =
      some (server.entered pPlayer, enterCalls config server pPlayer) := by
  cases monitoring : (server.players pPlayer).bMonitoringLogin with
  | true => simp [run, ChatContents.onEnter, monitoring, Server.entered, enterCalls]
  | false =>
    cases found : server.loginPlayerMap (server.players pPlayer).accountNo <;>
      simp [run, ChatContents.onEnter, monitoring, found, Server.entered,
        enterCalls, formerDisconnect]

/-! ## Leaving -/

/-- The calls of `OnLeave` for a player with `bLogin`. -/
def leaveCalls (server : Server) (pPlayer : PlayerPtr) : List Call :=
  (if (server.players pPlayer).bMonitoringLogin then [.enterCriticalSection, .leaveCriticalSection]
    else []) ++
  (if server.loginPlayerMap (server.players pPlayer).accountNo = none then [.endDereference]
    else []) ++
  removeCalls server pPlayer

theorem mem_leaveCalls {server : Server} {pPlayer : PlayerPtr} {made : Call} :
    made ∈ leaveCalls server pPlayer ↔
      ((server.players pPlayer).bMonitoringLogin = true ∧
        (made = .enterCriticalSection ∨ made = .leaveCriticalSection)) ∨
      (server.loginPlayerMap (server.players pPlayer).accountNo = none ∧ made = .endDereference) ∨
      made ∈ removeCalls server pPlayer := by
  simp [leaveCalls]

theorem ChatContents.onLeave_run (pPlayer : PlayerPtr) (server : Server)
    (login : (server.players pPlayer).bLogin = true) :
    run (ChatContents.onLeave pPlayer) server =
      some (server.left pPlayer, leaveCalls server pPlayer) := by
  refine run_eq_some.mpr ⟨(), ?_⟩
  -- the three blocks of the handler run or are skipped independently
  cases monitoring : (server.players pPlayer).bMonitoringLogin <;>
    cases registered : (server.players pPlayer).bRegisterAtSector <;>
    cases found : server.loginPlayerMap (server.players pPlayer).accountNo <;>
    simp [ChatContents.onLeave, removeClientAtSector, login, monitoring, registered, found,
      Server.left, Server.monitorAfter, Server.sectorsWithout, Server.storedOffset,
      leaveCalls, removeCalls, Op.apply] <;>
    (repeat' split) <;> simp_all

/-! ## Moving and speaking -/

/-- The check both request handlers begin with. -/
def speaksAs (player : Player) (accountNo : INT64) : Bool :=
  player.bLogin && player.accountNo == accountNo

def acceptsMove (player : Player) (accountNo : INT64) (sectorX sectorY : WORD) : Bool :=
  speaksAs player accountNo && !isNonValidSector sectorX sectorY

def moveCalls (config : Config) (server : Server) (pPlayer : PlayerPtr) (sectorX sectorY : WORD) :
    List Call :=
  removeCalls server pPlayer ++
    [.listArr (.pushBack pPlayer) sectorY.toNat sectorX.toNat,
      .enqPacket (server.players pPlayer).sessionId (.alloc (makeCsChatResSectorMove config
        (server.players pPlayer).accountNo sectorX sectorY))]

theorem mem_moveCalls {config : Config} {server : Server} {pPlayer : PlayerPtr}
    {sectorX sectorY : WORD} {made : Call} :
    made ∈ moveCalls config server pPlayer sectorX sectorY ↔ made ∈ removeCalls server pPlayer ∨
      made = .listArr (.pushBack pPlayer) sectorY.toNat sectorX.toNat ∨
      made = .enqPacket (server.players pPlayer).sessionId (.alloc (makeCsChatResSectorMove config
        (server.players pPlayer).accountNo sectorX sectorY)) := by
  simp [moveCalls]

theorem ChatContents.csChatReqSectorMove_accepted (config : Config) {accountNo : INT64}
    {sectorX sectorY : WORD} {pPlayer : PlayerPtr} {server : Server} (calls : List Call)
    (accepted : acceptsMove (server.players pPlayer) accountNo sectorX sectorY = true) :
    ChatContents.csChatReqSectorMove config accountNo sectorX sectorY pPlayer ⟨server, calls⟩ =
      .ok () ⟨server.moved pPlayer sectorX sectorY,
        calls ++ moveCalls config server pPlayer sectorX sectorY⟩ := by
  simp only [acceptsMove, speaksAs, Bool.and_eq_true, beq_iff_eq, Bool.not_eq_true'] at accepted
  obtain ⟨⟨login, rfl⟩, valid⟩ := accepted
  cases registered : (server.players pPlayer).bRegisterAtSector <;>
    simp [ChatContents.csChatReqSectorMove, removeClientAtSector, registerClientAtSector,
      login, valid, registered, Server.moved, Server.setPlayer,
      Server.sectorsWithout, Server.storedOffset, moveCalls, removeCalls, Op.apply]

theorem ChatContents.csChatReqSectorMove_refused (config : Config) {accountNo : INT64}
    {sectorX sectorY : WORD} {pPlayer : PlayerPtr} {server : Server} (calls : List Call)
    (refused : acceptsMove (server.players pPlayer) accountNo sectorX sectorY = false) :
    ChatContents.csChatReqSectorMove config accountNo sectorX sectorY pPlayer ⟨server, calls⟩ =
      .ok () ⟨server, calls ++ [.disconnect (server.players pPlayer).sessionId]⟩ := by
  simp only [acceptsMove, speaksAs, Bool.and_eq_false_iff, beq_eq_false_iff_ne,
    Bool.not_eq_false'] at refused
  simp only [ChatContents.csChatReqSectorMove, bind_apply, player_apply, branch_apply,
    disconnect_apply]
  split
  · rfl
  · split
    · rfl
    · split
      · rfl
      · simp_all

def cellCalls (server : Server) (packet : PacketRef) (cell : SectorCell) : List Call :=
  .listArr .getFirst cell.sectorY.toNat cell.sectorX.toNat ::
    (server.listAt cell.sectorY.toNat cell.sectorX.toNat).map fun pPlayer =>
      .enqPacket (server.players pPlayer).sessionId packet

theorem sendPacketCell_apply (packet : PacketRef) (cell : SectorCell) (server : Server)
    (calls : List Call) :
    sendPacketCell packet cell ⟨server, calls⟩ =
      .ok ⟨⟩ ⟨server, calls ++ cellCalls server packet cell⟩ := by
  simp only [sendPacketCell, bind_apply, call_apply, readState_apply]
  rw [forM_calls _ (fun pPlayer => [.enqPacket (server.players pPlayer).sessionId packet])]
  · simp [cellCalls, List.map_eq_flatMap]
  · intro pPlayer calls
    simp

def messagePacket (config : Config) (player : Player) (messageLen : WORD) (message : List BYTE) :
    PacketRef :=
  .alloc (makeCsChatResMessage config player.accountNo player.ID player.nickName messageLen message)

def broadcastCalls (config : Config) (server : Server) (pPlayer : PlayerPtr) (messageLen : WORD)
    (message : List BYTE) : List Call :=
  (getSectorAround (server.players pPlayer).sectorX (server.players pPlayer).sectorY).flatMap
    (cellCalls server (messagePacket config (server.players pPlayer) messageLen message))

theorem mem_broadcastCalls {config : Config} {server : Server} {pPlayer : PlayerPtr} {messageLen : WORD}
    {message : List BYTE} {made : Call} :
    made ∈ broadcastCalls config server pPlayer messageLen message ↔
      ∃ cell ∈ getSectorAround (server.players pPlayer).sectorX (server.players pPlayer).sectorY,
        made = .listArr .getFirst cell.sectorY.toNat cell.sectorX.toNat ∨
        ∃ other ∈ server.listAt cell.sectorY.toNat cell.sectorX.toNat,
          made = .enqPacket (server.players other).sessionId
            (messagePacket config (server.players pPlayer) messageLen message) := by
  simp only [broadcastCalls, cellCalls, List.mem_flatMap, List.mem_cons, List.mem_map, eq_comm]

theorem ChatContents.csChatReqMessage_accepted (config : Config) {accountNo : INT64}
    {messageLen : WORD} {message : List BYTE} {pPlayer : PlayerPtr} {server : Server}
    (calls : List Call) (accepted : speaksAs (server.players pPlayer) accountNo = true) :
    ChatContents.csChatReqMessage config accountNo messageLen message pPlayer ⟨server, calls⟩ =
      .ok () ⟨server, calls ++ broadcastCalls config server pPlayer messageLen message⟩ := by
  simp only [speaksAs, Bool.and_eq_true, beq_iff_eq] at accepted
  obtain ⟨login, rfl⟩ := accepted
  simp only [ChatContents.csChatReqMessage, bind_apply, player_apply, branch_apply, login,
    Bool.not_true, Bool.false_eq_true, if_false, ne_eq, not_true]
  exact forM_calls _ _ _ (sendPacketCell_apply _ · server) _ _

theorem ChatContents.csChatReqMessage_refused (config : Config) {accountNo : INT64}
    {messageLen : WORD} {message : List BYTE} {pPlayer : PlayerPtr} {server : Server}
    (calls : List Call) (refused : speaksAs (server.players pPlayer) accountNo = false) :
    ChatContents.csChatReqMessage config accountNo messageLen message pPlayer ⟨server, calls⟩ =
      .ok () ⟨server, calls ++ [.disconnect (server.players pPlayer).sessionId]⟩ := by
  simp only [speaksAs, Bool.and_eq_false_iff, beq_eq_false_iff_ne] at refused
  simp only [ChatContents.csChatReqMessage, bind_apply, player_apply, branch_apply, disconnect_apply]
  split
  · rfl
  · split
    · rfl
    · simp_all

/-! ## The sector occupancy -/

/-- `SendInfo` gets past every cell: no size byte is negative as a `char`. -/
def Encodable (server : Server) : Prop := ∀ cell ∈ sectorCells, (sizeByte server cell).slt 0#8 = false

instance (server : Server) : Decidable (Encodable server) :=
  inferInstanceAs (Decidable (∀ cell ∈ sectorCells, (sizeByte server cell).slt 0#8 = false))

theorem sendInfoCells_apply (server : Server) (calls : List Call) :
    ∀ (cells : List (Nat × Nat)) (filled : List BYTE),
      (∀ cell ∈ cells, (sizeByte server cell).slt 0#8 = false) →
      forM cells sendInfoCell ⟨{ server with sectorInfo := some filled }, calls⟩ =
        .ok ⟨⟩ ⟨{ server with sectorInfo := some (filled ++ cells.map (sizeByte server)) }, calls⟩
  | [], filled, _ => by simp
  | cell :: cells, filled, encodable => by
    have first := encodable cell (by simp)
    have rest := sendInfoCells_apply server calls cells (filled ++ [sizeByte server cell])
      fun other member => encodable other (by simp [member])
    rw [List.forM_cons, bind_apply]
    have cellStep : sendInfoCell cell ⟨{ server with sectorInfo := some filled }, calls⟩ =
        .ok ⟨⟩ ⟨{ server with sectorInfo := some (filled ++ [sizeByte server cell]) }, calls⟩ := by
      have same : sizeByte { server with sectorInfo := some filled } cell = sizeByte server cell := rfl
      simp [sendInfoCell, same, first]
    simp only [cellStep, rest, List.map_cons, List.append_assoc, List.singleton_append]

/-- At the first negative byte the loop ends in `__debugbreak`. -/
theorem sendInfoCells_debugbreak (server : Server) (calls : List Call) :
    ∀ (cells : List (Nat × Nat)) (filled : List BYTE),
      (∃ cell ∈ cells, (sizeByte server cell).slt 0#8 = true) →
      ∃ left, forM cells sendInfoCell ⟨{ server with sectorInfo := some filled }, calls⟩ =
        .error (.fault .debugbreak) left
  | [], _, negative => by simp at negative
  | cell :: cells, filled, negative => by
    have same : sizeByte { server with sectorInfo := some filled } cell = sizeByte server cell := rfl
    rw [List.forM_cons, bind_apply]
    cases sign : (sizeByte server cell).slt 0#8 with
    | true => exact ⟨_, by simp [sendInfoCell, same, sign]; rfl⟩
    | false =>
      have later : ∃ cell ∈ cells, (sizeByte server cell).slt 0#8 = true := by
        simpa [sign] using negative
      obtain ⟨left, stopped⟩ := sendInfoCells_debugbreak server calls cells
        (filled ++ [sizeByte server cell]) later
      refine ⟨left, ?_⟩
      simp [sendInfoCell, same, sign, stopped]

@[simps -fullyApplied]
def Server.refilled (server : Server) : Server :=
  { server with sectorInfo := some (getSectorMonitoringInfo server) }

theorem ChatContents.csChatReqSectorInfo_encodable {server : Server} (sessionID : ULONGLONG)
    (calls : List Call) (encodable : Encodable server) :
    ChatContents.csChatReqSectorInfo sessionID ⟨server, calls⟩ =
      .ok () ⟨server.refilled, calls ++ [.sendPacket sessionID .sectorInfo]⟩ := by
  have filled := sendInfoCells_apply server calls sectorCells [] encodable
  simp only [List.nil_append] at filled
  cases created : server.sectorInfo <;>
    simp [ChatContents.csChatReqSectorInfo, sendInfo, created, filled, Server.refilled,
      getSectorMonitoringInfo]

theorem ChatContents.csChatReqSectorInfo_debugbreak {server : Server} (sessionID : ULONGLONG)
    (calls : List Call) (crowded : ¬ Encodable server) :
    ∃ left, ChatContents.csChatReqSectorInfo sessionID ⟨server, calls⟩ =
      .error (.fault .debugbreak) left := by
  have negative : ∃ cell ∈ sectorCells, (sizeByte server cell).slt 0#8 = true := by
    simpa [Encodable] using crowded
  obtain ⟨left, stopped⟩ := sendInfoCells_debugbreak server calls sectorCells [] negative
  refine ⟨left, ?_⟩
  cases created : server.sectorInfo <;>
    simp [ChatContents.csChatReqSectorInfo, sendInfo, created, stopped]

end ChatServerRedis
