import ChatServerRedis.Model.Packet

/-! # Sector.cpp and SectorInfoPacket

The neighbourhood of a sector, computed on eight 16-bit lanes, and the uses of
the sector lists.
-/

namespace ChatServerRedis

open Handlers

/-! ## SSE2 -/

/-- `__m128i` as eight 16-bit lanes, lane 0 first. -/
abbrev M128i := Vector WORD 8

def mmSet1Epi16 (lane : WORD) : M128i := Vector.replicate 8 lane

/-- `_mm_set_epi16` takes the highest lane first. -/
def mmSetEpi16 (e7 e6 e5 e4 e3 e2 e1 e0 : WORD) : M128i := #v[e0, e1, e2, e3, e4, e5, e6, e7]

def mmAddEpi16 (first second : M128i) : M128i := Vector.zipWith (· + ·) first second

def laneMask (holds : Bool) : WORD := if holds then 0xffff#16 else 0#16

def mmCmpgtEpi16 (first second : M128i) : M128i :=
  Vector.zipWith (fun left right => laneMask (right.slt left)) first second

def mmCmpltEpi16 (first second : M128i) : M128i :=
  Vector.zipWith (fun left right => laneMask (left.slt right)) first second

def mmAndSi128 (first second : M128i) : M128i := Vector.zipWith (· &&& ·) first second

/-! ## GetSectorAround -/

/-- An entry of `SECTOR_AROUND::Around`. -/
structure SectorCell where
  sectorX : WORD
  sectorY : WORD
  deriving DecidableEq

/-- `X`, `Y` and `ret`: the eight neighbours, and the mask of those inside the grid. -/
structure AroundLanes where
  X : M128i
  Y : M128i
  ret : M128i

def aroundLanes (sectorX sectorY : WORD) : AroundLanes :=
  let posY := mmSet1Epi16 sectorY
  let posX := mmSet1Epi16 sectorX
  let dirVX := mmSetEpi16 1 0 (-1) 1 (-1) 1 0 (-1)
  let dirVY := mmSetEpi16 1 1 1 0 0 (-1) (-1) (-1)
  let posX := mmAddEpi16 posX dirVX
  let posY := mmAddEpi16 posY dirVY
  let min := mmSet1Epi16 (-1)
  let max := mmSet1Epi16 (BitVec.ofNat 16 numOfSectorVertical)
  let resultX := mmAndSi128 (mmCmpgtEpi16 posX min) (mmCmpltEpi16 posX max)
  let resultY := mmAndSi128 (mmCmpgtEpi16 posY min) (mmCmpltEpi16 posY max)
  ⟨posX, posY, mmAndSi128 resultX resultY⟩

/-- The cells of `Around` written so far; `sectorCount` is their number.  One of
    the two loops over the lanes appends the lanes whose mask is all ones. -/
def appendLanes (lanes : AroundLanes) (loop : List (Fin 8)) (around : List SectorCell) :
    List SectorCell :=
  loop.foldl (fun around i =>
    if lanes.ret[i] = 0xffff#16 then around ++ [⟨lanes.X[i], lanes.Y[i]⟩] else around) around

def getSectorAround (sectorX sectorY : WORD) : List SectorCell :=
  let lanes := aroundLanes sectorX sectorY
  let around := appendLanes lanes [0, 1, 2, 3] []
  let around := around ++ [⟨sectorX, sectorY⟩]
  appendLanes lanes [4, 5, 6, 7] around

/-- `SECTOR_AROUND`: nine entries, of which `sectorCount` are written. -/
structure SectorAround where
  around : Vector SectorCell 9
  sectorCount : BYTE

namespace SectorAround

/-- `Around[sectorCount] = cell; ++sectorCount`.  A write past the ninth entry is
    lost here; the counter shows it. -/
def store (out : SectorAround) (cell : SectorCell) : SectorAround where
  around := out.around.setIfInBounds out.sectorCount.toNat cell
  sectorCount := out.sectorCount + 1

def storeLanes (out : SectorAround) (lanes : AroundLanes) (loop : List (Fin 8)) : SectorAround :=
  loop.foldl (fun out i =>
    if lanes.ret[i] = 0xffff#16 then out.store ⟨lanes.X[i], lanes.Y[i]⟩ else out) out

def cells (out : SectorAround) : List SectorCell := out.around.toList.take out.sectorCount.toNat

end SectorAround

/-- `GetSectorAround` on the buffer of the caller, which may hold anything before. -/
def storeSectorAround (sectorX sectorY : WORD) (pOutSectorAround : SectorAround) : SectorAround :=
  let lanes := aroundLanes sectorX sectorY
  let out := { pOutSectorAround with sectorCount := 0 }
  let out := out.storeLanes lanes [0, 1, 2, 3]
  let out := out.store ⟨sectorX, sectorY⟩
  out.storeLanes lanes [4, 5, 6, 7]

/-! ## Uses of the lists -/

def registerClientAtSector (sectorX sectorY : WORD) (pPlayer : PlayerPtr) : Handler Unit := do
  call (.listArr (.pushBack pPlayer) sectorY.toNat sectorX.toNat)
  let offset := sectorOffset sectorY.toNat sectorX.toNat
  modifyState fun server =>
    { server with sectors := Function.update server.sectors offset (server.sectors offset ++ [pPlayer]) }

def removeClientAtSector (sectorX sectorY : WORD) (pPlayer : PlayerPtr) : Handler Unit := do
  call (.listArr (.remove pPlayer) sectorY.toNat sectorX.toNat)
  let offset := sectorOffset sectorY.toNat sectorX.toNat
  modifyState fun server =>
    { server with sectors := Function.update server.sectors offset ((server.sectors offset).erase pPlayer) }

/-- One list of `SendPacket_AROUND`, from `GetFirst` to the end. -/
def sendPacketCell (packet : PacketRef) (cell : SectorCell) : Handler Unit := do
  call (.listArr .getFirst cell.sectorY.toNat cell.sectorX.toNat)
  let list := (← readState).listAt cell.sectorY.toNat cell.sectorX.toNat
  forM list fun pPlayer => do
    call (.enqPacket (← player pPlayer).sessionId packet)

def sendPacketAround (sectorAround : List SectorCell) (packet : PacketRef) : Handler Unit :=
  forM sectorAround (sendPacketCell packet)

/-! ## The occupancy of the sectors -/

/-- The cells in the order of the two nested loops. -/
def sectorCells : List (Nat × Nat) :=
  (List.range numOfSectorVertical).flatMap fun y =>
    (List.range numOfSectorHorizontal).map fun x => (y, x)

/-- `(char)size_` and `(BYTE)size()` are the same byte, read as signed or unsigned. -/
def sizeByte (server : Server) (cell : Nat × Nat) : BYTE :=
  BitVec.ofNat 8 (server.listAt cell.1 cell.2).length

def getSectorMonitoringInfo (server : Server) : List BYTE := sectorCells.map (sizeByte server)

/-- One cell of `SectorInfoPacket::SendInfo`. -/
def sendInfoCell (cell : Nat × Nat) : Handler Unit := do
  let size := sizeByte (← readState) cell
  modifyState fun server => { server with sectorInfo := server.sectorInfo.map (· ++ [size]) }
  if size.slt 0#8 then stop .debugbreak

/-- `SectorInfoPacket::SendInfo`: the shared packet is cleared and refilled. -/
def sendInfo (sessionID : ULONGLONG) : Handler Unit := do
  modifyState fun server => { server with sectorInfo := some [] }
  forM sectorCells sendInfoCell
  call (.sendPacket sessionID .sectorInfo)

end ChatServerRedis
