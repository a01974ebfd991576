import ChatServerRedis.Verified.SectorGrid

/-! # The occupancy a SECTOR_INFO request answers with

One byte per sector, the length of its list.  The byte is right while it does not
overflow and the list holds the players of its own sector only.  A player at
(50, y), which `IsNonValidSector` lets through, is linked in the list of (0, y + 1).
-/

namespace ChatServerRedis

open Placement Transition

instance (server : Server) (pPlayer : PlayerPtr) (sectorX sectorY : WORD) :
    Decidable (server.registeredAt pPlayer sectorX sectorY) :=
  inferInstanceAs (Decidable (_ ∧ _ ∧ _))

/-- The number of players whose registration is at the sector. -/
def Server.population (server : Server) (y x : Nat) : Nat :=
  server.playerList.countP fun pPlayer =>
    decide (server.registeredAt pPlayer (BitVec.ofNat 16 x) (BitVec.ofNat 16 y))

/-- Every player is counted at its own sector, in a byte that is no negative `char`. -/
def Server.populationFits (server : Server) : Prop :=
  (∀ y x, y < 50 → x < 50 → server.population y x < 128) ∧
  ∀ y, y < 49 → 256 ∣ server.population y 50

/-- A byte for every sector, the number of players registered there. -/
def ShowsPopulation (server : Server) (bytes : List BYTE) : Prop :=
  bytes.length = 2500 ∧
  ∀ y x, y < 50 → x < 50 → bytes[50 * y + x]?.map BitVec.toNat = some (server.population y x)

theorem Server.population_le (server : Server) (y x : Nat) :
    server.population y x ≤ server.playerList.length :=
  List.countP_le_length

section Cells

variable {server other : Server} {y x : Nat} {bytes bytes' : List BYTE}

theorem ShowsPopulation.congr (shows : ShowsPopulation server bytes)
    (same : ∀ y x, y < 50 → x < 50 → other.population y x = server.population y x) :
    ShowsPopulation other bytes := by
  refine ⟨shows.1, fun y x boundY boundX => ?_⟩
  rw [shows.2 y x boundY boundX, same y x boundY boundX]

theorem ShowsPopulation.population_eq (shows : ShowsPopulation server bytes)
    (shows' : ShowsPopulation other bytes) (boundY : y < 50) (boundX : x < 50) :
    server.population y x = other.population y x := by
  have same := (shows.2 y x boundY boundX).symm.trans (shows'.2 y x boundY boundX)
  exact Option.some.inj same

theorem ShowsPopulation.bytes_eq (shows : ShowsPopulation server bytes)
    (shows' : ShowsPopulation server bytes') : bytes = bytes' := by
  refine List.ext_getElem (shows.1.trans shows'.1.symm) fun index inside inside' => ?_
  have bound : index < 2500 := shows.1 ▸ inside
  have split : 50 * (index / 50) + index % 50 = index := Nat.div_add_mod index 50
  have byte := (shows.2 (index / 50) (index % 50) (by omega) (by omega)).trans
    (shows'.2 (index / 50) (index % 50) (by omega) (by omega)).symm
  rw [split, List.getElem?_eq_getElem inside, List.getElem?_eq_getElem inside'] at byte
  exact BitVec.eq_of_toNat_eq (Option.some.inj byte)

theorem sectorCells_eq :
    sectorCells = (List.range sectorBlock).map fun index => (index / 50, index % 50) := by
  decide +kernel

theorem mem_sectorCells : (y, x) ∈ sectorCells ↔ y < numOfSectorVertical ∧ x < numOfSectorHorizontal := by
  simp [sectorCells]

theorem getSectorMonitoringInfo_length : (getSectorMonitoringInfo server).length = 2500 := by
  simp [getSectorMonitoringInfo, sectorCells_eq, sectorBlock, numOfSectorHorizontal,
    numOfSectorVertical]

theorem getSectorMonitoringInfo_getElem? (boundY : y < 50) (boundX : x < 50) :
    (getSectorMonitoringInfo server)[50 * y + x]? = some (sizeByte server (y, x)) := by
  have inside : 50 * y + x < sectorBlock := by
    simp only [sectorBlock, numOfSectorHorizontal, numOfSectorVertical]
    omega
  have row : (50 * y + x) / 50 = y := by omega
  have column : (50 * y + x) % 50 = x := by omega
  simp [getSectorMonitoringInfo, sectorCells_eq, List.getElem?_range inside, row, column]

theorem sizeByte_toNat (cell : Nat × Nat) :
    (sizeByte server cell).toNat = (server.listAt cell.1 cell.2).length % 256 := by
  simp [sizeByte]

/-- A size byte is negative as a `char` from 128 on. -/
theorem sizeByte_slt (cell : Nat × Nat) :
    (sizeByte server cell).slt 0#8 = false ↔ (server.listAt cell.1 cell.2).length % 256 < 128 := by
  rw [← sizeByte_toNat, BitVec.slt_eq_decide, decide_eq_false_iff_not, BitVec.toInt_eq_toNat_cond]
  have bound := (sizeByte server cell).isLt
  simp only [BitVec.toInt_zero]
  split <;> omega

end Cells

section Runs

variable {config : Config} {history : List Step} {state : Server} {pPlayer : PlayerPtr}
  {sectorX sectorY : WORD}

theorem ServerRun.registered_le (run : ServerRun config history state)
    (registered : state.registeredAt pPlayer sectorX sectorY) :
    sectorX.toNat ≤ 50 ∧ sectorY.toNat ≤ 50 := by
  obtain ⟨taken, _, accountNo, _, accepts⟩ := ((run.registeredAt_iff _ _ _).mp registered).once
  simp only [acceptsMove, isNonValidSector, Bool.and_eq_true, Bool.not_not, decide_eq_true_eq] at accepts
  simp only [numOfSectorHorizontal, numOfSectorVertical] at accepts
  omega

theorem chat_of_place {offset : Nat} (here : state.place pPlayer = some offset) :
    state.phase pPlayer = .chat := by
  by_contra elsewhere
  rw [place_eq_none fun registered => elsewhere registered.1] at here
  cases here

/-- The players linked in the list of a sector are its own and, at the start of a
    row, those that stand one column behind the end of the row before. -/
theorem ServerRun.place_iff (run : ServerRun config history state) {y x : Nat}
    (boundY : y < 50) (boundX : x < 50) :
    state.place pPlayer = some (sectorOffset y x) ↔
      state.registeredAt pPlayer (BitVec.ofNat 16 x) (BitVec.ofNat 16 y) ∨
      (x = 0 ∧ 0 < y) ∧ state.registeredAt pPlayer (BitVec.ofNat 16 50) (BitVec.ofNat 16 (y - 1)) := by
  by_cases registered : state.registered pPlayer
  · obtain ⟨leX, leY⟩ := run.registered_le ⟨registered, rfl, rfl⟩
    rw [place_eq_of_registered registered, Option.some.injEq]
    simp only [Server.registeredAt, registered, true_and, Server.storedOffset, sectorOffset,
      numOfSectorVertical, ← BitVec.toNat_inj, BitVec.toNat_ofNat]
    omega
  · rw [place_eq_none registered]
    simp [Server.registeredAt, registered]

theorem ServerRun.listAt_length (run : ServerRun config history state) {y x : Nat}
    (boundY : y < 50) (boundX : x < 50) :
    (state.listAt y x).length = state.population y x +
      if x = 0 ∧ 0 < y then state.population (y - 1) 50 else 0 := by
  have counted := (run.placed (sectorOffset y x)).length_eq_countP run.lifecycle.chatters
    fun other => chat_of_place
  rw [Server.listAt, counted]
  simp only [run.place_iff boundY boundX]
  split
  · next wraps =>
    simp only [wraps, true_and, Bool.decide_or]
    rw [countP_or]
    · obtain ⟨rfl, _⟩ := wraps
      rfl
    · intro other here
      simp only [decide_eq_true_eq, decide_eq_false_iff_not] at here ⊢
      intro there
      have same := here.2.1.symm.trans there.2.1
      obtain ⟨rfl, _⟩ := wraps
      cases same
  · next inside =>
    simp only [inside, false_and, or_false, Nat.add_zero]
    rfl

/-- With fewer than 128 players no list is too long for its byte. -/
theorem ServerRun.encodable (run : ServerRun config history state)
    (few : state.playerList.length < 128) : Encodable state := by
  intro cell member
  have counted := (run.placed (sectorOffset cell.1 cell.2)).length_eq_countP run.lifecycle.chatters
    fun other => chat_of_place
  have bound : (state.listAt cell.1 cell.2).length ≤ state.playerList.length := by
    rw [Server.listAt, counted]
    exact List.countP_le_length
  rw [sizeByte_slt]
  omega

/-! ## The reply -/

theorem decodeRequest_sectorInfo (config : Config) (rest : List BYTE) :
    decodeRequest config (wordBytes config.csChatReqSectorInfo ++ rest) = .sectorInfo := by
  obtain ⟨move, message, heartbeat, monitor⟩ := config.sectorInfo_ne
  simp [decodeRequest, move, message, heartbeat, monitor]

/-- A SECTOR_INFO request gets past every `__debugbreak` and is answered with 2500
    bytes, each the number of players of its sector; `GetSectorMonitoringInfo` gives
    the same bytes. -/
def AnswersOccupancy (config : Config) (state : Server) (pPlayer : PlayerPtr) (rest : List BYTE) :
    Prop :=
  ∃ post calls payload, step config state
      (.chatRecv pPlayer (wordBytes config.csChatReqSectorInfo ++ rest)) = some (post, calls) ∧
    .sendPacket (state.players pPlayer).sessionId .sectorInfo ∈ calls ∧
    post.sectorInfo = some payload ∧ payload.length = 2500 ∧
    (∀ y x, y < 50 → x < 50 → payload[50 * y + x]?.map BitVec.toNat = some (state.population y x)) ∧
    getSectorMonitoringInfo state = payload

theorem step_sectorInfo (chat : state.phase pPlayer = .chat) (rest : List BYTE) :
    step config state (.chatRecv pPlayer (wordBytes config.csChatReqSectorInfo ++ rest)) =
      if Encodable state then some (state.refilled,
        [.sendPacket (state.players pPlayer).sessionId .sectorInfo, .updateCntTps])
      else none := by
  simp only [step, chat, if_true, ChatContents.onRecv_run, decodeRequest_sectorInfo, requestResult]

theorem answersOccupancy_iff_shows (chat : state.phase pPlayer = .chat) (rest : List BYTE) :
    AnswersOccupancy config state pPlayer rest ↔
      Encodable state ∧ ShowsPopulation state (getSectorMonitoringInfo state) := by
  unfold AnswersOccupancy
  rw [step_sectorInfo chat]
  constructor
  · intro answered
    obtain ⟨post, calls, payload, taken, _, _, length, exact, rfl⟩ := answered
    split at taken
    · next encodable => exact ⟨encodable, length, exact⟩
    · cases taken
  · intro answered
    obtain ⟨encodable, shows⟩ := answered
    exact ⟨state.refilled, _, getSectorMonitoringInfo state, if_pos encodable, by simp, rfl, shows.1,
      shows.2, rfl⟩

theorem ServerRun.sizes_iff (run : ServerRun config history state) :
    (∀ y x, y < 50 → x < 50 → (state.listAt y x).length % 256 = state.population y x ∧
      state.population y x < 128) ↔ state.populationFits := by
  constructor
  · intro sizes
    refine ⟨fun y x boundY boundX => (sizes y x boundY boundX).2, fun y boundY => ?_⟩
    obtain ⟨size, few⟩ := sizes (y + 1) 0 (by omega) (by omega)
    rw [run.listAt_length (by omega) (by omega), if_pos ⟨rfl, by omega⟩, Nat.add_sub_cancel] at size
    omega
  · intro fits y x boundY boundX
    obtain ⟨few, outside⟩ := fits
    have own := few y x boundY boundX
    rw [run.listAt_length boundY boundX]
    split
    · next wraps =>
      have stray := outside (y - 1) (by omega)
      omega
    · omega

/-- `SendInfo` gets through and shows the population exactly when it fits. -/
theorem ServerRun.showsPopulation_iff (run : ServerRun config history state) :
    Encodable state ∧ ShowsPopulation state (getSectorMonitoringInfo state) ↔ state.populationFits := by
  rw [← run.sizes_iff]
  constructor
  · intro shown y x boundY boundX
    obtain ⟨encodable, shows⟩ := shown
    have size := shows.2 y x boundY boundX
    rw [getSectorMonitoringInfo_getElem? boundY boundX, Option.map_some, sizeByte_toNat,
      Option.some.injEq] at size
    have positive := (sizeByte_slt _).mp (encodable (y, x) (mem_sectorCells.mpr ⟨boundY, boundX⟩))
    exact ⟨size, size ▸ positive⟩
  · intro sizes
    refine ⟨fun cell member => ?_, getSectorMonitoringInfo_length, fun y x boundY boundX => ?_⟩
    · obtain ⟨boundY, boundX⟩ := mem_sectorCells.mp member
      obtain ⟨size, few⟩ := sizes cell.1 cell.2 boundY boundX
      rw [sizeByte_slt, size]
      exact few
    · rw [getSectorMonitoringInfo_getElem? boundY boundX, Option.map_some, sizeByte_toNat]
      exact congrArg some (sizes y x boundY boundX).1

/-- A SECTOR_INFO request is answered with the occupancy exactly when every sector
    holds fewer than 128 players and no players at (50, y) are counted at (0, y + 1). -/
theorem answersOccupancy_iff (run : ServerRun config history state)
    (chat : state.phase pPlayer = .chat) (rest : List BYTE) :
    AnswersOccupancy config state pPlayer rest ↔
      (∀ y x, y < 50 → x < 50 → state.population y x < 128) ∧
      ∀ y, y < 49 → 256 ∣ state.population y 50 := by
  rw [answersOccupancy_iff_shows chat]
  exact run.showsPopulation_iff

/-- One player at (49, 0) is counted where it is. -/
theorem answersOccupancy_inside :
    let played := (Sample.play (Sample.login 0 5 7 ++ [.chatEnter 0,
      .chatRecv 0 (sectorMoveWire Sample.config 7 49 0)])).get (by decide +kernel)
    AnswersOccupancy Sample.config played.2 0 [] := by
  intro played
  have run : ServerRun Sample.config played.1 played.2 := Sample.play_run _ (by decide +kernel)
  have alone : played.2.playerList = [0] := by decide +kernel
  have chat : played.2.phase 0 = .chat := by decide +kernel
  apply (answersOccupancy_iff run chat []).mpr
  refine ⟨fun y x _ _ => Nat.lt_of_le_of_lt (played.2.population_le y x) ?_, by decide +kernel⟩
  rw [alone]
  decide

/-- One player at (50, 0): the reply counts it at (0, 1), where nobody is. -/
example :
    let played := (Sample.play (Sample.login 0 5 7 ++ [.chatEnter 0,
      .chatRecv 0 (sectorMoveWire Sample.config 7 50 0)])).get (by decide +kernel)
    played.2.population 1 0 = 0 ∧ sizeByte played.2 (1, 0) = 1 := by
  decide +kernel

end Runs

end ChatServerRedis
