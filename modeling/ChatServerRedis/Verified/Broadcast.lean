import ChatServerRedis.Verified.SectorAround
import ChatServerRedis.Verified.SectorGrid

/-! # Who hears a message

A broadcast goes through the lists of the neighbourhood.  The neighbourhood has
every near cell of the grid once, the lists have every registered player once,
and registered players are where they last moved to.
-/

namespace ChatServerRedis

open Placement Transition

/-- The sessions passed to `EnqPacket`, in order. -/
def recipients (calls : List Call) : List ULONGLONG :=
  calls.filterMap fun
    | .enqPacket sessionID _ => some sessionID
    | _ => none

/-- The players of the lists of the cells, in the order they are walked. -/
def Server.audience (server : Server) (cells : List SectorCell) : List PlayerPtr :=
  cells.flatMap fun cell => server.listAt cell.sectorY.toNat cell.sectorX.toNat

section Step

variable {config : Config} {server : Server} {pPlayer : PlayerPtr}

theorem recipients_broadcastCalls (messageLen : WORD) (message : List BYTE) :
    recipients (broadcastCalls config server pPlayer messageLen message ++ [.updateCntTps]) =
      (server.audience (getSectorAround (server.players pPlayer).sectorX
        (server.players pPlayer).sectorY)).map fun other => (server.players other).sessionId := by
  simp only [recipients, broadcastCalls, cellCalls, Server.audience, List.filterMap_append,
    List.filterMap_flatMap, List.map_flatMap]
  simp [List.filterMap_map]

theorem Lifecycle.sessionId_injective (lifecycle : Lifecycle server) {first second : PlayerPtr}
    (here : server.phase first = .chat) (there : server.phase second = .chat)
    (same : (server.players first).sessionId = (server.players second).sessionId) :
    first = second := by
  have usedFirst : server.phase first ≠ .free := by simp [here]
  have usedSecond : server.phase second ≠ .free := by simp [there]
  rw [(lifecycle.slots first).sessionId usedFirst, (lifecycle.slots second).sessionId usedSecond] at same
  exact lifecycle.distinct first second usedFirst usedSecond same

/-- Lists at different offsets share no player, so the cells of a neighbourhood
    are walked without meeting anyone twice. -/
theorem audience_nodup (placed : Placed server.sectors server.place) {cells : List SectorCell}
    (distinct : cells.Nodup)
    (inGrid : ∀ cell ∈ cells, cell.sectorX.toNat < numOfSectorHorizontal) :
    (server.audience cells).Nodup := by
  refine List.nodup_flatMap.mpr ⟨fun cell _ => (placed _).nodup, ?_⟩
  refine distinct.imp_of_mem fun {first second} memberFirst memberSecond differ => ?_
  intro pPlayer here there
  have same := placed.unique here there
  obtain ⟨sameY, sameX⟩ := sectorOffset_injective (inGrid first memberFirst) (inGrid second memberSecond) same
  apply differ
  cases first
  cases second
  simp only [SectorCell.mk.injEq]
  exact ⟨BitVec.eq_of_toNat_eq sameX, BitVec.eq_of_toNat_eq sameY⟩

end Step

section Runs

variable {config : Config} {history : List Step} {state : Server}

theorem mem_audience (run : ServerRun config history state) (moves : MovesInGrid config history)
    {sectorX sectorY : WORD} (insideX : sectorX.toNat < numOfSectorHorizontal)
    (insideY : sectorY.toNat < numOfSectorVertical) (pPlayer : PlayerPtr) :
    pPlayer ∈ state.audience (getSectorAround sectorX sectorY) ↔
      ∃ otherX otherY, state.registeredAt pPlayer otherX otherY ∧ near otherX sectorX ∧
        near otherY sectorY := by
  simp only [Server.audience, List.mem_flatMap, Server.listAt, mem_getSectorAround insideX insideY]
  constructor
  · rintro ⟨cell, ⟨⟨nearX, nearY⟩, cellX, _⟩, linked⟩
    have registered : state.registered pPlayer := by
      by_contra unregistered
      rw [(run.placed _).mem_iff, place_eq_none unregistered] at linked
      cases linked
    have here : state.registeredAt pPlayer _ _ := ⟨registered, rfl, rfl⟩
    obtain ⟨boundX, _⟩ := run.registered_inGrid moves here
    obtain ⟨sameY, sameX⟩ := sectorOffset_injective cellX boundX ((run.offset_eq here).mp linked)
    rw [BitVec.eq_of_toNat_eq sameX] at nearX
    rw [BitVec.eq_of_toNat_eq sameY] at nearY
    exact ⟨_, _, here, nearX, nearY⟩
  · rintro ⟨otherX, otherY, registered, nearX, nearY⟩
    have bound := run.registered_inGrid moves registered
    exact ⟨⟨otherX, otherY⟩, ⟨⟨nearX, nearY⟩, bound⟩, (run.offset_eq registered).mpr rfl⟩

theorem StepCase.recipients_speaks {server post : Server} {event : Event} {calls : List Call}
    {pPlayer : PlayerPtr} {messageLen sectorX sectorY : WORD} {message : List BYTE}
    (reached : ServerRun config history server) (moves : MovesInGrid config history)
    (outcome : StepCase config server event post calls)
    (speaks : Speaks config pPlayer ⟨server, event, calls, post⟩ messageLen message)
    (last : LastMove config pPlayer sectorX sectorY history) :
    (recipients calls).Nodup ∧ ∀ sessionID, sessionID ∈ recipients calls ↔
      ∃ other ∈ server.playerList, ∃ otherX otherY, LastMove config other otherX otherY history ∧
        near otherX sectorX ∧ near otherY sectorY ∧
        (server.players other).sessionId = sessionID := by
  have lifecycle := reached.lifecycle
  have registered := (reached.registeredAt_iff _ _ _).mpr last
  obtain ⟨insideX, insideY⟩ := reached.registered_inGrid moves registered
  obtain ⟨here, rfl, rfl⟩ := registered
  have audience := fun other => mem_audience reached moves insideX insideY other
  have sent : recipients calls = (server.audience (getSectorAround (server.players pPlayer).sectorX
      (server.players pPlayer).sectorY)).map fun other => (server.players other).sessionId := by
    obtain ⟨_, _, rfl⟩ := outcome.of_speaks speaks
    exact recipients_broadcastCalls _ _
  rw [sent]
  constructor
  -- no player is met twice, and players of CHAT have different session ids
  · refine List.Nodup.map_on ?_ (audience_nodup reached.placed (getSectorAround_nodup _ _) ?_)
    · intro first memberFirst second memberSecond same
      obtain ⟨_, _, ⟨⟨chatFirst, _⟩, _⟩, _⟩ := (audience first).mp memberFirst
      obtain ⟨_, _, ⟨⟨chatSecond, _⟩, _⟩, _⟩ := (audience second).mp memberSecond
      exact lifecycle.sessionId_injective chatFirst chatSecond same
    · intro cell member
      exact ((mem_getSectorAround insideX insideY cell).mp member).2.1
  · intro sessionID
    simp only [List.mem_map, audience, reached.registeredAt_iff]
    constructor
    · rintro ⟨other, ⟨otherX, otherY, moved, nearX, nearY⟩, session⟩
      have present := ((reached.registeredAt_iff _ _ _).mpr moved).1.1
      exact ⟨other, (lifecycle.chatters.mem_iff other).mpr present, otherX, otherY, moved, nearX,
        nearY, session⟩
    · rintro ⟨other, _, otherX, otherY, moved, nearX, nearY, session⟩
      exact ⟨other, ⟨otherX, otherY, moved, nearX, nearY⟩, session⟩

/-- A message reaches, once each, exactly the players whose last accepted move was to
    a sector near the speaker's. -/
theorem message_recipients (run : ServerRun config history state)
    (inGrid : ∀ taken ∈ history, ∀ call ∈ taken.calls, call.inGrid = true) :
    ∀ before taken after, history = before ++ taken :: after →
      ∀ pPlayer messageLen message sectorX sectorY, Speaks config pPlayer taken messageLen message →
      LastMove config pPlayer sectorX sectorY before →
      (recipients taken.calls).Nodup ∧
      ∀ sessionID, sessionID ∈ recipients taken.calls ↔
        ∃ other ∈ taken.pre.playerList, ∃ otherX otherY, LastMove config other otherX otherY before ∧
          near otherX sectorX ∧ near otherY sectorY ∧
          (taken.pre.players other).sessionId = sessionID := by
  intro before taken after split pPlayer messageLen message sectorX sectorY speaks last
  have moves : MovesInGrid config history := by
    refine run.movesInGrid fun taken member pPlayer y x used => ?_
    simpa [Call.inGrid] using inGrid taken member _ used
  subst split
  obtain ⟨reached, step⟩ := Run.split run
  exact (step_cases step).recipients_speaks reached moves.before speaks last

/-- Players at (49, 49), (48, 48) and (47, 49): the first speaks, the second hears it. -/
theorem message_recipients_sample :
    let moved := (Sample.play (Sample.login 0 5 7 ++ [.chatEnter 0] ++ Sample.login 1 6 8 ++
      [.chatEnter 1] ++ Sample.monitorLogin 2 9 ++ [.chatEnter 2,
      .chatRecv 0 (sectorMoveWire Sample.config 7 49 49),
      .chatRecv 1 (sectorMoveWire Sample.config 8 48 48),
      .chatRecv 2 (sectorMoveWire Sample.config 0 47 49)])).get (by decide +kernel)
    let spoken := (chatServer Sample.config).taken moved.2
      (.chatRecv 0 (messageWire Sample.config 7 2 [72, 105])) (by decide +kernel)
    (recipients spoken.calls).Nodup ∧ recipients spoken.calls = [6, 5] := by
  intro moved spoken
  have run : ServerRun Sample.config moved.1 moved.2 := Sample.play_run _ (by decide +kernel)
  have next : ServerRun Sample.config (moved.1 ++ [spoken]) spoken.post := run.advance _
  have registered : moved.2.registeredAt 0 49 49 :=
    ⟨⟨by decide +kernel, by decide +kernel⟩, by decide +kernel, by decide +kernel⟩
  have last := (run.registeredAt_iff 0 49 49).mp registered
  have speaks : Speaks Sample.config 0 spoken 2 [72, 105] := ⟨7, rfl, rfl, by decide +kernel⟩
  have heard := message_recipients next (by decide +kernel) moved.1 spoken [] rfl 0 2 [72, 105] 49 49
    speaks last
  exact ⟨heard.1, by decide +kernel⟩

end Runs

end ChatServerRedis
