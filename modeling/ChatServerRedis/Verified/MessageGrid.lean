import ChatServerRedis.Verified.Acceptance

/-! # The sectors a message reads

`GetSectorAround` drops the neighbours outside the grid and keeps the centre, and
`CS_CHAT_REQ_MESSAGE` takes the centre from `sectorX_` and `sectorY_` without
asking whether the player has moved yet.
-/

namespace ChatServerRedis

open Transition

/-- Every list that `SendPacket_AROUND` walks is inside the grid. -/
def WalksInGrid (calls : List Call) : Prop :=
  ∀ y x, .listArr .getFirst y x ∈ calls → x < numOfSectorHorizontal ∧ y < numOfSectorVertical

section Step

variable {config : Config} {server : Server} {pPlayer : PlayerPtr}

theorem mem_broadcastCalls_getFirst {messageLen : WORD} {message : List BYTE} {y x : Nat} :
    .listArr .getFirst y x ∈
        broadcastCalls config server pPlayer messageLen message ++ [.updateCntTps] ↔
      ∃ cell ∈ getSectorAround (server.players pPlayer).sectorX (server.players pPlayer).sectorY,
        y = cell.sectorY.toNat ∧ x = cell.sectorX.toNat := by
  simp [mem_broadcastCalls]

theorem walksInGrid_broadcastCalls {messageLen : WORD} {message : List BYTE} :
    WalksInGrid (broadcastCalls config server pPlayer messageLen message ++ [.updateCntTps]) ↔
      (server.players pPlayer).sectorX.toNat < numOfSectorHorizontal ∧
      (server.players pPlayer).sectorY.toNat < numOfSectorVertical := by
  simp only [WalksInGrid, mem_broadcastCalls_getFirst]
  constructor
  · intro inGrid
    exact inGrid _ _ ⟨_, center_mem_getSectorAround _ _, rfl, rfl⟩
  · intro centre y x walked
    obtain ⟨cell, member, rfl, rfl⟩ := walked
    cases inGrid_of_mem_getSectorAround member with
    | inl same =>
      subst same
      exact centre
    | inr inside => exact inside

end Step

section Runs

variable {config : Config} {history : List Step} {state post : Server} {pPlayer : PlayerPtr}
  {pPacket : List BYTE} {calls : List Call}

/-- While the registered players are inside the grid, a packet makes the server read
    only lists of the grid exactly when it is no accepted message, or its sender has
    been registered at a sector, or the coordinates in the sender's memory happen to
    be inside the grid. -/
theorem message_inGrid_iff (run : ServerRun config history state)
    (inside : ∀ other sectorX sectorY, state.registeredAt other sectorX sectorY →
      sectorX.toNat < numOfSectorHorizontal ∧ sectorY.toNat < numOfSectorVertical)
    (taken : (chatServer config).step state (.chatRecv pPlayer pPacket) = some (post, calls)) :
    WalksInGrid calls ↔
      ¬ OwnMessage config (state.players pPlayer) pPacket ∨ state.registered pPlayer ∨
      ((state.players pPlayer).sectorX.toNat < numOfSectorHorizontal ∧
        (state.players pPlayer).sectorY.toNat < numOfSectorVertical) := by
  by_cases own : OwnMessage config (state.players pPlayer) pPacket
  · obtain ⟨messageLen, message, rfl, whole⟩ := own
    have chat : state.phase pPlayer = .chat := by
      by_contra elsewhere
      simp [chatServer, step, elsewhere] at taken
    have login : (state.players pPlayer).bLogin = true :=
      (run.lifecycle.slots pPlayer).loggedIn (.inr chat)
    have speaks : Speaks config pPlayer ⟨state, .chatRecv pPlayer _, calls, post⟩ messageLen message :=
      ⟨(state.players pPlayer).accountNo, rfl, whole, by simp [speaksAs, login]⟩
    have outcome : StepCase config state (.chatRecv pPlayer _) post calls :=
      step_cases taken
    obtain ⟨_, _, rfl⟩ := outcome.of_speaks speaks
    rw [walksInGrid_broadcastCalls]
    constructor
    · intro centre
      exact .inr (.inr centre)
    · intro condition
      rcases condition with refused | registered | centre
      · exact absurd ⟨messageLen, message, rfl, whole⟩ refused
      · exact inside pPlayer _ _ ⟨registered, rfl, rfl⟩
      · exact centre
  · have silent : WalksInGrid calls :=
      fun y x walked => absurd (ownMessage_of_walked run taken walked) own
    simp [silent, own]

/-- A player that has moved speaks. -/
theorem message_inGrid_moved :
    let played := (Sample.play (Sample.login 0 5 7 ++ [.chatEnter 0,
      .chatRecv 0 (sectorMoveWire Sample.config 7 49 49)])).get (by decide +kernel)
    let taken := (chatServer Sample.config).taken played.2
      (.chatRecv 0 (messageWire Sample.config 7 2 [72, 105])) (by decide +kernel)
    WalksInGrid taken.calls := by
  intro played taken
  have run : ServerRun Sample.config played.1 played.2 := Sample.play_run _ (by decide +kernel)
  have inGrid : ∀ step ∈ played.1, ∀ call ∈ step.calls, call.inGrid = true := by decide +kernel
  have moves : MovesInGrid Sample.config played.1 := by
    refine run.movesInGrid fun step member pPlayer y x used => ?_
    simpa [Call.inGrid] using inGrid step member _ used
  have registered : played.2.registered 0 := by decide +kernel
  exact (message_inGrid_iff run (fun _ _ _ => run.registered_inGrid moves) (System.step_taken _)).mpr
    (.inr (.inl registered))

/-- The slot of the first session holds a player that stood at (60000, 7). -/
def strayMemory : Player := { Sample.memory with sectorX := 60000, sectorY := 7 }

/-- A player that logs in and speaks before its first move makes the server read the
    list at the coordinates its slot held before. -/
theorem message_leaves_grid :
    let played := (Sample.play [.accept 0 5 strayMemory, .loginEnter 0, .loginRecv 0 0
      (.bulkString Sample.sessionKey) (fun _ => 0) (Sample.loginPacket 7), .chatEnter 0]).get
        (by decide +kernel)
    let taken := (chatServer Sample.config).taken played.2
      (.chatRecv 0 (messageWire Sample.config 7 2 [72, 105])) (by decide +kernel)
    ServerRun Sample.config (played.1 ++ [taken]) taken.post ∧
    (∀ other sectorX sectorY, ¬ played.2.registeredAt other sectorX sectorY) ∧
    .listArr .getFirst 7 60000 ∈ taken.calls := by
  intro played taken
  have run : ServerRun Sample.config played.1 played.2 := Sample.play_run _ (by decide +kernel)
  refine ⟨run.advance _, fun other sectorX sectorY registered => ?_, by decide +kernel⟩
  have present := (run.lifecycle.chatters.mem_iff other).mpr registered.1.1
  have alone : played.2.playerList = [0] := by decide +kernel
  have unregistered : (played.2.players 0).bRegisterAtSector = false := by decide +kernel
  rw [alone, List.mem_singleton] at present
  have flag := registered.1.2
  rw [present, unregistered] at flag
  cases flag

end Runs

end ChatServerRedis
