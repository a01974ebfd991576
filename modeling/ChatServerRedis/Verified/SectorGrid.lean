import ChatServerRedis.Verified.Registration

/-! # The grid of sectors

`IsNonValidSector` lets the coordinate 50 pass, one more than the grid has.  The
uses of `listArr` stay inside the block exactly in the runs where no accepted
move carries a 50; in those runs every player sits in the list of its stored
coordinates and in no other.
-/

namespace ChatServerRedis

open PastTime Placement Transition

def Call.inGrid : Call → Bool
  | .listArr _ y x => decide (x < numOfSectorHorizontal ∧ y < numOfSectorVertical)
  | _ => true

/-- The same for the uses that register and unregister players, and the list is
    inside the block. -/
def Call.registersInGrid : Call → Bool
  | .listArr (.pushBack _) y x | .listArr (.remove _) y x =>
    decide (x < numOfSectorHorizontal ∧ y < numOfSectorVertical ∧ sectorOffset y x < sectorBlock)
  | _ => true

theorem sectorOffset_injective {y x y' x' : Nat} (bound : x < numOfSectorHorizontal)
    (bound' : x' < numOfSectorHorizontal) (same : sectorOffset y x = sectorOffset y' x') :
    y = y' ∧ x = x' := by
  simp only [sectorOffset, numOfSectorVertical, numOfSectorHorizontal] at *
  omega

theorem sectorOffset_lt {y x : Nat} (boundY : y < numOfSectorVertical)
    (boundX : x < numOfSectorHorizontal) : sectorOffset y x < sectorBlock := by
  simp only [sectorOffset, sectorBlock, numOfSectorVertical, numOfSectorHorizontal] at *
  omega

section Step

variable {config : Config} {server post : Server} {event : Event} {calls : List Call}
  {pPlayer : PlayerPtr}

theorem StepCase.pushBack_mem {sectorX sectorY : WORD}
    (outcome : StepCase config server event post calls)
    (moves : MovesTo config pPlayer ⟨server, event, calls, post⟩ sectorX sectorY) :
    .listArr (.pushBack pPlayer) sectorY.toNat sectorX.toNat ∈ calls := by
  obtain ⟨_, _, rfl⟩ := outcome.of_movesTo moves
  simp [moveCalls]

/-- Where the index of a use of a list comes from. -/
def IndexFrom (config : Config) (taken : Step) (y x : Nat) : ListUse → Prop
  | .pushBack pPlayer => ∃ sectorX sectorY, MovesTo config pPlayer taken sectorX sectorY ∧
      y = sectorY.toNat ∧ x = sectorX.toNat
  | .remove pPlayer => ∃ sectorX sectorY, taken.pre.registeredAt pPlayer sectorX sectorY ∧
      y = sectorY.toNat ∧ x = sectorX.toNat
  | .getFirst => True

theorem removeCalls_index {use : ListUse} {y x : Nat} (chat : server.phase pPlayer = .chat)
    (member : .listArr use y x ∈ removeCalls server pPlayer) :
    IndexFrom config ⟨server, event, calls, post⟩ y x use := by
  obtain ⟨flag, same⟩ := mem_removeCalls.mp member
  cases same
  exact ⟨_, _, ⟨⟨chat, flag⟩, rfl, rfl⟩, rfl, rfl⟩

theorem StepCase.index_from {use : ListUse} {y x : Nat} (lifecycle : Lifecycle server)
    (outcome : StepCase config server event post calls) (member : .listArr use y x ∈ calls) :
    IndexFrom config ⟨server, event, calls, post⟩ y x use := by
  cases outcome with
  | @moved pPlayer _ _ sectorX sectorY chat request accepts =>
    simp only [List.mem_append, mem_moveCalls, List.mem_singleton, Call.listArr.injEq, reduceCtorEq,
      or_false] at member
    obtain removed | ⟨rfl, rfl, rfl⟩ := member
    · exact removeCalls_index chat removed
    · exact ⟨_, _, movesTo_chatRecv.mpr ⟨rfl, _, request, accepts⟩, rfl, rfl⟩
  | @chatLeave pPlayer chat =>
    have removed : .listArr use y x ∈ removeCalls server pPlayer := by
      simpa [mem_leaveCalls] using member
    exact removeCalls_index chat removed
  | chatLeaveEarly chat login => exact absurd login (lifecycle.chat_bLogin chat)
  | loginIdle _ _ _ quiet | chatIdle _ _ _ quiet =>
    have harmless := List.all_eq_true.mp quiet _ member
    cases harmless
  | spoke =>
    simp only [List.mem_append, mem_broadcastCalls, List.mem_singleton, Call.listArr.injEq,
      reduceCtorEq, and_false, exists_false, or_false] at member
    obtain ⟨_, _, rfl, _⟩ := member
    trivial
  | monitorLogin => simp [mem_monitorCalls] at member
  | chatEnter => simp [mem_enterCalls] at member
  | accept | loginEnter | loggedIn | loginLeave | sectorInfo => simp at member

end Step

section Runs

variable {config : Config} {history : List Step} {state : Server} {pPlayer : PlayerPtr}
  {sectorX sectorY : WORD}

/-- All accepted moves of the history stay inside the grid. -/
def MovesInGrid (config : Config) (history : List Step) : Prop :=
  ∀ taken ∈ history, ∀ pPlayer sectorX sectorY, MovesTo config pPlayer taken sectorX sectorY →
    sectorX.toNat < numOfSectorHorizontal ∧ sectorY.toNat < numOfSectorVertical

/-- The stored coordinates of a registered player came with an accepted move. -/
theorem ServerRun.registered_inGrid (run : ServerRun config history state)
    (moves : MovesInGrid config history) (registered : state.registeredAt pPlayer sectorX sectorY) :
    sectorX.toNat < numOfSectorHorizontal ∧ sectorY.toNat < numOfSectorVertical := by
  obtain ⟨taken, member, moved⟩ := ((run.registeredAt_iff _ _ _).mp registered).once
  exact moves taken member pPlayer sectorX sectorY moved

theorem MovesInGrid.before {before after : List Step} (moves : MovesInGrid config (before ++ after)) :
    MovesInGrid config before :=
  fun taken member => moves taken (List.mem_append_left _ member)

/-- Every accepted move shows in the index of its `push_back`. -/
theorem ServerRun.movesInGrid (run : ServerRun config history state)
    (inGrid : ∀ taken ∈ history, ∀ pPlayer y x, .listArr (.pushBack pPlayer) y x ∈ taken.calls →
      x < numOfSectorHorizontal ∧ y < numOfSectorVertical) : MovesInGrid config history := by
  have used : ∀ taken ∈ history, ∀ pPlayer sectorX sectorY,
      MovesTo config pPlayer taken sectorX sectorY →
      .listArr (.pushBack pPlayer) sectorY.toNat sectorX.toNat ∈ taken.calls :=
    run.forall_mem fun before server event post calls reached outcome pPlayer sectorX sectorY =>
      outcome.pushBack_mem
  intro taken member pPlayer sectorX sectorY moves
  exact inGrid taken member pPlayer _ _ (used taken member pPlayer sectorX sectorY moves)

/-- An accepted move is inside the grid unless it carries a 50. -/
theorem movesInGrid_iff : MovesInGrid config history ↔
    ∀ taken ∈ history, ∀ pPlayer sectorX sectorY, MovesTo config pPlayer taken sectorX sectorY →
      sectorX.toNat ≠ 50 ∧ sectorY.toNat ≠ 50 := by
  refine forall₂_congr fun taken member => forall₃_congr fun pPlayer sectorX sectorY =>
    forall_congr' fun moves => ?_
  obtain ⟨accountNo, _, accepts⟩ := moves
  simp only [acceptsMove, isNonValidSector, Bool.and_eq_true, Bool.not_not, decide_eq_true_eq] at accepts
  simp only [numOfSectorHorizontal, numOfSectorVertical] at *
  omega

/-- The use of the lists by moves and leaves of a run: every index is inside the
    grid, and players registered at different coordinates share no list. -/
structure RegistrationsInGrid (history : List Step) (state : Server) : Prop where
  inGrid : ∀ taken ∈ history, ∀ call ∈ taken.calls, call.registersInGrid = true
  apart : ∀ first second firstX firstY secondX secondY, state.registeredAt first firstX firstY →
    state.registeredAt second secondX secondY → (firstX, firstY) ≠ (secondX, secondY) →
    ∀ offset, ¬ (first ∈ state.sectors offset ∧ second ∈ state.sectors offset)

theorem ServerRun.offset_eq (run : ServerRun config history state) {offset : Nat}
    (registered : state.registeredAt pPlayer sectorX sectorY) :
    pPlayer ∈ state.sectors offset ↔ offset = sectorOffset sectorY.toNat sectorX.toNat := by
  obtain ⟨here, rfl, rfl⟩ := registered
  rw [(run.placed offset).mem_iff, place_eq_of_registered here, Option.some.injEq]
  exact eq_comm

theorem ServerRun.registersInGrid (run : ServerRun config history state)
    (moves : MovesInGrid config history) :
    ∀ taken ∈ history, ∀ call ∈ taken.calls, call.registersInGrid = true := by
  have each : ∀ before taken after, history = before ++ taken :: after →
      MovesInGrid config (before ++ [taken]) →
      ∀ call ∈ taken.calls, call.registersInGrid = true := by
    refine run.forall_split fun before server event post calls reached outcome moves call member => ?_
    cases call with
    | listArr use y x =>
      have origin := outcome.index_from reached.lifecycle member
      cases use with
      | pushBack pPlayer =>
        obtain ⟨sectorX, sectorY, moved, rfl, rfl⟩ := origin
        obtain ⟨boundX, boundY⟩ := moves _ (by simp) pPlayer sectorX sectorY moved
        simp [Call.registersInGrid, boundX, boundY, sectorOffset_lt boundY boundX]
      | remove pPlayer =>
        obtain ⟨sectorX, sectorY, registered, rfl, rfl⟩ := origin
        obtain ⟨boundX, boundY⟩ := reached.registered_inGrid moves.before registered
        simp [Call.registersInGrid, boundX, boundY, sectorOffset_lt boundY boundX]
      | getFirst => rfl
    | _ => rfl
  -- only the moves up to the transition are needed, so the hypothesis is cut there
  intro taken member
  obtain ⟨before, after, rfl⟩ := List.append_of_mem member
  refine each before taken after rfl ?_
  rw [← List.singleton_append, ← List.append_assoc] at moves
  exact moves.before

/-- The uses of `listArr` stay inside the grid exactly in the runs in which no
    accepted move has a coordinate of 50. -/
theorem registrations_inGrid_iff (run : ServerRun config history state) :
    RegistrationsInGrid history state ↔
    ∀ taken ∈ history, ∀ pPlayer sectorX sectorY, MovesTo config pPlayer taken sectorX sectorY →
      sectorX.toNat ≠ 50 ∧ sectorY.toNat ≠ 50 := by
  rw [← movesInGrid_iff]
  constructor
  · rintro ⟨inGrid, _⟩
    refine run.movesInGrid fun taken member pPlayer y x used => ?_
    have inside := inGrid taken member _ used
    simp only [Call.registersInGrid, decide_eq_true_eq] at inside
    exact ⟨inside.1, inside.2.1⟩
  · intro moves
    refine ⟨run.registersInGrid moves, ?_⟩
    rintro first second firstX firstY secondX secondY registeredFirst registeredSecond differ offset
      ⟨here, there⟩
    have same := ((run.offset_eq registeredFirst).mp here).symm.trans
      ((run.offset_eq registeredSecond).mp there)
    obtain ⟨sameY, sameX⟩ := sectorOffset_injective (run.registered_inGrid moves registeredFirst).1
      (run.registered_inGrid moves registeredSecond).1 same
    exact differ (by rw [BitVec.eq_of_toNat_eq sameY, BitVec.eq_of_toNat_eq sameX])

theorem registrations_inGrid_sample :
    let played := (Sample.play (Sample.login 0 5 7 ++ [.chatEnter 0, .chatRecv 0
      (sectorMoveWire Sample.config 7 49 49), .chatLeave 0])).get (by decide +kernel)
    ∀ taken ∈ played.1, ∀ pPlayer sectorX sectorY, MovesTo Sample.config pPlayer taken sectorX sectorY →
      sectorX.toNat ≠ 50 ∧ sectorY.toNat ≠ 50 := by
  intro played
  have run : ServerRun Sample.config played.1 played.2 := Sample.play_run _ (by decide +kernel)
  refine (registrations_inGrid_iff run).mp ⟨by decide +kernel, ?_⟩
  rintro first second firstX firstY secondX secondY ⟨⟨chat, _⟩, _⟩
  have present := (run.lifecycle.chatters.mem_iff first).mpr chat
  have deserted : played.2.playerList = [] := by decide +kernel
  rw [deserted] at present
  cases present

/-- A move to (50, 0) is accepted and lands in the list of (0, 1). -/
theorem registrations_leave_grid : ∃ history state, ServerRun Sample.config history state ∧
    ¬ RegistrationsInGrid history state ∧ 0 ∈ state.listAt 1 0 ∧ 1 ∈ state.listAt 1 0 := by
  refine ⟨_, _, Sample.play_run (Sample.login 0 5 7 ++ Sample.login 1 6 8 ++ [.chatEnter 0,
    .chatEnter 1, .chatRecv 0 (sectorMoveWire Sample.config 7 50 0),
    .chatRecv 1 (sectorMoveWire Sample.config 8 0 1)]) (by decide +kernel), ?_, by decide +kernel,
    by decide +kernel⟩
  rintro ⟨inGrid, _⟩
  revert inGrid
  decide +kernel

/-- While all indices stay inside the grid, a registered player is linked once, in
    the list of its coordinates, every other player in none, and the lists are only
    used legally. -/
theorem sectorLists_exact (run : ServerRun config history state)
    (inGrid : ∀ taken ∈ history, ∀ call ∈ taken.calls, call.inGrid = true) :
    (∀ pPlayer ∈ state.playerList, (state.players pPlayer).bRegisterAtSector = true →
      (state.listAt (state.players pPlayer).sectorY.toNat
        (state.players pPlayer).sectorX.toNat).count pPlayer = 1 ∧
      ∀ y x, y < numOfSectorVertical → x < numOfSectorHorizontal → pPlayer ∈ state.listAt y x →
        y = (state.players pPlayer).sectorY.toNat ∧ x = (state.players pPlayer).sectorX.toNat) ∧
    (∀ pPlayer, pPlayer ∉ state.playerList ∨ (state.players pPlayer).bRegisterAtSector = false →
      ∀ offset, pPlayer ∉ state.sectors offset) ∧
    ∀ taken ∈ history, LegalAll taken.pre.sectors (sectorOps taken.calls) := by
  have placed := run.placed
  have chatters := run.lifecycle.chatters
  have moves : MovesInGrid config history := by
    refine run.movesInGrid fun taken member pPlayer y x used => ?_
    simpa [Call.inGrid] using inGrid taken member _ used
  refine ⟨fun pPlayer present flag => ?_, fun pPlayer absent offset linked => ?_,
    run.forall_mem fun before server event post calls reached outcome =>
      outcome.legal reached.lifecycle reached.placed⟩
  · have registered : state.registeredAt pPlayer _ _ :=
      ⟨⟨(chatters.mem_iff pPlayer).mp present, flag⟩, rfl, rfl⟩
    refine ⟨(placed _).count_eq_one (place_eq_of_registered registered.1), ?_⟩
    intro y x boundY boundX linked
    have same := (run.offset_eq registered).mp linked
    exact sectorOffset_injective boundX (run.registered_inGrid moves registered).1 same
  · have unplaced : state.place pPlayer = none := by
      refine place_eq_none fun registered => absent.elim (fun gone => ?_) fun flag => ?_
      · exact gone ((chatters.mem_iff pPlayer).mpr registered.1)
      · rw [registered.2] at flag
        cases flag
    rw [(placed offset).mem_iff, unplaced] at linked
    cases linked

/-- A player moves twice into the same sector; its slot is reused after it left. -/
theorem sectorLists_exact_sample :
    let played := (Sample.play (Sample.login 0 5 7 ++ [.chatEnter 0,
      .chatRecv 0 (sectorMoveWire Sample.config 7 49 3),
      .chatRecv 0 (sectorMoveWire Sample.config 7 49 3), .chatLeave 0] ++ Sample.login 0 6 8 ++
      [.chatEnter 0])).get (by decide +kernel)
    ∀ taken ∈ played.1, LegalAll taken.pre.sectors (sectorOps taken.calls) := by
  intro played
  exact (sectorLists_exact (Sample.play_run _ (by decide +kernel)) (by decide +kernel)).2.2

end Runs

end ChatServerRedis
