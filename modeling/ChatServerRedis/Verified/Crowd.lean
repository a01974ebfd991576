import ChatServerRedis.Verified.LoginKey
import ChatServerRedis.Verified.Occupancy

/-! # A crowded sector

Nothing limits the players of one sector but MAX_PLAYER_NUM: the players log in one
after the other and all move to it.  From 128 players on, a SECTOR_INFO request of
any of them stops the process.
-/

namespace ChatServerRedis

open Handlers LoginContents Placement Transition

/-! ## One more player -/

def emptyLogin (config : Config) (accountNo : INT64) : List BYTE :=
  wordBytes config.csChatReqLogin ++
    loginPayload accountNo Sample.emptyText Sample.emptyText Sample.sessionKey []

theorem loginResult_emptyLogin {config : Config} {server : Server} (pPlayer : PlayerPtr)
    (accountNo : INT64) (room : server.lPlayerNum < config.maxPlayerNum) :
    ∃ ID nickName, loginResult config server pPlayer 0 (.bulkString Sample.sessionKey) (fun _ => 0)
        (emptyLogin config accountNo) =
      some (server.loggedIn pPlayer accountNo ID nickName,
        [.redisGet (toString accountNo.toInt), .registerLeave pPlayer .chat, .updateCntTps]) := by
  have complete := Sample.complete_sessionKey
  have key : keyMatches (.bulkString Sample.sessionKey) (fun _ => 0) Sample.sessionKey = true := by
    decide
  obtain ⟨ID, textID⟩ := copiedText_terminated (server.players pPlayer).ID complete.ID_terminated
  obtain ⟨nickName, textNick⟩ :=
    copiedText_terminated (server.players pPlayer).nickName complete.nickName_terminated
  refine ⟨ID, nickName, ?_⟩
  simp only [loginResult, emptyLogin, readWord_wordBytes, if_true, loginPacketResult,
    Int.not_le.mpr room, if_false, readLogin_payload complete, loginFieldsResult, Reply.isNull, key,
    Bool.false_eq_true, textID, textNick, Option.map_some]
  rfl

section Admit

variable {config : Config} {history : List Step} {state : Server} {pPlayer : PlayerPtr}
  {sessionID : ULONGLONG} {accountNo : INT64} {sectorX sectorY : WORD}

theorem step_accept (memory : Player) (free : state.phase pPlayer = .free)
    (fresh : sessionID ∉ state.issued) (valid : sessionID ≠ maxULongLong) :
    step config state (.accept pPlayer sessionID memory) =
      some (state.opened pPlayer sessionID memory, []) := by
  rw [step, if_pos ⟨free, fresh, valid⟩, onAccept_openSession]

theorem step_loginEnter (accepted : state.phase pPlayer = .accepted) :
    step config state (.loginEnter pPlayer) = some (state.loginEntered pPlayer, []) := by
  rw [step, if_pos accepted, LoginContents.onEnter_run]
  rfl

theorem step_emptyLogin (login : state.phase pPlayer = .login)
    (room : state.lPlayerNum < config.maxPlayerNum) :
    ∃ ID nickName calls, step config state (.loginRecv pPlayer 0 (.bulkString Sample.sessionKey)
      (fun _ => 0) (emptyLogin config accountNo)) =
        some (state.loggedIn pPlayer accountNo ID nickName, calls) := by
  obtain ⟨ID, nickName, granted⟩ := loginResult_emptyLogin pPlayer accountNo room
  rw [← LoginContents.onRecv_run] at granted
  exact ⟨ID, nickName, _, (if_pos login).trans granted⟩

theorem step_chatEnter (moving : state.phase pPlayer = .moving) :
    step config state (.chatEnter pPlayer) = some ((state.enterChat pPlayer).entered pPlayer,
      enterCalls config (state.enterChat pPlayer) pPlayer) := by
  rw [step, if_pos moving, ChatContents.onEnter_run]

theorem step_sectorMove (chat : state.phase pPlayer = .chat)
    (accepts : acceptsMove (state.players pPlayer) accountNo sectorX sectorY = true) :
    step config state (.chatRecv pPlayer (sectorMoveWire config accountNo sectorX sectorY)) =
      some (state.moved pPlayer sectorX sectorY,
        moveCalls config state pPlayer sectorX sectorY ++ [.updateCntTps]) := by
  rw [step, if_pos chat, ChatContents.onRecv_run, (decodeRequest_eq_sectorMove config).mpr rfl,
    requestResult, if_pos accepts]

theorem ServerRun.next (run : ServerRun config history state) {event : Event} {post : Server}
    {calls : List Call} (taken : step config state event = some (post, calls)) :
    ServerRun config (history ++ [⟨state, event, calls, post⟩]) post :=
  Run.snoc run taken

/-- A new session logs in, enters CHAT and moves to a sector, and no other slot notices. -/
theorem ServerRun.admit (run : ServerRun config history state) (free : state.phase pPlayer = .free)
    (fresh : sessionID ∉ state.issued) (valid : sessionID ≠ maxULongLong)
    (room : state.lPlayerNum < config.maxPlayerNum)
    (sector : isNonValidSector sectorX sectorY = false) :
    ∃ history' post, ServerRun config history' post ∧ post.registeredAt pPlayer sectorX sectorY ∧
      (∀ other, other ≠ pPlayer → post.phase other = state.phase other ∧
        post.players other = state.players other) ∧
      post.issued = sessionID :: state.issued ∧ post.playerList = state.playerList ++ [pPlayer] ∧
      post.lPlayerNum = state.lPlayerNum + 1 := by
  have accepted := run.next (step_accept Sample.memory free fresh valid)
  have entered := accepted.next (@step_loginEnter config _ pPlayer (by simp))
  obtain ⟨ID, nickName, _, login⟩ := @step_emptyLogin config
    ((state.opened pPlayer sessionID Sample.memory).loginEntered pPlayer) pPlayer 0 (by simp) room
  have loggedIn := entered.next login
  have chatting := loggedIn.next (@step_chatEnter config _ pPlayer (by simp))
  have moved := chatting.next (@step_sectorMove config _ pPlayer 0 sectorX sectorY (by simp)
    (by simp [acceptsMove, speaksAs, sector]))
  refine ⟨_, _, moved, ?_, fun other differ => ?_, ?_, ?_, ?_⟩
  · simp [Server.registeredAt, Server.registered]
  · simp [differ]
  · simp
  · simp
  · simp

end Admit

/-! ## Any number of players -/

section Crowd

variable {config : Config} {sectorX sectorY : WORD}

/-- Players 0 to `count - 1` are registered at the sector and the other slots are free. -/
structure Crowded (state : Server) (sectorX sectorY : WORD) (count : Nat) : Prop where
  registered : ∀ pPlayer, pPlayer < count → state.registeredAt pPlayer sectorX sectorY
  free : ∀ pPlayer, count ≤ pPlayer → state.phase pPlayer = .free
  issued : ∀ sessionID ∈ state.issued, sessionID.toNat < count
  playerList : state.playerList = List.range count
  counted : state.lPlayerNum = count

/-- As many players as MAX_PLAYER_NUM allows can be registered at one sector. -/
theorem exists_crowded (sector : isNonValidSector sectorX sectorY = false) (count : Nat)
    (room : (count : Int) ≤ config.maxPlayerNum) (sessions : count < 2 ^ 64 - 1) :
    ∃ history state, ServerRun config history state ∧ Crowded state sectorX sectorY count := by
  induction count with
  | zero =>
    refine ⟨[], Server.initial fun _ => Sample.memory, .start ⟨_, rfl⟩, ?_⟩
    exact ⟨by simp, fun _ _ => rfl, by simp [Server.initial], rfl, rfl⟩
  | succ count inductionHypothesis =>
    obtain ⟨history, state, run, crowded⟩ := inductionHypothesis (by omega) (by omega)
    have sessionId : (BitVec.ofNat 64 count).toNat = count := by
      rw [BitVec.toNat_ofNat]
      omega
    have fresh : BitVec.ofNat 64 count ∉ state.issued := by
      intro used
      have below := crowded.issued _ used
      omega
    have valid : BitVec.ofNat 64 count ≠ maxULongLong := by
      intro reserved
      have largest : (BitVec.ofNat 64 count).toNat = 2 ^ 64 - 1 := by
        rw [reserved]
        rfl
      omega
    obtain ⟨history', post, run', registered, others, issued, playerList, counted⟩ :=
      run.admit (crowded.free count (Nat.le_refl count)) fresh valid
        (by rw [crowded.counted]; omega) sector
    refine ⟨history', post, run', ?_, ?_, ?_, ?_, ?_⟩
    · intro pPlayer bound
      by_cases new : pPlayer = count
      · rw [new]
        exact registered
      · obtain ⟨phase, player⟩ := others pPlayer new
        unfold Server.registeredAt Server.registered
        rw [phase, player]
        exact crowded.registered pPlayer (by omega)
    · intro pPlayer bound
      rw [(others pPlayer (Nat.ne_of_gt bound)).1]
      exact crowded.free pPlayer (Nat.le_of_lt bound)
    · intro sessionID used
      rw [issued, List.mem_cons] at used
      cases used with
      | inl new => rw [new, sessionId]; omega
      | inr old =>
        have below := crowded.issued _ old
        omega
    · rw [playerList, crowded.playerList, List.range_succ]
    · rw [counted, crowded.counted]
      omega

theorem Crowded.population {state : Server} {y x count : Nat}
    (crowded : Crowded state (BitVec.ofNat 16 x) (BitVec.ofNat 16 y) count) :
    state.population y x = count := by
  have everyone : ∀ pPlayer ∈ state.playerList,
      decide (state.registeredAt pPlayer (BitVec.ofNat 16 x) (BitVec.ofNat 16 y)) = true := by
    intro pPlayer member
    rw [crowded.playerList, List.mem_range] at member
    exact decide_eq_true (crowded.registered pPlayer member)
  rw [Server.population, List.countP_eq_length.mpr everyone, crowded.playerList, List.length_range]

theorem exists_debugbreak (room : 128 ≤ config.maxPlayerNum) : ∃ history state,
    ServerRun config history state ∧ state.phase 0 = .chat ∧ state.population 0 0 = 128 ∧
    ∀ rest, step config state (.chatRecv 0 (wordBytes config.csChatReqSectorInfo ++ rest)) = none := by
  obtain ⟨history, state, run, crowded⟩ := @exists_crowded config 0 0 (by decide) 128 room (by decide)
  have chat : state.phase 0 = .chat := (crowded.registered 0 (by decide)).1.1
  have full : state.population 0 0 = 128 := crowded.population
  refine ⟨history, state, run, chat, full, fun rest => ?_⟩
  rw [step_sectorInfo chat, if_neg]
  intro encodable
  have few := (sizeByte_slt _).mp (encodable (0, 0) (by decide))
  rw [run.listAt_length (by decide) (by decide), full] at few
  simp at few

end Crowd

/-- With MAX_PLAYER_NUM = 128, the full server cannot answer a SECTOR_INFO request when
    all its players stand in one sector. -/
theorem answersOccupancy_debugbreak :
    let config := { Sample.config with maxPlayerNum := 128 }
    ∃ history state, ServerRun config history state ∧ state.phase 0 = .chat ∧
      state.population 0 0 = 128 ∧ ¬ AnswersOccupancy config state 0 [] := by
  intro config
  obtain ⟨history, state, run, chat, full, stopped⟩ := @exists_debugbreak config (by decide)
  refine ⟨history, state, run, chat, full, fun answered => ?_⟩
  obtain ⟨post, calls, payload, taken, _⟩ := answered
  rw [stopped] at taken
  cases taken

end ChatServerRedis
