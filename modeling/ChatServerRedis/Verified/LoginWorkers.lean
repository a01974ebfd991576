import ChatServerRedis.General.Reduction
import ChatServerRedis.Model.LoginWorkers
import ChatServerRedis.Verified.SameSessions
import ChatServerRedis.Verified.SectorInfoReplies

/-! # Handler calls of LOGIN are atomic

The server of the other modules handles one packet at a time.  LOGIN does not: its calls
run on several threads, statement by statement, between each other and between the
callbacks of CHAT.  A call of LOGIN looks once at what it shares, and the rest of it concerns
a player that no other handler looks at, so the calls may as well be executed whole.
-/

namespace ChatServerRedis

open Handlers Lockstep LoginContents Reduction Transition

section Division

variable (config : Config)

/-- A call of LOGIN is divided, every other one is executed at once. -/
def startCall (server : Server) : Event → Option (Server × List Call × List Statement)
  | .loginRecv pPlayer typeLocal reply beyond pPacket =>
    if server.phase pPlayer = .login then
      match startRecv config typeLocal reply beyond pPacket pPlayer ⟨server, []⟩ with
      | .ok statements left => some (left.state, left.calls, statements)
      | .error _ _ => none
    else none
  | event => (step config server event).map fun (post, calls) => (post, calls, [])

/-- The framework handles the packets of a session one after the other. -/
def workers : Division Server Event Call PlayerPtr Statement where
  thread := Event.slot
  start := startCall config
  execute pPlayer statement server := run (statement.execute pPlayer) server

end Division

abbrev WorkersRun (config : Config) : List (Part Server Event Call PlayerPtr Statement) →
    Machine Server PlayerPtr Statement → Prop :=
  Run (parts (chatServer config) (workers config))

/-! ## Statements -/

/-- What a statement does to the player; `none` where the process stops. -/
def LoginContents.Statement.onPlayer : Statement → Player → Option Player
  | .make _, player | .registerLeave, player => some player
  | .setBLogin, player => some { player with bLogin := true }
  | .setAccountNo accountNo, player => some { player with accountNo := accountNo }
  | .copyID pID, player => (copiedText player.ID pID).map fun ID => { player with ID := ID }
  | .copyNickName pNickName, player =>
    (copiedText player.nickName pNickName).map fun nickName => { player with nickName := nickName }
  | .stop _, _ => none

def LoginContents.Statement.made (pPlayer : PlayerPtr) : Statement → List Call
  | .make made => [made]
  | .registerLeave => [.registerLeave pPlayer .chat]
  | _ => []

def LoginContents.Statement.registers : Statement → Bool
  | .registerLeave => true
  | _ => false

def Server.executed (server : Server) (pPlayer : PlayerPtr) (player : Player) (registers : Bool) : Server :=
  if registers then (server.setPlayer pPlayer fun _ => player).departing pPlayer
  else server.setPlayer pPlayer fun _ => player

section Statements

variable {config : Config} {server post : Server} {pPlayer other : PlayerPtr} {statement : Statement}
  {calls : List Call}

theorem setPlayer_self (server : Server) (pPlayer : PlayerPtr) :
    (server.setPlayer pPlayer fun _ => server.players pPlayer) = server := by
  simp [Server.setPlayer]

theorem execute_run (statement : Statement) (pPlayer : PlayerPtr) (server : Server) :
    run (statement.execute pPlayer) server = (statement.onPlayer (server.players pPlayer)).map
      fun player => (server.executed pPlayer player statement.registers, statement.made pPlayer) := by
  cases statement with
  | make | registerLeave =>
    simp [run, Statement.execute, Statement.onPlayer, Statement.registers, Statement.made,
      Server.executed, setPlayer_self, registerLeave, Server.departing]
  | setBLogin | setAccountNo =>
    simp [run, Statement.execute, Statement.onPlayer, Statement.registers, Statement.made,
      Server.executed, Server.setPlayer]
  | copyID pID =>
    cases text : copiedText (server.players pPlayer).ID pID <;>
      simp [run, Statement.execute, Statement.onPlayer, Statement.registers, Statement.made,
        Server.executed, Server.setPlayer, copyText_apply, text]
  | copyNickName pNickName =>
    cases text : copiedText (server.players pPlayer).nickName pNickName <;>
      simp [run, Statement.execute, Statement.onPlayer, Statement.registers, Statement.made,
        Server.executed, Server.setPlayer, copyText_apply, text]
  | stop => rfl

theorem execute_eq_some : run (statement.execute pPlayer) server = some (post, calls) ↔
    ∃ player, statement.onPlayer (server.players pPlayer) = some player ∧
      post = server.executed pPlayer player statement.registers ∧ calls = statement.made pPlayer := by
  simp [execute_run, eq_comm]

end Statements

/-! ## The first part of a call -/

/-- What is left of `CS_CHAT_REQ_LOGIN` after `lPlayerNum_` is read. -/
def loginLeft (config : Config) (server : Server) (pPlayer : PlayerPtr) (reply : Reply)
    (beyond : Nat → BYTE) (pPacket : List BYTE) : List Statement :=
  if config.maxPlayerNum ≤ server.lPlayerNum then [.make (.disconnect (server.session pPlayer))]
  else
    match readLogin pPacket with
    | none => [.make (.disconnect (server.session pPlayer))]
    | some fields => keyStatements reply beyond (server.session pPlayer) fields.accountNo fields.pID
        fields.pNickName fields.pSessionKey

@[simps! -fullyApplied]
def Server.monitorClaimed (server : Server) (pPlayer : PlayerPtr) : Server :=
  { server.setPlayer pPlayer fun player => { player with bLogin := true, bMonitoringLogin := true } with
    monitoringClientSessionID := (server.players pPlayer).sessionId }

def sectionCalls (server : Server) : List Call :=
  [.enterCriticalSection] ++
  (if server.monitoringClientSessionID ≠ maxULongLong then
    [.disconnect server.monitoringClientSessionID] else []) ++ [.leaveCriticalSection]

/-- The first part of `OnRecv` and what it leaves to do. -/
def recvStarted (config : Config) (server : Server) (pPlayer : PlayerPtr) (typeLocal : WORD)
    (reply : Reply) (beyond : Nat → BYTE) (pPacket : List BYTE) :
    Server × List Call × List Statement :=
  match readWord pPacket with
  | none => (server, [], .make (.disconnect (server.session pPlayer)) ::
      (if typeLocal = config.csChatMonitorClientLogin then [.make .leaveCriticalSection] else []))
  | some (type, rest) =>
    if type = config.csChatReqLogin then
      (server, [], loginLeft config server pPlayer reply beyond rest)
    else if type = config.csChatReqHeartbeat then (server, [], [])
    else if type = config.csChatMonitorClientLogin then
      (server.monitorClaimed pPlayer, sectionCalls server, [.registerLeave])
    else (server, [], [.stop .debugbreak])

section Start

variable {config : Config} {server : Server} {pPlayer : PlayerPtr} {typeLocal : WORD} {reply : Reply}
  {beyond : Nat → BYTE} {pPacket : List BYTE}

theorem startLogin_apply (config : Config) (server : Server) (pPlayer : PlayerPtr) (reply : Reply)
    (beyond : Nat → BYTE) (pPacket : List BYTE) :
    startLogin config reply beyond pPlayer pPacket ⟨server, []⟩ =
      if server.lPlayerNum < config.maxPlayerNum ∧ readLogin pPacket = none then
        .error (.thrown .packetExtractFail) ⟨server, []⟩
      else .ok (loginLeft config server pPlayer reply beyond pPacket) ⟨server, []⟩ := by
  by_cases full : config.maxPlayerNum ≤ server.lPlayerNum
  · simp [startLogin, loginLeft, full]
  · have room := Int.not_le.mp full
    cases account : readInt64 pPacket with
    | none => simp [startLogin, full, room, extractInt64_apply, account, readLogin]
    | some field =>
      simp [startLogin, loginLeft, full, extractInt64_apply, account, readLogin]

theorem startRecv_apply : startRecv config typeLocal reply beyond pPacket pPlayer ⟨server, []⟩ =
    .ok ((recvStarted config server pPlayer typeLocal reply beyond pPacket).2.2 ++ [.make .updateCntTps])
      ⟨(recvStarted config server pPlayer typeLocal reply beyond pPacket).1,
        (recvStarted config server pPlayer typeLocal reply beyond pPacket).2.1⟩ := by
  obtain ⟨_, label, _⟩ := config.loginLabels_ne
  unfold recvStarted
  cases type : readWord pPacket with
  | none =>
    simp [startRecv, startDispatch, catchThrown_apply, extractWord_apply, type, typeAtCatch_eq]
  | some field =>
    obtain ⟨type', rest⟩ := field
    simp only [startRecv, startDispatch, bind_apply, catchThrown_apply, extractWord_apply, branch_apply,
      type]
    by_cases login : type' = config.csChatReqLogin
    · subst login
      simp only [eq_self, if_true, startLogin_apply]
      by_cases short : server.lPlayerNum < config.maxPlayerNum ∧ readLogin rest = none
      · obtain ⟨room, short⟩ := short
        simp [room, short, typeAtCatch_eq, type, label, loginLeft, Int.not_le.mpr room]
      · simp [if_neg short]
    · simp only [if_neg login]
      by_cases heartbeat : type' = config.csChatReqHeartbeat
      · simp [heartbeat]
      · simp only [if_neg heartbeat]
        by_cases monitor : type' = config.csChatMonitorClientLogin
        · simp only [if_pos monitor]
          by_cases present : server.monitoringClientSessionID = maxULongLong <;>
            simp [present, sectionCalls, Server.monitorClaimed, Server.setPlayer]
        · simp [monitor]

theorem workers_execute (statement : Statement) (pPlayer : PlayerPtr) (server : Server) :
    (workers config).execute pPlayer statement server =
      (statement.onPlayer (server.players pPlayer)).map fun player =>
        (server.executed pPlayer player statement.registers, statement.made pPlayer) :=
  execute_run statement pPlayer server

theorem finish_nil (pPlayer : PlayerPtr) (server : Server) :
    (workers config).finish pPlayer [] server = some (server, []) := rfl

theorem finish_make (made : Call) (rest : List Statement) :
    (workers config).finish pPlayer (.make made :: rest) server =
      ((workers config).finish pPlayer rest server).map fun outcome =>
        (outcome.1, made :: outcome.2) := by
  simp [Division.finish, workers_execute, Statement.onPlayer, Statement.registers, Statement.made,
    Server.executed, setPlayer_self]

theorem finish_registerLeave (rest : List Statement) :
    (workers config).finish pPlayer (.registerLeave :: rest) server =
      ((workers config).finish pPlayer rest (server.departing pPlayer)).map fun outcome =>
        (outcome.1, .registerLeave pPlayer .chat :: outcome.2) := by
  simp [Division.finish, workers_execute, Statement.onPlayer, Statement.registers, Statement.made,
    Server.executed, setPlayer_self]

theorem finish_stop (fault : Fault) (rest : List Statement) :
    (workers config).finish pPlayer (.stop fault :: rest) server = none := by
  simp [Division.finish, workers_execute, Statement.onPlayer]

theorem finish_keyStatements (fields : LoginFields) :
    (workers config).finish pPlayer (keyStatements reply beyond (server.session pPlayer)
      fields.accountNo fields.pID fields.pNickName fields.pSessionKey) server =
        loginFieldsResult server pPlayer reply beyond fields := by
  unfold keyStatements loginFieldsResult
  rw [finish_make]
  cases reply.isNull with
  | true => simp [finish_make, finish_nil]
  | false =>
    cases fields.pSessionKey with
    | none => simp [finish_stop]
    | some key =>
      by_cases matched : key.take sessionKeyLen =
          (List.range sessionKeyLen).map (cStr reply.asString beyond)
      -- a text without its NUL stops the process between two statements
      · cases textID : copiedText (server.players pPlayer).ID fields.pID with
        | none =>
          simp [keyMatches, matched, Division.finish, workers_execute, Statement.onPlayer,
            Statement.registers, Statement.made, Server.executed, textID]
        | some ID =>
          cases textNick : copiedText (server.players pPlayer).nickName fields.pNickName <;>
            simp [keyMatches, matched, Division.finish, workers_execute, Statement.onPlayer,
              Statement.registers, Statement.made, Server.executed, textID, textNick, Server.loggedIn,
              Server.setPlayer]
      · simp [keyMatches, matched, finish_make, finish_nil]

theorem finish_recvStarted :
    let started := recvStarted config server pPlayer typeLocal reply beyond pPacket
    ((workers config).finish pPlayer (started.2.2 ++ [.make .updateCntTps]) started.1).map
        (fun outcome => (outcome.1, started.2.1 ++ outcome.2)) =
      loginResult config server pPlayer typeLocal reply beyond pPacket := by
  unfold recvStarted loginResult
  cases type : readWord pPacket with
  | none =>
    by_cases stale : typeLocal = config.csChatMonitorClientLogin <;>
      simp [stale, finish_make, finish_nil]
  | some field =>
    obtain ⟨type', rest⟩ := field
    dsimp only
    by_cases login : type' = config.csChatReqLogin
    · simp only [if_pos login, loginLeft, loginPacketResult]
      by_cases full : config.maxPlayerNum ≤ server.lPlayerNum
      · simp [full, finish_make, finish_nil]
      · cases readLogin rest with
        | none => simp [full, finish_make, finish_nil]
        | some fields =>
          simp only [if_neg full, finish_append, finish_keyStatements]
          cases loginFieldsResult server pPlayer reply beyond fields <;>
            simp [workers_execute, Statement.onPlayer, Statement.registers, Statement.made,
              Server.executed, setPlayer_self]
    · simp only [if_neg login]
      by_cases heartbeat : type' = config.csChatReqHeartbeat
      · simp [heartbeat, finish_make, finish_nil]
      · simp only [if_neg heartbeat]
        by_cases monitor : type' = config.csChatMonitorClientLogin
        · simp [monitor, finish_registerLeave, finish_make, finish_nil, sectionCalls, monitorCalls,
            Server.monitorClaimed, Server.monitorLoggedIn, Server.departing, Server.setPhase,
            Server.setPlayer]
        · simp [monitor, finish_stop]

end Start

/-- What the first part of a call can do. -/
inductive StartCase (config : Config) (server : Server) :
    Event → Server → List Call → List Statement → Prop where
  /-- The call is executed whole. -/
  | whole {event : Event} {post : Server} {calls : List Call}
      (taken : (chatServer config).step server event = some (post, calls)) :
      StartCase config server event post calls []
  /-- The call has read what it needs. -/
  | looked {pPlayer : PlayerPtr} {typeLocal : WORD} {reply : Reply} {beyond : Nat → BYTE}
      {pPacket : List BYTE} {rest : List Statement} (login : server.phase pPlayer = .login) :
      StartCase config server (.loginRecv pPlayer typeLocal reply beyond pPacket) server [] rest
  /-- A monitoring login has executed its critical section. -/
  | claimed {pPlayer : PlayerPtr} {typeLocal : WORD} {reply : Reply} {beyond : Nat → BYTE}
      {pPacket : List BYTE} (login : server.phase pPlayer = .login) :
      StartCase config server (.loginRecv pPlayer typeLocal reply beyond pPacket)
        (server.monitorClaimed pPlayer) (sectionCalls server) [.registerLeave, .make .updateCntTps]

section Cases

variable {config : Config} {server next last : Server} {event : Event} {calls later : List Call}
  {rest : List Statement} {pPlayer other : PlayerPtr} {statement : Statement}

theorem startCall_loginRecv {typeLocal : WORD} {reply : Reply} {beyond : Nat → BYTE}
    {pPacket : List BYTE} :
    startCall config server (.loginRecv pPlayer typeLocal reply beyond pPacket) =
      if server.phase pPlayer = .login then
        let started := recvStarted config server pPlayer typeLocal reply beyond pPacket
        some (started.1, started.2.1, started.2.2 ++ [.make .updateCntTps])
      else none := by
  simp only [startCall, startRecv_apply]

theorem workers_start (server : Server) (event : Event) :
    (workers config).start server event = startCall config server event := rfl

theorem startCall_cases (started : (workers config).start server event = some (next, calls, rest)) :
    StartCase config server event next calls rest := by
  rw [workers_start] at started
  cases event with
  | loginRecv pPlayer typeLocal reply beyond pPacket =>
    rw [startCall_loginRecv] at started
    split at started
    · next login =>
      simp only [recvStarted] at started
      split at started
      · cases started
        exact .looked login
      · split at started
        · cases started
          exact .looked login
        · split at started
          · cases started
            exact .looked login
          · split at started <;> cases started
            · exact .claimed login
            · exact .looked login
    · cases started
  | accept | loginEnter | loginLeave | chatEnter | chatRecv | chatLeave =>
    simp only [startCall, Option.map_eq_some_iff, Prod.exists, Prod.mk.injEq] at started
    obtain ⟨_, _, taken, rfl, rfl, rfl⟩ := started
    exact .whole taken

theorem step_eq_parts (config : Config) (server : Server) (event : Event) :
    (chatServer config).step server event =
      ((workers config).start server event).bind fun (next, calls, rest) =>
        ((workers config).finish ((workers config).thread event) rest next).map fun (last, later) =>
          (last, calls ++ later) := by
  rw [workers_start]
  cases event with
  | loginRecv pPlayer typeLocal reply beyond pPacket =>
    rw [startCall_loginRecv]
    by_cases login : server.phase pPlayer = .login
    · simp only [chatServer, step, if_pos login, LoginContents.onRecv_run, Option.bind_some]
      exact finish_recvStarted.symm
    · simp [chatServer, step, login]
  | accept | loginEnter | loginLeave | chatEnter | chatRecv | chatLeave =>
    simp only [chatServer, startCall, Option.bind_map, Function.comp_def, workers, Division.finish,
      Option.map_some, List.append_nil]
    cases step config server _ <;> rfl

end Cases

/-! ## What belongs to a session -/

/-- What a slot in use holds; a session whose call is under way has not come to CHAT. -/
def sessionLocality : Locality Server PlayerPtr (Option (Phase × ULONGLONG × Player)) where
  own pPlayer server :=
    if server.phase pPlayer = .free then none
    else some (server.phase pPlayer, server.session pPlayer, server.players pPlayer)
  away own := ∃ phase session player, own = some (phase, session, player) ∧
    (phase = .login ∨ phase = .moving)
  agree aside first second := SameSessions [] aside first second ∧ second.sectorInfo = first.sectorInfo

section Locality

variable {config : Config} {server first second next : Server} {pPlayer other : PlayerPtr}
  {aside aside' : PlayerPtr → Prop}

theorem away_iff : sessionLocality.away (sessionLocality.own pPlayer server) ↔
    server.phase pPlayer = .login ∨ server.phase pPlayer = .moving := by
  simp only [sessionLocality]
  constructor
  · rintro ⟨phase, session, player, holds, early⟩
    split at holds
    · cases holds
    · cases holds
      exact early
  · intro early
    have used : server.phase pPlayer ≠ .free := by
      obtain login | moving := early
      · simp [login]
      · simp [moving]
    exact ⟨_, _, _, if_neg used, early⟩

theorem own_eq_of_away (away : sessionLocality.away (sessionLocality.own pPlayer first))
    (same : sessionLocality.own pPlayer first = sessionLocality.own pPlayer second) :
    second.phase pPlayer = first.phase pPlayer ∧ second.session pPlayer = first.session pPlayer ∧
      second.players pPlayer = first.players pPlayer := by
  obtain ⟨phase, session, player, holds, _⟩ := away
  rw [same] at holds
  have both := same
  rw [holds] at both
  simp only [sessionLocality] at holds both
  split at holds
  · cases holds
  · split at both
    · cases both
    · cases holds
      simp only [Option.some.injEq, Prod.mk.injEq] at both
      exact ⟨both.1.symm, both.2.1.symm, both.2.2.symm⟩

theorem own_congr (phase : second.phase pPlayer = first.phase pPlayer)
    (session : second.session pPlayer = first.session pPlayer)
    (player : second.players pPlayer = first.players pPlayer) :
    sessionLocality.own pPlayer second = sessionLocality.own pPlayer first := by
  simp only [sessionLocality, phase, session, player]

theorem StepCase.own_kept {event : Event} {post : Server} {calls : List Call}
    (outcome : StepCase config server event post calls) (differ : pPlayer ≠ event.slot) :
    sessionLocality.own pPlayer post = sessionLocality.own pPlayer server := by
  obtain ⟨phase, session, player⟩ := outcome.frame differ
  exact own_congr phase session player

theorem SameSessions.own_eq (same : SameSessions [] aside first second) (here : ¬ aside pPlayer) :
    sessionLocality.own pPlayer first = sessionLocality.own pPlayer second := by
  have phase := same.phase pPlayer here
  by_cases free : first.phase pPlayer = .free
  · simp [sessionLocality, phase, free]
  · obtain ⟨session, player⟩ := same.slots pPlayer here free
    exact (own_congr phase session player).symm

theorem SameSessions.settle (same : SameSessions [] aside first second)
    (own : sessionLocality.own pPlayer first = sessionLocality.own pPlayer second) :
    SameSessions [] (fun other => aside other ∧ other ≠ pPlayer) first second := by
  refine ⟨fun other present => ?_, fun other present used => ?_, same.issued, same.lPlayerNum,
    same.monitor, same.loginPlayerMap, same.playerList, same.sectors⟩
  · by_cases here : other = pPlayer
    · subst here
      simp only [sessionLocality] at own
      split at own <;> split at own <;> simp_all
    · exact same.phase other fun out => present ⟨out, here⟩
  · by_cases here : other = pPlayer
    · subst here
      simp only [sessionLocality] at own
      split at own <;> split at own <;> simp_all
    · exact same.slots other (fun out => present ⟨out, here⟩) used

theorem SameSessions.mono (same : SameSessions [] aside first second)
    (more : ∀ pPlayer, aside pPlayer → aside' pPlayer) : SameSessions [] aside' first second :=
  ⟨fun pPlayer present => same.phase pPlayer fun out => present (more pPlayer out),
    fun pPlayer present => same.slots pPlayer fun out => present (more pPlayer out), same.issued,
    same.lPlayerNum, same.monitor, same.loginPlayerMap, same.playerList, same.sectors⟩

theorem executed_other (server : Server) (player : Player) (registers : Bool) (differ : other ≠ pPlayer) :
    (server.executed pPlayer player registers).phase other = server.phase other ∧
    (server.executed pPlayer player registers).session other = server.session other ∧
      (server.executed pPlayer player registers).players other = server.players other := by
  cases registers <;> simp [Server.executed, differ]

theorem executed_shared (server : Server) (pPlayer : PlayerPtr) (player : Player) (registers : Bool) :
    let post := server.executed pPlayer player registers
    post.issued = server.issued ∧ post.lPlayerNum = server.lPlayerNum ∧
      post.monitoringClientSessionID = server.monitoringClientSessionID ∧
      post.loginPlayerMap = server.loginPlayerMap ∧ post.playerList = server.playerList ∧
      post.sectors = server.sectors ∧ post.sectorInfo = server.sectorInfo := by
  cases registers <;> exact ⟨rfl, rfl, rfl, rfl, rfl, rfl, rfl⟩

/-- A statement on a slot aside is not noticed. -/
theorem SameSessions.executed_iff (out : aside pPlayer) (player : Player) (registers : Bool) :
    SameSessions [] aside first (second.executed pPlayer player registers) ↔
      SameSessions [] aside first second := by
  have differs : ∀ other, ¬ aside other → other ≠ pPlayer := by
    rintro other present rfl
    exact present out
  obtain ⟨issued, lPlayerNum, monitor, loginPlayerMap, playerList, sectors, _⟩ :=
    executed_shared second pPlayer player registers
  constructor
  · intro same
    refine ⟨fun other present => ?_, fun other present used => ?_, issued ▸ same.issued,
      lPlayerNum ▸ same.lPlayerNum, monitor ▸ same.monitor, loginPlayerMap ▸ same.loginPlayerMap,
      playerList ▸ same.playerList, sectors ▸ same.sectors⟩
    · rw [← (executed_other second player registers (differs other present)).1]
      exact same.phase other present
    · obtain ⟨_, session, player'⟩ := executed_other second player registers (differs other present)
      rw [← session, ← player']
      exact same.slots other present used
  · intro same
    refine ⟨fun other present => ?_, fun other present used => ?_, issued ▸ same.issued,
      lPlayerNum ▸ same.lPlayerNum, monitor ▸ same.monitor, loginPlayerMap ▸ same.loginPlayerMap,
      playerList ▸ same.playerList, sectors ▸ same.sectors⟩
    · rw [(executed_other second player registers (differs other present)).1]
      exact same.phase other present
    · obtain ⟨_, session, player'⟩ := executed_other second player registers (differs other present)
      rw [session, player']
      exact same.slots other present used

theorem monitorClaimed_other (differ : other ≠ pPlayer) :
    sessionLocality.own other (server.monitorClaimed pPlayer) = sessionLocality.own other server :=
  own_congr rfl rfl (by simp [differ])

theorem workers_lawful (config : Config) :
    Lawful (chatServer config) (workers config) sessionLocality where
  whole := step_eq_parts config
  started_own {server event next calls rest pPlayer} started differ := by
    cases startCall_cases started with
    | whole taken => exact (step_cases taken).own_kept differ
    | looked => rfl
    | claimed => exact monitorClaimed_other differ
  executed_own {server statement next calls pPlayer other} taken differ := by
    obtain ⟨player, _, rfl, _⟩ := execute_eq_some.mp taken
    obtain ⟨phase, session, players⟩ := executed_other server player statement.registers differ
    exact own_congr phase session players
  executed_alike {first second pPlayer} statement away same := by
    obtain ⟨phase, session, player⟩ := own_eq_of_away away same
    rw [workers_execute, workers_execute, player]
    cases statement.onPlayer (first.players pPlayer) with
    | none => rfl
    | some changed =>
      simp only [Option.map_some, Option.some.injEq, Prod.mk.injEq, and_true]
      refine (own_congr ?_ ?_ ?_).symm <;> cases statement.registers <;>
        simp [Server.executed, phase, session]
  executed_agree {aside server other statement next calls pPlayer} taken out := by
    obtain ⟨player, _, rfl, _⟩ := execute_eq_some.mp taken
    obtain ⟨_, _, _, _, _, _, sectorInfo⟩ :=
      executed_shared other pPlayer player statement.registers
    exact and_congr (SameSessions.executed_iff out player statement.registers) (by rw [sectorInfo])
  stopped_agree {aside server other event next calls rest} started stops agree := by
    cases startCall_cases started with
    | whole taken => cases stops
    | looked => exact ⟨agree.1.mono fun _ out => .inl out, agree.2⟩
    -- what follows the critical section always comes to its end
    | claimed => simp [finish_registerLeave, finish_make, finish_nil] at stops
  started_away {server event next calls rest} started unfinished := by
    cases startCall_cases started with
    | whole => exact absurd rfl unfinished
    | looked login => exact ⟨away_iff.mpr (.inl login), away_iff.mpr (.inl login)⟩
    | claimed login => exact ⟨away_iff.mpr (.inl login), away_iff.mpr (.inl login)⟩
  executed_away {server statement next calls pPlayer} taken away := by
    obtain ⟨player, _, rfl, _⟩ := execute_eq_some.mp taken
    rw [away_iff] at away ⊢
    cases statement.registers with
    | false => exact away
    | true => exact .inr (by simp [Server.executed])
  agree_refl aside server :=
    ⟨⟨fun _ _ => rfl, fun _ _ _ => ⟨rfl, rfl⟩, fun _ _ => Iff.rfl, rfl, rfl, rfl, rfl, rfl⟩, rfl⟩
  agree_own agree here := agree.1.own_eq here
  agree_settle agree own := ⟨agree.1.settle own, agree.2⟩
  agree_mono agree more := ⟨agree.1.mono more, agree.2⟩
  lockstep {history server other event aside} reached agree away here := by
    have outside : ∀ pPlayer, aside pPlayer → server.phase pPlayer ≠ .chat := by
      intro pPlayer out
      obtain login | moving := away_iff.mp (away pPlayer out)
      · simp [login]
      · simp [moving]
    have alike : Alike (SameSessions [] aside) (step config server event) (step config other event) :=
      agree.1.step outside reached here fun _ _ _ _ => List.not_mem_nil
    refine alike.imp fun {post post' calls} taken taken' same => ⟨same, ?_⟩
    by_cases asks : AsksSectorInfo config event
    · have cells : sizeByte other = sizeByte server := by
        funext cell
        simp only [sizeByte, Server.listAt, agree.1.sectors]
      rw [step_asks asks taken, step_asks asks taken']
      simp only [Server.refilled_sectorInfo, getSectorMonitoringInfo, cells]
    · rw [StepCase.sectorInfo_kept (step_cases taken) asks,
        StepCase.sectorInfo_kept (step_cases taken') asks]
      exact agree.2

end Locality

/-- However the calls of LOGIN fall between each other and between the callbacks of CHAT, a
    run of whole calls, in the order of their starts, explains the server: it has the same
    sessions, and a call that is under way comes to the same end. -/
theorem loginCalls_atomic {config : Config} {history : List (Part Server Event Call PlayerPtr Statement)}
    {machine : Machine Server PlayerPtr Statement} (run : WorkersRun config history machine) :
    ∃ steps server, ServerRun config steps server ∧
      steps.map Taken.event = begun (chatServer config) history ∧
      SameSessions [] machine.busy server machine.state ∧
      machine.state.sectorInfo = server.sectorInfo ∧
      ∀ pPlayer last later,
        (workers config).finish pPlayer (machine.left pPlayer) machine.state = some (last, later) →
          sessionLocality.own pPlayer server = sessionLocality.own pPlayer last ∧
          callsOf Event.slot steps pPlayer =
            callsOf (Reduction.Event.thread (workers config)) history pPlayer ++ later := by
  obtain ⟨steps, server, matched⟩ := parts_whole (workers_lawful config) run
  obtain ⟨same, sectorInfo⟩ := matched.agree
  exact ⟨steps, server, matched.run, matched.events, same, sectorInfo, matched.finishes⟩

namespace Sample

def playWorkers (events : List (Reduction.Event Event PlayerPtr)) :
    Option (List (Part Server Event Call PlayerPtr Statement) × Machine Server PlayerPtr Statement) :=
  (parts (chatServer config) (workers config)).execute
    ⟨Server.initial fun _ => memory, fun _ => []⟩ events

theorem playWorkers_run (events : List (Reduction.Event Event PlayerPtr))
    (played : (playWorkers events).isSome = true) :
    WorkersRun config ((playWorkers events).get played).1 ((playWorkers events).get played).2 := by
  have start : WorkersRun config [] ⟨Server.initial fun _ => memory, fun _ => []⟩ :=
    .start ⟨⟨_, rfl⟩, fun _ => rfl⟩
  exact Run.execute start (Option.some_get played).symm

/-- Two logins at once: the second one to start is the first one to enter CHAT. -/
def twoWorkers : List (Reduction.Event Event PlayerPtr) :=
  (login 3 6 12 ++ login 1 4 11).map .start ++ [.advance 1, .advance 3, .advance 3] ++
    List.replicate 6 (.advance 1) ++ [.start (.chatEnter 1)] ++ List.replicate 2 (.advance 3)

end Sample

theorem loginCalls_atomic_sample :
    let played := (Sample.playWorkers Sample.twoWorkers).get (by decide +kernel)
    ∃ steps server, ServerRun Sample.config steps server ∧
      steps.map Taken.event = begun (chatServer Sample.config) played.1 ∧
      SameSessions [] played.2.busy server played.2.state ∧
      played.2.state.sectorInfo = server.sectorInfo ∧
      ∀ pPlayer last later,
        (workers Sample.config).finish pPlayer (played.2.left pPlayer) played.2.state = some (last, later) →
          sessionLocality.own pPlayer server = sessionLocality.own pPlayer last ∧
          callsOf Event.slot steps pPlayer =
            callsOf (Reduction.Event.thread (workers Sample.config)) played.1 pPlayer ++ later := by
  intro played
  have run : WorkersRun Sample.config played.1 played.2 :=
    Sample.playWorkers_run _ (by decide +kernel)
  exact loginCalls_atomic run

end ChatServerRedis
