import ChatServerRedis.Verified.LoginRequests

/-! # What one step of the server can do

`StepCase` lists the outcomes of a step with everything an outcome implies: the
guards that were passed, the state it leaves behind and the calls it made.
`step_cases` proves the list complete.  The invariants are proved by cases over
it and never look at `step` again.
-/

namespace ChatServerRedis

open Handlers

/-- Calls that a refused or ignored packet may make. -/
def Call.quiet : Call → Bool
  | .disconnect _ | .redisGet _ | .leaveCriticalSection | .updateCntTps => true
  | _ => false

namespace Server

/-- The slot holds a freshly constructed player of a new session. -/
@[simps! -fullyApplied]
def opened (server : Server) (pPlayer : PlayerPtr) (sessionID : ULONGLONG) (memory : Player) :
    Server :=
  { server.setPhase pPlayer .accepted with
    session := Function.update server.session pPlayer sessionID
    issued := sessionID :: server.issued
    players := Function.update server.players pPlayer { memory.construct with sessionId := sessionID } }

/-- `LoginContents::OnEnter` has reset the flags. -/
@[simps! -fullyApplied]
def loginEntered (server : Server) (pPlayer : PlayerPtr) : Server :=
  (server.setPhase pPlayer .login).setPlayer pPlayer fun player =>
    { player with bLogin := false, bRegisterAtSector := false, bMonitoringLogin := false }

/-- `OnLeave` of a player without `bLogin` stops after the monitoring block. -/
@[simps -fullyApplied]
def leftEarly (server : Server) (pPlayer : PlayerPtr) : Server :=
  { server with
    playerList := server.playerList.erase pPlayer
    monitoringClientSessionID := server.monitorAfter pPlayer }

end Server

theorem ChatContents.onLeave_run_early (pPlayer : PlayerPtr) (server : Server)
    (login : (server.players pPlayer).bLogin = false) :
    run (ChatContents.onLeave pPlayer) server = some (server.leftEarly pPlayer,
      if (server.players pPlayer).bMonitoringLogin then [.enterCriticalSection, .leaveCriticalSection]
      else []) := by
  by_cases own : server.monitoringClientSessionID = (server.players pPlayer).sessionId <;>
    cases monitoring : (server.players pPlayer).bMonitoringLogin <;>
    simp [run, ChatContents.onLeave, login, monitoring, own, Server.leftEarly, Server.monitorAfter]

/-! ## Packets that are let through -/

section Admission

variable (config : Config) (server : Server) (reply : Reply) (beyond : Nat → BYTE)
  (pPacket : List BYTE)

/-- `CS_CHAT_REQ_LOGIN` reaches its success path for the account. -/
def GrantsLogin (accountNo : INT64) : Prop :=
  ∃ rest fields key, readWord pPacket = some (config.csChatReqLogin, rest) ∧
    server.lPlayerNum < config.maxPlayerNum ∧ readLogin rest = some fields ∧
    fields.accountNo = accountNo ∧ reply.isNull = false ∧ fields.pSessionKey = some key ∧
    keyMatches reply beyond key = true

def IsMonitorLogin : Prop :=
  ∃ rest, readWord pPacket = some (config.csChatMonitorClientLogin, rest)

end Admission

/-- The outcomes of a step from `server`. -/
inductive StepCase (config : Config) (server : Server) : Event → Server → List Call → Prop where
  | accept {pPlayer : PlayerPtr} {sessionID : ULONGLONG} {memory : Player}
      (free : server.phase pPlayer = .free) (fresh : sessionID ∉ server.issued)
      (valid : sessionID ≠ maxULongLong) :
      StepCase config server (.accept pPlayer sessionID memory)
        (server.opened pPlayer sessionID memory) []
  | loginEnter {pPlayer : PlayerPtr} (accepted : server.phase pPlayer = .accepted) :
      StepCase config server (.loginEnter pPlayer) (server.loginEntered pPlayer) []
  | loginIdle {pPlayer : PlayerPtr} {typeLocal : WORD} {reply : Reply} {beyond : Nat → BYTE}
      {pPacket : List BYTE} {calls : List Call} (login : server.phase pPlayer = .login)
      (refused : ∀ accountNo, ¬ GrantsLogin config server reply beyond pPacket accountNo)
      (ordinary : ¬ IsMonitorLogin config pPacket) (quiet : calls.all Call.quiet = true) :
      StepCase config server (.loginRecv pPlayer typeLocal reply beyond pPacket) server calls
  | loggedIn {pPlayer : PlayerPtr} {typeLocal : WORD} {reply : Reply} {beyond : Nat → BYTE}
      {pPacket : List BYTE} {accountNo : INT64} {ID : Vector WCHAR idLen}
      {nickName : Vector WCHAR nickNameLen} (login : server.phase pPlayer = .login)
      (granted : GrantsLogin config server reply beyond pPacket accountNo) :
      StepCase config server (.loginRecv pPlayer typeLocal reply beyond pPacket)
        (server.loggedIn pPlayer accountNo ID nickName)
        [.redisGet (toString accountNo.toInt), .registerLeave pPlayer .chat, .updateCntTps]
  | monitorLogin {pPlayer : PlayerPtr} {typeLocal : WORD} {reply : Reply} {beyond : Nat → BYTE}
      {pPacket : List BYTE} (login : server.phase pPlayer = .login)
      (monitor : IsMonitorLogin config pPacket) :
      StepCase config server (.loginRecv pPlayer typeLocal reply beyond pPacket)
        (server.monitorLoggedIn pPlayer) (monitorCalls server pPlayer ++ [.updateCntTps])
  | loginLeave {pPlayer : PlayerPtr} (login : server.phase pPlayer = .login) :
      StepCase config server (.loginLeave pPlayer) (server.setPhase pPlayer .free) []
  | chatEnter {pPlayer : PlayerPtr} (moving : server.phase pPlayer = .moving) :
      StepCase config server (.chatEnter pPlayer) ((server.enterChat pPlayer).entered pPlayer)
        (enterCalls config server pPlayer)
  | chatIdle {pPlayer : PlayerPtr} {pPacket : List BYTE} {calls : List Call}
      (chat : server.phase pPlayer = .chat)
      (unmoved : ∀ accountNo sectorX sectorY,
        decodeRequest config pPacket = .sectorMove accountNo sectorX sectorY →
        acceptsMove (server.players pPlayer) accountNo sectorX sectorY = false)
      (silent : ∀ accountNo messageLen message,
        decodeRequest config pPacket = .message accountNo messageLen message →
        speaksAs (server.players pPlayer) accountNo = false)
      (quiet : calls.all Call.quiet = true) :
      StepCase config server (.chatRecv pPlayer pPacket) server calls
  | moved {pPlayer : PlayerPtr} {pPacket : List BYTE} {accountNo : INT64} {sectorX sectorY : WORD}
      (chat : server.phase pPlayer = .chat)
      (request : decodeRequest config pPacket = .sectorMove accountNo sectorX sectorY)
      (accepts : acceptsMove (server.players pPlayer) accountNo sectorX sectorY = true) :
      StepCase config server (.chatRecv pPlayer pPacket) (server.moved pPlayer sectorX sectorY)
        (moveCalls config server pPlayer sectorX sectorY ++ [.updateCntTps])
  | spoke {pPlayer : PlayerPtr} {pPacket : List BYTE} {accountNo : INT64} {messageLen : WORD}
      {message : List BYTE} (chat : server.phase pPlayer = .chat)
      (request : decodeRequest config pPacket = .message accountNo messageLen message)
      (speaks : speaksAs (server.players pPlayer) accountNo = true) :
      StepCase config server (.chatRecv pPlayer pPacket) server
        (broadcastCalls config server pPlayer messageLen message ++ [.updateCntTps])
  | sectorInfo {pPlayer : PlayerPtr} {pPacket : List BYTE} (chat : server.phase pPlayer = .chat)
      (request : decodeRequest config pPacket = .sectorInfo) :
      StepCase config server (.chatRecv pPlayer pPacket) server.refilled
        [.sendPacket (server.players pPlayer).sessionId .sectorInfo, .updateCntTps]
  | chatLeave {pPlayer : PlayerPtr} (chat : server.phase pPlayer = .chat)
      (login : (server.players pPlayer).bLogin = true) :
      StepCase config server (.chatLeave pPlayer) ((server.left pPlayer).setPhase pPlayer .free)
        (leaveCalls server pPlayer)
  | chatLeaveEarly {pPlayer : PlayerPtr} {calls : List Call} (chat : server.phase pPlayer = .chat)
      (login : (server.players pPlayer).bLogin = false) :
      StepCase config server (.chatLeave pPlayer)
        ((server.leftEarly pPlayer).setPhase pPlayer .free) calls

variable {config : Config} {server post : Server} {calls : List Call}

/-! ## A packet in LOGIN -/

section Login

variable {pPlayer : PlayerPtr} {typeLocal : WORD} {reply : Reply} {beyond : Nat → BYTE}
  {pPacket : List BYTE}

theorem GrantsLogin.not_monitor {accountNo : INT64}
    (granted : GrantsLogin config server reply beyond pPacket accountNo) :
    ¬ IsMonitorLogin config pPacket := by
  obtain ⟨rest, fields, key, type, _⟩ := granted
  intro monitor
  obtain ⟨other, type'⟩ := monitor
  rw [type, Option.some.injEq, Prod.mk.injEq] at type'
  exact config.loginLabels_ne.2.1 type'.1

/-- An accepted LOGIN writes the two texts of its packet over the memory of the slot. -/
theorem loginResult_granted {accountNo : INT64}
    (granted : GrantsLogin config server reply beyond pPacket accountNo)
    (result : loginResult config server pPlayer typeLocal reply beyond pPacket = some (post, calls)) :
    ∃ rest fields ID nickName, readWord pPacket = some (config.csChatReqLogin, rest) ∧
      readLogin rest = some fields ∧ copiedText (server.players pPlayer).ID fields.pID = some ID ∧
      copiedText (server.players pPlayer).nickName fields.pNickName = some nickName ∧
      post = server.loggedIn pPlayer accountNo ID nickName ∧
      calls = [.redisGet (toString accountNo.toInt), .registerLeave pPlayer .chat, .updateCntTps] := by
  obtain ⟨rest, fields, key, type, room, parsed, rfl, stored, keyField, matched⟩ := granted
  simp only [loginResult, type, if_true, loginPacketResult, Int.not_le.mpr room, if_false, parsed,
    loginFieldsResult, stored, Bool.false_eq_true, keyField, matched, Option.map_eq_some_iff,
    Prod.exists, Prod.mk.injEq] at result
  obtain ⟨_, _, result, rfl, rfl⟩ := result
  split at result
  · next ID nickName textID textNick =>
    cases result
    exact ⟨rest, fields, ID, nickName, type, parsed, textID, textNick, rfl, rfl⟩
  · cases result

theorem loginResult_monitor (monitor : IsMonitorLogin config pPacket) :
    loginResult config server pPlayer typeLocal reply beyond pPacket =
      some (server.monitorLoggedIn pPlayer, monitorCalls server pPlayer ++ [.updateCntTps]) := by
  obtain ⟨rest, type⟩ := monitor
  obtain ⟨_, login, heartbeat⟩ := config.loginLabels_ne
  simp [loginResult, type, Ne.symm login, Ne.symm heartbeat]

theorem loginResult_idle
    (refused : ∀ accountNo, ¬ GrantsLogin config server reply beyond pPacket accountNo)
    (ordinary : ¬ IsMonitorLogin config pPacket)
    (result : loginResult config server pPlayer typeLocal reply beyond pPacket = some (post, calls)) :
    post = server ∧ calls.all Call.quiet = true := by
  cases login_cases result with
  | truncated type leaves => obtain rfl | rfl := leaves <;> exact ⟨rfl, rfl⟩
  | refused | denied | heartbeat => exact ⟨rfl, rfl⟩
  | granted type room parsed stored keyField matched =>
    exact absurd ⟨_, _, _, type, room, parsed, rfl, stored, keyField, matched⟩ (refused _)
  | monitor type => exact absurd ⟨_, type⟩ ordinary

theorem loginResult_cases (login : server.phase pPlayer = .login)
    (result : loginResult config server pPlayer typeLocal reply beyond pPacket = some (post, calls)) :
    StepCase config server (.loginRecv pPlayer typeLocal reply beyond pPacket) post calls := by
  by_cases granted : ∃ accountNo, GrantsLogin config server reply beyond pPacket accountNo
  · obtain ⟨accountNo, granted⟩ := granted
    obtain ⟨_, _, ID, nickName, _, _, _, _, rfl, rfl⟩ := loginResult_granted granted result
    exact .loggedIn login granted
  · by_cases monitor : IsMonitorLogin config pPacket
    · rw [loginResult_monitor monitor] at result
      cases result
      exact .monitorLogin login monitor
    · obtain ⟨rfl, quiet⟩ := loginResult_idle (not_exists.mp granted) monitor result
      exact .loginIdle login (not_exists.mp granted) monitor quiet

end Login

/-! ## A packet in CHAT -/

theorem requestResult_cases {pPlayer : PlayerPtr} {pPacket : List BYTE}
    (chat : server.phase pPlayer = .chat)
    (result : requestResult config server pPlayer (decodeRequest config pPacket) = some (post, calls)) :
    StepCase config server (.chatRecv pPlayer pPacket) post calls := by
  generalize request : decodeRequest config pPacket = decoded at result
  cases request_cases result with
  | moved accepts => exact .moved chat request accepts
  | spoke speaks => exact .spoke chat request speaks
  | sectorInfo => exact .sectorInfo chat request
  | refusedMove refuses =>
    refine .chatIdle chat ?_ (by simp [request]) rfl
    intro _ _ _ same
    rw [request] at same
    cases same
    exact refuses
  | refusedMessage refuses =>
    refine .chatIdle chat (by simp [request]) ?_ rfl
    intro _ _ _ same
    rw [request] at same
    cases same
    exact refuses
  | heartbeat | refused | malformed | unknown =>
    exact .chatIdle chat (by simp [request]) (by simp [request]) rfl

theorem onAccept_openSession (pPlayer : PlayerPtr) (sessionID : ULONGLONG) (memory : Player) :
    run (onAccept pPlayer) (server.openSession pPlayer sessionID memory) =
      some (server.opened pPlayer sessionID memory, []) := by
  have opened : (server.openSession pPlayer sessionID memory).setPlayer pPlayer
      (fun memory => { memory.construct with sessionId := sessionID }) =
        server.opened pPlayer sessionID memory := by
    simp [Server.openSession, Server.opened, Server.setPlayer, Server.setPhase]
  have session : (server.openSession pPlayer sessionID memory).session pPlayer = sessionID := by
    simp [Server.openSession]
  rw [onAccept_run, session, opened]

theorem step_chatRecv {pPlayer : PlayerPtr} {pPacket : List BYTE}
    (taken : (chatServer config).step server (.chatRecv pPlayer pPacket) = some (post, calls)) :
    server.phase pPlayer = .chat ∧
      requestResult config server pPlayer (decodeRequest config pPacket) = some (post, calls) := by
  simp only [chatServer, step] at taken
  split at taken
  · next chat =>
    rw [ChatContents.onRecv_run] at taken
    exact ⟨chat, taken⟩
  · cases taken

theorem step_loginRecv {pPlayer : PlayerPtr} {typeLocal : WORD} {reply : Reply} {beyond : Nat → BYTE}
    {pPacket : List BYTE}
    (taken : (chatServer config).step server (.loginRecv pPlayer typeLocal reply beyond pPacket) =
      some (post, calls)) :
    server.phase pPlayer = .login ∧
      loginResult config server pPlayer typeLocal reply beyond pPacket = some (post, calls) := by
  simp only [chatServer, step] at taken
  split at taken
  · next login =>
    rw [LoginContents.onRecv_run] at taken
    exact ⟨login, taken⟩
  · cases taken

theorem step_cases {event : Event}
    (taken : (chatServer config).step server event = some (post, calls)) :
    StepCase config server event post calls := by
  simp only [chatServer] at taken
  cases event with
  | accept pPlayer sessionID memory =>
    simp only [step] at taken
    split at taken
    · next guard =>
      rw [onAccept_openSession] at taken
      cases taken
      exact .accept guard.1 guard.2.1 guard.2.2
    · cases taken
  | loginEnter pPlayer =>
    simp only [step] at taken
    split at taken
    · next accepted =>
      rw [LoginContents.onEnter_run] at taken
      cases taken
      exact .loginEnter accepted
    · cases taken
  | loginRecv pPlayer typeLocal reply beyond pPacket =>
    obtain ⟨login, result⟩ :=
      @step_loginRecv config server post calls pPlayer typeLocal reply beyond pPacket taken
    exact loginResult_cases login result
  | loginLeave pPlayer =>
    simp only [step] at taken
    split at taken
    · next login =>
      cases taken
      exact .loginLeave login
    · cases taken
  | chatEnter pPlayer =>
    simp only [step] at taken
    split at taken
    · next moving =>
      rw [ChatContents.onEnter_run] at taken
      cases taken
      exact .chatEnter moving
    · cases taken
  | chatRecv pPlayer pPacket =>
    obtain ⟨chat, result⟩ := @step_chatRecv config server post calls pPlayer pPacket taken
    exact requestResult_cases chat result
  | chatLeave pPlayer =>
    simp only [step, leaving] at taken
    split at taken
    · next chat =>
      cases login : (server.players pPlayer).bLogin with
      | true =>
        rw [ChatContents.onLeave_run pPlayer server login] at taken
        cases taken
        exact .chatLeave chat login
      | false =>
        rw [ChatContents.onLeave_run_early pPlayer server login] at taken
        cases taken
        exact .chatLeaveEarly chat login
    · cases taken

/-! ## Marks of transitions

What a claim about a whole run says of one transition: it is read off the event
and the state before it. -/

section Marks

variable (config : Config) (pPlayer : PlayerPtr) (taken : Step)

/-- The player's LOGIN packet is accepted for the account. -/
def LogsIn (accountNo : INT64) : Prop :=
  ∃ typeLocal reply beyond pPacket,
    taken.event = .loginRecv pPlayer typeLocal reply beyond pPacket ∧
      GrantsLogin config taken.pre reply beyond pPacket accountNo

def MonitorLogsIn : Prop :=
  ∃ typeLocal reply beyond pPacket,
    taken.event = .loginRecv pPlayer typeLocal reply beyond pPacket ∧ IsMonitorLogin config pPacket

/-- The player's SECTOR_MOVE packet is accepted for the sector. -/
def MovesTo (sectorX sectorY : WORD) : Prop :=
  ∃ accountNo, taken.event = .chatRecv pPlayer (sectorMoveWire config accountNo sectorX sectorY) ∧
    acceptsMove (taken.pre.players pPlayer) accountNo sectorX sectorY = true

/-- The player's MESSAGE packet is accepted. -/
def Speaks (messageLen : WORD) (message : List BYTE) : Prop :=
  ∃ accountNo, taken.event = .chatRecv pPlayer (messageWire config accountNo messageLen message) ∧
    message.length = messageLen.toNat ∧ speaksAs (taken.pre.players pPlayer) accountNo = true

end Marks

section Marks

variable {config : Config} {pPlayer other : PlayerPtr} {pre post : Server} {calls : List Call}
  {typeLocal : WORD} {reply : Reply} {beyond : Nat → BYTE} {pPacket : List BYTE}

@[simp] theorem logsIn_loginRecv {accountNo : INT64} :
    LogsIn config other ⟨pre, .loginRecv pPlayer typeLocal reply beyond pPacket, calls, post⟩ accountNo ↔
      pPlayer = other ∧ GrantsLogin config pre reply beyond pPacket accountNo := by
  simp [LogsIn]

@[simp] theorem monitorLogsIn_loginRecv :
    MonitorLogsIn config other ⟨pre, .loginRecv pPlayer typeLocal reply beyond pPacket, calls, post⟩ ↔
      pPlayer = other ∧ IsMonitorLogin config pPacket := by
  simp [MonitorLogsIn]

@[simp] theorem movesTo_chatRecv {sectorX sectorY : WORD} :
    MovesTo config other ⟨pre, .chatRecv pPlayer pPacket, calls, post⟩ sectorX sectorY ↔
      pPlayer = other ∧ ∃ accountNo, decodeRequest config pPacket = .sectorMove accountNo sectorX sectorY ∧
        acceptsMove (pre.players other) accountNo sectorX sectorY = true := by
  simp [MovesTo, decodeRequest_eq_sectorMove, and_assoc]

@[simp] theorem speaks_chatRecv {messageLen : WORD} {message : List BYTE} :
    Speaks config other ⟨pre, .chatRecv pPlayer pPacket, calls, post⟩ messageLen message ↔
      pPlayer = other ∧ ∃ accountNo, decodeRequest config pPacket = .message accountNo messageLen message ∧
        speaksAs (pre.players other) accountNo = true := by
  simp [Speaks, decodeRequest_eq_message, and_assoc]

theorem MovesTo.sector_eq {taken : Step} {sectorX sectorY otherX otherY : WORD}
    (first : MovesTo config pPlayer taken sectorX sectorY)
    (second : MovesTo config pPlayer taken otherX otherY) : sectorX = otherX ∧ sectorY = otherY := by
  obtain ⟨_, received, _⟩ := first
  obtain ⟨_, received', _⟩ := second
  rw [received, Event.chatRecv.injEq] at received'
  have request := (decodeRequest_eq_sectorMove config).mpr received'.2
  rw [(decodeRequest_eq_sectorMove config).mpr rfl, ChatRequest.sectorMove.injEq] at request
  exact request.2

variable {event : Event}

theorem StepCase.of_movesTo {sectorX sectorY : WORD}
    (outcome : StepCase config pre event post calls)
    (moves : MovesTo config pPlayer ⟨pre, event, calls, post⟩ sectorX sectorY) :
    pre.phase pPlayer = .chat ∧ post = pre.moved pPlayer sectorX sectorY ∧
      calls = moveCalls config pre pPlayer sectorX sectorY ++ [.updateCntTps] := by
  cases outcome with
  | chatIdle _ unmoved =>
    obtain ⟨rfl, _, request, accepts⟩ := movesTo_chatRecv.mp moves
    exact absurd accepts (by simp [unmoved _ _ _ request])
  | spoke _ request | sectorInfo _ request => simp [request] at moves
  | moved chat request accepts =>
    obtain ⟨rfl, _, same, _⟩ := movesTo_chatRecv.mp moves
    rw [request] at same
    cases same
    exact ⟨chat, rfl, rfl⟩
  | accept | loginEnter | loginIdle | loggedIn | monitorLogin | loginLeave | chatEnter | chatLeave
  | chatLeaveEarly => simp [MovesTo] at moves

theorem StepCase.of_speaks {messageLen : WORD} {message : List BYTE}
    (outcome : StepCase config pre event post calls)
    (speaks : Speaks config pPlayer ⟨pre, event, calls, post⟩ messageLen message) :
    pre.phase pPlayer = .chat ∧ post = pre ∧
      calls = broadcastCalls config pre pPlayer messageLen message ++ [.updateCntTps] := by
  cases outcome with
  | chatIdle _ _ silent =>
    obtain ⟨rfl, _, request, accepts⟩ := speaks_chatRecv.mp speaks
    exact absurd accepts (by simp [silent _ _ _ request])
  | moved _ request | sectorInfo _ request => simp [request] at speaks
  | spoke chat request =>
    obtain ⟨rfl, _, same, _⟩ := speaks_chatRecv.mp speaks
    rw [request] at same
    cases same
    exact ⟨chat, rfl, rfl⟩
  | accept | loginEnter | loginIdle | loggedIn | monitorLogin | loginLeave | chatEnter | chatLeave
  | chatLeaveEarly => simp [Speaks] at speaks

end Marks

end ChatServerRedis
