import ChatServerRedis.Verified.Requests

/-! # What a packet received in LOGIN does

`loginResult` is the effect of one packet on `LoginContents::OnRecv`; it is `none`
where the process stops.
-/

namespace ChatServerRedis

open Handlers LoginContents

/-- What `CS_CHAT_REQ_LOGIN` takes out of the packet; a field that is too short is a
    null pointer. -/
structure LoginFields where
  accountNo : INT64
  pID : Option (List BYTE)
  pNickName : Option (List BYTE)
  pSessionKey : Option (List BYTE)

def readLogin (pPacket : List BYTE) : Option LoginFields :=
  (readInt64 pPacket).map fun (accountNo, rest) =>
    let (pID, rest) := getPointer (sizeofWChar * idLen) rest
    let (pNickName, rest) := getPointer (sizeofWChar * nickNameLen) rest
    ⟨accountNo, pID, pNickName, (getPointer sessionKeyLen rest).1⟩

theorem readLogin_eq_none {pPacket : List BYTE} : readLogin pPacket = none ↔ pPacket.length < 8 := by
  simp [readLogin, readInt64_eq_none]

/-- `memcmp` of the key with the memory at `c_str()` finds no difference. -/
def keyMatches (reply : Reply) (beyond : Nat → BYTE) (key : List BYTE) : Bool :=
  decide (key.take sessionKeyLen = (List.range sessionKeyLen).map (cStr reply.asString beyond))

def copiedText {length : Nat} (destination : Vector WCHAR length) (source : Option (List BYTE)) :
    Option (Vector WCHAR length) :=
  source.bind fun bytes => wcscpyS destination (wchars length bytes)

/-- The text at a pointer has a NUL among its first `length` characters. -/
def terminated (length : Nat) (source : Option (List BYTE)) : Prop :=
  ∃ bytes, source = some bytes ∧ 0 ∈ (wchars length bytes).toList

theorem copiedText_isSome {length : Nat} (destination : Vector WCHAR length)
    (source : Option (List BYTE)) :
    (copiedText destination source).isSome = true ↔ terminated length source := by
  cases source with
  | none => simp [copiedText, terminated]
  | some bytes =>
    have found : (wcscpyS destination (wchars length bytes)).isSome =
        ((wchars length bytes).toList.findIdx? (· = 0)).isSome := by
      unfold wcscpyS
      cases (wchars length bytes).toList.findIdx? (· = 0) <;> rfl
    rw [copiedText, Option.bind_some, found, List.findIdx?_isSome, List.any_eq_true]
    simp only [terminated, decide_eq_true_eq, exists_eq_right, Option.some.injEq, exists_eq_left']

theorem memcmpDiffers_apply (reply : Reply) (beyond : Nat → BYTE) (key : List BYTE)
    (machine : Machine Server Call) :
    memcmpDiffers (some key) (cStr reply.asString beyond) sessionKeyLen machine =
      .ok (!keyMatches reply beyond key) machine := by
  simp [memcmpDiffers, keyMatches]

theorem copyText_apply {length : Nat} (destination : Vector WCHAR length)
    (source : Option (List BYTE)) (machine : Machine Server Call) :
    copyText destination source machine = match copiedText destination source with
      | some copied => .ok copied machine
      | none => .error (.fault .invalidParameter) machine := by
  change (match copiedText destination source with
    | some copied => pure copied
    | none => stop .invalidParameter : Handler _) machine = _
  cases copiedText destination source <;> rfl

namespace Server

@[simps! -fullyApplied]
def departing (server : Server) (pPlayer : PlayerPtr) : Server :=
  { server.setPhase pPlayer .moving with moving := server.moving ++ [pPlayer] }

@[simps! -fullyApplied]
def loggedIn (server : Server) (pPlayer : PlayerPtr) (accountNo : INT64)
    (ID : Vector WCHAR idLen) (nickName : Vector WCHAR nickNameLen) : Server :=
  (server.setPlayer pPlayer fun player =>
    { player with bLogin := true, accountNo := accountNo, ID := ID, nickName := nickName }).departing
      pPlayer

@[simps! -fullyApplied]
def monitorLoggedIn (server : Server) (pPlayer : PlayerPtr) : Server :=
  { (server.setPlayer pPlayer fun player =>
      { player with bLogin := true, bMonitoringLogin := true }).departing pPlayer with
    monitoringClientSessionID := (server.players pPlayer).sessionId }

end Server

/-- The check of the reply and what follows it. -/
def loginFieldsResult (server : Server) (pPlayer : PlayerPtr) (reply : Reply) (beyond : Nat → BYTE)
    (fields : LoginFields) : Option (Server × List Call) :=
  if reply.isNull then
    some (server, [.redisGet (toString fields.accountNo.toInt),
      .disconnect (server.session pPlayer)])
  else
    match fields.pSessionKey with
    | none => none
    | some key =>
      if keyMatches reply beyond key then
        match copiedText (server.players pPlayer).ID fields.pID,
            copiedText (server.players pPlayer).nickName fields.pNickName with
        | some ID, some nickName =>
          some (server.loggedIn pPlayer fields.accountNo ID nickName,
            [.redisGet (toString fields.accountNo.toInt), .registerLeave pPlayer .chat])
        | _, _ => none
      else
        some (server, [.redisGet (toString fields.accountNo.toInt),
          .disconnect (server.session pPlayer)])

def loginPacketResult (config : Config) (server : Server) (pPlayer : PlayerPtr) (reply : Reply)
    (beyond : Nat → BYTE) (pPacket : List BYTE) : Option (Server × List Call) :=
  if config.maxPlayerNum ≤ server.lPlayerNum then some (server, [.disconnect (server.session pPlayer)])
  else
    match readLogin pPacket with
    | none => some (server, [.disconnect (server.session pPlayer)])
    | some fields => loginFieldsResult server pPlayer reply beyond fields

def monitorCalls (server : Server) (pPlayer : PlayerPtr) : List Call :=
  [.enterCriticalSection] ++
  (if server.monitoringClientSessionID ≠ maxULongLong then
    [.disconnect server.monitoringClientSessionID] else []) ++
  [.leaveCriticalSection, .registerLeave pPlayer .chat]

theorem mem_monitorCalls {server : Server} {pPlayer : PlayerPtr} {made : Call} :
    made ∈ monitorCalls server pPlayer ↔ made = .enterCriticalSection ∨
      (server.monitoringClientSessionID ≠ maxULongLong ∧
        made = .disconnect server.monitoringClientSessionID) ∨
      made = .leaveCriticalSection ∨ made = .registerLeave pPlayer .chat := by
  simp [monitorCalls]

def loginResult (config : Config) (server : Server) (pPlayer : PlayerPtr) (typeLocal : WORD)
    (reply : Reply) (beyond : Nat → BYTE) (pPacket : List BYTE) : Option (Server × List Call) :=
  match readWord pPacket with
  | none => some (server, [.disconnect (server.session pPlayer)] ++
      (if typeLocal = config.csChatMonitorClientLogin then [.leaveCriticalSection] else []) ++
      [.updateCntTps])
  | some (type, rest) =>
    if type = config.csChatReqLogin then
      (loginPacketResult config server pPlayer reply beyond rest).map fun (post, calls) =>
        (post, calls ++ [.updateCntTps])
    else if type = config.csChatReqHeartbeat then some (server, [.updateCntTps])
    else if type = config.csChatMonitorClientLogin then
      some (server.monitorLoggedIn pPlayer, monitorCalls server pPlayer ++ [.updateCntTps])
    else none

/-- One constructor for each way `loginResult` returns. -/
inductive LoginCase (config : Config) (server : Server) (pPlayer : PlayerPtr) (reply : Reply)
    (beyond : Nat → BYTE) (pPacket : List BYTE) : Server → List Call → Prop where
  | truncated {stale : List Call} (type : readWord pPacket = none)
      (leaves : stale = [] ∨ stale = [.leaveCriticalSection]) :
      LoginCase config server pPlayer reply beyond pPacket server
        ([.disconnect (server.session pPlayer)] ++ stale ++ [.updateCntTps])
  | refused {rest : List BYTE} (type : readWord pPacket = some (config.csChatReqLogin, rest))
      (early : config.maxPlayerNum ≤ server.lPlayerNum ∨ readLogin rest = none) :
      LoginCase config server pPlayer reply beyond pPacket server
        [.disconnect (server.session pPlayer), .updateCntTps]
  | denied {rest : List BYTE} {fields : LoginFields}
      (type : readWord pPacket = some (config.csChatReqLogin, rest))
      (parsed : readLogin rest = some fields)
      (differs : reply.isNull = true ∨
        ∃ key, fields.pSessionKey = some key ∧ keyMatches reply beyond key = false) :
      LoginCase config server pPlayer reply beyond pPacket server
        [.redisGet (toString fields.accountNo.toInt), .disconnect (server.session pPlayer),
          .updateCntTps]
  | granted {rest key : List BYTE} {fields : LoginFields} {ID : Vector WCHAR idLen}
      {nickName : Vector WCHAR nickNameLen}
      (type : readWord pPacket = some (config.csChatReqLogin, rest))
      (room : server.lPlayerNum < config.maxPlayerNum) (parsed : readLogin rest = some fields)
      (stored : reply.isNull = false) (keyField : fields.pSessionKey = some key)
      (matched : keyMatches reply beyond key = true) :
      LoginCase config server pPlayer reply beyond pPacket
        (server.loggedIn pPlayer fields.accountNo ID nickName)
        [.redisGet (toString fields.accountNo.toInt), .registerLeave pPlayer .chat, .updateCntTps]
  | heartbeat {rest : List BYTE} (type : readWord pPacket = some (config.csChatReqHeartbeat, rest)) :
      LoginCase config server pPlayer reply beyond pPacket server [.updateCntTps]
  | monitor {rest : List BYTE}
      (type : readWord pPacket = some (config.csChatMonitorClientLogin, rest)) :
      LoginCase config server pPlayer reply beyond pPacket (server.monitorLoggedIn pPlayer)
        (monitorCalls server pPlayer ++ [.updateCntTps])

/-- The body of `loginResult` is split here. -/
theorem login_cases {config : Config} {server post : Server} {pPlayer : PlayerPtr} {typeLocal : WORD}
    {reply : Reply} {beyond : Nat → BYTE} {pPacket : List BYTE} {calls : List Call}
    (result : loginResult config server pPlayer typeLocal reply beyond pPacket = some (post, calls)) :
    LoginCase config server pPlayer reply beyond pPacket post calls := by
  unfold loginResult at result
  split at result
  · next type =>
    cases result
    refine .truncated type ?_
    split
    · exact .inr rfl
    · exact .inl rfl
  · next label rest type =>
    split at result
    · next login =>
      subst login
      simp only [loginPacketResult, Option.map_eq_some_iff, Prod.exists, Prod.mk.injEq] at result
      obtain ⟨_, _, result, rfl, rfl⟩ := result
      split at result
      · next full => cases result; exact .refused type (.inl full)
      · next room =>
        split at result
        · next short => cases result; exact .refused type (.inr short)
        · next fields parsed =>
          unfold loginFieldsResult at result
          split at result
          · next null => cases result; exact .denied type parsed (.inl null)
          · next stored =>
            split at result
            · cases result
            · next key keyField =>
              split at result
              · next matched =>
                split at result
                · cases result
                  exact .granted type (Int.not_le.mp room) parsed (by simpa using stored) keyField matched
                · cases result
              · next differs =>
                cases result
                exact .denied type parsed (.inr ⟨key, keyField, by simpa using differs⟩)
    · split at result
      · next heartbeat => cases result; exact .heartbeat (heartbeat ▸ type)
      · split at result
        · next monitor => cases result; exact .monitor (monitor ▸ type)
        · cases result

theorem csChatReqLogin_full (config : Config) (reply : Reply) (beyond : Nat → BYTE)
    (pPlayer : PlayerPtr) (pPacket : List BYTE) {server : Server} (calls : List Call)
    (full : config.maxPlayerNum ≤ server.lPlayerNum) :
    csChatReqLogin config reply beyond pPlayer pPacket ⟨server, calls⟩ =
      .ok () ⟨server, calls ++ [.disconnect (server.session pPlayer)]⟩ := by
  simp [csChatReqLogin, csChatReqLoginOver, full]

theorem csChatReqLogin_truncated (config : Config) (reply : Reply) (beyond : Nat → BYTE)
    (pPlayer : PlayerPtr) {pPacket : List BYTE} {server : Server} (calls : List Call)
    (room : server.lPlayerNum < config.maxPlayerNum) (short : readLogin pPacket = none) :
    csChatReqLogin config reply beyond pPlayer pPacket ⟨server, calls⟩ =
      .error (.thrown .packetExtractFail) ⟨server, calls⟩ := by
  have account : readInt64 pPacket = none := by simpa [readLogin] using short
  simp [csChatReqLogin, csChatReqLoginOver, Int.not_le.mpr room, extractInt64_apply, account]

/-- With the fields of the packet at hand, the handler succeeds exactly where
    `loginFieldsResult` does, and otherwise stops the process. -/
theorem csChatReqLogin_fields (config : Config) (reply : Reply) (beyond : Nat → BYTE)
    (pPlayer : PlayerPtr) {pPacket : List BYTE} {server : Server} {fields : LoginFields}
    (room : server.lPlayerNum < config.maxPlayerNum) (parsed : readLogin pPacket = some fields) :
    match loginFieldsResult server pPlayer reply beyond fields with
    | some (post, calls) =>
      csChatReqLogin config reply beyond pPlayer pPacket ⟨server, []⟩ = .ok () ⟨post, calls⟩
    | none => ∃ fault left,
      csChatReqLogin config reply beyond pPlayer pPacket ⟨server, []⟩ = .error (.fault fault) left := by
  simp only [readLogin, Option.map_eq_some_iff, Prod.exists] at parsed
  obtain ⟨accountNo, rest, account, rfl⟩ := parsed
  have roomy : ¬ server.lPlayerNum ≥ config.maxPlayerNum := Int.not_le.mpr room
  rcases first : getPointer (sizeofWChar * idLen) rest with ⟨pID, rest'⟩
  rcases second : getPointer (sizeofWChar * nickNameLen) rest' with ⟨pNickName, rest''⟩
  simp only [csChatReqLogin, csChatReqLoginOver, loginFieldsResult, bind_apply,
    getSessionID_apply, readState_apply, branch_apply, roomy, if_false, extractInt64_apply, account, call_apply, first, second,
    List.nil_append]
  cases null : reply.isNull with
  | true => simp
  | false =>
    rcases third : (getPointer sessionKeyLen rest'').1 with _ | key
    · simp [memcmpDiffers]
    · cases matched : keyMatches reply beyond key with
      | false => simp [memcmpDiffers_apply, matched]
      | true =>
        rcases textID : copiedText (server.players pPlayer).ID pID with _ | ID
        · simp [memcmpDiffers_apply, matched, copyText_apply, textID]
        · rcases textNick : copiedText (server.players pPlayer).nickName pNickName with _ | nickName
          · simp [memcmpDiffers_apply, matched, copyText_apply, textID, textNick]
          · simp [memcmpDiffers_apply, matched, copyText_apply, textID, textNick, registerLeave,
              Server.loggedIn, Server.departing]

theorem typeAtCatch_eq (typeLocal : WORD) (pPacket : List BYTE) :
    typeAtCatch typeLocal pPacket = ((readWord pPacket).map Prod.fst).getD typeLocal := by
  cases parsed : LittleEndian.read 2 pPacket <;> simp [typeAtCatch, readWord, parsed]

theorem onRecv_login (config : Config) (typeLocal : WORD) (reply : Reply) (beyond : Nat → BYTE)
    {pPacket rest : List BYTE} (pPlayer : PlayerPtr) (server : Server)
    (type : readWord pPacket = some (config.csChatReqLogin, rest)) :
    run (LoginContents.onRecv config typeLocal reply beyond pPacket pPlayer) server =
      (loginPacketResult config server pPlayer reply beyond rest).map fun (post, calls) =>
        (post, calls ++ [.updateCntTps]) := by
  have label : config.csChatReqLogin ≠ config.csChatMonitorClientLogin := config.loginLabels_ne.2.1
  simp only [run, LoginContents.onRecv, LoginContents.onRecvOver, LoginContents.dispatch,
    bind_apply, catchThrown_apply, extractWord_apply, branch_apply, type, if_true,
    loginPacketResult]
  by_cases full : config.maxPlayerNum ≤ server.lPlayerNum
  · simp [csChatReqLogin_full config reply beyond pPlayer rest _ full, full]
  · have room := Int.not_le.mp full
    cases parsed : readLogin rest with
    | none =>
      simp [csChatReqLogin_truncated config reply beyond pPlayer _ room parsed, full, typeAtCatch_eq, type,
        label]
    | some fields =>
      have outcome := csChatReqLogin_fields config reply beyond pPlayer room parsed
      cases result : loginFieldsResult server pPlayer reply beyond fields with
      | none =>
        simp only [result] at outcome
        obtain ⟨fault, left, stopped⟩ := outcome
        simp [stopped, full, result]
      | some post =>
        obtain ⟨post, calls⟩ := post
        simp only [result] at outcome
        simp [outcome, full, result]

theorem LoginContents.onRecv_run (config : Config) (typeLocal : WORD) (reply : Reply)
    (beyond : Nat → BYTE) (pPacket : List BYTE) (pPlayer : PlayerPtr) (server : Server) :
    run (LoginContents.onRecv config typeLocal reply beyond pPacket pPlayer) server =
      loginResult config server pPlayer typeLocal reply beyond pPacket := by
  unfold loginResult
  cases type : readWord pPacket with
  | none =>
    by_cases stale : typeLocal = config.csChatMonitorClientLogin <;>
      simp [run, LoginContents.onRecv, LoginContents.onRecvOver, LoginContents.dispatch,
        catchThrown_apply, extractWord_apply, type, typeAtCatch_eq, stale]
  | some field =>
    obtain ⟨type', rest⟩ := field
    dsimp only
    by_cases login : type' = config.csChatReqLogin
    · subst login
      rw [if_pos rfl]
      exact onRecv_login config typeLocal reply beyond pPlayer server type
    · simp only [run, LoginContents.onRecv, LoginContents.onRecvOver, LoginContents.dispatch,
        bind_apply, catchThrown_apply, extractWord_apply, branch_apply, type, if_neg login]
      by_cases heartbeat : type' = config.csChatReqHeartbeat
      · simp [heartbeat]
      · by_cases monitor : type' = config.csChatMonitorClientLogin
        · simp only [if_neg heartbeat, if_pos monitor]
          by_cases present : server.monitoringClientSessionID = maxULongLong <;>
            simp [present, registerLeave, Server.monitorLoggedIn, Server.departing, monitorCalls,
              Server.setPlayer, Server.setPhase]
        · simp [heartbeat, monitor]

end ChatServerRedis
