import ChatServerRedis.Model.CheckedLogin
import ChatServerRedis.Verified.LoginKey

/-! # What a client can do to the server before it has logged in

The packets of LOGIN are handled with checked reads.  Three tests are missing: of the
pointers into the packet, of the length of the reply, and of the packet type.
-/

namespace ChatServerRedis

open Handlers LoginContents

/-! ## The comparison -/

theorem cStr_long {text : List BYTE} (long : 63 ≤ text.length) (beyond : Nat → BYTE) :
    (List.range sessionKeyLen).map (cStr text beyond) = (text ++ [0]).take sessionKeyLen := by
  by_cases fits : sessionKeyLen ≤ text.length
  · rw [cStr_text text beyond sessionKeyLen fits, List.take_append_of_le_length fits]
  · have last : text.length = 63 := by
      simp only [sessionKeyLen] at fits
      omega
    rw [cStr_short text beyond sessionKeyLen (by omega), List.take_of_length_le (by simp [last, sessionKeyLen])]
    simp [last, sessionKeyLen]

theorem memcmpChecked_long {text : List BYTE} (long : 63 ≤ text.length) (beyond : Nat → BYTE)
    (first : Option (List BYTE)) :
    memcmpChecked first text sessionKeyLen = memcmpDiffers first (cStr text beyond) sessionKeyLen := by
  cases first with
  | none => rfl
  | some bytes =>
    have enough : ¬ text.length + 1 < sessionKeyLen := by
      simp only [sessionKeyLen]
      omega
    rw [memcmpChecked, if_neg enough, memcmpDiffers, cStr_long long]

/-! ## The handlers -/

section Handlers

variable {config : Config} {server : Server} {pPlayer : PlayerPtr} {typeLocal : WORD} {reply : Reply}
  {pPacket rest : List BYTE} {machine : Machine Server Call}

/-- `CS_CHAT_REQ_LOGIN` gets as far as the comparison. -/
def Compares (config : Config) (server : Server) (reply : Reply) (rest : List BYTE) : Prop :=
  server.lPlayerNum < config.maxPlayerNum ∧ readLogin rest ≠ none ∧ reply.isNull = false

theorem csChatReqLoginOver_congr {isNull : Bool} {differs differs' : Option (List BYTE) → Handler Bool}
    (early : config.maxPlayerNum ≤ machine.state.lPlayerNum ∨ readLogin rest = none ∨ isNull = true) :
    csChatReqLoginOver config isNull differs pPlayer rest machine =
      csChatReqLoginOver config isNull differs' pPlayer rest machine := by
  simp only [csChatReqLoginOver, bind_apply, getSessionID_apply, readState_apply, branch_apply,
    extractInt64_apply]
  by_cases full : config.maxPlayerNum ≤ machine.state.lPlayerNum
  · simp [full]
  · cases account : readInt64 rest with
    | none => simp [full]
    | some field =>
      have parsed : readLogin rest ≠ none := by simp [readLogin, account]
      have null : isNull = true := by
        rcases early with early | early | early
        · exact absurd early full
        · exact absurd early parsed
        · exact early
      simp [null]

/-- Only a LOGIN packet reaches the handler of the label. -/
theorem onRecvOver_congr {login login' : List BYTE → Handler Unit}
    (same : ∀ rest, readWord pPacket = some (config.csChatReqLogin, rest) →
      login rest machine = login' rest machine) :
    onRecvOver config login typeLocal pPacket pPlayer machine =
      onRecvOver config login' typeLocal pPacket pPlayer machine := by
  simp only [onRecvOver, dispatch, bind_apply, catchThrown_apply, extractWord_apply, branch_apply]
  cases type : readWord pPacket with
  | none => rfl
  | some field =>
    obtain ⟨type', rest⟩ := field
    dsimp only
    by_cases label : type' = config.csChatReqLogin
    · subst label
      simp only [if_true, same rest type]
    · simp only [if_neg label]

/-- Without a comparison that leaves its memory, the checks change nothing. -/
theorem onRecvChecked_run (beyond : Nat → BYTE)
    (within : 63 ≤ reply.asString.length ∨ ∀ rest,
      readWord pPacket = some (config.csChatReqLogin, rest) → ¬ Compares config server reply rest) :
    run (onRecvChecked config typeLocal reply pPacket pPlayer) server =
      loginResult config server pPlayer typeLocal reply beyond pPacket := by
  have same : onRecvChecked config typeLocal reply pPacket pPlayer ⟨server, []⟩ =
      onRecv config typeLocal reply beyond pPacket pPlayer ⟨server, []⟩ := by
    apply onRecvOver_congr
    intro rest type
    unfold csChatReqLoginChecked csChatReqLogin
    rcases within with long | early
    · have agree : (fun first => memcmpChecked first reply.asString sessionKeyLen) =
          fun first => memcmpDiffers first (cStr reply.asString beyond) sessionKeyLen :=
        funext (memcmpChecked_long long beyond)
      rw [agree]
    · have stopped := early rest type
      unfold Compares at stopped
      apply csChatReqLoginOver_congr
      by_cases full : config.maxPlayerNum ≤ server.lPlayerNum
      · exact .inl full
      · by_cases parsed : readLogin rest = none
        · exact .inr (.inl parsed)
        · refine .inr (.inr ?_)
          cases null : reply.isNull with
          | true => rfl
          | false => exact absurd ⟨Int.not_le.mp full, parsed, null⟩ stopped
  rw [← LoginContents.onRecv_run, run, run, same]

theorem memcmpChecked_short (short : reply.asString.length < 63) (first : Option (List BYTE))
    (machine : Machine Server Call) :
    ∃ fault, memcmpChecked first reply.asString sessionKeyLen machine = .error (.fault fault) machine := by
  cases first with
  | none => exact ⟨.nullPointer, rfl⟩
  | some bytes =>
    have past : reply.asString.length + 1 < sessionKeyLen := by
      simp only [sessionKeyLen]
      omega
    exact ⟨.overRead, by simp [memcmpChecked, past]⟩

theorem onRecvChecked_short (short : reply.asString.length < 63)
    (type : readWord pPacket = some (config.csChatReqLogin, rest))
    (compares : Compares config server reply rest) :
    run (onRecvChecked config typeLocal reply pPacket pPlayer) server = none := by
  obtain ⟨room, parsed, present⟩ := compares
  have roomy : ¬ server.lPlayerNum ≥ config.maxPlayerNum := Int.not_le.mpr room
  cases account : readInt64 rest with
  | none => exact absurd (by simp [readLogin, account]) parsed
  | some field =>
    obtain ⟨accountNo, rest'⟩ := field
    simp only [run, onRecvChecked, onRecvOver, dispatch, csChatReqLoginChecked, csChatReqLoginOver,
      bind_apply, catchThrown_apply, extractWord_apply, branch_apply, type, if_true, getSessionID_apply, readState_apply, roomy,
      if_false, extractInt64_apply, account, call_apply, present, Bool.false_eq_true]
    -- the comparison is the first step that can fail, and it does
    obtain ⟨fault, stopped⟩ := memcmpChecked_short short (getPointer sessionKeyLen (getPointer
      (sizeofWChar * nickNameLen) (getPointer (sizeofWChar * idLen) rest').2).2).1
        ⟨server, [] ++ [.redisGet (toString accountNo.toInt)]⟩
    rw [stopped]

end Handlers

/-! ## Safe packets -/

/-- The handler returns; unless the packet is a heartbeat, a monitoring login or an
    accepted login, it has disconnected the sender and left all players alone. -/
def HandlesSafely (config : Config) (server : Server) (pPlayer : PlayerPtr) (typeLocal : WORD)
    (reply : Reply) (pPacket : List BYTE) : Prop :=
  ∃ post calls,
    run (onRecvChecked config typeLocal reply pPacket pPlayer) server = some (post, calls) ∧
    (wordBytes config.csChatReqHeartbeat <+: pPacket ∨
      wordBytes config.csChatMonitorClientLogin <+: pPacket ∨
      .registerLeave pPlayer .chat ∈ calls ∨
      (.disconnect (server.session pPlayer) ∈ calls ∧ post.players = server.players))

/-- The payloads of LOGIN that do no harm: the server is full, the account number is
    cut off, Redis has no key, or the packet carries its four fields, the reply has at
    least 63 bytes, and either the keys differ or both texts end within their fields. -/
inductive LoginSafe (config : Config) (server : Server) (reply : Reply) : List BYTE → Prop
  | full {pPacket : List BYTE} : config.maxPlayerNum ≤ server.lPlayerNum →
      LoginSafe config server reply pPacket
  | truncated {pPacket : List BYTE} : pPacket.length < 8 → LoginSafe config server reply pPacket
  | absent {pPacket : List BYTE} : reply.isNull = true → LoginSafe config server reply pPacket
  | compared {accountNo : INT64} {ID nickName key trailing : List BYTE} :
      ID.length = sizeofWChar * idLen → nickName.length = sizeofWChar * nickNameLen →
      key.length = sessionKeyLen → 63 ≤ reply.asString.length →
      (key ≠ (reply.asString ++ [0]).take sessionKeyLen ∨
        (0 ∈ (wchars idLen ID).toList ∧ 0 ∈ (wchars nickNameLen nickName).toList)) →
      LoginSafe config server reply (loginPayload accountNo ID nickName key trailing)

inductive SafeToHandle (config : Config) (server : Server) (reply : Reply) : List BYTE → Prop
  | short {pPacket : List BYTE} : pPacket.length < 2 → SafeToHandle config server reply pPacket
  | heartbeat (rest : List BYTE) :
      SafeToHandle config server reply (wordBytes config.csChatReqHeartbeat ++ rest)
  | monitoring (rest : List BYTE) :
      SafeToHandle config server reply (wordBytes config.csChatMonitorClientLogin ++ rest)
  | login {rest : List BYTE} : LoginSafe config server reply rest →
      SafeToHandle config server reply (wordBytes config.csChatReqLogin ++ rest)

section Safe

variable {config : Config} {server post : Server} {pPlayer : PlayerPtr} {typeLocal : WORD}
  {reply : Reply} {beyond : Nat → BYTE} {pPacket rest key : List BYTE} {calls : List Call}
  {fields : LoginFields}

/-! The type of a safe packet. -/

theorem SafeToHandle.type (safe : SafeToHandle config server reply pPacket) :
    match readWord pPacket with
    | none => True
    | some (type, rest) => type = config.csChatReqHeartbeat ∨ type = config.csChatMonitorClientLogin ∨
        (type = config.csChatReqLogin ∧ LoginSafe config server reply rest) := by
  cases safe with
  | short short => rw [readWord_eq_none.mpr short]; trivial
  | heartbeat rest => simp
  | monitoring rest => simp
  | login safe => simp [safe]

/-! What a handler that returns has done. -/

theorem loginFieldsResult_outcome
    (returned : loginFieldsResult server pPlayer reply beyond fields = some (post, calls)) :
    .registerLeave pPlayer .chat ∈ calls ∨
      (.disconnect (server.session pPlayer) ∈ calls ∧ post.players = server.players) := by
  unfold loginFieldsResult at returned
  split at returned
  · cases returned
    exact .inr ⟨by simp, rfl⟩
  · split at returned
    · cases returned
    · split at returned
      · split at returned
        · cases returned
          exact .inl (by simp)
        · cases returned
      · cases returned
        exact .inr ⟨by simp, rfl⟩

theorem loginPacketResult_outcome
    (returned : loginPacketResult config server pPlayer reply beyond pPacket = some (post, calls)) :
    .registerLeave pPlayer .chat ∈ calls ∨
      (.disconnect (server.session pPlayer) ∈ calls ∧ post.players = server.players) := by
  unfold loginPacketResult at returned
  split at returned
  · cases returned
    exact .inr ⟨by simp, rfl⟩
  · split at returned
    · cases returned
      exact .inr ⟨by simp, rfl⟩
    · exact loginFieldsResult_outcome returned

theorem loginResult_outcome
    (returned : loginResult config server pPlayer typeLocal reply beyond pPacket = some (post, calls)) :
    wordBytes config.csChatReqHeartbeat <+: pPacket ∨
      wordBytes config.csChatMonitorClientLogin <+: pPacket ∨
      .registerLeave pPlayer .chat ∈ calls ∨
      (.disconnect (server.session pPlayer) ∈ calls ∧ post.players = server.players) := by
  unfold loginResult at returned
  split at returned
  · cases returned
    exact .inr (.inr (.inr ⟨by simp, rfl⟩))
  · next type rest front =>
    have whole : wordBytes type ++ rest = pPacket := (readWord_eq_some.mp front).symm
    split at returned
    · simp only [Option.map_eq_some_iff, Prod.exists, Prod.mk.injEq] at returned
      obtain ⟨left, made, outcome, rfl, rfl⟩ := returned
      obtain entered | ⟨dropped, kept⟩ := loginPacketResult_outcome outcome
      · exact .inr (.inr (.inl (List.mem_append_left _ entered)))
      · exact .inr (.inr (.inr ⟨List.mem_append_left _ dropped, kept⟩))
    · split at returned
      · next heartbeat => exact .inl ⟨rest, heartbeat ▸ whole⟩
      · split at returned
        · next monitor => exact .inr (.inl ⟨rest, monitor ▸ whole⟩)
        · cases returned

theorem handlesSafely_iff_returns : HandlesSafely config server pPlayer typeLocal reply pPacket ↔
    (run (onRecvChecked config typeLocal reply pPacket pPlayer) server).isSome = true := by
  constructor
  · rintro ⟨post, calls, returned, _⟩
    rw [returned]
    rfl
  · intro returns
    obtain ⟨⟨post, calls⟩, returned⟩ := Option.isSome_iff_exists.mp returns
    refine ⟨post, calls, returned, ?_⟩
    by_cases short : reply.asString.length < 63
    · by_cases reaches : ∃ rest, readWord pPacket = some (config.csChatReqLogin, rest) ∧
          Compares config server reply rest
      · obtain ⟨rest, type, compares⟩ := reaches
        rw [onRecvChecked_short short type compares] at returned
        cases returned
      · rw [onRecvChecked_run (fun _ => 0) (.inr fun rest type compares =>
          reaches ⟨rest, type, compares⟩)] at returned
        exact loginResult_outcome returned
    · rw [onRecvChecked_run (fun _ => 0) (.inl (Nat.not_lt.mp short))] at returned
      exact loginResult_outcome returned

/-! When it returns. -/

theorem loginFieldsResult_isSome (present : reply.isNull = false) :
    (loginFieldsResult server pPlayer reply beyond fields).isSome = true ↔
      ∃ key, fields.pSessionKey = some key ∧ (keyMatches reply beyond key = false ∨
        (terminated idLen fields.pID ∧ terminated nickNameLen fields.pNickName)) := by
  simp only [loginFieldsResult, present, Bool.false_eq_true, if_false]
  rw [← copiedText_isSome (server.players pPlayer).ID,
    ← copiedText_isSome (server.players pPlayer).nickName]
  cases fields.pSessionKey with
  | none => simp
  | some key =>
    cases matched : keyMatches reply beyond key with
    | false => simp [matched]
    | true =>
      cases copiedText (server.players pPlayer).ID fields.pID with
      | none => simp [matched]
      | some ID =>
        cases copiedText (server.players pPlayer).nickName fields.pNickName <;> simp [matched]

theorem keyMatches_long (long : 63 ≤ reply.asString.length) (whole : key.length = sessionKeyLen) :
    keyMatches reply beyond key = false ↔ key ≠ (reply.asString ++ [0]).take sessionKeyLen := by
  rw [keyMatches, decide_eq_false_iff_not, cStr_long long, List.take_of_length_le (Nat.le_of_eq whole)]

theorem loginPacketResult_isSome (long : 63 ≤ reply.asString.length)
    (compares : Compares config server reply pPacket) :
    (loginPacketResult config server pPlayer reply beyond pPacket).isSome = true ↔
      LoginSafe config server reply pPacket := by
  obtain ⟨room, parsed, present⟩ := compares
  have roomy : ¬ config.maxPlayerNum ≤ server.lPlayerNum := Int.not_le.mpr room
  obtain ⟨fields, parsed⟩ := Option.ne_none_iff_exists'.mp parsed
  simp only [loginPacketResult, if_neg roomy, parsed]
  rw [loginFieldsResult_isSome present]
  constructor
  · rintro ⟨key, hasKey, decided⟩
    obtain ⟨ID, nickName, trailing, rfl, lengthID, lengthNick, lengthKey⟩ :=
      readLogin_withKey parsed hasKey
    rw [readLogin_loginPayload lengthID lengthNick lengthKey] at parsed
    have whole := Option.some.inj parsed
    refine .compared lengthID lengthNick lengthKey long ?_
    rw [keyMatches_long long lengthKey, ← whole] at decided
    simpa [terminated] using decided
  · intro safe
    cases safe with
    | full full => exact absurd full roomy
    | truncated short =>
      rw [readLogin_eq_none.mpr short] at parsed
      cases parsed
    | absent null => exact absurd (null.symm.trans present) (by decide)
    | compared lengthID lengthNick lengthKey _ decided =>
      rw [readLogin_loginPayload lengthID lengthNick lengthKey] at parsed
      cases parsed
      refine ⟨_, rfl, ?_⟩
      rw [keyMatches_long long lengthKey]
      simpa [terminated] using decided

theorem loginPacketResult_early (early : ¬ Compares config server reply pPacket) :
    (loginPacketResult config server pPlayer reply beyond pPacket).isSome = true ∧
      LoginSafe config server reply pPacket := by
  unfold loginPacketResult
  by_cases full : config.maxPlayerNum ≤ server.lPlayerNum
  · exact ⟨by simp [full], .full full⟩
  · cases parsed : readLogin pPacket with
    | none => exact ⟨by simp [full], .truncated (readLogin_eq_none.mp parsed)⟩
    | some fields =>
      cases null : reply.isNull with
      | true => exact ⟨by simp [full, loginFieldsResult, null], .absent null⟩
      | false => exact absurd ⟨Int.not_le.mp full, by simp [parsed], null⟩ early

/-- With a reply that is shorter than 63 bytes, no packet that is compared is safe. -/
theorem LoginSafe.long (safe : LoginSafe config server reply pPacket)
    (compares : Compares config server reply pPacket) : 63 ≤ reply.asString.length := by
  obtain ⟨room, parsed, present⟩ := compares
  cases safe with
  | full full => exact absurd room (Int.not_lt.mpr full)
  | truncated short => exact absurd (readLogin_eq_none.mpr short) parsed
  | absent null => exact absurd (null.symm.trans present) (by decide)
  | compared _ _ _ long _ => exact long

theorem returns_login (type : readWord pPacket = some (config.csChatReqLogin, rest)) :
    (run (onRecvChecked config typeLocal reply pPacket pPlayer) server).isSome = true ↔
      LoginSafe config server reply rest := by
  by_cases compares : Compares config server reply rest
  · by_cases long : 63 ≤ reply.asString.length
    · rw [onRecvChecked_run (fun _ => 0) (.inl long), loginResult, type]
      simp only [if_true, Option.isSome_map]
      exact loginPacketResult_isSome long compares
    · rw [onRecvChecked_short (Nat.not_le.mp long) type compares]
      exact iff_of_false Bool.false_ne_true fun safe => long (safe.long compares)
  · have same : run (onRecvChecked config typeLocal reply pPacket pPlayer) server =
        loginResult config server pPlayer typeLocal reply (fun _ => 0) pPacket := by
      apply onRecvChecked_run
      refine .inr fun rest' type' => ?_
      cases type.symm.trans type'
      exact compares
    rw [same, loginResult, type]
    simp only [if_true, Option.isSome_map]
    obtain ⟨returns, safe⟩ := @loginPacketResult_early _ _ pPlayer _ _ _ compares
    exact iff_of_true returns safe

/-- The handler is safe on a packet exactly when `SafeToHandle` says so. -/
theorem handlesSafely_iff (config : Config) (server : Server) (pPlayer : PlayerPtr)
    (typeLocal : WORD) (reply : Reply) (pPacket : List BYTE) :
    HandlesSafely config server pPlayer typeLocal reply pPacket ↔
      SafeToHandle config server reply pPacket := by
  rw [handlesSafely_iff_returns]
  cases type : readWord pPacket with
  | none =>
    rw [onRecvChecked_run (fun _ => 0) (.inr fun rest type' _ => by cases type.symm.trans type'),
      loginResult, type]
    exact iff_of_true rfl (.short (readWord_eq_none.mp type))
  | some field =>
    obtain ⟨label, rest⟩ := field
    obtain rfl := readWord_eq_some.mp type
    by_cases login : label = config.csChatReqLogin
    · subst login
      rw [returns_login type]
      refine ⟨.login, fun safe => ?_⟩
      have read := safe.type
      rw [type] at read
      obtain heartbeat | monitor | ⟨_, harmless⟩ := read
      · exact absurd heartbeat config.loginLabels_ne.1
      · exact absurd monitor config.loginLabels_ne.2.1
      · exact harmless
    · rw [onRecvChecked_run (fun _ => 0) (.inr fun rest type' _ => by
          cases type.symm.trans type'; exact login rfl), loginResult, type]
      simp only [if_neg login]
      by_cases heartbeat : label = config.csChatReqHeartbeat
      · subst heartbeat
        exact iff_of_true (by simp) (.heartbeat rest)
      · by_cases monitor : label = config.csChatMonitorClientLogin
        · subst monitor
          exact iff_of_true (by simp [heartbeat]) (.monitoring rest)
        · simp only [if_neg heartbeat, if_neg monitor]
          refine iff_of_false Bool.false_ne_true fun safe => ?_
          have read := safe.type
          rw [type] at read
          obtain same | same | ⟨same, _⟩ := read
          · exact heartbeat same
          · exact monitor same
          · exact login same

end Safe

/-- A LOGIN packet that ends behind the account number of a stored key: `memcmp` gets
    a null pointer. -/
theorem login_truncated_nullPointer :
    let played := (Sample.play [.accept 3 9 Sample.memory, .loginEnter 3]).get (by decide +kernel)
    let pPacket := wordBytes Sample.config.csChatReqLogin ++ int64Bytes 7
    ServerRun Sample.config played.1 played.2 ∧ played.2.phase 3 = .login ∧
    (∃ left, onRecvChecked Sample.config 0 (.bulkString Sample.sessionKey) pPacket 3
      ⟨played.2, []⟩ = .error (.fault .nullPointer) left) ∧
    ¬ HandlesSafely Sample.config played.2 3 0 (.bulkString Sample.sessionKey) pPacket := by
  intro played pPacket
  have stopped : ∃ left, onRecvChecked Sample.config 0 (.bulkString Sample.sessionKey) pPacket 3
      ⟨played.2, []⟩ = .error (.fault .nullPointer) left := ⟨_, rfl⟩
  refine ⟨Sample.play_run _ _, by decide +kernel, stopped, ?_⟩
  obtain ⟨left, stopped⟩ := stopped
  intro safe
  have returns := handlesSafely_iff_returns.mp safe
  rw [run, stopped] at returns
  cases returns

end ChatServerRedis
