import ChatServerRedis.Verified.Lifecycle

/-! # The session key

`CS_CHAT_REQ_LOGIN` compares 64 bytes at `c_str()` whatever the kind and length of
the reply.  A reply that is longer than the key, or that is no stored string,
authenticates when it begins with the key.
-/

namespace ChatServerRedis

open Handlers LoginContents

/-- A LOGIN payload: the account number, the two texts, the key, and what follows. -/
def loginPayload (accountNo : INT64) (ID nickName key trailing : List BYTE) : List BYTE :=
  int64Bytes accountNo ++ (ID ++ (nickName ++ (key ++ trailing)))

/-- The texts are NUL-terminated within their fields and the key has 64 bytes. -/
structure CompleteFields (ID nickName key : List BYTE) : Prop where
  ID_length : ID.length = sizeofWChar * idLen
  ID_terminated : 0 ∈ (wchars idLen ID).toList
  nickName_length : nickName.length = sizeofWChar * nickNameLen
  nickName_terminated : 0 ∈ (wchars nickNameLen nickName).toList
  key_length : key.length = sessionKeyLen

/-- `CS_CHAT_REQ_LOGIN` registers the player's move to CHAT. -/
def LetsIn (config : Config) (server : Server) (reply : Reply) (beyond : Nat → BYTE)
    (pPlayer : PlayerPtr) (pPacket : List BYTE) : Prop :=
  ∃ post calls, run (csChatReqLogin config reply beyond pPlayer pPacket) server = some (post, calls) ∧
    .registerLeave pPlayer .chat ∈ calls

/-- The memory at `c_str()` shows the key: the text begins with it, or the text is
    shorter and its NUL and the memory behind it complete the key. -/
def ShowsKey (text : List BYTE) (beyond : Nat → BYTE) (key : List BYTE) : Prop :=
  key <+: text ∨ (text.length < sessionKeyLen ∧
    key = text ++ 0 :: (List.range (sessionKeyLen - (text.length + 1))).map fun i =>
      beyond (text.length + 1 + i))

/-! ## The comparison -/

theorem cStr_text (text : List BYTE) (beyond : Nat → BYTE) (size : Nat) (fits : size ≤ text.length) :
    (List.range size).map (cStr text beyond) = text.take size := by
  refine List.ext_getElem (by simp [fits]) fun i bound _ => ?_
  have inside : i < text.length := by
    simp only [List.length_map, List.length_range] at bound
    omega
  simp [cStr, inside]

theorem cStr_short (text : List BYTE) (beyond : Nat → BYTE) (size : Nat) (short : text.length < size) :
    (List.range size).map (cStr text beyond) =
      text ++ 0 :: (List.range (size - (text.length + 1))).map fun i => beyond (text.length + 1 + i) := by
  refine List.ext_getElem ?_ fun i bound _ => ?_
  · simp only [List.length_map, List.length_range, List.length_append, List.length_cons]
    omega
  · obtain inside | rfl | behind := Nat.lt_trichotomy i text.length
    · simp [cStr, inside]
    · simp [cStr]
    · have past : text.length + 1 + (i - text.length - 1) = i := by omega
      simp [cStr, List.getElem_append_right (Nat.le_of_lt behind), List.getElem_cons,
        Nat.not_lt_of_lt behind, Nat.ne_of_gt behind, Nat.sub_ne_zero_of_lt behind, past]

theorem keyMatches_iff (reply : Reply) (beyond : Nat → BYTE) {key : List BYTE}
    (whole : key.length = sessionKeyLen) :
    keyMatches reply beyond key = true ↔ ShowsKey reply.asString beyond key := by
  have self : key.take sessionKeyLen = key := List.take_of_length_le (by omega)
  rw [keyMatches, decide_eq_true_eq, self, ShowsKey]
  by_cases fits : sessionKeyLen ≤ reply.asString.length
  · rw [cStr_text _ _ _ fits, List.prefix_iff_eq_take, whole]
    exact (or_iff_left fun short => absurd fits (by omega)).symm
  · have short : reply.asString.length < sessionKeyLen := by omega
    rw [cStr_short _ _ _ short]
    refine ⟨fun same => .inr ⟨short, same⟩, fun shows => shows.elim (fun long => ?_) And.right⟩
    exact absurd long.length_le (by omega)

/-! ## The decision -/

theorem copiedText_terminated {length : Nat} (destination : Vector WCHAR length) {bytes : List BYTE}
    (terminated : 0 ∈ (wchars length bytes).toList) :
    ∃ copied, copiedText destination (some bytes) = some copied :=
  Option.isSome_iff_exists.mp ((copiedText_isSome destination _).mpr ⟨bytes, rfl, terminated⟩)

section Decision

variable {config : Config} {server : Server} {reply : Reply} {beyond : Nat → BYTE}
  {pPlayer : PlayerPtr} {accountNo : INT64} {ID nickName key trailing : List BYTE}

theorem readLogin_loginPayload (lengthID : ID.length = sizeofWChar * idLen)
    (lengthNick : nickName.length = sizeofWChar * nickNameLen) (lengthKey : key.length = sessionKeyLen) :
    readLogin (loginPayload accountNo ID nickName key trailing) =
      some ⟨accountNo, some ID, some nickName, some key⟩ := by
  simp only [readLogin, loginPayload, readInt64_int64Bytes, Option.map_some,
    getPointer_append lengthID, getPointer_append lengthNick, getPointer_append lengthKey]

theorem readLogin_payload (complete : CompleteFields ID nickName key) :
    readLogin (loginPayload accountNo ID nickName key trailing) =
      some ⟨accountNo, some ID, some nickName, some key⟩ :=
  readLogin_loginPayload complete.ID_length complete.nickName_length complete.key_length

/-- When the pointer to the key is not null, neither are the other two: a failed
    `GetPointer` leaves fewer bytes than the key has. -/
theorem readLogin_withKey {pPacket : List BYTE} {fields : LoginFields}
    (parsed : readLogin pPacket = some fields) (hasKey : fields.pSessionKey = some key) :
    ∃ ID nickName trailing, pPacket = loginPayload fields.accountNo ID nickName key trailing ∧
      ID.length = sizeofWChar * idLen ∧ nickName.length = sizeofWChar * nickNameLen ∧
      key.length = sessionKeyLen := by
  simp only [readLogin, Option.map_eq_some_iff, Prod.exists] at parsed
  obtain ⟨accountNo, rest, account, rfl⟩ := parsed
  have sizeID : sizeofWChar * idLen < sessionKeyLen := by decide
  have sizeNick : sizeofWChar * nickNameLen < sessionKeyLen := by decide
  rcases first : getPointer (sizeofWChar * idLen) rest with ⟨pID, rest'⟩
  rcases second : getPointer (sizeofWChar * nickNameLen) rest' with ⟨pNickName, rest''⟩
  rcases third : getPointer sessionKeyLen rest'' with ⟨pSessionKey, trailing⟩
  obtain rfl : pSessionKey = some key := by simpa only [first, second, third] using hasKey
  obtain ⟨rfl, lengthKey⟩ := getPointer_eq_some.mp third
  -- a null pointer leaves its bytes, too few for the key, to the pointers after it
  cases pNickName with
  | none =>
    obtain ⟨short, rfl⟩ := getPointer_eq_none.mp second
    rw [List.length_append] at short
    omega
  | some nickName =>
    obtain ⟨rfl, lengthNick⟩ := getPointer_eq_some.mp second
    cases pID with
    | none =>
      obtain ⟨short, rfl⟩ := getPointer_eq_none.mp first
      simp only [List.length_append] at short
      omega
    | some ID =>
      obtain ⟨rfl, lengthID⟩ := getPointer_eq_some.mp first
      refine ⟨ID, nickName, trailing, ?_, lengthID, lengthNick, lengthKey⟩
      exact readInt64_eq_some.mp account

theorem letsIn_iff (room : server.lPlayerNum < config.maxPlayerNum)
    (complete : CompleteFields ID nickName key) :
    LetsIn config server reply beyond pPlayer (loginPayload accountNo ID nickName key trailing) ↔
      reply.isNull = false ∧ ShowsKey reply.asString beyond key := by
  have parsed : readLogin (loginPayload accountNo ID nickName key trailing) =
      some ⟨accountNo, some ID, some nickName, some key⟩ := readLogin_payload complete
  have outcome := csChatReqLogin_fields config reply beyond pPlayer room parsed
  obtain ⟨copiedID, hasID⟩ := copiedText_terminated (server.players pPlayer).ID complete.ID_terminated
  obtain ⟨copiedNick, hasNick⟩ :=
    copiedText_terminated (server.players pPlayer).nickName complete.nickName_terminated
  rw [← keyMatches_iff reply beyond complete.key_length]
  simp only [loginFieldsResult, hasID, hasNick] at outcome
  unfold LetsIn run
  cases null : reply.isNull with
  | true =>
    simp only [null, if_true] at outcome
    simp [outcome]
  | false =>
    cases matched : keyMatches reply beyond key with
    | true =>
      simp only [null, matched, if_true, Bool.false_eq_true, if_false] at outcome
      simp [outcome]
    | false =>
      simp only [null, matched, Bool.false_eq_true, if_false] at outcome
      simp [outcome]

/-- The player is let in exactly for the stored key, unless the reply shows the key
    and is not null and not a stored string of 64 bytes. -/
theorem letsIn_exactly_iff (room : server.lPlayerNum < config.maxPlayerNum)
    (complete : CompleteFields ID nickName key) :
    (LetsIn config server reply beyond pPlayer (loginPayload accountNo ID nickName key trailing) ↔
      reply = .bulkString key) ↔
    (reply = .null ∨ (∃ text, reply = .bulkString text ∧ text.length = sessionKeyLen) ∨
      ¬ ShowsKey reply.asString beyond key) := by
  rw [letsIn_iff room complete]
  have whole := complete.key_length
  cases reply with
  | null => simp [Reply.isNull]
  | simpleString text | error text => simp [Reply.isNull]
  | bulkString text =>
    have own : ShowsKey key beyond key := .inl (List.prefix_refl key)
    simp only [Reply.isNull, Reply.asString, true_and, Reply.bulkString.injEq, reduceCtorEq, false_or,
      exists_eq_left']
    constructor
    · intro exactly
      by_cases shows : ShowsKey text beyond key
      · exact .inl (by rw [exactly.mp shows, whole])
      · exact .inr shows
    · rintro (length | hidden)
      · refine ⟨fun shows => ?_, fun same => same ▸ own⟩
        obtain leading | short := shows
        · exact (leading.eq_of_length (by omega)).symm
        · exact absurd short.1 (by omega)
      · exact ⟨fun shows => absurd shows hidden, fun same => absurd (same ▸ own) hidden⟩

end Decision

namespace Sample

def emptyText : List BYTE := List.replicate 40 0

/-- The error Redis answers to a `GET` of a key that holds no string. -/
def wrongType : List BYTE :=
  "WRONGTYPE Operation against a key holding the wrong kind of value".toList.map fun letter =>
    BitVec.ofNat 8 letter.toNat

theorem complete_sessionKey : CompleteFields emptyText emptyText sessionKey :=
  ⟨by decide, by decide +kernel, by decide, by decide +kernel, by decide⟩

theorem complete_wrongType : CompleteFields emptyText emptyText (wrongType.take sessionKeyLen) :=
  ⟨by decide, by decide +kernel, by decide, by decide +kernel, by decide +kernel⟩

end Sample

theorem letsIn_exactly_sample :
    LetsIn Sample.config (Server.initial fun _ => Sample.memory) (.bulkString Sample.sessionKey)
      (fun _ => 0) 0 (loginPayload 7 Sample.emptyText Sample.emptyText Sample.sessionKey []) ↔
    Reply.bulkString Sample.sessionKey = .bulkString Sample.sessionKey :=
  (letsIn_exactly_iff (by decide) Sample.complete_sessionKey).mpr (.inr (.inl ⟨_, rfl, by decide⟩))

/-- The first 64 characters of an error text are a session key that gets in. -/
theorem letsIn_by_error_text :
    LetsIn Sample.config (Server.initial fun _ => Sample.memory) (.error Sample.wrongType)
      (fun _ => 0) 0 (loginPayload 7 Sample.emptyText Sample.emptyText
        (Sample.wrongType.take sessionKeyLen) []) ∧
    Reply.error Sample.wrongType ≠ .bulkString (Sample.wrongType.take sessionKeyLen) :=
  ⟨(letsIn_iff (by decide) Sample.complete_wrongType).mpr ⟨rfl, .inl (List.take_prefix _ _)⟩,
    by simp⟩

end ChatServerRedis
