import ChatServerRedis.Verified.Handlers

/-! # What a received packet does

The bytes of a packet are decoded first and acted on afterwards.  `decodeRequest`
is the acceptance language of `ChatContents::OnRecv`, `onRecv_run` gives the
effect of each decoded request, and the wire lemmas say which bytes decode to it.
-/

namespace ChatServerRedis

open Handlers

/-! ## The labels of the two switches -/

theorem PacketTypes.loginLabels_ne (types : PacketTypes) :
    types.csChatReqLogin ≠ types.csChatReqHeartbeat ∧
    types.csChatReqLogin ≠ types.csChatMonitorClientLogin ∧
    types.csChatReqHeartbeat ≠ types.csChatMonitorClientLogin := by
  have distinct := types.loginLabels
  simp only [List.nodup_cons, List.mem_cons, List.not_mem_nil, or_false, not_or] at distinct
  exact ⟨distinct.1.1, distinct.1.2, distinct.2.1⟩

theorem PacketTypes.message_ne_sectorMove (types : PacketTypes) :
    types.csChatReqMessage ≠ types.csChatReqSectorMove := by
  have distinct := types.chatLabels
  simp only [List.nodup_cons, List.mem_cons, not_or] at distinct
  exact Ne.symm distinct.1.1

theorem PacketTypes.sectorInfo_ne (types : PacketTypes) :
    types.csChatReqSectorInfo ≠ types.csChatReqSectorMove ∧
    types.csChatReqSectorInfo ≠ types.csChatReqMessage ∧
    types.csChatReqSectorInfo ≠ types.csChatReqHeartbeat ∧
    types.csChatReqSectorInfo ≠ types.csChatMonitorClientLogin := by
  have distinct := types.chatLabels
  simp only [List.nodup_cons, List.mem_cons, List.not_mem_nil, or_false, not_or] at distinct
  obtain ⟨⟨_, _, _, move⟩, ⟨_, _, message⟩, ⟨_, heartbeat⟩, monitor, _⟩ := distinct
  exact ⟨Ne.symm move, Ne.symm message, Ne.symm heartbeat, Ne.symm monitor⟩

/-! ## Fields on the wire -/

def readWord (pPacket : List BYTE) : Option (WORD × List BYTE) :=
  (LittleEndian.read 2 pPacket).map fun (value, rest) => (BitVec.ofNat 16 value, rest)

def readInt64 (pPacket : List BYTE) : Option (INT64 × List BYTE) :=
  (LittleEndian.read 8 pPacket).map fun (value, rest) => (BitVec.ofNat 64 value, rest)

theorem extractWord_apply (pPacket : List BYTE) (machine : Machine Server Call) :
    extractWord pPacket machine = match readWord pPacket with
      | some field => .ok field machine
      | none => .error (.thrown .packetExtractFail) machine := by
  cases parsed : LittleEndian.read 2 pPacket <;> simp [extractWord, extract, readWord, parsed]

theorem extractInt64_apply (pPacket : List BYTE) (machine : Machine Server Call) :
    extractInt64 pPacket machine = match readInt64 pPacket with
      | some field => .ok field machine
      | none => .error (.thrown .packetExtractFail) machine := by
  cases parsed : LittleEndian.read 8 pPacket <;> simp [extractInt64, extract, readInt64, parsed]

theorem readWord_eq_none {pPacket : List BYTE} : readWord pPacket = none ↔ pPacket.length < 2 := by
  simp [readWord, LittleEndian.read_eq_none]

theorem readInt64_eq_none {pPacket : List BYTE} : readInt64 pPacket = none ↔ pPacket.length < 8 := by
  simp [readInt64, LittleEndian.read_eq_none]

theorem readWord_eq_some {pPacket rest : List BYTE} {value : WORD} :
    readWord pPacket = some (value, rest) ↔ pPacket = wordBytes value ++ rest := by
  simp only [readWord, wordBytes, Option.map_eq_some_iff, Prod.exists, Prod.mk.injEq]
  constructor
  · rintro ⟨number, _, parsed, rfl, rfl⟩
    obtain ⟨bound, rfl⟩ := LittleEndian.read_eq_some.mp parsed
    rw [BitVec.toNat_ofNat, Nat.mod_eq_of_lt (by simpa using bound)]
  · rintro rfl
    refine ⟨value.toNat, rest, ?_, by simp, rfl⟩
    exact LittleEndian.read_eq_some.mpr ⟨by simpa using value.isLt, rfl⟩

theorem readInt64_eq_some {pPacket rest : List BYTE} {value : INT64} :
    readInt64 pPacket = some (value, rest) ↔ pPacket = int64Bytes value ++ rest := by
  simp only [readInt64, int64Bytes, Option.map_eq_some_iff, Prod.exists, Prod.mk.injEq]
  constructor
  · rintro ⟨number, _, parsed, rfl, rfl⟩
    obtain ⟨bound, rfl⟩ := LittleEndian.read_eq_some.mp parsed
    rw [BitVec.toNat_ofNat, Nat.mod_eq_of_lt (by simpa using bound)]
  · rintro rfl
    refine ⟨value.toNat, rest, ?_, by simp, rfl⟩
    exact LittleEndian.read_eq_some.mpr ⟨by simpa using value.isLt, rfl⟩

@[simp] theorem readWord_wordBytes (value : WORD) (rest : List BYTE) :
    readWord (wordBytes value ++ rest) = some (value, rest) := readWord_eq_some.mpr rfl

@[simp] theorem readInt64_int64Bytes (value : INT64) (rest : List BYTE) :
    readInt64 (int64Bytes value ++ rest) = some (value, rest) := readInt64_eq_some.mpr rfl

/-! ## Requests in CHAT -/

/-- A packet as `ChatContents::OnRecv` understands it.  `refused` is a packet that
    throws or whose type CHAT does not serve, `malformed` one that leaves by an
    early return, `unknown` one that falls to the default label. -/
inductive ChatRequest where
  | sectorMove (accountNo : INT64) (sectorX sectorY : WORD)
  | message (accountNo : INT64) (messageLen : WORD) (message : List BYTE)
  | heartbeat
  | sectorInfo
  | refused
  | malformed
  | unknown

def decodeSectorMove (pPacket : List BYTE) : ChatRequest :=
  match readInt64 pPacket with
  | none => .refused
  | some (accountNo, rest) =>
    match readWord rest with
    | none => .refused
    | some (sectorX, rest) =>
      match readWord rest with
      | none => .refused
      | some (sectorY, rest) => if rest.isEmpty then .sectorMove accountNo sectorX sectorY else .malformed

def decodeMessage (pPacket : List BYTE) : ChatRequest :=
  match readInt64 pPacket with
  | none => .refused
  | some (accountNo, rest) =>
    match readWord rest with
    | none => .refused
    | some (messageLen, rest) =>
      if rest.length = messageLen.toNat then .message accountNo messageLen rest else .malformed

variable (config : Config)

def decodeRequest (pPacket : List BYTE) : ChatRequest :=
  match readWord pPacket with
  | none => .refused
  | some (type, rest) =>
    if type = config.csChatReqSectorMove then decodeSectorMove rest
    else if type = config.csChatReqMessage then decodeMessage rest
    else if type = config.csChatReqHeartbeat then .heartbeat
    else if type = config.csChatMonitorClientLogin then .refused
    else if type = config.csChatReqSectorInfo then .sectorInfo
    else .unknown

/-- The effect of a decoded request; `none` when `__debugbreak` stops the process. -/
def requestResult (server : Server) (pPlayer : PlayerPtr) :
    ChatRequest → Option (Server × List Call)
  | .sectorMove accountNo sectorX sectorY =>
    if acceptsMove (server.players pPlayer) accountNo sectorX sectorY then
      some (server.moved pPlayer sectorX sectorY,
        moveCalls config server pPlayer sectorX sectorY ++ [.updateCntTps])
    else some (server, [.disconnect (server.players pPlayer).sessionId, .updateCntTps])
  | .message accountNo messageLen message =>
    if speaksAs (server.players pPlayer) accountNo then
      some (server, broadcastCalls config server pPlayer messageLen message ++ [.updateCntTps])
    else some (server, [.disconnect (server.players pPlayer).sessionId, .updateCntTps])
  | .heartbeat => some (server, [.updateCntTps])
  | .sectorInfo =>
    if Encodable server then
      some (server.refilled,
        [.sendPacket (server.players pPlayer).sessionId .sectorInfo, .updateCntTps])
    else none
  | .refused => some (server, [.disconnect (server.players pPlayer).sessionId, .updateCntTps])
  | .malformed => some (server, [.disconnect (server.players pPlayer).sessionId])
  | .unknown => some (server, [.disconnect (server.session pPlayer), .updateCntTps])

theorem getPointer_append {size : Nat} {bytes : List BYTE} (whole : bytes.length = size)
    (rest : List BYTE) : getPointer size (bytes ++ rest) = (some bytes, rest) := by
  subst whole
  simp [getPointer]

theorem getPointer_eq_some {size : Nat} {bytes field rest : List BYTE} :
    getPointer size bytes = (some field, rest) ↔ bytes = field ++ rest ∧ field.length = size := by
  constructor
  · intro found
    unfold getPointer at found
    split at found
    · next enough =>
      cases found
      exact ⟨(List.take_append_drop size bytes).symm, List.length_take_of_le enough⟩
    · cases found
  · rintro ⟨rfl, whole⟩
    exact getPointer_append whole rest

theorem getPointer_eq_none {size : Nat} {bytes rest : List BYTE} :
    getPointer size bytes = (none, rest) ↔ bytes.length < size ∧ bytes = rest := by
  unfold getPointer
  split
  · next enough => simp [Nat.not_lt.mpr enough]
  · next short => simp [Nat.not_le.mp short]

/-- Whether `GetPointer` finds the message and nothing follows it. -/
theorem getPointer_all (size : Nat) (bytes : List BYTE) :
    (∃ pMessage, getPointer size bytes = (some pMessage, [])) ↔ bytes.length = size := by
  unfold getPointer
  split
  · next enough =>
    simp only [Prod.mk.injEq, Option.some.injEq, List.drop_eq_nil_iff, exists_and_right, exists_eq',
      true_and]
    omega
  · next short =>
    simp only [Prod.mk.injEq, reduceCtorEq, false_and, exists_const, false_iff]
    omega

theorem ChatContents.dispatch_sectorMove {pPacket rest : List BYTE} (pPlayer : PlayerPtr)
    (server : Server) (type : readWord pPacket = some (config.csChatReqSectorMove, rest)) :
    run (ChatContents.onRecv config pPacket pPlayer) server =
      requestResult config server pPlayer (decodeSectorMove rest) := by
  unfold decodeSectorMove
  simp only [run, ChatContents.onRecv, ChatContents.dispatch, bind_apply, catchThrown_apply,
    extractWord_apply, extractInt64_apply, branch_apply, type, if_true]
  cases account : readInt64 rest with
  | none => simp [requestResult]
  | some field =>
    obtain ⟨accountNo, rest⟩ := field
    dsimp only
    cases first : readWord rest with
    | none => simp [requestResult]
    | some field =>
      obtain ⟨sectorX, rest⟩ := field
      dsimp only
      cases second : readWord rest with
      | none => simp [requestResult]
      | some field =>
        obtain ⟨sectorY, rest⟩ := field
        cases rest with
        | cons _ _ => simp [requestResult]
        | nil =>
          cases accepts : acceptsMove (server.players pPlayer) accountNo sectorX sectorY with
          | true =>
            simp [requestResult, accepts, ChatContents.csChatReqSectorMove_accepted config _ accepts]
          | false =>
            simp [requestResult, accepts, ChatContents.csChatReqSectorMove_refused config _ accepts]

theorem ChatContents.dispatch_message {pPacket rest : List BYTE} (pPlayer : PlayerPtr)
    (server : Server) (type : readWord pPacket = some (config.csChatReqMessage, rest))
    (label : config.csChatReqMessage ≠ config.csChatReqSectorMove) :
    run (ChatContents.onRecv config pPacket pPlayer) server =
      requestResult config server pPlayer (decodeMessage rest) := by
  unfold decodeMessage
  simp only [run, ChatContents.onRecv, ChatContents.dispatch, bind_apply, catchThrown_apply,
    extractWord_apply, extractInt64_apply, branch_apply, type, if_true, if_neg label]
  cases account : readInt64 rest with
  | none => simp [requestResult]
  | some field =>
    obtain ⟨accountNo, rest⟩ := field
    dsimp only
    cases length : readWord rest with
    | none => simp [requestResult]
    | some field =>
      obtain ⟨messageLen, rest⟩ := field
      dsimp only
      by_cases whole : rest.length = messageLen.toNat
      · have pointer : getPointer messageLen.toNat rest = (some rest, []) := by
          simp [getPointer, ← whole]
        cases accepts : speaksAs (server.players pPlayer) accountNo with
        | true =>
          simp [pointer, whole, requestResult, accepts,
            ChatContents.csChatReqMessage_accepted config _ accepts]
        | false =>
          simp [pointer, whole, requestResult, accepts,
            ChatContents.csChatReqMessage_refused config _ accepts]
      · have pointer := mt (getPointer_all messageLen.toNat rest).mp whole
        rcases found : getPointer messageLen.toNat rest with ⟨_ | pMessage, _ | ⟨byte, left⟩⟩
        case some.nil => exact absurd ⟨pMessage, found⟩ pointer
        all_goals simp [whole, requestResult]

theorem ChatContents.onRecv_run (pPacket : List BYTE) (pPlayer : PlayerPtr) (server : Server) :
    run (ChatContents.onRecv config pPacket pPlayer) server =
      requestResult config server pPlayer (decodeRequest config pPacket) := by
  unfold decodeRequest
  cases type : readWord pPacket with
  | none =>
    simp [run, ChatContents.onRecv, ChatContents.dispatch, catchThrown_apply, extractWord_apply,
      type, requestResult]
  | some field =>
    obtain ⟨type', rest⟩ := field
    dsimp only
    by_cases move : type' = config.csChatReqSectorMove
    · subst move
      rw [if_pos rfl]
      exact ChatContents.dispatch_sectorMove config pPlayer server type
    · rw [if_neg move]
      by_cases message : type' = config.csChatReqMessage
      · subst message
        rw [if_pos rfl]
        exact ChatContents.dispatch_message config pPlayer server type move
      · rw [if_neg message]
        simp only [run, ChatContents.onRecv, ChatContents.dispatch, bind_apply, catchThrown_apply,
          extractWord_apply, branch_apply, type, if_neg move, if_neg message]
        by_cases heartbeat : type' = config.csChatReqHeartbeat
        · simp [heartbeat, requestResult]
        · by_cases monitor : type' = config.csChatMonitorClientLogin
          · simp only [heartbeat, if_false]
            simp [monitor, requestResult]
          · by_cases info : type' = config.csChatReqSectorInfo
            · simp only [heartbeat, monitor, if_false]
              by_cases encodable : Encodable server
              · simp [info, requestResult, encodable,
                  ChatContents.csChatReqSectorInfo_encodable _ _ encodable]
              · obtain ⟨left, stopped⟩ := ChatContents.csChatReqSectorInfo_debugbreak
                  (server.players pPlayer).sessionId [] encodable
                simp [info, requestResult, encodable, stopped]
            · simp [heartbeat, monitor, info, requestResult]

/-! ## The cases of a request -/

/-- One constructor for each way `requestResult` returns. -/
inductive RequestCase (server : Server) (pPlayer : PlayerPtr) :
    ChatRequest → Server → List Call → Prop where
  | moved {accountNo : INT64} {sectorX sectorY : WORD}
      (accepts : acceptsMove (server.players pPlayer) accountNo sectorX sectorY = true) :
      RequestCase server pPlayer (.sectorMove accountNo sectorX sectorY)
        (server.moved pPlayer sectorX sectorY)
        (moveCalls config server pPlayer sectorX sectorY ++ [.updateCntTps])
  | refusedMove {accountNo : INT64} {sectorX sectorY : WORD}
      (refuses : acceptsMove (server.players pPlayer) accountNo sectorX sectorY = false) :
      RequestCase server pPlayer (.sectorMove accountNo sectorX sectorY) server
        [.disconnect (server.players pPlayer).sessionId, .updateCntTps]
  | spoke {accountNo : INT64} {messageLen : WORD} {message : List BYTE}
      (speaks : speaksAs (server.players pPlayer) accountNo = true) :
      RequestCase server pPlayer (.message accountNo messageLen message) server
        (broadcastCalls config server pPlayer messageLen message ++ [.updateCntTps])
  | refusedMessage {accountNo : INT64} {messageLen : WORD} {message : List BYTE}
      (refuses : speaksAs (server.players pPlayer) accountNo = false) :
      RequestCase server pPlayer (.message accountNo messageLen message) server
        [.disconnect (server.players pPlayer).sessionId, .updateCntTps]
  | heartbeat : RequestCase server pPlayer .heartbeat server [.updateCntTps]
  | sectorInfo (encodable : Encodable server) :
      RequestCase server pPlayer .sectorInfo server.refilled
        [.sendPacket (server.players pPlayer).sessionId .sectorInfo, .updateCntTps]
  | refused :
      RequestCase server pPlayer .refused server
        [.disconnect (server.players pPlayer).sessionId, .updateCntTps]
  | malformed :
      RequestCase server pPlayer .malformed server [.disconnect (server.players pPlayer).sessionId]
  | unknown :
      RequestCase server pPlayer .unknown server [.disconnect (server.session pPlayer), .updateCntTps]

section RequestCases

variable {config}
variable {server post : Server} {pPlayer : PlayerPtr} {request : ChatRequest} {calls : List Call}

/-- The body of `requestResult` is split here and nowhere else. -/
theorem request_cases (result : requestResult config server pPlayer request = some (post, calls)) :
    RequestCase config server pPlayer request post calls := by
  cases request with
  | sectorMove accountNo sectorX sectorY =>
    simp only [requestResult] at result
    split at result
    · next accepts => cases result; exact .moved accepts
    · next refuses => cases result; exact .refusedMove (by simpa using refuses)
  | message accountNo messageLen message =>
    simp only [requestResult] at result
    split at result
    · next speaks => cases result; exact .spoke speaks
    · next refuses => cases result; exact .refusedMessage (by simpa using refuses)
  | sectorInfo =>
    simp only [requestResult] at result
    split at result
    · next encodable => cases result; exact .sectorInfo encodable
    · cases result
  | heartbeat => cases result; exact .heartbeat
  | refused => cases result; exact .refused
  | malformed => cases result; exact .malformed
  | unknown => cases result; exact .unknown

namespace RequestCase

theorem kept (outcome : RequestCase config server pPlayer request post calls) :
    post.phase = server.phase ∧ post.session = server.session ∧ post.issued = server.issued ∧
    post.lPlayerNum = server.lPlayerNum ∧ post.loginPlayerMap = server.loginPlayerMap ∧
    post.playerList = server.playerList := by
  cases outcome <;> exact ⟨rfl, rfl, rfl, rfl, rfl, rfl⟩

theorem player_kept (outcome : RequestCase config server pPlayer request post calls)
    (other : PlayerPtr) :
    ∃ sectorX sectorY registered, post.players other =
      { server.players other with
        sectorX := sectorX, sectorY := sectorY, bRegisterAtSector := registered } := by
  cases outcome with
  | @moved accountNo sectorX sectorY accepts =>
    rw [Server.moved_players]
    by_cases same : other = pPlayer
    · exact ⟨sectorX, sectorY, true, by rw [same, Function.update_self]⟩
    · exact ⟨_, _, _, Function.update_of_ne same _ _⟩
  | _ => exact ⟨_, _, _, rfl⟩

end RequestCase

end RequestCases

/-! ## The packets that decode to a move or a message -/

def sectorMoveWire (accountNo : INT64) (sectorX sectorY : WORD) : List BYTE :=
  wordBytes config.csChatReqSectorMove ++ (int64Bytes accountNo ++ (wordBytes sectorX ++
    wordBytes sectorY))

def messageWire (accountNo : INT64) (messageLen : WORD) (message : List BYTE) : List BYTE :=
  wordBytes config.csChatReqMessage ++ (int64Bytes accountNo ++ (wordBytes messageLen ++ message))

theorem decodeSectorMove_eq {pPacket : List BYTE} {accountNo : INT64} {sectorX sectorY : WORD} :
    decodeSectorMove pPacket = .sectorMove accountNo sectorX sectorY ↔
      pPacket = int64Bytes accountNo ++ (wordBytes sectorX ++ wordBytes sectorY) := by
  constructor
  · intro decoded
    unfold decodeSectorMove at decoded
    split at decoded
    · cases decoded
    · next first _ account =>
      split at decoded
      · cases decoded
      · next second _ xField =>
        split at decoded
        · cases decoded
        · next third rest yField =>
          split at decoded
          · next empty =>
            obtain rfl : rest = [] := List.isEmpty_iff.mp empty
            cases decoded
            rw [readInt64_eq_some.mp account, readWord_eq_some.mp xField,
              readWord_eq_some.mp yField, List.append_nil]
          · cases decoded
  · rintro rfl
    have yField : readWord (wordBytes sectorY) = some (sectorY, []) := by
      simpa using readWord_wordBytes sectorY []
    simp [decodeSectorMove, yField]

theorem decodeMessage_eq {pPacket message : List BYTE} {accountNo : INT64} {messageLen : WORD} :
    decodeMessage pPacket = .message accountNo messageLen message ↔
      pPacket = int64Bytes accountNo ++ (wordBytes messageLen ++ message) ∧
        message.length = messageLen.toNat := by
  constructor
  · intro decoded
    unfold decodeMessage at decoded
    split at decoded
    · cases decoded
    · next first _ account =>
      split at decoded
      · cases decoded
      · next second rest lengthField =>
        split at decoded
        · next whole =>
          cases decoded
          rw [readInt64_eq_some.mp account, readWord_eq_some.mp lengthField]
          exact ⟨rfl, whole⟩
        · cases decoded
  · rintro ⟨rfl, whole⟩
    simp [decodeMessage, whole]

/-- A packet is a move request exactly when it is the type, the account number and
    the two coordinates, with nothing after. -/
theorem decodeRequest_eq_sectorMove {pPacket : List BYTE} {accountNo : INT64}
    {sectorX sectorY : WORD} :
    decodeRequest config pPacket = .sectorMove accountNo sectorX sectorY ↔
      pPacket = sectorMoveWire config accountNo sectorX sectorY := by
  constructor
  · intro decoded
    unfold decodeRequest at decoded
    split at decoded
    · cases decoded
    · next type rest typeField =>
      rw [readWord_eq_some.mp typeField]
      split at decoded
      · next move => rw [decodeSectorMove_eq.mp decoded, move]; rfl
      · repeat' split at decoded
        · have message := decoded
          unfold decodeMessage at message
          repeat' split at message
          all_goals cases message
        all_goals cases decoded
  · rintro rfl
    simp only [decodeRequest, sectorMoveWire, readWord_wordBytes, if_true]
    exact decodeSectorMove_eq.mpr rfl

/-- A packet is a message exactly when it is the type, the account number, a length
    and that many bytes. -/
theorem decodeRequest_eq_message {pPacket message : List BYTE} {accountNo : INT64}
    {messageLen : WORD} :
    decodeRequest config pPacket = .message accountNo messageLen message ↔
      pPacket = messageWire config accountNo messageLen message ∧
        message.length = messageLen.toNat := by
  constructor
  · intro decoded
    unfold decodeRequest at decoded
    split at decoded
    · cases decoded
    · next type rest typeField =>
      rw [readWord_eq_some.mp typeField]
      split at decoded
      · have move := decoded
        unfold decodeSectorMove at move
        repeat' split at move
        all_goals cases move
      · split at decoded
        · next label =>
          obtain ⟨rfl, whole⟩ := decodeMessage_eq.mp decoded
          exact ⟨by rw [label]; rfl, whole⟩
        · repeat' split at decoded
          all_goals cases decoded
  · rintro ⟨rfl, whole⟩
    simp only [decodeRequest, messageWire, readWord_wordBytes, if_neg config.message_ne_sectorMove,
      if_true]
    exact decodeMessage_eq.mpr ⟨rfl, whole⟩

end ChatServerRedis
