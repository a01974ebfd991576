import ChatServerRedis.General.Interleaving
import ChatServerRedis.Verified.Lifecycle

/-! # The order in which packets of different players are handled

A packet in CHAT reads and writes nothing of the other players: their fields, how
often they are linked in each sector list, and the answers to their sessions.  So
two interleavings of the same packets differ only in the order inside the lists and
in what is broadcast.
-/

namespace ChatServerRedis

open Handlers Transition Placement Interleaving

/-! ## Answers -/

section Answers

variable (config : Config)

def isMoveReply (payload : List BYTE) : Bool :=
  payload.length == 14 && payload.take 2 == wordBytes config.csChatResSectorMove

/-- The RES_SECTOR_MOVE reply a call queues for the session. -/
def moveReplyTo (sessionID : ULONGLONG) : Call → Option (List BYTE)
  | .enqPacket other (.alloc payload) | .sendPacket other (.alloc payload) =>
    if other = sessionID ∧ isMoveReply config payload = true then some payload else none
  | _ => none

/-- The call disconnects the session or replies to its move. -/
def answers (sessionID : ULONGLONG) (made : Call) : Bool :=
  made == .disconnect sessionID || (moveReplyTo config sessionID made).isSome

def moveReplies (sessionID : ULONGLONG) (steps : List Step) : List (List BYTE) :=
  (steps.flatMap Taken.calls).filterMap (moveReplyTo config sessionID)

variable {config}

theorem wordBytes_length (value : WORD) : (wordBytes value).length = 2 :=
  LittleEndian.encode_length 2 value.toNat

theorem int64Bytes_length (value : INT64) : (int64Bytes value).length = 8 :=
  LittleEndian.encode_length 8 value.toNat

theorem wcharBytes_length {length : Nat} (text : Vector WCHAR length) :
    (wcharBytes text).length = 2 * length := by
  simp [wcharBytes, List.length_flatMap, wordBytes_length, Nat.mul_comm]

theorem exists_wordBytes {bytes : List BYTE} (enough : 2 ≤ bytes.length) :
    ∃ value rest, bytes = wordBytes value ++ rest := by
  cases read : readWord bytes with
  | none => exact absurd (readWord_eq_none.mp read) (Nat.not_lt.mpr enough)
  | some field => exact ⟨field.1, field.2, readWord_eq_some.mp read⟩

theorem exists_int64Bytes {bytes : List BYTE} (enough : 8 ≤ bytes.length) :
    ∃ value rest, bytes = int64Bytes value ++ rest := by
  cases read : readInt64 bytes with
  | none => exact absurd (readInt64_eq_none.mp read) (Nat.not_lt.mpr enough)
  | some field => exact ⟨field.1, field.2, readInt64_eq_some.mp read⟩

/-- The packets of that form are the ones `MAKE_CS_CHAT_RES_SECTOR_MOVE` builds. -/
theorem isMoveReply_iff {payload : List BYTE} : isMoveReply config payload = true ↔
    ∃ accountNo sectorX sectorY, payload = makeCsChatResSectorMove config accountNo sectorX sectorY := by
  simp only [isMoveReply, Bool.and_eq_true, beq_iff_eq]
  constructor
  · rintro ⟨length, type⟩
    obtain ⟨label, rest, rfl⟩ := @exists_wordBytes payload (by omega)
    simp only [List.length_append, wordBytes_length] at length
    rw [List.take_left' (wordBytes_length label)] at type
    obtain ⟨accountNo, rest, rfl⟩ := @exists_int64Bytes rest (by omega)
    rw [List.length_append, int64Bytes_length] at length
    obtain ⟨sectorX, rest, rfl⟩ := @exists_wordBytes rest (by omega)
    rw [List.length_append, wordBytes_length] at length
    obtain ⟨sectorY, rest, rfl⟩ := @exists_wordBytes rest (by omega)
    rw [List.length_append, wordBytes_length] at length
    obtain rfl : rest = [] := List.eq_nil_of_length_eq_zero (by omega)
    exact ⟨accountNo, sectorX, sectorY, by simp [makeCsChatResSectorMove, type]⟩
  · rintro ⟨accountNo, sectorX, sectorY, rfl⟩
    simp [makeCsChatResSectorMove, wordBytes_length, int64Bytes_length]

theorem isMoveReply_makeCsChatResSectorMove (accountNo : INT64) (sectorX sectorY : WORD) :
    isMoveReply config (makeCsChatResSectorMove config accountNo sectorX sectorY) = true :=
  isMoveReply_iff.mpr ⟨accountNo, sectorX, sectorY, rfl⟩

theorem isMoveReply_makeCsChatResMessage (accountNo : INT64) (ID : Vector WCHAR idLen)
    (nickName : Vector WCHAR nickNameLen) (messageLen : WORD) (message : List BYTE) :
    isMoveReply config (makeCsChatResMessage config accountNo ID nickName messageLen message) = false := by
  have long : (makeCsChatResMessage config accountNo ID nickName messageLen message).length ≠ 14 := by
    have lengthID : (wcharBytes ID).length = 40 := wcharBytes_length ID
    simp only [makeCsChatResMessage, List.length_append, wordBytes_length, int64Bytes_length, lengthID]
    omega
  simp [isMoveReply, long]

/-- The answers to a session among the calls of a request of that session, or of
    another one. -/
def ownAnswers (config : Config) (player : Player) : ChatRequest → List Call
  | .sectorMove accountNo sectorX sectorY =>
    if acceptsMove player accountNo sectorX sectorY then
      [.enqPacket player.sessionId (.alloc (makeCsChatResSectorMove config player.accountNo sectorX
        sectorY))]
    else [.disconnect player.sessionId]
  | .message accountNo _ _ =>
    if speaksAs player accountNo then [] else [.disconnect player.sessionId]
  | .heartbeat | .sectorInfo => []
  | .refused | .malformed | .unknown => [.disconnect player.sessionId]

variable {server post : Server} {pPlayer : PlayerPtr} {request : ChatRequest} {calls : List Call}
  (sessionID : ULONGLONG)

theorem filter_broadcastCalls (messageLen : WORD) (message : List BYTE) :
    (broadcastCalls config server pPlayer messageLen message).filter (answers config sessionID) = [] := by
  apply List.filter_eq_nil_iff.mpr
  intro made member
  obtain ⟨cell, _, rfl | ⟨other, _, rfl⟩⟩ := mem_broadcastCalls.mp member
  · simp [answers, moveReplyTo]
  · simp [answers, moveReplyTo, messagePacket, isMoveReply_makeCsChatResMessage]

theorem filter_moveCalls (sectorX sectorY : WORD) :
    (moveCalls config server pPlayer sectorX sectorY).filter (answers config sessionID) =
      if (server.players pPlayer).sessionId = sessionID then
        [.enqPacket (server.players pPlayer).sessionId (.alloc (makeCsChatResSectorMove config
          (server.players pPlayer).accountNo sectorX sectorY))]
      else [] := by
  have removed : (removeCalls server pPlayer).filter (answers config sessionID) = [] := by
    apply List.filter_eq_nil_iff.mpr
    intro made member
    obtain ⟨_, rfl⟩ := mem_removeCalls.mp member
    simp [answers, moveReplyTo]
  rw [moveCalls, List.filter_append, removed]
  by_cases own : (server.players pPlayer).sessionId = sessionID <;>
    simp [answers, moveReplyTo, own, isMoveReply_makeCsChatResSectorMove]

theorem requestResult_answers (session : server.session pPlayer = (server.players pPlayer).sessionId)
    (result : requestResult config server pPlayer request = some (post, calls)) :
    calls.filter (answers config sessionID) =
      if (server.players pPlayer).sessionId = sessionID then
        ownAnswers config (server.players pPlayer) request
      else [] := by
  have counted : [Call.updateCntTps].filter (answers config sessionID) = [] := rfl
  cases request_cases result with
  | moved accepts =>
    rw [List.filter_append, filter_moveCalls, counted, List.append_nil, ownAnswers, if_pos accepts]
  | spoke speaks => simp [filter_broadcastCalls, counted, ownAnswers, speaks]
  | refusedMove refuses | refusedMessage refuses =>
    simp [ownAnswers, refuses, answers, moveReplyTo, List.filter_cons]
  | heartbeat => simp [ownAnswers, counted]
  | sectorInfo => simp [ownAnswers, answers, moveReplyTo]
  | refused | malformed | unknown =>
    simp [ownAnswers, answers, moveReplyTo, List.filter_cons, session]

end Answers

/-! ## The part of one player -/

/-- A player and how often it is linked in each sector list. -/
structure Own where
  player : Player
  links : Nat → Nat

def Server.ownOf (server : Server) (pPlayer : PlayerPtr) : Own where
  player := server.players pPlayer
  links offset := (server.sectors offset).count pPlayer

/-- The links without the one a registered player has. -/
def Own.unlinked (own : Own) : Nat → Nat :=
  let offset := sectorOffset own.player.sectorY.toNat own.player.sectorX.toNat
  if own.player.bRegisterAtSector then Function.update own.links offset (own.links offset - 1)
  else own.links

def Own.moved (own : Own) (sectorX sectorY : WORD) : Own where
  player := { own.player with bRegisterAtSector := true, sectorX := sectorX, sectorY := sectorY }
  links :=
    let offset := sectorOffset sectorY.toNat sectorX.toNat
    Function.update own.unlinked offset (own.unlinked offset + 1)

def Own.handle (own : Own) : ChatRequest → Own
  | .sectorMove accountNo sectorX sectorY =>
    if acceptsMove own.player accountNo sectorX sectorY then own.moved sectorX sectorY else own
  | _ => own

section Own

variable {config : Config} {server post : Server} {pPlayer other : PlayerPtr}
  {request : ChatRequest} {calls : List Call}

theorem count_sectorsWithout (offset : Nat) :
    (server.sectorsWithout pPlayer offset).count pPlayer = (server.ownOf pPlayer).unlinked offset := by
  unfold Server.sectorsWithout Own.unlinked
  cases registered : (server.players pPlayer).bRegisterAtSector with
  | false => simp [Server.ownOf, registered]
  | true =>
    by_cases here : offset = server.storedOffset pPlayer
    · subst here
      simp [Server.ownOf, registered, Op.apply, Server.storedOffset, List.count_erase_self]
    · have apart : offset ≠ sectorOffset (server.players pPlayer).sectorY.toNat
          (server.players pPlayer).sectorX.toNat := here
      simp [Server.ownOf, registered, Op.apply, here, apart]

theorem ownOf_moved (sectorX sectorY : WORD) :
    (server.moved pPlayer sectorX sectorY).ownOf pPlayer =
      (server.ownOf pPlayer).moved sectorX sectorY := by
  have links : ((server.moved pPlayer sectorX sectorY).ownOf pPlayer).links =
      ((server.ownOf pPlayer).moved sectorX sectorY).links := by
    funext offset
    show ((server.moved pPlayer sectorX sectorY).sectors offset).count pPlayer = _
    by_cases here : offset = sectorOffset sectorY.toNat sectorX.toNat
    · subst here
      simp [Own.moved, Op.apply, count_sectorsWithout]
    · simp [Own.moved, Op.apply, here, count_sectorsWithout]
  have fields : ((server.moved pPlayer sectorX sectorY).ownOf pPlayer).player =
      ((server.ownOf pPlayer).moved sectorX sectorY).player := by
    simp [Server.ownOf, Own.moved]
  exact congrArg₂ Own.mk fields links

theorem ownOf_moved_other (differ : other ≠ pPlayer) (sectorX sectorY : WORD) :
    (server.moved pPlayer sectorX sectorY).ownOf other = server.ownOf other := by
  have without : ∀ offset, (server.sectorsWithout pPlayer offset).count other =
      (server.sectors offset).count other := by
    intro offset
    unfold Server.sectorsWithout
    split
    · by_cases here : offset = server.storedOffset pPlayer
      · subst here
        simp [Op.apply, List.count_erase_of_ne differ]
      · simp [Op.apply, here]
    · rfl
  have links : ((server.moved pPlayer sectorX sectorY).ownOf other).links =
      (server.ownOf other).links := by
    funext offset
    by_cases here : offset = sectorOffset sectorY.toNat sectorX.toNat
    · subst here
      simp [Server.ownOf, Server.moved, Op.apply, without, Ne.symm differ]
    · simp [Server.ownOf, Server.moved, Op.apply, here, without]
  have fields : ((server.moved pPlayer sectorX sectorY).ownOf other).player =
      (server.ownOf other).player := by
    simp [Server.ownOf, differ]
  exact congrArg₂ Own.mk fields links

theorem requestResult_own (result : requestResult config server pPlayer request = some (post, calls)) :
    post.ownOf pPlayer = (server.ownOf pPlayer).handle request := by
  cases request_cases result with
  | @moved accountNo sectorX sectorY accepts =>
    have own : acceptsMove (server.ownOf pPlayer).player accountNo sectorX sectorY = true := accepts
    rw [Own.handle, if_pos own, ownOf_moved]
  | @refusedMove accountNo sectorX sectorY refuses =>
    have own : acceptsMove (server.ownOf pPlayer).player accountNo sectorX sectorY = false := refuses
    rw [Own.handle, own]
    rfl
  | _ => rfl

theorem requestResult_others (result : requestResult config server pPlayer request = some (post, calls)) :
    (∀ other, other ≠ pPlayer → post.ownOf other = server.ownOf other) ∧
    post.loginPlayerMap = server.loginPlayerMap ∧ post.playerList = server.playerList ∧
    post.phase = server.phase ∧ ∀ other, (post.players other).sessionId = (server.players other).sessionId := by
  have outcome := request_cases result
  obtain ⟨phase, _, _, _, map, list⟩ := outcome.kept
  refine ⟨fun other differ => ?_, map, list, phase, fun other => ?_⟩
  · cases outcome with
    | moved => exact ownOf_moved_other differ _ _
    | _ => rfl
  · obtain ⟨_, _, _, same⟩ := outcome.player_kept other
    rw [same]

end Own

/-! ## Two interleavings -/

section Interleavings

variable {config : Config} {history : List Step} {state post : Server} {pPlayer : PlayerPtr}
  {pPacket : List BYTE} {calls : List Call}

/-- At most the player `who` has the session. -/
def Belongs (who : Option PlayerPtr) (sessionID : ULONGLONG) (server : Server) : Prop :=
  ∀ pPlayer, server.phase pPlayer = .chat →
    ((server.players pPlayer).sessionId = sessionID ↔ who = some pPlayer)

/-- The part of CHAT that belongs to the player `who` and to a session: the player's own
    fields and links, the answers to the session, and what no packet changes. -/
def chatPart (config : Config) (who : Option PlayerPtr) (sessionID : ULONGLONG) :
    Part (chatServer config) (Option Own × (INT64 → Option PlayerPtr) × List PlayerPtr) Call where
  invariant server := Lifecycle server ∧ Belongs who sessionID server
  executed event := ∃ pPlayer pPacket, event = .chatRecv pPlayer pPacket
  own event := decide (who = some event.slot)
  view server := (who.map server.ownOf, server.loginPlayerMap, server.playerList)
  visible taken := taken.calls.filter (answers config sessionID)
  react
    | .chatRecv _ pPacket, (some own, shared) =>
      ((some (own.handle (decodeRequest config pPacket)), shared),
        ownAnswers config own.player (decodeRequest config pPacket))
    | _, view => (view, [])
  keeps := by
    rintro state post _ calls ⟨lifecycle, belongs⟩ ⟨pPlayer, pPacket, rfl⟩ taken
    obtain ⟨_, result⟩ := step_chatRecv taken
    obtain ⟨_, _, _, phase, sessions⟩ := requestResult_others result
    refine ⟨lifecycle.step (step_cases taken), fun other chat => ?_⟩
    rw [sessions other]
    exact belongs other (phase ▸ chat)
  reacts := by
    rintro state post _ calls ⟨lifecycle, belongs⟩ ⟨pPlayer, pPacket, rfl⟩ taken own
    obtain ⟨chat, result⟩ := step_chatRecv taken
    obtain ⟨_, map, list, _⟩ := requestResult_others result
    obtain rfl : who = some pPlayer := of_decide_eq_true own
    have session := (lifecycle.slots pPlayer).sessionId (by simp [chat])
    have addressed := (belongs pPlayer chat).mpr rfl
    simp only [Option.map_some, requestResult_own result, map, list,
      requestResult_answers sessionID session.symm result, if_pos addressed]
    rfl
  frame := by
    rintro state post _ calls ⟨lifecycle, belongs⟩ ⟨pPlayer, pPacket, rfl⟩ taken own
    obtain ⟨chat, result⟩ := step_chatRecv taken
    obtain ⟨others, map, list, _⟩ := requestResult_others result
    have apart : who ≠ some pPlayer := of_decide_eq_false own
    have session := (lifecycle.slots pPlayer).sessionId (by simp [chat])
    have foreign := mt (belongs pPlayer chat).mp apart
    have kept : who.map post.ownOf = who.map state.ownOf := by
      cases who with
      | none => rfl
      | some other =>
        have differ : other ≠ pPlayer := fun same => apart (by rw [same])
        simp only [Option.map_some, others other differ]
    simp only [kept, map, list, requestResult_answers sessionID session.symm result, if_neg foreign,
      and_self]

def received (packets : List (PlayerPtr × List BYTE)) : List Event :=
  packets.map fun (pPlayer, pPacket) => .chatRecv pPlayer pPacket

/-- Two outcomes that differ at most in the order inside the sector lists and in the
    packets that were broadcast. -/
structure AgreeAfter (config : Config) (first second : List Step × Server) : Prop where
  players : first.2.players = second.2.players
  loginPlayerMap : first.2.loginPlayerMap = second.2.loginPlayerMap
  playerList : first.2.playerList = second.2.playerList
  members : ∀ offset pPlayer, pPlayer ∈ first.2.sectors offset ↔ pPlayer ∈ second.2.sectors offset
  replies : ∀ sessionID, moveReplies config sessionID first.1 = moveReplies config sessionID second.1
  disconnected : ∀ sessionID, .disconnect sessionID ∈ first.1.flatMap Taken.calls ↔
    .disconnect sessionID ∈ second.1.flatMap Taken.calls

variable {packets packets' : List (PlayerPtr × List BYTE)} {outcome outcome' : List Step × Server}

theorem chatPart_interleaved (lifecycle : Lifecycle state) {who : Option PlayerPtr}
    {sessionID : ULONGLONG} (belongs : Belongs who sessionID state)
    (order : ∀ pPlayer, packets.filter (fun packet => packet.1 = pPlayer) =
      packets'.filter fun packet => packet.1 = pPlayer)
    (handled : (chatServer config).execute state (received packets) = some outcome)
    (handled' : (chatServer config).execute state (received packets') = some outcome') :
    (who.map outcome.2.ownOf, outcome.2.loginPlayerMap, outcome.2.playerList) =
      (who.map outcome'.2.ownOf, outcome'.2.loginPlayerMap, outcome'.2.playerList) ∧
    outcome.1.flatMap (fun taken => taken.calls.filter (answers config sessionID)) =
      outcome'.1.flatMap fun taken => taken.calls.filter (answers config sessionID) := by
  have allowed : ∀ packets : List (PlayerPtr × List BYTE), ∀ event ∈ received packets,
      (chatPart config who sessionID).executed event := by
    intro packets event member
    obtain ⟨⟨pPlayer, pPacket⟩, _, rfl⟩ := List.mem_map.mp member
    exact ⟨pPlayer, pPacket, rfl⟩
  have same : (received packets).filter (chatPart config who sessionID).own =
      (received packets').filter (chatPart config who sessionID).own := by
    rw [received, received, List.filter_map, List.filter_map]
    cases who with
    | none => simp [chatPart, Function.comp_def]
    | some pPlayer =>
      have chosen : (chatPart config (some pPlayer) sessionID).own ∘
          (fun packet : PlayerPtr × List BYTE => Event.chatRecv packet.1 packet.2) =
            fun packet => decide (packet.1 = pPlayer) := by
        funext packet
        simp [chatPart, Event.slot, eq_comm]
      rw [chosen, order pPlayer]
  exact (chatPart config who sessionID).interleaved ⟨lifecycle, belongs⟩ (allowed packets)
    (allowed packets') same handled handled'

theorem belongs_own (lifecycle : Lifecycle state) (chat : state.phase pPlayer = .chat) :
    Belongs (some pPlayer) (state.players pPlayer).sessionId state := by
  intro other otherChat
  have session := (lifecycle.slots pPlayer).sessionId (by simp [chat])
  have otherSession := (lifecycle.slots other).sessionId (by simp [otherChat])
  rw [session, otherSession, Option.some.injEq]
  constructor
  · intro same
    exact lifecycle.distinct pPlayer other (by simp [chat]) (by simp [otherChat]) same.symm
  · rintro rfl
    rfl

/-- No session is `MAXULONGLONG`, so a player outside CHAT has a part without answers. -/
theorem belongs_outside (lifecycle : Lifecycle state) (outside : state.phase pPlayer ≠ .chat) :
    Belongs (some pPlayer) maxULongLong state := by
  intro other chat
  have session := (lifecycle.slots other).sessionId (by simp [chat])
  have issued := lifecycle.issued other (by simp [chat])
  apply iff_of_false
  · rw [session]
    exact fun reserved => lifecycle.reserved (reserved ▸ issued)
  · intro same
    cases same
    exact outside chat

theorem exists_belongs (lifecycle : Lifecycle state) (pPlayer : PlayerPtr) :
    ∃ sessionID, Belongs (some pPlayer) sessionID state := by
  by_cases chat : state.phase pPlayer = .chat
  · exact ⟨_, belongs_own lifecycle chat⟩
  · exact ⟨_, belongs_outside lifecycle chat⟩

theorem exists_belongs_session (lifecycle : Lifecycle state) (sessionID : ULONGLONG) :
    ∃ who, Belongs who sessionID state := by
  by_cases owned : ∃ pPlayer, state.phase pPlayer = .chat ∧ (state.players pPlayer).sessionId = sessionID
  · obtain ⟨pPlayer, chat, rfl⟩ := owned
    exact ⟨_, belongs_own lifecycle chat⟩
  · refine ⟨none, fun pPlayer chat => ?_⟩
    exact iff_of_false (fun own => owned ⟨pPlayer, chat, own⟩) (by simp)

theorem moveReplies_eq (sessionID : ULONGLONG) (steps : List Step) :
    moveReplies config sessionID steps =
      (steps.flatMap fun taken => taken.calls.filter (answers config sessionID)).filterMap
        (moveReplyTo config sessionID) := by
  rw [← List.filter_flatMap, List.filterMap_filter, moveReplies]
  apply List.filterMap_congr
  intro made _
  cases reply : moveReplyTo config sessionID made <;> simp [answers, reply]

theorem disconnect_mem_iff (sessionID : ULONGLONG) (steps : List Step) :
    .disconnect sessionID ∈ steps.flatMap Taken.calls ↔
      .disconnect sessionID ∈ steps.flatMap fun taken =>
        taken.calls.filter (answers config sessionID) := by
  simp [answers]

theorem chatRecv_interleaved (run : ServerRun config history state)
    (order : ∀ pPlayer, packets.filter (fun packet => packet.1 = pPlayer) =
      packets'.filter fun packet => packet.1 = pPlayer)
    (handled : (chatServer config).execute state (received packets) = some outcome)
    (handled' : (chatServer config).execute state (received packets') = some outcome') :
    AgreeAfter config outcome outcome' := by
  have lifecycle := run.lifecycle
  have own : ∀ pPlayer, outcome.2.ownOf pPlayer = outcome'.2.ownOf pPlayer ∧
      outcome.2.loginPlayerMap = outcome'.2.loginPlayerMap ∧
      outcome.2.playerList = outcome'.2.playerList := by
    intro pPlayer
    obtain ⟨sessionID, belongs⟩ := exists_belongs lifecycle pPlayer
    have agree := (chatPart_interleaved lifecycle belongs order handled handled').1
    simpa only [Option.map_some, Prod.mk.injEq, Option.some.injEq] using agree
  have answered : ∀ sessionID,
      outcome.1.flatMap (fun taken => taken.calls.filter (answers config sessionID)) =
        outcome'.1.flatMap fun taken => taken.calls.filter (answers config sessionID) := by
    intro sessionID
    obtain ⟨who, belongs⟩ := exists_belongs_session lifecycle sessionID
    exact (chatPart_interleaved lifecycle belongs order handled handled').2
  exact {
    players := funext fun pPlayer => congrArg Own.player (own pPlayer).1
    loginPlayerMap := (own 0).2.1
    playerList := (own 0).2.2
    members := fun offset pPlayer => by
      have links := congrFun (congrArg Own.links (own pPlayer).1) offset
      rw [← List.count_pos_iff, ← List.count_pos_iff]
      exact (congrArg (0 < ·) links).to_iff
    replies := fun sessionID => by rw [moveReplies_eq, moveReplies_eq, answered]
    disconnected := fun sessionID => by
      rw [@disconnect_mem_iff config, @disconnect_mem_iff config, answered] }

end Interleavings

/-- Two players that move into the same sector, in both orders. -/
theorem chatRecv_interleaved_sample :
    let played := (Sample.play (Sample.login 4 5 7 ++ Sample.login 2 6 8 ++
      [.chatEnter 4, .chatEnter 2])).get (by decide +kernel)
    let first := (4, sectorMoveWire Sample.config 7 3 4)
    let second := (2, sectorMoveWire Sample.config 8 3 4)
    let outcome := ((chatServer Sample.config).execute played.2 (received [first, second])).get
      (by decide +kernel)
    let outcome' := ((chatServer Sample.config).execute played.2 (received [second, first])).get
      (by decide +kernel)
    AgreeAfter Sample.config outcome outcome' := by
  intro played first second outcome outcome'
  have order : ∀ pPlayer, [first, second].filter (fun packet => packet.1 = pPlayer) =
      [second, first].filter fun packet => packet.1 = pPlayer := by
    intro pPlayer
    by_cases here : 4 = pPlayer
    · subst here
      simp [first, second]
    · by_cases there : 2 = pPlayer <;> simp [first, second, here, there]
  exact chatRecv_interleaved (Sample.play_run _ (by decide +kernel)) order
    (Option.some_get _).symm (Option.some_get _).symm

end ChatServerRedis
