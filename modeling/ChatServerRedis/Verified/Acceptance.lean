import ChatServerRedis.Model.Network
import ChatServerRedis.Verified.Broadcast

/-! # What CHAT accepts

For a player in CHAT, two forms of packets have an effect that others can see: a
move and a message in the player's own name, each with nothing after it.  Every
other packet leaves the shared state as it was.
-/

namespace ChatServerRedis

open Transition

section Packets

variable (config : Config) (player : Player) (pPacket : List BYTE)

/-- The packet is a move to the sector, a valid one, under the player's own account. -/
def OwnMoveTo (sectorX sectorY : WORD) : Prop :=
  pPacket = sectorMoveWire config player.accountNo sectorX sectorY ∧
    isNonValidSector sectorX sectorY = false

def OwnMove : Prop := ∃ sectorX sectorY, OwnMoveTo config player pPacket sectorX sectorY

/-- The packet is the message under the player's own account, and its length is right. -/
def OwnMessageOf (messageLen : WORD) (message : List BYTE) : Prop :=
  pPacket = messageWire config player.accountNo messageLen message ∧
    message.length = messageLen.toNat

def OwnMessage : Prop :=
  ∃ messageLen message, OwnMessageOf config player pPacket messageLen message

variable {config player pPacket}

theorem ownMoveTo_iff (login : player.bLogin = true) {sectorX sectorY : WORD} :
    OwnMoveTo config player pPacket sectorX sectorY ↔ ∃ accountNo,
      decodeRequest config pPacket = .sectorMove accountNo sectorX sectorY ∧
        acceptsMove player accountNo sectorX sectorY = true := by
  simp only [OwnMoveTo, decodeRequest_eq_sectorMove, acceptsMove, speaksAs, login, Bool.true_and,
    Bool.and_eq_true, beq_iff_eq, Bool.not_eq_true']
  constructor
  · intro own
    obtain ⟨wire, valid⟩ := own
    exact ⟨_, wire, rfl, valid⟩
  · intro accepted
    obtain ⟨_, wire, rfl, valid⟩ := accepted
    exact ⟨wire, valid⟩

theorem ownMessageOf_iff (login : player.bLogin = true) {messageLen : WORD} {message : List BYTE} :
    OwnMessageOf config player pPacket messageLen message ↔ ∃ accountNo,
      decodeRequest config pPacket = .message accountNo messageLen message ∧
        speaksAs player accountNo = true := by
  simp only [OwnMessageOf, decodeRequest_eq_message, speaksAs, login, Bool.true_and, beq_iff_eq]
  constructor
  · intro own
    obtain ⟨wire, whole⟩ := own
    exact ⟨_, ⟨wire, whole⟩, rfl⟩
  · intro accepted
    obtain ⟨_, ⟨wire, whole⟩, rfl⟩ := accepted
    exact ⟨wire, whole⟩

end Packets

/-! ## What a step did -/

section Effects

variable (config : Config) (server post : Server) (pPlayer : PlayerPtr) (pPacket : List BYTE)
  (calls : List Call)

/-- The player is registered at the sector and linked in its list, and one packet is
    sent: the RES_SECTOR_MOVE with these coordinates, to its own session. -/
def MovesAndAnswers (sectorX sectorY : WORD) : Prop :=
  post.registeredAt pPlayer sectorX sectorY ∧
  pPlayer ∈ post.listAt sectorY.toNat sectorX.toNat ∧
  .listArr (.pushBack pPlayer) sectorY.toNat sectorX.toNat ∈ calls ∧
  calls.filterMap Call.sent = [(server.session pPlayer, .alloc (makeCsChatResSectorMove config
    (server.players pPlayer).accountNo sectorX sectorY))]

/-- `SendPacket_AROUND` walks the lists of the neighbourhood of the sender, and what is
    sent are the RES_MESSAGE packets with this message, one for each player in them. -/
def Broadcasts (messageLen : WORD) (message : List BYTE) : Prop :=
  let sender := server.players pPlayer
  let around := getSectorAround sender.sectorX sender.sectorY
  (∀ cell ∈ around, .listArr .getFirst cell.sectorY.toNat cell.sectorX.toNat ∈ calls) ∧
  calls.filterMap Call.sent = (server.audience around).map fun other =>
    ((server.players other).sessionId, .alloc (makeCsChatResMessage config sender.accountNo sender.ID
      sender.nickName messageLen message))

/-- The packet changed no player, list or map entry and used no list, nothing was sent but
    a SECTOR_INFO reply to the sender, and the sender is disconnected unless the type is
    one of two. -/
structure Unserved : Prop where
  players : post.players = server.players
  sectors : post.sectors = server.sectors
  loginPlayerMap : post.loginPlayerMap = server.loginPlayerMap
  playerList : post.playerList = server.playerList
  unlisted : ∀ use y x, .listArr use y x ∉ calls
  own : ∀ call ∈ calls, ∀ sessionID ref, call.sent = some (sessionID, ref) →
    sessionID = server.session pPlayer ∧ ref = .sectorInfo
  closed : .disconnect (server.session pPlayer) ∈ calls ∨
    pPacket.take 2 = wordBytes config.csChatReqHeartbeat ∨
    pPacket.take 2 = wordBytes config.csChatReqSectorInfo

end Effects

section Step

variable {config : Config} {server post : Server} {pPlayer : PlayerPtr} {pPacket : List BYTE}
  {calls : List Call}

theorem readWord_take {value : WORD} {rest : List BYTE} (type : readWord pPacket = some (value, rest)) :
    pPacket.take 2 = wordBytes value := by
  rw [readWord_eq_some.mp type]
  exact List.take_left' (by simp [wordBytes, LittleEndian.encode])

theorem decodeRequest_type :
    (decodeRequest config pPacket = .heartbeat → pPacket.take 2 = wordBytes config.csChatReqHeartbeat) ∧
    (decodeRequest config pPacket = .sectorInfo → pPacket.take 2 = wordBytes config.csChatReqSectorInfo) := by
  unfold decodeRequest
  split
  · simp
  · next type rest typeField =>
    have first := readWord_take typeField
    split
    · unfold decodeSectorMove
      repeat' split
      all_goals simp
    · split
      · unfold decodeMessage
        repeat' split
        all_goals simp
      · split
        · next label => simp [first, label]
        · split
          · simp
          · split
            · next label => simp [first, label]
            · simp

/-- A list is only walked for the sender's own message. -/
theorem ownMessage_of_walked {history : List Step} {y x : Nat} (run : ServerRun config history server)
    (taken : (chatServer config).step server (.chatRecv pPlayer pPacket) = some (post, calls))
    (walked : .listArr .getFirst y x ∈ calls) : OwnMessage config (server.players pPlayer) pPacket := by
  cases step_cases taken with
  | @spoke _ _ accountNo messageLen message chat request speaks =>
    have login := (run.lifecycle.slots pPlayer).loggedIn (.inr chat)
    exact ⟨messageLen, message, (ownMessageOf_iff login).mpr ⟨accountNo, request, speaks⟩⟩
  | chatIdle _ _ _ quiet =>
    have harmless := List.all_eq_true.mp quiet _ walked
    cases harmless
  | moved => simp [mem_moveCalls, mem_removeCalls] at walked
  | sectorInfo => simp at walked

end Step

section Outcomes

variable {config : Config} {server post : Server} {pPlayer : PlayerPtr} {pPacket : List BYTE}
  {calls : List Call} {accountNo : INT64} {sectorX sectorY messageLen : WORD} {message : List BYTE}

theorem movesAndAnswers_moved (chat : server.phase pPlayer = .chat)
    (session : (server.players pPlayer).sessionId = server.session pPlayer) :
    MovesAndAnswers config server (server.moved pPlayer sectorX sectorY) pPlayer
      (moveCalls config server pPlayer sectorX sectorY ++ [.updateCntTps]) sectorX sectorY := by
  have removed : (removeCalls server pPlayer).filterMap Call.sent = [] := by
    refine List.filterMap_eq_nil_iff.mpr fun made member => ?_
    rw [(mem_removeCalls.mp member).2]
    rfl
  refine ⟨?_, ?_, ?_, ?_⟩
  · simp [Server.registeredAt, Server.registered, chat]
  · simp [Server.listAt, Placement.Op.apply]
  · simp [moveCalls]
  · simp [moveCalls, removed, List.filterMap_cons, Call.sent, session]

theorem broadcasts_broadcastCalls : Broadcasts config server pPlayer
    (broadcastCalls config server pPlayer messageLen message ++ [.updateCntTps]) messageLen message := by
  refine ⟨fun cell around => ?_, ?_⟩
  · apply List.mem_append_left
    exact List.mem_flatMap.mpr ⟨cell, around, List.mem_cons_self⟩
  · simp only [broadcastCalls, cellCalls, messagePacket, Server.audience, List.filterMap_append,
      List.filterMap_flatMap, List.map_flatMap]
    simp [List.filterMap_cons, List.filterMap_map, Call.sent, Function.comp_def]

end Outcomes

section Acceptance

variable {config : Config} {history : List Step} {state post : Server} {pPlayer : PlayerPtr}
  {pPacket : List BYTE} {calls : List Call} (run : ServerRun config history state)
  (taken : (chatServer config).step state (.chatRecv pPlayer pPacket) = some (post, calls))

include run taken

theorem ownMoveTo_iff_movesTo {sectorX sectorY : WORD} :
    OwnMoveTo config (state.players pPlayer) pPacket sectorX sectorY ↔
      MovesTo config pPlayer ⟨state, .chatRecv pPlayer pPacket, calls, post⟩ sectorX sectorY := by
  obtain ⟨chat, _⟩ := step_chatRecv taken
  rw [ownMoveTo_iff ((run.lifecycle.slots pPlayer).loggedIn (.inr chat)), movesTo_chatRecv]
  simp

theorem ownMessageOf_iff_speaks {messageLen : WORD} {message : List BYTE} :
    OwnMessageOf config (state.players pPlayer) pPacket messageLen message ↔
      Speaks config pPlayer ⟨state, .chatRecv pPlayer pPacket, calls, post⟩ messageLen message := by
  obtain ⟨chat, _⟩ := step_chatRecv taken
  rw [ownMessageOf_iff ((run.lifecycle.slots pPlayer).loggedIn (.inr chat)), speaks_chatRecv]
  simp

theorem movesAndAnswers_iff (sectorX sectorY : WORD) :
    MovesAndAnswers config state post pPlayer calls sectorX sectorY ↔
      OwnMoveTo config (state.players pPlayer) pPacket sectorX sectorY := by
  rw [ownMoveTo_iff_movesTo run taken]
  have outcome := step_cases taken
  constructor
  · intro moved
    obtain ⟨_, _, used, _⟩ := moved
    obtain ⟨_, _, moves, sameY, sameX⟩ := outcome.index_from run.lifecycle used
    rw [BitVec.eq_of_toNat_eq sameX, BitVec.eq_of_toNat_eq sameY]
    exact moves
  · intro moves
    obtain ⟨chat, rfl, rfl⟩ := outcome.of_movesTo moves
    exact movesAndAnswers_moved chat ((run.lifecycle.slots pPlayer).sessionId (by simp [chat]))

theorem broadcasts_of_ownMessageOf {messageLen : WORD} {message : List BYTE}
    (own : OwnMessageOf config (state.players pPlayer) pPacket messageLen message) :
    Broadcasts config state pPlayer calls messageLen message ∧ post = state := by
  have speaks := (ownMessageOf_iff_speaks run taken).mp own
  obtain ⟨_, rfl, rfl⟩ := (step_cases taken).of_speaks speaks
  exact ⟨broadcasts_broadcastCalls, rfl⟩

theorem broadcasts_iff : (∃ messageLen message, Broadcasts config state pPlayer calls messageLen message) ↔
    OwnMessage config (state.players pPlayer) pPacket := by
  constructor
  · intro broadcast
    obtain ⟨_, _, walked, _⟩ := broadcast
    exact ownMessage_of_walked run taken (walked _ (center_mem_getSectorAround _ _))
  · intro own
    obtain ⟨messageLen, message, own⟩ := own
    exact ⟨messageLen, message, (broadcasts_of_ownMessageOf run taken own).1⟩

theorem unserved_of_neither (unmoved : ¬ OwnMove config (state.players pPlayer) pPacket)
    (silent : ¬ OwnMessage config (state.players pPlayer) pPacket) :
    Unserved config state post pPlayer pPacket calls := by
  obtain ⟨chat, result⟩ := step_chatRecv taken
  have slot := run.lifecycle.slots pPlayer
  have login := slot.loggedIn (.inr chat)
  have session := slot.sessionId (by simp [chat])
  generalize request : decodeRequest config pPacket = decoded at result
  cases request_cases result with
  | moved accepts => exact absurd ⟨_, _, (ownMoveTo_iff login).mpr ⟨_, request, accepts⟩⟩ unmoved
  | spoke speaks => exact absurd ⟨_, _, (ownMessageOf_iff login).mpr ⟨_, request, speaks⟩⟩ silent
  | sectorInfo =>
    exact ⟨rfl, rfl, rfl, rfl, by simp, by simp [Call.sent, session],
      .inr (.inr (decodeRequest_type.2 request))⟩
  | heartbeat =>
    exact ⟨rfl, rfl, rfl, rfl, by simp, by simp [Call.sent],
      .inr (.inl (decodeRequest_type.1 request))⟩
  | refusedMove | refusedMessage | refused | malformed | unknown =>
    exact ⟨rfl, rfl, rfl, rfl, by simp, by simp [Call.sent], .inl (by simp [session])⟩

end Acceptance

/-- The whole acceptance language of `ChatContents::OnRecv`: a packet registers its
    sender and is answered exactly when it is the sender's own move, it is broadcast
    exactly when it is the sender's own message, and any other packet is without
    effect on the players, the lists and the map. -/
theorem chatRecv_acceptance {config : Config} {history : List Step} {state post : Server}
    {pPlayer : PlayerPtr} {pPacket : List BYTE} {calls : List Call}
    (run : ServerRun config history state)
    (taken : (chatServer config).step state (.chatRecv pPlayer pPacket) = some (post, calls)) :
    (∀ sectorX sectorY, MovesAndAnswers config state post pPlayer calls sectorX sectorY ↔
      OwnMoveTo config (state.players pPlayer) pPacket sectorX sectorY) ∧
    ((∃ messageLen message, Broadcasts config state pPlayer calls messageLen message) ↔
      OwnMessage config (state.players pPlayer) pPacket) ∧
    (∀ messageLen message, OwnMessageOf config (state.players pPlayer) pPacket messageLen message →
      Broadcasts config state pPlayer calls messageLen message ∧ post = state) ∧
    (¬ OwnMove config (state.players pPlayer) pPacket →
      ¬ OwnMessage config (state.players pPlayer) pPacket →
      Unserved config state post pPlayer pPacket calls) := by
  refine ⟨movesAndAnswers_iff run taken, broadcasts_iff run taken, fun _ _ own => ?_,
    unserved_of_neither run taken⟩
  exact broadcasts_of_ownMessageOf run taken own

/-- A move with a byte after it is not served. -/
theorem chatRecv_acceptance_trailing :
    let played := (Sample.play (Sample.login 1 5 7 ++ [.chatEnter 1])).get (by decide +kernel)
    let pPacket := sectorMoveWire Sample.config 7 3 4 ++ [0]
    let taken := (chatServer Sample.config).taken played.2 (.chatRecv 1 pPacket) (by decide +kernel)
    Unserved Sample.config played.2 taken.post 1 pPacket taken.calls := by
  intro played pPacket taken
  have run : ServerRun Sample.config played.1 played.2 := Sample.play_run _ (by decide +kernel)
  have refused : taken.calls = [.disconnect 5] := by decide +kernel
  have unlisted : ∀ use y x, .listArr use y x ∉ taken.calls := by
    rw [refused]
    simp
  obtain ⟨moved, spoke, _, unserved⟩ := chatRecv_acceptance run (System.step_taken _)
  apply unserved
  · intro own
    obtain ⟨_, _, own⟩ := own
    obtain ⟨_, _, registered, _⟩ := (moved _ _).mpr own
    exact unlisted _ _ _ registered
  · intro own
    obtain ⟨_, _, walked, _⟩ := spoke.mpr own
    exact unlisted _ _ _ (walked _ (center_mem_getSectorAround _ _))

end ChatServerRedis
