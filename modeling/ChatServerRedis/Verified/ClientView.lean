import ChatServerRedis.Verified.Delivery

/-! # What a client can conclude from its packets

The first packet of an ordinary player is the reply to its login, which is sent once.
The last RES_SECTOR_MOVE of a session tells where the server has its player.
-/

namespace ChatServerRedis

open Deferred Transition

/-- The form of a RES_LOGIN packet. -/
def PacketRef.isLoginReply (config : Config) : PacketRef → Bool
  | .alloc payload => payload.length == 11 && payload.take 2 == wordBytes config.csChatResLogin
  | .sectorInfo => false

/-- The payload of a RES_SECTOR_MOVE packet. -/
def PacketRef.moveReply? (config : Config) : PacketRef → Option (List BYTE)
  | .alloc payload => if isMoveReply config payload then some payload else none
  | .sectorInfo => none

section Kinds

variable {config : Config} {server post : Server} {event : Event} {calls : List Call}
  {pPlayer : PlayerPtr} {sessionID : ULONGLONG}

theorem isLoginReply_makeCsChatResLogin (status : BYTE) (accountNo : INT64) :
    (PacketRef.alloc (makeCsChatResLogin config status accountNo)).isLoginReply config = true := by
  simp [PacketRef.isLoginReply, makeCsChatResLogin, wordBytes_length, int64Bytes_length]

theorem isLoginReply_makeCsChatResSectorMove (accountNo : INT64) (sectorX sectorY : WORD) :
    (PacketRef.alloc (makeCsChatResSectorMove config accountNo sectorX sectorY)).isLoginReply config =
      false := by
  simp [PacketRef.isLoginReply, makeCsChatResSectorMove, wordBytes_length, int64Bytes_length]

theorem isLoginReply_of_isMessage {ref : PacketRef} (message : ref.isMessage = true) :
    ref.isLoginReply config = false := by
  cases ref with
  | alloc payload =>
    simp only [PacketRef.isMessage, decide_eq_true_eq] at message
    have other : payload.length ≠ 11 := by omega
    simp [PacketRef.isLoginReply, other]
  | sectorInfo => rfl

theorem moveReply?_of_isMessage {ref : PacketRef} (message : ref.isMessage = true) :
    ref.moveReply? config = none := by
  cases ref with
  | alloc payload =>
    simp only [PacketRef.isMessage, decide_eq_true_eq] at message
    have other : payload.length ≠ 14 := by omega
    simp [PacketRef.moveReply?, isMoveReply, other]
  | sectorInfo => rfl

theorem moveReply?_makeCsChatResLogin (status : BYTE) (accountNo : INT64) :
    (PacketRef.alloc (makeCsChatResLogin config status accountNo)).moveReply? config = none := by
  simp [PacketRef.moveReply?, isMoveReply, makeCsChatResLogin, wordBytes_length, int64Bytes_length]

theorem moveReply?_makeCsChatResSectorMove (accountNo : INT64) (sectorX sectorY : WORD) :
    (PacketRef.alloc (makeCsChatResSectorMove config accountNo sectorX sectorY)).moveReply? config =
      some (makeCsChatResSectorMove config accountNo sectorX sectorY) :=
  if_pos (isMoveReply_makeCsChatResSectorMove accountNo sectorX sectorY)

end Kinds

/-! ## What the packets of a session say about its player -/

def NoLoginReply (config : Config) (packets : List PacketRef) : Prop :=
  ∀ ref ∈ packets, ref.isLoginReply config = false

/-- The reply to the login comes first and only once; a monitoring client gets none. -/
def Greets (config : Config) (player : Player) (packets : List PacketRef) : Prop :=
  match player.bMonitoringLogin with
  | true => NoLoginReply config packets
  | false => ∃ rest, packets = .alloc (makeCsChatResLogin config 1 player.accountNo) :: rest ∧
    NoLoginReply config rest

/-- The reply to a move to where the player is registered. -/
def Player.position (config : Config) (player : Player) : Option (List BYTE) :=
  if player.bRegisterAtSector then
    some (makeCsChatResSectorMove config player.accountNo player.sectorX player.sectorY)
  else none

/-- The last reply to a move tells where the player is. -/
def Locates (config : Config) (player : Player) (packets : List PacketRef) : Prop :=
  (packets.filterMap (PacketRef.moveReply? config)).getLast? = player.position config

def Informs (config : Config) (phase : Phase) (player : Player) (packets : List PacketRef) : Prop :=
  match phase with
  | .free => True
  | .accepted | .login | .moving => packets = []
  | .chat => Greets config player packets ∧ Locates config player packets

/-- Every session in use has been sent what its player is in, and no other session has
    been sent anything that a later session could take for its own. -/
structure Informed (config : Config) (steps : List Step) (server : Server) : Prop where
  slots : ∀ pPlayer, Informs config (server.phase pPlayer) (server.players pPlayer)
    (packetsSent (server.session pPlayer) steps)
  unissued : ∀ sessionID, sessionID ∉ server.issued → packetsSent sessionID steps = []

section Step

variable {config : Config} {steps : List Step} {server post : Server} {event : Event}
  {calls : List Call} {player : Player} {packets : List PacketRef} {ref : PacketRef}

theorem NoLoginReply.snoc (none : NoLoginReply config packets)
    (other : ref.isLoginReply config = false) : NoLoginReply config (packets ++ [ref]) := by
  intro later member
  rcases List.mem_append.mp member with before | here
  · exact none later before
  · rw [List.mem_singleton.mp here]
    exact other

theorem Greets.snoc (greets : Greets config player packets)
    (other : ref.isLoginReply config = false) : Greets config player (packets ++ [ref]) := by
  unfold Greets at greets ⊢
  cases monitoring : player.bMonitoringLogin with
  | true =>
    rw [monitoring] at greets
    exact NoLoginReply.snoc greets other
  | false =>
    rw [monitoring] at greets
    obtain ⟨rest, rfl, once⟩ := greets
    exact ⟨rest ++ [ref], rfl, once.snoc other⟩

theorem Locates.snoc (locates : Locates config player packets)
    (other : ref.moveReply? config = none) : Locates config player (packets ++ [ref]) := by
  unfold Locates at locates ⊢
  simp [List.filterMap_append, other, locates]

theorem Informs.snoc (informs : Informs config .chat player packets)
    (login : ref.isLoginReply config = false) (move : ref.moveReply? config = none) :
    Informs config .chat player (packets ++ [ref]) :=
  ⟨informs.1.snoc login, informs.2.snoc move⟩

theorem informs_entered (unregistered : player.bRegisterAtSector = false) :
    Informs config .chat player (if player.bMonitoringLogin = false then
      [.alloc (makeCsChatResLogin config 1 player.accountNo)] else []) := by
  have nowhere : player.position config = none := by simp [Player.position, unregistered]
  cases monitoring : player.bMonitoringLogin with
  | true => exact ⟨by simp [Greets, monitoring, NoLoginReply], by simp [Locates, nowhere]⟩
  | false =>
    refine ⟨?_, ?_⟩
    · rw [Greets, monitoring]
      exact ⟨[], rfl, by simp [NoLoginReply]⟩
    · simp [Locates, nowhere, moveReply?_makeCsChatResLogin]

theorem informs_moved (informs : Informs config .chat player packets) (sectorX sectorY : WORD) :
    Informs config .chat
      { player with bRegisterAtSector := true, sectorX := sectorX, sectorY := sectorY }
      (packets ++ [.alloc (makeCsChatResSectorMove config player.accountNo sectorX sectorY)]) := by
  refine ⟨informs.1.snoc (isLoginReply_makeCsChatResSectorMove ..), ?_⟩
  simp [Locates, moveReply?_makeCsChatResSectorMove, Player.position]

theorem StepCase.packetsFor_other (lifecycle : Lifecycle server)
    (placed : Placement.Placed server.sectors server.place)
    (outcome : StepCase config server event post calls) {other : PlayerPtr}
    (differ : other ≠ event.slot) (used : server.phase other ≠ .free) :
    packetsFor (server.session other) calls = [] ∨ server.phase other = .chat ∧
      ∃ ref, packetsFor (server.session other) calls = [ref] ∧ ref.isMessage = true := by
  -- packets for the player of the step itself go to another session
  have foreign : ∀ pPlayer, server.phase pPlayer ≠ .free → other ≠ pPlayer →
      (server.players pPlayer).sessionId ≠ server.session other := by
    intro pPlayer usedPlayer apart same
    rw [(lifecycle.slots pPlayer).sessionId usedPlayer] at same
    exact apart (lifecycle.distinct other pPlayer used usedPlayer same.symm)
  cases outcome with
  | @spoke pPlayer _ _ messageLen message =>
    rw [packetsFor_broadcastCalls lifecycle placed]
    split
    · next heard =>
      obtain ⟨hearer, listed, same⟩ := List.mem_map.mp heard
      have chat := chat_of_audience placed listed
      rw [(lifecycle.slots hearer).sessionId (by simp [chat])] at same
      obtain rfl := lifecycle.distinct hearer other (by simp [chat]) used same
      exact .inr ⟨chat, _, rfl, isMessage_makeCsChatResMessage ..⟩
    · exact .inl rfl
  | @moved pPlayer _ _ _ _ chat =>
    rw [packetsFor_moveCalls, if_neg (foreign pPlayer (by simp [chat]) differ)]
    exact .inl rfl
  | @chatEnter pPlayer moving =>
    rw [packetsFor_enterCalls, if_neg fun own => foreign pPlayer (by simp [moving]) differ own.2]
    exact .inl rfl
  | @sectorInfo pPlayer _ chat =>
    have apart := foreign pPlayer (by simp [chat]) differ
    exact .inl (packetsFor_eq_nil (by simpa [sessionsSent, Call.sent] using Ne.symm apart))
  | loginIdle _ _ _ quiet | chatIdle _ _ _ quiet =>
    exact .inl (packetsFor_eq_nil (by simp [sessionsSent_quiet quiet]))
  | monitorLogin => exact .inl (packetsFor_eq_nil (by simp [sessionsSent_monitorCalls]))
  | chatLeave => exact .inl (packetsFor_eq_nil (by simp [sessionsSent_leaveCalls]))
  | chatLeaveEarly chat login => exact absurd login (lifecycle.chat_bLogin chat)
  | accept | loginEnter | loggedIn | loginLeave => exact .inl rfl

theorem Informed.other_slot (informed : Informed config steps server) (lifecycle : Lifecycle server)
    (placed : Placement.Placed server.sectors server.place)
    (outcome : StepCase config server event post calls) {other : PlayerPtr}
    (differ : other ≠ event.slot) :
    Informs config (post.phase other) (post.players other)
      (packetsSent (post.session other) (steps ++ [⟨server, event, calls, post⟩])) := by
  have before := informed.slots other
  obtain ⟨phase, session, player⟩ := outcome.frame differ
  rw [phase, session, player, packetsSent_snoc]
  by_cases free : server.phase other = .free
  · rw [free]
    trivial
  · rcases outcome.packetsFor_other lifecycle placed differ free with nothing | ⟨chat, ref, sent, message⟩
    · rw [nothing, List.append_nil]
      exact before
    · rw [chat] at before ⊢
      rw [sent]
      exact before.snoc (isLoginReply_of_isMessage message) (moveReply?_of_isMessage message)

theorem Informed.own_slot (informed : Informed config steps server) (lifecycle : Lifecycle server)
    (placed : Placement.Placed server.sectors server.place)
    (outcome : StepCase config server event post calls) :
    Informs config (post.phase event.slot) (post.players event.slot)
      (packetsSent (post.session event.slot) (steps ++ [⟨server, event, calls, post⟩])) := by
  have before := informed.slots event.slot
  have sessionId := (lifecycle.slots event.slot).sessionId
  rw [packetsSent_snoc]
  cases outcome with
  | @accept pPlayer sessionID memory free fresh =>
    simp [Event.slot, informed.unissued sessionID fresh, Informs, packetsFor]
  | @loginEnter pPlayer accepted =>
    simp only [Event.slot, accepted] at before
    simpa [Event.slot, Informs, packetsFor] using before
  | @loggedIn pPlayer _ _ _ _ _ _ _ login =>
    simp only [Event.slot, login] at before
    rw [packetsFor_eq_nil (by simp [sessionsSent, Call.sent])]
    simpa [Event.slot, Informs] using before
  | @monitorLogin pPlayer _ _ _ _ login =>
    simp only [Event.slot, login] at before
    rw [packetsFor_eq_nil (by simp [sessionsSent_monitorCalls])]
    simpa [Event.slot, Informs] using before
  | loginIdle _ _ _ quiet | chatIdle _ _ _ quiet =>
    rw [packetsFor_eq_nil (by simp [sessionsSent_quiet quiet]), List.append_nil]
    exact before
  | @chatEnter pPlayer moving =>
    simp only [Event.slot, moving] at before sessionId
    have own := sessionId (by simp)
    have unregistered := (lifecycle.slots pPlayer).unregistered (.inr (.inr moving))
    simp only [Event.slot, Server.entered_phase, Server.enterChat_phase, Function.update_self,
      Server.entered_players, Server.enterChat_players, Server.entered_session,
      Server.enterChat_session, packetsFor_enterCalls, own, and_true]
    rw [before, List.nil_append]
    exact informs_entered unregistered
  | @moved pPlayer _ _ sectorX sectorY chat =>
    simp only [Event.slot, chat] at before sessionId
    have own := sessionId (by simp)
    simp only [Event.slot, Server.moved_phase, Server.moved_session, Server.moved_players,
      Function.update_self, packetsFor_moveCalls, own, if_true, chat]
    exact informs_moved before sectorX sectorY
  | @spoke pPlayer _ _ _ _ chat =>
    simp only [Event.slot, chat] at before ⊢
    rw [packetsFor_broadcastCalls lifecycle placed]
    split
    · exact before.snoc (isLoginReply_of_isMessage (isMessage_makeCsChatResMessage ..))
        (moveReply?_of_isMessage (isMessage_makeCsChatResMessage ..))
    · rw [List.append_nil]
      exact before
  | @sectorInfo pPlayer _ chat =>
    simp only [Event.slot, chat] at before sessionId
    have own := sessionId (by simp)
    have sent : packetsFor (server.session pPlayer)
        [.sendPacket (server.players pPlayer).sessionId .sectorInfo, .updateCntTps] = [.sectorInfo] := by
      simp [packetsFor, Call.packetFor, Call.sent, own]
    simp only [Event.slot, Server.refilled_phase, Server.refilled_session, Server.refilled_players,
      chat, sent]
    exact before.snoc rfl rfl
  | loginLeave | chatLeave | chatLeaveEarly => simp [Event.slot, Informs]

theorem StepCase.issued_mono (outcome : StepCase config server event post calls)
    {sessionID : ULONGLONG} (given : sessionID ∈ server.issued) : sessionID ∈ post.issued := by
  cases outcome with
  | accept => exact List.mem_cons_of_mem _ given
  | _ => exact given

theorem packetsFor_unissued (reached : ServerRun config steps server)
    (taken : (chatServer config).step server event = some (post, calls)) {sessionID : ULONGLONG}
    (unissued : sessionID ∉ server.issued) : packetsFor sessionID calls = [] := by
  apply packetsFor_eq_nil
  intro sent
  obtain ⟨made, member, same⟩ := List.mem_filterMap.mp sent
  obtain ⟨⟨other, ref⟩, queued, rfl⟩ := Option.map_eq_some_iff.mp same
  obtain ⟨holder, used, session⟩ :=
    (addressees_step reached taken member (Call.addressee_of_sent queued)).connected
  exact unissued (session ▸ reached.lifecycle.issued holder used)

end Step

theorem ServerRun.informed {config : Config} {steps : List Step} {server : Server}
    (run : ServerRun config steps server) : Informed config steps server := by
  induction run with
  | @start server initial =>
    obtain ⟨memory, rfl⟩ := initial
    exact ⟨fun _ => trivial, fun _ _ => rfl⟩
  | @snoc steps server post event calls run taken informed =>
    have lifecycle := ServerRun.lifecycle run
    have placed := ServerRun.placed run
    have outcome := step_cases taken
    constructor
    · intro pPlayer
      by_cases same : pPlayer = event.slot
      · rw [same]
        exact informed.own_slot lifecycle placed outcome
      · exact informed.other_slot lifecycle placed outcome same
    · intro sessionID unissued
      have before : sessionID ∉ server.issued := mt outcome.issued_mono unissued
      rw [packetsSent_snoc, informed.unissued sessionID before, packetsFor_unissued run taken before]
      rfl

/-! ## Clients -/

section Clients

variable {config : Config} {history : List NetworkStep} {outbox : Network}

/-- The first packet that is ever sent to an ordinary player in CHAT is the reply to its
    login, with status 1 and its account number, and there is no second one.  A
    monitoring client is sent none, and a session that is not in CHAT yet is sent
    nothing at all. -/
theorem loginReply_first (run : NetworkRun config history outbox) (pPlayer : PlayerPtr) :
    let packets := packetsTo history outbox (outbox.inner.session pPlayer)
    let player := outbox.inner.players pPlayer
    (outbox.inner.phase pPlayer ≠ .free → outbox.inner.phase pPlayer ≠ .chat → packets = []) ∧
    (outbox.inner.phase pPlayer = .chat → player.bMonitoringLogin = true →
      ∀ ref ∈ packets, ref.isLoginReply config = false) ∧
    (outbox.inner.phase pPlayer = .chat → player.bMonitoringLogin = false →
      ∃ rest, packets = .alloc (makeCsChatResLogin config 1 player.accountNo) :: rest ∧
        ∀ ref ∈ rest, ref.isLoginReply config = false) := by
  intro packets player
  obtain ⟨inner, sent⟩ := run.packets
  have informs := (ServerRun.informed inner).slots pPlayer
  rw [← sent] at informs
  refine ⟨fun used elsewhere => ?_, fun chat monitoring => ?_, fun chat ordinary => ?_⟩
  · cases phase : outbox.inner.phase pPlayer with
    | free => exact absurd phase used
    | chat => exact absurd phase elsewhere
    | accepted | login | moving =>
      rw [phase] at informs
      exact informs
  · rw [chat] at informs
    have greets := informs.1
    rw [Greets, show (outbox.inner.players pPlayer).bMonitoringLogin = true from monitoring] at greets
    exact greets
  · rw [chat] at informs
    have greets := informs.1
    rw [Greets, show (outbox.inner.players pPlayer).bMonitoringLogin = false from ordinary] at greets
    exact greets

end Clients

/-- An ordinary player and a monitoring client in CHAT, and a player on its way there. -/
theorem loginReply_first_sample :
    let played := (Sample.playNetwork (Sample.login 0 5 7 ++ Sample.monitorLogin 1 6 ++
      Sample.login 2 9 8 ++ [.chatEnter 0, .chatEnter 1,
        .chatRecv 0 (sectorMoveWire Sample.config 7 3 4)]) [5]).get (by decide +kernel)
    (∃ rest, packetsTo played.1 played.2 (played.2.inner.session 0) =
      .alloc (makeCsChatResLogin Sample.config 1 (played.2.inner.players 0).accountNo) :: rest ∧
        ∀ ref ∈ rest, ref.isLoginReply Sample.config = false) ∧
    (∀ ref ∈ packetsTo played.1 played.2 (played.2.inner.session 1),
      ref.isLoginReply Sample.config = false) ∧
    packetsTo played.1 played.2 (played.2.inner.session 2) = [] := by
  intro played
  have run : NetworkRun Sample.config played.1 played.2 := Sample.playNetwork_run _ _ (by decide +kernel)
  exact ⟨(loginReply_first run 0).2.2 (by decide +kernel) (by decide +kernel),
    (loginReply_first run 1).2.1 (by decide +kernel) (by decide +kernel),
    (loginReply_first run 2).1 (by decide +kernel) (by decide +kernel)⟩

/-! ## The bytes received -/

section Clients

variable {config : Config} {history : List NetworkStep} {outbox : Network}

/-- The bytes a session has received, packet by packet. -/
def bytesTo (history : List NetworkStep) (sessionID : ULONGLONG) : List (List BYTE) :=
  (history.flatMap Taken.calls).filterMap fun transmission =>
    if transmission.destination = sessionID then some transmission.bytes else none

theorem ServerRun.sectorInfo_length {steps : List Step} {server : Server}
    (run : ServerRun config steps server) : (server.contentOf .sectorInfo).length ≠ 14 := by
  induction run with
  | start initial =>
    obtain ⟨memory, rfl⟩ := initial
    simp [Server.contentOf, Server.initial]
  | @snoc _ server post event _ _ taken inductionHypothesis =>
    by_cases asks : AsksSectorInfo config event
    · have refilled : post = server.refilled := step_asks asks taken
      rw [refilled, contentOf_refilled, getSectorMonitoringInfo_length]
      decide
    · rw [Server.contentOf, (step_cases taken).sectorInfo_kept asks]
      exact inductionHypothesis

theorem filter_bytesTo (run : NetworkRun config history outbox) (sessionID : ULONGLONG) :
    (bytesTo history sessionID).filter (isMoveReply config) =
      ((transmitted history sessionID).map Entry.ref).filterMap (PacketRef.moveReply? config) := by
  rw [bytesTo, transmitted, List.map_filterMap, List.filter_filterMap, List.filterMap_filterMap]
  refine List.filterMap_congr fun transmission made => ?_
  obtain ⟨taken, member, bytes⟩ := transmission_bytes run transmission made
  by_cases same : transmission.destination = sessionID
  · obtain ⟨before, after, rfl⟩ := List.append_of_mem member
    obtain ⟨steps, inner⟩ := inner_run (Run.split run).1
    -- 2500 bytes or none: not the length of a RES_SECTOR_MOVE
    have shared := ServerRun.sectorInfo_length inner
    have content : transmission.bytes = taken.pre.inner.contentOf transmission.entry.ref := bytes
    simp only [same, if_true, Option.map_some, Option.bind_some, content]
    cases transmission.entry.ref with
    | alloc payload =>
      by_cases reply : isMoveReply config payload = true <;>
        simp [PacketRef.moveReply?, Server.contentOf, Option.filter, reply]
    | sectorInfo =>
      have other : isMoveReply config (taken.pre.inner.contentOf .sectorInfo) = false := by
        simp [isMoveReply, shared]
      simp [PacketRef.moveReply?, Option.filter, other]
  · simp [same]

/-- Where the server has a player of CHAT is the last reply to a move that its client
    has been sent; when the send queue is empty, the last that it has received. -/
theorem position_agreed (run : NetworkRun config history outbox) {pPlayer : PlayerPtr}
    (chat : outbox.inner.phase pPlayer = .chat) :
    let sessionID := outbox.inner.session pPlayer
    let position := (outbox.inner.players pPlayer).position config
    ((packetsTo history outbox sessionID).filterMap (PacketRef.moveReply? config)).getLast? = position ∧
    (outbox.queue sessionID = [] →
      ((bytesTo history sessionID).filter (isMoveReply config)).getLast? = position) := by
  intro sessionID position
  obtain ⟨inner, sent⟩ := run.packets
  have informs := (ServerRun.informed inner).slots pPlayer
  rw [← sent, chat] at informs
  refine ⟨informs.2, fun drained => ?_⟩
  have located := informs.2
  rw [Locates, packetsTo, show outbox.queue (outbox.inner.session pPlayer) = [] from drained,
    List.append_nil] at located
  rw [filter_bytesTo run]
  exact located

end Clients

/-- A player has moved twice and both replies have been transmitted; the other player
    has not moved. -/
theorem position_agreed_sample :
    let played := (Sample.playNetwork (Sample.twoPlayers ++ [
      .chatRecv 0 (sectorMoveWire Sample.config 7 3 4),
      .chatRecv 0 (sectorMoveWire Sample.config 7 5 6)]) [5, 5, 5]).get (by decide +kernel)
    ((bytesTo played.1 5).filter (isMoveReply Sample.config)).getLast? =
      some (makeCsChatResSectorMove Sample.config 7 5 6) ∧
    ((packetsTo played.1 played.2 6).filterMap (PacketRef.moveReply? Sample.config)).getLast? = none := by
  intro played
  have run : NetworkRun Sample.config played.1 played.2 := Sample.playNetwork_run _ _ (by decide +kernel)
  have session : played.2.inner.session 0 = 5 := by decide +kernel
  have session' : played.2.inner.session 1 = 6 := by decide +kernel
  have moved : ((bytesTo played.1 (played.2.inner.session 0)).filter (isMoveReply Sample.config)).getLast? =
      (played.2.inner.players 0).position Sample.config :=
    (position_agreed run (by decide +kernel)).2 (List.isEmpty_iff.mp (by decide +kernel))
  have unmoved : ((packetsTo played.1 played.2 (played.2.inner.session 1)).filterMap
      (PacketRef.moveReply? Sample.config)).getLast? = (played.2.inner.players 1).position Sample.config :=
    (position_agreed run (by decide +kernel)).1
  rw [session] at moved
  rw [session'] at unmoved
  exact ⟨moved.trans (by decide +kernel), unmoved.trans (by decide +kernel)⟩

end ChatServerRedis
