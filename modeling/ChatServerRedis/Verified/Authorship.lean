import ChatServerRedis.Verified.Delivery
import ChatServerRedis.Verified.NamePrivacy

/-! # Who has said what

A message on the wire shows an account, an ID and a nickname.  For an ordinary player they
are those of the LOGIN packet of its own session, texts compared up to their NUL; a
monitoring client shows what the memory of its slot held when it was accepted.  So nobody
puts words into the mouth of another.
-/

namespace ChatServerRedis

open Deferred LoginContents PastTime Transition

/-! ## Texts -/

/-- The characters in front of the NUL. -/
def cText {length : Nat} (text : Vector WCHAR length) : List WCHAR :=
  text.toList.takeWhile (· ≠ 0)

theorem copiedText_cText {length : Nat} {destination copied : Vector WCHAR length}
    {source : Option (List BYTE)} (text : copiedText destination source = some copied) :
    source.map (fun bytes => cText (wchars length bytes)) = some (cText copied) := by
  obtain ⟨bytes, nul, rfl, found, cells⟩ := copiedText_eq_some text
  obtain ⟨inside, here, before⟩ := List.findIdx?_eq_some_iff_getElem.mp found
  have inside : nul < length := by simpa using inside
  have same : ∀ i (bound : i < length), i ≤ nul → copied[i] = (wchars length bytes)[i] := by
    intro i bound upTo
    have cell := cells ⟨i, bound⟩
    rwa [if_pos upTo] at cell
  have lengths : ∀ text : Vector WCHAR length, (∀ i (bound : i < length), i ≤ nul →
      text[i] = (wchars length bytes)[i]) → cText text = (wchars length bytes).toList.take nul := by
    intro text agrees
    have first : text.toList.findIdx (fun character => !decide (character ≠ 0)) = nul := by
      refine (List.findIdx_eq (by simpa using inside)).mpr ⟨?_, fun j earlier => ?_⟩
      · simpa [agrees nul inside (Nat.le_refl nul)] using here
      · simpa [agrees j (by omega) (Nat.le_of_lt earlier)] using before j earlier
    rw [cText, List.takeWhile_eq_take_findIdx_not, first]
    refine List.ext_getElem (by simp) fun i bound _ => ?_
    have upTo : i < nul := by
      rw [List.length_take] at bound
      omega
    simpa using agrees i (by omega) (by omega)
  rw [Option.map_some, lengths copied same, lengths (wchars length bytes) fun _ _ _ => rfl]

/-! ## The names of a session -/

/-- The player goes by the account and the texts of the LOGIN packet. -/
def GoesBy (player : Player) (fields : LoginFields) : Prop :=
  player.accountNo = fields.accountNo ∧
  fields.pID.map (fun bytes => cText (wchars idLen bytes)) = some (cText player.ID) ∧
  fields.pNickName.map (fun bytes => cText (wchars nickNameLen bytes)) = some (cText player.nickName)

/-- The session had a LOGIN packet accepted that names the player as it is. -/
def Introduced (config : Config) (sessionID : ULONGLONG) (player : Player) (history : List Step) :
    Prop :=
  Once (fun taken => ∃ pPlayer typeLocal reply beyond pPacket rest fields,
    taken.event = .loginRecv pPlayer typeLocal reply beyond pPacket ∧
    taken.pre.session pPlayer = sessionID ∧
    GrantsLogin config taken.pre reply beyond pPacket player.accountNo ∧
    readWord pPacket = some (config.csChatReqLogin, rest) ∧ readLogin rest = some fields ∧
    GoesBy player fields) history

/-- The session was accepted in a slot whose memory named the player as it is. -/
def Inherited (sessionID : ULONGLONG) (player : Player) (history : List Step) : Prop :=
  Once (fun taken => ∃ pPlayer memory, taken.event = .accept pPlayer sessionID memory ∧
    player.accountNo = memory.accountNo ∧ player.ID = memory.ID ∧
    player.nickName = memory.nickName) history

/-- Where the account and the names of a slot come from. -/
structure Attributed (config : Config) (history : List Step) (phase : Phase) (session : ULONGLONG)
    (player : Player) : Prop where
  fresh : phase = .accepted ∨ phase = .login → Inherited session player history
  ordinary : phase = .moving ∨ phase = .chat → player.bMonitoringLogin = false →
    Introduced config session player history
  monitoring : phase = .moving ∨ phase = .chat → player.bMonitoringLogin = true →
    Inherited session player history

section Step

variable {config : Config} {server post : Server} {event : Event} {calls : List Call}
  {history : List Step} {phase : Phase} {session : ULONGLONG} {player : Player} {pPlayer : PlayerPtr}

theorem Attributed.free : Attributed config history .free session player := by
  constructor <;> simp

theorem Attributed.snoc (attributed : Attributed config history phase session player) (taken : Step) :
    Attributed config (history ++ [taken]) phase session player where
  fresh early := (once_snoc _ _ _).mpr (.inl (attributed.fresh early))
  ordinary late flag := (once_snoc _ _ _).mpr (.inl (attributed.ordinary late flag))
  monitoring late flag := (once_snoc _ _ _).mpr (.inl (attributed.monitoring late flag))

theorem introduced_of_granted {typeLocal : WORD} {reply : Reply} {beyond : Nat → BYTE}
    {pPacket : List BYTE} {accountNo : INT64}
    (granted : GrantsLogin config server reply beyond pPacket accountNo)
    (result : loginResult config server pPlayer typeLocal reply beyond pPacket = some (post, calls)) :
    Introduced config (server.session pPlayer) (post.players pPlayer)
      (history ++ [⟨server, .loginRecv pPlayer typeLocal reply beyond pPacket, calls, post⟩]) := by
  obtain ⟨rest, fields, ID, nickName, type, parsed, textID, textNick, rfl, _⟩ :=
    loginResult_granted granted result
  have account : fields.accountNo = accountNo := by
    obtain ⟨_, _, _, type', _, parsed', account, _⟩ := granted
    cases type.symm.trans type'
    cases parsed.symm.trans parsed'
    exact account
  refine (once_snoc _ _ _).mpr (.inr ⟨pPlayer, typeLocal, reply, beyond, pPacket, rest, fields, rfl, rfl,
    ?_, type, parsed, ?_⟩)
  · simpa using granted
  · refine ⟨by simp [account], ?_, ?_⟩
    · simpa using copiedText_cText textID
    · simpa using copiedText_cText textNick

theorem attributed_slot (lifecycle : Lifecycle server)
    (before : Attributed config history (server.phase event.slot) (server.session event.slot)
      (server.players event.slot))
    (taken : (chatServer config).step server event = some (post, calls)) :
    Attributed config (history ++ [⟨server, event, calls, post⟩]) (post.phase event.slot)
      (post.session event.slot) (post.players event.slot) := by
  cases step_cases taken with
  | accept =>
    simp only [Event.slot, Server.opened_phase, Server.opened_session, Server.opened_players,
      Function.update_self]
    exact ⟨fun _ => (once_snoc _ _ _).mpr (.inr ⟨_, _, rfl, rfl, rfl, rfl⟩), by simp, by simp⟩
  | @loginEnter pPlayer accepted =>
    simp only [Event.slot, Server.loginEntered_phase, Server.loginEntered_session,
      Server.loginEntered_players, Function.update_self]
    refine Attributed.snoc ?_ _
    exact ⟨fun _ => before.fresh (.inl accepted), by simp, by simp⟩
  | @loggedIn pPlayer _ _ _ _ _ _ _ login granted =>
    -- a session in LOGIN carries no monitoring flag yet
    have ordinary := (lifecycle.slots pPlayer).loggedOut login
    refine ⟨by simp [Event.slot], fun _ _ => ?_, ?_⟩
    · exact introduced_of_granted granted (step_loginRecv taken).2
    · simp [Event.slot, ordinary]
  | @monitorLogin pPlayer _ _ _ _ login =>
    simp only [Event.slot, Server.monitorLoggedIn_phase, Server.monitorLoggedIn_session,
      Server.monitorLoggedIn_players, Function.update_self]
    refine Attributed.snoc ?_ _
    -- a monitoring login writes no names: those of the memory stay
    exact ⟨by simp, by simp, fun _ _ => before.fresh (.inr login)⟩
  | loginLeave | chatLeave | chatLeaveEarly =>
    simp only [Event.slot, Server.setPhase_phase, Function.update_self]
    exact .free
  | loginIdle | chatIdle | spoke | sectorInfo => exact before.snoc _
  | chatEnter moving =>
    simp only [Event.slot, Server.entered_phase, Server.entered_session, Server.entered_players,
      Server.enterChat_phase, Server.enterChat_session, Server.enterChat_players, Function.update_self]
    refine Attributed.snoc ?_ _
    exact ⟨by simp, fun _ => before.ordinary (.inl moving),
      fun _ => before.monitoring (.inl moving)⟩
  | moved chat =>
    simp only [Event.slot, Server.moved_phase, Server.moved_session, Server.moved_players,
      Function.update_self]
    refine Attributed.snoc ?_ _
    exact ⟨before.fresh, fun _ => before.ordinary (.inr chat),
      fun _ => before.monitoring (.inr chat)⟩

end Step

theorem ServerRun.attributed {config : Config} {history : List Step} {state : Server}
    (run : ServerRun config history state) (pPlayer : PlayerPtr) :
    Attributed config history (state.phase pPlayer) (state.session pPlayer) (state.players pPlayer) := by
  induction run with
  | start initial =>
    obtain ⟨memory, rfl⟩ := initial
    exact .free
  | @snoc history state post event calls run taken attributed =>
    by_cases here : pPlayer = event.slot
    · subst here
      exact attributed_slot (ServerRun.lifecycle run) attributed taken
    · obtain ⟨phase, session, player⟩ := (step_cases taken).frame here
      rw [phase, session, player]
      exact attributed.snoc _

/-! ## Messages -/

/-- The message is what a session in CHAT asked to have said; an ordinary player goes by the
    names of its own LOGIN packet. -/
def Genuine (config : Config) (before : List Step) (taken : Step) (payload : List BYTE) : Prop :=
  ∃ pPlayer messageLen message, Speaks config pPlayer taken messageLen message ∧
    let speaker := taken.pre.players pPlayer
    payload = makeCsChatResMessage config speaker.accountNo speaker.ID speaker.nickName messageLen
      message ∧
    if speaker.bMonitoringLogin then Inherited (taken.pre.session pPlayer) speaker before
    else Introduced config (taken.pre.session pPlayer) speaker before

section Messages

variable {config : Config} {history : List NetworkStep} {outbox : Network} {sessionID : ULONGLONG}
  {payload : List BYTE}

theorem speaks_of_spoken {taken : Step} (said : spoken config taken = some payload) :
    ∃ pPlayer messageLen message, Speaks config pPlayer taken messageLen message ∧
      payload = makeCsChatResMessage config (taken.pre.players pPlayer).accountNo
        (taken.pre.players pPlayer).ID (taken.pre.players pPlayer).nickName messageLen message := by
  unfold spoken at said
  split at said
  · next pPlayer pPacket received =>
    split at said
    · next accountNo messageLen message request =>
      simp only [Option.ite_none_right_eq_some, Option.some.injEq] at said
      obtain ⟨speaks, rfl⟩ := said
      obtain ⟨rfl, whole⟩ := (decodeRequest_eq_message config).mp request
      exact ⟨pPlayer, messageLen, message, ⟨accountNo, received, whole, speaks⟩, rfl⟩
    · cases said
  · cases said

theorem genuine_of_sent {before : List Step} {server post : Server} {event : Event} {calls : List Call}
    (reached : ServerRun config before server) (outcome : StepCase config server event post calls)
    (sent : .alloc payload ∈ packetsFor sessionID calls)
    (message : (PacketRef.alloc payload).isMessage = true) :
    Genuine config before ⟨server, event, calls, post⟩ payload := by
  have heard : .alloc payload ∈ heardBy sessionID (broadcasts config [⟨server, event, calls, post⟩]) := by
    rw [← outcome.messages reached.lifecycle reached.placed]
    exact List.mem_filter.mpr ⟨sent, message⟩
  have said : spoken config ⟨server, event, calls, post⟩ = some payload := by
    cases said : spoken config ⟨server, event, calls, post⟩ with
    | none => simp [heardBy, broadcasts, said] at heard
    | some other =>
      simp only [heardBy, broadcasts, said, List.filterMap_cons, Option.map_some, List.filterMap_nil,
        List.mem_map, List.mem_filter, List.mem_singleton] at heard
      obtain ⟨_, ⟨rfl, _⟩, same⟩ := heard
      exact congrArg some (PacketRef.alloc.inj same)
  obtain ⟨pPlayer, messageLen, text, speaks, rfl⟩ := speaks_of_spoken said
  refine ⟨pPlayer, messageLen, text, speaks, rfl, ?_⟩
  have chat := (outcome.of_speaks speaks).1
  have attributed := reached.attributed pPlayer
  split
  · next flag => exact attributed.monitoring (.inr chat) flag
  · next flag => exact attributed.ordinary (.inr chat) (by simpa using flag)

/-- Every message that a client is sent is genuine. -/
theorem messages_genuine (run : NetworkRun config history outbox)
    (sent : .alloc payload ∈ packetsTo history outbox sessionID)
    (message : (PacketRef.alloc payload).isMessage = true) :
    ∃ before taken after, serverSteps config history = before ++ taken :: after ∧
      Genuine config before taken payload := by
  obtain ⟨inner, packets⟩ := run.packets
  rw [packets, packetsSent] at sent
  obtain ⟨taken, member, sent⟩ := List.mem_flatMap.mp sent
  obtain ⟨before, after, split⟩ := List.append_of_mem member
  refine ⟨before, taken, after, split, ?_⟩
  have each := @ServerRun.forall_split _ _ _ inner
    (fun before taken => .alloc payload ∈ packetsFor sessionID taken.calls →
      Genuine config before taken payload)
    fun _ _ _ _ _ reached outcome sent => genuine_of_sent reached outcome sent message
  exact each before taken after split sent

end Messages

/-- The message that the second of two players sends to the first. -/
theorem messages_genuine_sample :
    let played := (Sample.playNetwork (Sample.twoPlayers ++ [
      .chatRecv 0 (sectorMoveWire Sample.config 7 2 2), .chatRecv 1 (sectorMoveWire Sample.config 8 2 2),
      .chatRecv 1 (messageWire Sample.config 8 3 [111, 107, 33])]) [5]).get (by decide +kernel)
    ∃ before taken after, serverSteps Sample.config played.1 = before ++ taken :: after ∧
      Genuine Sample.config before taken (makeCsChatResMessage Sample.config 8
        (Vector.replicate idLen 0) (Vector.replicate nickNameLen 0) 3 [111, 107, 33]) := by
  intro played
  have run : NetworkRun Sample.config played.1 played.2 := Sample.playNetwork_run _ _ (by decide +kernel)
  have sent : .alloc (makeCsChatResMessage Sample.config 8 (Vector.replicate idLen 0)
      (Vector.replicate nickNameLen 0) 3 [111, 107, 33]) ∈ packetsTo played.1 played.2 5 := by
    decide +kernel
  exact messages_genuine run sent (by decide +kernel)

end ChatServerRedis
