import ChatServerRedis.Model.Network
import ChatServerRedis.Verified.Monitoring
import ChatServerRedis.Verified.Registration

/-! # Who the server talks to

Session ids are kept in players, in the account map, in the sector lists and in the
monitoring id, and a slot is used again by other sessions.  No handler ever addresses a
session that is gone: what it disconnects is connected, and what it sends goes to
players of CHAT.  What is behind the block of `listArr` is not modelled, so this says
nothing about a server that has used a list there.
-/

namespace ChatServerRedis

open Placement Transition

def Call.addressee : Call → Option ULONGLONG
  | .disconnect sessionID | .setLogin sessionID | .sendPacket sessionID _
  | .enqPacket sessionID _ => some sessionID
  | _ => none

namespace Server

def connected (server : Server) (sessionID : ULONGLONG) : Prop :=
  ∃ pPlayer, server.phase pPlayer ≠ .free ∧ server.session pPlayer = sessionID

def chatting (server : Server) (sessionID : ULONGLONG) : Prop :=
  ∃ pPlayer, server.phase pPlayer = .chat ∧ server.session pPlayer = sessionID

end Server

section Step

variable {config : Config} {server post : Server} {event : Event} {calls : List Call}
  {history : List Step} {pPlayer : PlayerPtr} {sessionID : ULONGLONG}

theorem Server.chatting.connected (chatting : server.chatting sessionID) :
    server.connected sessionID := by
  obtain ⟨pPlayer, chat, session⟩ := chatting
  exact ⟨pPlayer, by simp [chat], session⟩

theorem Call.addressee_of_sent {made : Call} {ref : PacketRef}
    (sent : made.sent = some (sessionID, ref)) : made.addressee = some sessionID := by
  cases made with
  | sendPacket | enqPacket =>
    cases sent
    rfl
  | _ => cases sent

theorem Lifecycle.sessionId_chatting (lifecycle : Lifecycle server)
    (chat : server.phase pPlayer = .chat) :
    server.chatting (server.players pPlayer).sessionId :=
  ⟨pPlayer, chat, ((lifecycle.slots pPlayer).sessionId (by simp [chat])).symm⟩

theorem chat_of_linked (placed : Placed server.sectors server.place) {offset : Nat}
    (linked : pPlayer ∈ server.sectors offset) : server.phase pPlayer = .chat := by
  have here := ((placed offset).mem_iff pPlayer).mp linked
  by_contra elsewhere
  rw [place_eq_none fun registered => elsewhere registered.1] at here
  cases here

/-! ## A packet in LOGIN -/

def OwnOrNobody (server : Server) (pPlayer : PlayerPtr) (made : Call) : Prop :=
  made = .disconnect (server.session pPlayer) ∨ made.addressee = none

/-- A packet in LOGIN disconnects its own session or the monitoring client it
    replaces, and addresses nobody else. -/
theorem loginResult_addressee {typeLocal : WORD} {reply : Reply} {beyond : Nat → BYTE}
    {pPacket : List BYTE}
    (result : loginResult config server pPlayer typeLocal reply beyond pPacket = some (post, calls)) :
    ∀ made ∈ calls, OwnOrNobody server pPlayer made ∨ IsMonitorLogin config pPacket ∧
      made = .disconnect server.monitoringClientSessionID ∧
        server.monitoringClientSessionID ≠ maxULongLong := by
  cases login_cases result with
  | monitor type =>
    intro made member
    simp only [List.mem_append, mem_monitorCalls, List.mem_singleton] at member
    obtain (rfl | ⟨set, rfl⟩ | rfl | rfl) | rfl := member
    · exact .inl (.inr rfl)
    · exact .inr ⟨⟨_, type⟩, rfl, set⟩
    · exact .inl (.inr rfl)
    · exact .inl (.inr rfl)
    · exact .inl (.inr rfl)
  | truncated type leaves =>
    obtain rfl | rfl := leaves <;> simp [OwnOrNobody, Call.addressee]
  | refused | denied | granted | heartbeat => simp [OwnOrNobody, Call.addressee]

/-! ## One step -/

/-- What a call says about the session it addresses. -/
structure AddressesRightly (config : Config) (taken : Step) (made : Call) (sessionID : ULONGLONG) :
    Prop where
  connected : taken.pre.connected sessionID
  chatting : ∀ ref, made.sent = some (sessionID, ref) → taken.post.chatting sessionID
  /-- Another session is disconnected only by the successor that takes its place. -/
  replaced : made = .disconnect sessionID → sessionID ≠ taken.pre.session taken.event.slot →
    ∃ other, taken.pre.session other = sessionID ∧
      ((taken.event = .chatEnter taken.event.slot ∧
        taken.pre.presentAs other (taken.pre.players taken.event.slot).accountNo) ∨
      MonitorLogsIn config taken.event.slot taken ∧ taken.pre.isMonitor other)

theorem addressesRightly_own {made : Call} (used : server.phase event.slot ≠ .free)
    (session : sessionID = server.session event.slot)
    (present : ∀ ref, made.sent = some (sessionID, ref) → post.chatting sessionID) :
    AddressesRightly config ⟨server, event, calls, post⟩ made sessionID where
  connected := ⟨event.slot, used, session.symm⟩
  chatting := present
  replaced _ other := absurd session other

section Cases

variable (reached : ServerRun config history server)

include reached

theorem loginRecv_addressees {typeLocal : WORD} {reply : Reply} {beyond : Nat → BYTE}
    {pPacket : List BYTE}
    (taken : (chatServer config).step server (.loginRecv pPlayer typeLocal reply beyond pPacket) =
      some (post, calls)) {made : Call} (member : made ∈ calls)
    (addressed : made.addressee = some sessionID) :
    AddressesRightly config ⟨server, .loginRecv pPlayer typeLocal reply beyond pPacket, calls, post⟩
      made sessionID := by
  obtain ⟨login, result⟩ := step_loginRecv taken
  have used : server.phase pPlayer ≠ .free := by simp [login]
  obtain (rfl | silent) | ⟨monitor, rfl, set⟩ := loginResult_addressee result made member
  · cases addressed
    exact addressesRightly_own used rfl (fun ref sent => by cases sent)
  · rw [silent] at addressed
    cases addressed
  · cases addressed
    have owned : server.monitorOwner () = some server.monitoringClientSessionID :=
      monitorOwner_eq_some.mpr ⟨rfl, set⟩
    obtain ⟨holder, holds, session⟩ := reached.monitor.owner_holding owned
    exact ⟨⟨holder, holds.used, session⟩, fun ref sent => (by cases sent), fun _ _ =>
      ⟨holder, session, .inr ⟨⟨_, _, _, _, rfl, monitor⟩, holds⟩⟩⟩

theorem chatEnter_addressees (moving : server.phase pPlayer = .moving) {made : Call}
    (member : made ∈ enterCalls config server pPlayer)
    (addressed : made.addressee = some sessionID) :
    AddressesRightly config ⟨server, .chatEnter pPlayer, enterCalls config server pPlayer,
      (server.enterChat pPlayer).entered pPlayer⟩ made sessionID := by
  have used : server.phase pPlayer ≠ .free := by simp [moving]
  have own := (reached.lifecycle.slots pPlayer).sessionId used
  have entered : ((server.enterChat pPlayer).entered pPlayer).chatting (server.session pPlayer) :=
    ⟨pPlayer, by simp, by simp⟩
  obtain rfl | ⟨_, ⟨former, owner, rfl⟩ | rfl⟩ := mem_enterCalls.mp member <;> cases addressed
  · exact addressesRightly_own used own fun ref sent => by cases sent
  · obtain ⟨chat, ordinary, account⟩ := reached.loginMap.owner_holding owner
    have session := (reached.lifecycle.slots former).sessionId (by simp [chat])
    exact ⟨⟨former, by simp [chat], session.symm⟩, fun ref sent => (by cases sent), fun _ _ =>
      ⟨former, session.symm, .inl ⟨rfl, chat, ordinary, account⟩⟩⟩
  · exact addressesRightly_own used own fun ref _ => by rwa [own]

theorem chatRecv_addressees {pPacket : List BYTE}
    (taken : (chatServer config).step server (.chatRecv pPlayer pPacket) = some (post, calls))
    {made : Call} (member : made ∈ calls) (addressed : made.addressee = some sessionID) :
    AddressesRightly config ⟨server, .chatRecv pPlayer pPacket, calls, post⟩ made sessionID := by
  obtain ⟨chat, result⟩ := step_chatRecv taken
  have lifecycle := reached.lifecycle
  have used : server.phase pPlayer ≠ .free := by simp [chat]
  have own := (lifecycle.slots pPlayer).sessionId used
  generalize decodeRequest config pPacket = request at result
  have outcome := request_cases result
  obtain ⟨phase, session, _⟩ := outcome.kept
  have kept : ∀ sessionID, server.chatting sessionID → post.chatting sessionID := by
    intro sessionID ⟨other, present, same⟩
    exact ⟨other, by rw [phase]; exact present, by rw [session]; exact same⟩
  have mine : sessionID = server.session pPlayer →
      AddressesRightly config ⟨server, .chatRecv pPlayer pPacket, calls, post⟩ made sessionID :=
    fun same => addressesRightly_own used same fun _ _ => kept _ ⟨pPlayer, chat, same.symm⟩
  cases outcome with
  | moved =>
    simp only [List.mem_append, mem_moveCalls, mem_removeCalls, List.mem_singleton] at member
    obtain (⟨_, rfl⟩ | rfl | rfl) | rfl := member <;> cases addressed
    exact mine own
  | spoke =>
    simp only [List.mem_append, mem_broadcastCalls, List.mem_singleton] at member
    obtain ⟨cell, _, rfl | ⟨other, linked, rfl⟩⟩ | rfl := member <;> cases addressed
    have heard := lifecycle.sessionId_chatting (chat_of_linked reached.placed linked)
    exact ⟨heard.connected, fun _ _ => heard, fun same => by cases same⟩
  | heartbeat =>
    rw [List.mem_singleton.mp member] at addressed
    cases addressed
  | malformed =>
    rw [List.mem_singleton.mp member] at addressed
    cases addressed
    exact mine own
  | refusedMove | refusedMessage | sectorInfo | refused =>
    simp only [List.mem_cons, List.not_mem_nil, or_false] at member
    obtain rfl | rfl := member <;> cases addressed
    exact mine own
  | unknown =>
    simp only [List.mem_cons, List.not_mem_nil, or_false] at member
    obtain rfl | rfl := member <;> cases addressed
    exact mine rfl

theorem addressees_step (taken : (chatServer config).step server event = some (post, calls))
    {made : Call} (member : made ∈ calls) (addressed : made.addressee = some sessionID) :
    AddressesRightly config ⟨server, event, calls, post⟩ made sessionID := by
  cases event with
  | loginRecv => exact loginRecv_addressees reached taken member addressed
  | chatRecv => exact chatRecv_addressees reached taken member addressed
  | chatEnter =>
    cases step_cases taken with
    | chatEnter moving => exact chatEnter_addressees reached moving member addressed
  | accept | loginEnter | loginLeave =>
    cases step_cases taken
    cases member
  | chatLeave =>
    cases step_cases taken with
    | chatLeaveEarly chat login => exact absurd login (reached.lifecycle.chat_bLogin chat)
    | chatLeave =>
      simp only [mem_leaveCalls, mem_removeCalls] at member
      obtain ⟨_, rfl | rfl⟩ | ⟨_, rfl⟩ | ⟨_, rfl⟩ := member <;> cases addressed

end Cases

end Step

/-- Every session a run addresses is connected when it is addressed, every session it
    sends to is in CHAT, and a session is disconnected by nobody but itself, the next
    player of its account or the next monitoring client. -/
theorem addressees_connected {config : Config} {history : List Step} {state : Server}
    (run : ServerRun config history state) :
    ∀ taken ∈ history, ∀ made ∈ taken.calls, ∀ sessionID, made.addressee = some sessionID →
      AddressesRightly config taken made sessionID := by
  intro taken member made call sessionID addressed
  obtain ⟨before, after, rfl⟩ := List.append_of_mem member
  obtain ⟨reached, step⟩ := run.split
  exact addressees_step reached step call addressed

/-- The second player of an account disconnects the first. -/
theorem addressees_connected_sample :
    let played := (Sample.play (Sample.login 0 5 9 ++ Sample.login 1 6 9 ++
      [.chatEnter 0, .chatEnter 1])).get (by decide +kernel)
    ∃ taken ∈ played.1, .disconnect 5 ∈ taken.calls ∧
      AddressesRightly Sample.config taken (.disconnect 5) 5 := by
  intro played
  have run : ServerRun Sample.config played.1 played.2 := Sample.play_run _ (by decide +kernel)
  have made : ∃ taken ∈ played.1, .disconnect 5 ∈ taken.calls := by decide +kernel
  obtain ⟨taken, member, call⟩ := made
  exact ⟨taken, member, call, addressees_connected run taken member _ call 5 rfl⟩

end ChatServerRedis
