import ChatServerRedis.Model.Network
import ChatServerRedis.Verified.Acceptance
import ChatServerRedis.Verified.Crowd

/-! # The shared packet of the SECTOR_INFO replies

Every other reply is a packet of its own.  The replies to SECTOR_INFO requests are
all the same packet, so a request rewrites the replies that are still queued.
-/

namespace ChatServerRedis

open Deferred Transition

/-- The event is a SECTOR_INFO request of some player. -/
def AsksSectorInfo (config : Config) (event : Event) : Prop :=
  ∃ pPlayer rest, event = .chatRecv pPlayer (wordBytes config.csChatReqSectorInfo ++ rest)

section Step

variable {config : Config} {server post : Server} {event : Event} {calls : List Call}

theorem asksSectorInfo_chatRecv {pPlayer : PlayerPtr} {pPacket : List BYTE}
    (request : decodeRequest config pPacket = .sectorInfo) :
    AsksSectorInfo config (.chatRecv pPlayer pPacket) := by
  refine ⟨pPlayer, pPacket.drop 2, ?_⟩
  rw [← decodeRequest_type.2 request, List.take_append_drop]

theorem step_asks (asks : AsksSectorInfo config event)
    (taken : step config server event = some (post, calls)) : post = server.refilled := by
  obtain ⟨pPlayer, rest, rfl⟩ := asks
  by_cases chat : server.phase pPlayer = .chat
  · rw [step_sectorInfo chat] at taken
    split at taken
    · cases taken
      rfl
    · cases taken
  · simp [step, chat] at taken

theorem StepCase.sectorInfo_kept (outcome : StepCase config server event post calls)
    (other : ¬ AsksSectorInfo config event) : post.sectorInfo = server.sectorInfo := by
  cases outcome with
  | sectorInfo chat request => exact absurd (asksSectorInfo_chatRecv request) other
  | accept | loginEnter | loginIdle | loggedIn | monitorLogin | loginLeave | chatEnter | chatIdle
  | moved | spoke | chatLeave | chatLeaveEarly => rfl

theorem Call.sent_of_quiet {call : Call} (quiet : call.quiet = true) : call.sent = none := by
  cases call <;> first | rfl | cases quiet

/-- Only the answer to a request is the shared packet. -/
theorem StepCase.sent_sectorInfo (lifecycle : Lifecycle server)
    (outcome : StepCase config server event post calls) {call : Call} (made : call ∈ calls)
    {sessionID : ULONGLONG} (sent : call.sent = some (sessionID, .sectorInfo)) :
    AsksSectorInfo config event := by
  cases outcome with
  | sectorInfo chat request => exact asksSectorInfo_chatRecv request
  | chatLeaveEarly chat login => exact absurd login (lifecycle.chat_bLogin chat)
  | loginIdle _ _ _ quiet | chatIdle _ _ _ quiet =>
    rw [Call.sent_of_quiet (List.all_eq_true.mp quiet call made)] at sent
    cases sent
  | spoke =>
    simp only [List.mem_append, mem_broadcastCalls, List.mem_singleton] at made
    obtain ⟨_, _, rfl | ⟨_, _, rfl⟩⟩ | rfl := made <;> simp [Call.sent, messagePacket] at sent
  | moved =>
    simp only [List.mem_append, mem_moveCalls, mem_removeCalls, List.mem_singleton] at made
    obtain (⟨_, rfl⟩ | rfl | rfl) | rfl := made <;> simp [Call.sent] at sent
  | chatLeave =>
    rw [mem_leaveCalls, mem_removeCalls] at made
    obtain ⟨_, rfl | rfl⟩ | ⟨_, rfl⟩ | ⟨_, rfl⟩ := made <;> simp [Call.sent] at sent
  | monitorLogin =>
    simp only [List.mem_append, mem_monitorCalls, List.mem_singleton] at made
    obtain (rfl | ⟨_, rfl⟩ | rfl | rfl) | rfl := made <;> simp [Call.sent] at sent
  | chatEnter =>
    rw [mem_enterCalls] at made
    obtain rfl | ⟨_, ⟨_, _, rfl⟩ | rfl⟩ := made <;> simp [Call.sent] at sent
  | loggedIn =>
    simp only [List.mem_cons, List.not_mem_nil, or_false] at made
    obtain rfl | rfl | rfl := made <;> simp [Call.sent] at sent
  | accept | loginEnter | loginLeave => cases made

end Step

/-! ## Runs -/

section Runs

variable {config : Config} {history : List NetworkStep} {outbox : Network}

/-- A transmitted SECTOR_INFO reply shows how many players were registered at each sector
    when its request was handled. -/
def TransmitsOccupancy (taken : NetworkStep) : Prop :=
  ∀ transmission ∈ taken.calls, transmission.entry.ref = .sectorInfo →
    ShowsPopulation transmission.entry.stamp transmission.bytes

/-- So does every SECTOR_INFO reply that is queued after the step. -/
def QueuesOccupancy (taken : NetworkStep) : Prop :=
  ∀ sessionID, ∀ entry ∈ taken.post.queue sessionID, entry.ref = .sectorInfo →
    ShowsPopulation entry.stamp (taken.post.inner.contentOf entry.ref)

/-- The step changes no SECTOR_INFO reply that is queued. -/
def KeepsReplies (taken : NetworkStep) : Prop :=
  ∀ sessionID, ∀ entry ∈ taken.pre.queue sessionID, entry.ref = .sectorInfo →
    taken.post.inner.contentOf entry.ref = taken.pre.inner.contentOf entry.ref

/-- When the step handles a SECTOR_INFO request, the numbers of registered players fit into
    their bytes, and they are the same as at the request of every queued SECTOR_INFO reply. -/
def RepliesCurrent (config : Config) (taken : NetworkStep) : Prop :=
  ∀ event, taken.event = .handle event → AsksSectorInfo config event →
    taken.pre.inner.populationFits ∧
    ∀ sessionID, ∀ entry ∈ taken.pre.queue sessionID, entry.ref = .sectorInfo →
      ∀ y x, y < 50 → x < 50 → entry.stamp.population y x = taken.pre.inner.population y x

def ShowsOccupancy (server : Server) (entry : Entry PacketRef Server) : Prop :=
  entry.ref = .sectorInfo → ShowsPopulation entry.stamp (server.contentOf .sectorInfo)

theorem contentOf_refilled (server : Server) :
    server.refilled.contentOf .sectorInfo = getSectorMonitoringInfo server := rfl

theorem asks_of_sent {steps : List Step} {server post : Server} {event : Event} {calls : List Call}
    {call : Call} {sessionID : ULONGLONG} (reached : ServerRun config steps server)
    (taken : step config server event = some (post, calls)) (made : call ∈ calls)
    (sent : call.sent = some (sessionID, .sectorInfo)) : AsksSectorInfo config event :=
  StepCase.sent_sectorInfo reached.lifecycle (step_cases taken) made sent

theorem encodable_of_asks {server post : Server} {event : Event} {calls : List Call}
    (asks : AsksSectorInfo config event) (taken : step config server event = some (post, calls)) :
    Encodable server ∧ ∃ sessionID, .sendPacket sessionID .sectorInfo ∈ calls := by
  obtain ⟨pPlayer, rest, rfl⟩ := asks
  by_cases chat : server.phase pPlayer = .chat
  · rw [step_sectorInfo chat] at taken
    split at taken
    · next encodable =>
      cases taken
      exact ⟨encodable, _, List.mem_cons_self⟩
    · cases taken
  · simp [step, chat] at taken

theorem sectorInfo_step (run : NetworkRun config history outbox) {taken : NetworkStep}
    (member : taken ∈ history) :
    (∃ event, taken.event = .handle event ∧ AsksSectorInfo config event ∧
      taken.post.inner = taken.pre.inner.refilled) ∨
    ((∀ event, taken.event = .handle event → ¬ AsksSectorInfo config event) ∧
      taken.post.inner.sectorInfo = taken.pre.inner.sectorInfo) := by
  cases handles : taken.event with
  | handle event =>
    obtain ⟨calls, step, _⟩ := handled_step run member handles
    by_cases asks : AsksSectorInfo config event
    · exact .inl ⟨event, rfl, asks, step_asks asks step⟩
    · have kept := StepCase.sectorInfo_kept (step_cases step) asks
      refine .inr ⟨?_, kept⟩
      intro other same
      cases same
      exact asks
  | transmit sessionID =>
    refine .inr ⟨by simp, ?_⟩
    rw [transmit_inner run member handles]

theorem NetworkRun.reached (run : NetworkRun config history outbox) {taken : NetworkStep}
    (member : taken ∈ history) : ∃ steps, ServerRun config steps taken.pre.inner := by
  obtain ⟨before, after, rfl⟩ := List.append_of_mem member
  exact inner_run (Run.split run).1

section Current

variable (run : NetworkRun config history outbox) {taken : NetworkStep} (member : taken ∈ history)

include run member

theorem queued_of_asks {event : Event} (handles : taken.event = .handle event)
    (asks : AsksSectorInfo config event) :
    Encodable taken.pre.inner ∧ taken.post.inner = taken.pre.inner.refilled ∧
      (∃ sessionID, ⟨.sectorInfo, taken.pre.inner⟩ ∈ taken.post.queue sessionID) ∧
      ∀ sessionID, ∀ entry ∈ taken.pre.queue sessionID, entry ∈ taken.post.queue sessionID := by
  obtain ⟨calls, step, queues⟩ := handled_step run member handles
  obtain ⟨encodable, sessionID, made⟩ := encodable_of_asks asks step
  refine ⟨encodable, step_asks asks step, ⟨sessionID, ?_⟩, fun other entry queued => ?_⟩
  · rw [queues]
    exact List.mem_append_right _ (mem_added.mpr ⟨_, made, rfl, rfl⟩)
  · rw [queues]
    exact List.mem_append_left _ queued

theorem repliesCurrent_of_queues (queues : QueuesOccupancy taken) : RepliesCurrent config taken := by
  intro event handles asks
  obtain ⟨steps, reached⟩ := run.reached member
  obtain ⟨encodable, refilled, ⟨own, asked⟩, grown⟩ := queued_of_asks run member handles asks
  have shows := queues own _ asked rfl
  refine ⟨(ServerRun.showsPopulation_iff reached).mp ⟨encodable, ?_⟩,
    fun sessionID entry queued shared y x boundY boundX => ?_⟩
  · rw [refilled] at shows
    exact shows
  · have earlier := queues sessionID entry (grown sessionID entry queued) shared
    rw [shared] at earlier
    exact earlier.population_eq shows boundY boundX

omit member run in
theorem showsFresh_of_current (current : RepliesCurrent config taken) :
    ShowsFresh (chatServer config) sendQueue ShowsOccupancy taken := by
  intro steps event calls reached handles step call made sessionID ref sent shared
  change ref = .sectorInfo at shared
  subst shared
  have asks := asks_of_sent reached step made sent
  obtain ⟨fits, _⟩ := current event handles asks
  rw [step_asks asks step, contentOf_refilled]
  exact ((ServerRun.showsPopulation_iff reached).mpr fits).2

theorem keepsQueued_of_current (current : RepliesCurrent config taken) :
    KeepsQueued ShowsOccupancy taken := by
  intro sessionID entry queued shown shared
  rcases sectorInfo_step run member with ⟨event, handles, asks, refilled⟩ | ⟨_, same⟩
  · obtain ⟨fits, before⟩ := current event handles asks
    obtain ⟨steps, reached⟩ := run.reached member
    have shows := ((ServerRun.showsPopulation_iff reached).mpr fits).2
    rw [refilled, contentOf_refilled]
    exact shows.congr (before sessionID entry queued shared)
  · rw [Server.contentOf, same]
    exact shown shared

end Current

/-- Every SECTOR_INFO reply shows the occupancy at its own request, as long as it is queued
    and when it is transmitted, exactly when each SECTOR_INFO request is handled at an
    occupancy that fits into bytes and that the queued replies were requested at. -/
theorem sectorInfo_replies_iff (run : NetworkRun config history outbox) :
    (∀ taken ∈ history, TransmitsOccupancy taken ∧ QueuesOccupancy taken ∧ KeepsReplies taken) ↔
      ∀ taken ∈ history, RepliesCurrent config taken := by
  constructor
  · intro intact taken member
    exact repliesCurrent_of_queues run member (intact taken member).2.1
  · intro current
    have fresh : ∀ taken ∈ history, ShowsFresh (chatServer config) sendQueue ShowsOccupancy taken :=
      fun taken member => showsFresh_of_current (current taken member)
    have kept : ∀ taken ∈ history, KeepsQueued ShowsOccupancy taken :=
      fun taken member => keepsQueued_of_current run member (current taken member)
    intro taken member
    have queued := queued_show_before run fresh kept taken member
    refine ⟨?_, ?_, ?_⟩
    · intro transmission made shared
      obtain ⟨shown, bytes⟩ := transmitted_show run fresh kept taken member transmission made
      rw [bytes, shared]
      exact shown shared
    · intro sessionID entry waiting shared
      rw [shared]
      exact queued_show_after run fresh kept taken member sessionID entry waiting shared
    · intro sessionID entry waiting shared
      have before := queued sessionID entry waiting
      have after := kept taken member sessionID entry waiting before
      rw [shared]
      exact (after shared).bytes_eq (before shared)

/-- A reply is only queued once the shared packet exists. -/
theorem created_of_queued (run : NetworkRun config history outbox) :
    ∀ taken ∈ history, ∀ sessionID, ∀ entry ∈ taken.pre.queue sessionID, entry.ref = .sectorInfo →
      taken.pre.inner.sectorInfo ≠ none := by
  have fresh : ∀ taken ∈ history, ShowsFresh (chatServer config) sendQueue (fun server entry =>
      entry.ref = .sectorInfo → server.sectorInfo ≠ none) taken := by
    intro taken _ steps event calls reached handles step call made sessionID ref sent shared
    change ref = .sectorInfo at shared
    subst shared
    rw [step_asks (asks_of_sent reached step made sent) step]
    exact Option.some_ne_none _
  refine queued_show_before run fresh fun taken member sessionID entry queued created shared => ?_
  rcases sectorInfo_step run member with ⟨_, _, _, refilled⟩ | ⟨_, same⟩
  · rw [refilled]
    exact Option.some_ne_none _
  · rw [same]
    exact created shared

theorem NetworkRun.handle (run : NetworkRun config history outbox) {event : Event} {next : Server}
    {calls : List Call} (taken : step config outbox.inner event = some (next, calls)) :
    ∃ post : Network, NetworkRun config (history ++ [⟨outbox, .handle event, [], post⟩]) post ∧
      post.inner = next ∧ ∀ sessionID, post.queue sessionID =
        outbox.queue sessionID ++ sendQueue.added outbox.inner calls sessionID :=
  ⟨_, handle_run run taken, rfl, fun _ => rfl⟩

theorem NetworkRun.transmit (run : NetworkRun config history outbox) {sessionID : ULONGLONG}
    {entry : Entry PacketRef Server} {rest : List (Entry PacketRef Server)}
    (queue : outbox.queue sessionID = entry :: rest) :
    ∃ post : Network, NetworkRun config (history ++ [⟨outbox, .transmit sessionID,
      [⟨sessionID, entry, outbox.inner.contentOf entry.ref⟩], post⟩]) post :=
  ⟨_, transmit_run run queue⟩

theorem NetworkRun.ask (run : NetworkRun config history outbox) {pPlayer : PlayerPtr}
    (chat : outbox.inner.phase pPlayer = .chat) (few : outbox.inner.playerList.length < 128) :
    ∃ post : Network, NetworkRun config (history ++ [⟨outbox, .handle (.chatRecv pPlayer
        (wordBytes config.csChatReqSectorInfo ++ [])), [], post⟩]) post ∧
      post.inner = outbox.inner.refilled ∧
      ∀ sessionID, post.queue sessionID = outbox.queue sessionID ++
        if (outbox.inner.players pPlayer).sessionId = sessionID then
          [⟨.sectorInfo, outbox.inner⟩] else [] := by
  obtain ⟨_, inner⟩ := inner_run run
  have asked : step config outbox.inner _ = _ := step_sectorInfo chat []
  rw [if_pos (ServerRun.encodable inner few)] at asked
  obtain ⟨post, next, state, queues⟩ := run.handle asked
  refine ⟨post, next, state, fun sessionID => ?_⟩
  rw [queues]
  by_cases own : (outbox.inner.players pPlayer).sessionId = sessionID <;>
    simp [Medium.added, sendQueue, Call.sent, own]

/-- The first SECTOR_INFO request of a run, transmitted before anybody else asks. -/
theorem first_reply (run : NetworkRun config history outbox) {pPlayer : PlayerPtr}
    (few : outbox.inner.playerList.length < 128) (chat : outbox.inner.phase pPlayer = .chat)
    (drained : outbox.queue (outbox.inner.players pPlayer).sessionId = [])
    (fits : outbox.inner.populationFits) (uncreated : outbox.inner.sectorInfo = none)
    (silent : ∀ taken ∈ history, ∀ event, taken.event = .handle event → ¬ AsksSectorInfo config event) :
    ∃ after post, NetworkRun config (history ++ after) post ∧
      (∃ taken ∈ after, taken.event = .transmit (outbox.inner.players pPlayer).sessionId) ∧
      ∀ taken ∈ history ++ after, RepliesCurrent config taken := by
  obtain ⟨asked, run1, _, queue⟩ := run.ask chat few
  have head := queue (outbox.inner.players pPlayer).sessionId
  rw [drained, if_pos rfl, List.nil_append] at head
  obtain ⟨post, run2⟩ := run1.transmit head
  rw [List.append_assoc] at run2
  refine ⟨_, post, run2, ⟨_, List.mem_append_right _ List.mem_cons_self, rfl⟩, ?_⟩
  intro taken member event handles asks
  have created := created_of_queued run2 taken member
  simp only [List.mem_append, List.mem_singleton] at member
  rcases member with before | rfl | rfl
  · exact absurd asks (silent taken before event handles)
  · refine ⟨fits, fun sessionID entry queued shared => ?_⟩
    exact absurd uncreated (created sessionID entry queued shared)
  · cases handles

/-- A player asks, another one moves and asks as well before the first reply is
    transmitted: the first player is sent the occupancy of the second request. -/
theorem reply_rewritten (run : NetworkRun config history outbox) {first second : PlayerPtr}
    {accountNo : INT64} {sectorX sectorY : WORD} (few : outbox.inner.playerList.length < 128)
    (chatFirst : outbox.inner.phase first = .chat) (chatSecond : outbox.inner.phase second = .chat)
    (drained : outbox.queue (outbox.inner.players first).sessionId = [])
    (accepts : acceptsMove (outbox.inner.players second) accountNo sectorX sectorY = true) :
    let asks := fun pPlayer => Event.chatRecv pPlayer (wordBytes config.csChatReqSectorInfo ++ [])
    ∃ after post, NetworkRun config (history ++ after) post ∧
      after.map (·.event) = [.handle (asks first),
        .handle (.chatRecv second (sectorMoveWire config accountNo sectorX sectorY)),
        .handle (asks second), .transmit (outbox.inner.players first).sessionId] ∧
      ∃ taken ∈ after, taken.calls = [⟨(outbox.inner.players first).sessionId,
        ⟨.sectorInfo, outbox.inner⟩,
        getSectorMonitoringInfo (outbox.inner.moved second sectorX sectorY)⟩] := by
  intro asks
  obtain ⟨asked, run1, state1, queue1⟩ := run.ask chatFirst few
  obtain ⟨moved, run2, state2, queue2⟩ := run1.handle (@step_sectorMove config asked.inner second
    accountNo sectorX sectorY (by rw [state1]; exact chatSecond) (by rw [state1]; exact accepts))
  obtain ⟨again, run3, state3, queue3⟩ := run2.ask (by rw [state2, state1]; exact chatSecond)
    (by rw [state2, state1]; exact few)
  have queue : again.queue (outbox.inner.players first).sessionId =
      ⟨.sectorInfo, outbox.inner⟩ ::
        (again.queue (outbox.inner.players first).sessionId).tail := by
    rw [queue3, queue2, queue1, drained, if_pos rfl]
    rfl
  have content : again.inner.contentOf .sectorInfo =
      getSectorMonitoringInfo (outbox.inner.moved second sectorX sectorY) := by
    rw [state3, contentOf_refilled, state2, state1]
    rfl
  obtain ⟨post, run4⟩ := run3.transmit queue
  rw [List.append_assoc, List.append_assoc, List.append_assoc] at run4
  refine ⟨_, post, run4, rfl, _, List.mem_append_right _ (List.mem_append_right _
    (List.mem_append_right _ List.mem_cons_self)), ?_⟩
  rw [← content]

end Runs

namespace Sample

def playNetwork (events : List Event) (sessions : List ULONGLONG) :
    Option (List NetworkStep × Network) :=
  (network config).execute ⟨Server.initial fun _ => memory, fun _ => []⟩
    (events.map .handle ++ sessions.map .transmit)

theorem playNetwork_run (events : List Event) (sessions : List ULONGLONG)
    (played : (playNetwork events sessions).isSome = true) :
    NetworkRun config ((playNetwork events sessions).get played).1
      ((playNetwork events sessions).get played).2 := by
  have start : NetworkRun config [] ⟨Server.initial fun _ => memory, fun _ => []⟩ :=
    .start ⟨⟨_, rfl⟩, rfl⟩
  exact Run.execute start (Option.some_get played).symm

theorem playNetwork_events (events : List Event) (sessions : List ULONGLONG)
    (played : (playNetwork events sessions).isSome = true) :
    ((playNetwork events sessions).get played).1.map (·.event) =
      events.map .handle ++ sessions.map .transmit :=
  System.execute_events (Option.some_get played).symm

/-- Two players are in CHAT, and the first one's login reply is transmitted. -/
def twoPlayers : List Event := login 0 5 7 ++ login 1 6 8 ++ [.chatEnter 0, .chatEnter 1]

theorem twoPlayers_silent : ∀ event ∈ twoPlayers, ¬ AsksSectorInfo config event := by
  simp [twoPlayers, login, AsksSectorInfo]

end Sample

/-- The only request of a run is answered with its occupancy. -/
theorem sectorInfo_reply_alone :
    let played := (Sample.playNetwork Sample.twoPlayers [5]).get (by decide +kernel)
    ∃ after post, NetworkRun Sample.config (played.1 ++ after) post ∧
      (∃ taken ∈ after, taken.event = .transmit (played.2.inner.players 0).sessionId) ∧
      ∀ taken ∈ played.1 ++ after, TransmitsOccupancy taken ∧ QueuesOccupancy taken ∧
        KeepsReplies taken := by
  intro played
  have run : NetworkRun Sample.config played.1 played.2 := Sample.playNetwork_run _ _ (by decide +kernel)
  have drained : played.2.queue (played.2.inner.players 0).sessionId = [] :=
    List.isEmpty_iff.mp (by decide +kernel)
  have few : played.2.inner.playerList.length < 128 := by decide +kernel
  have fits : played.2.inner.populationFits :=
    ⟨fun y x _ _ => Nat.lt_of_le_of_lt (Server.population_le _ y x) few, by decide +kernel⟩
  have silent : ∀ taken ∈ played.1, ∀ event, taken.event = .handle event →
      ¬ AsksSectorInfo Sample.config event := by
    intro taken member event handles
    have handled : taken.event ∈ played.1.map (·.event) := List.mem_map_of_mem member
    rw [Sample.playNetwork_events, handles] at handled
    refine Sample.twoPlayers_silent event ?_
    simpa using handled
  obtain ⟨after, post, run', sent, current⟩ := first_reply run few (by decide +kernel)
    drained fits (by decide +kernel) silent
  exact ⟨after, post, run', sent, (sectorInfo_replies_iff run').mpr current⟩

/-- The first player's reply is still queued when the second player moves to (3, 4) and
    asks: the first player is told that somebody stands at (3, 4). -/
theorem sectorInfo_reply_rewritten :
    let played := (Sample.playNetwork Sample.twoPlayers [5]).get (by decide +kernel)
    ∃ after post, NetworkRun Sample.config (played.1 ++ after) post ∧
      after.map (·.event) = [.handle (.chatRecv 0 (wordBytes 9 ++ [])),
        .handle (.chatRecv 1 (sectorMoveWire Sample.config 8 3 4)),
        .handle (.chatRecv 1 (wordBytes 9 ++ [])),
        .transmit (played.2.inner.players 0).sessionId] ∧
      ∃ taken ∈ after, ¬ TransmitsOccupancy taken := by
  intro played
  have run : NetworkRun Sample.config played.1 played.2 := Sample.playNetwork_run _ _ (by decide +kernel)
  have drained : played.2.queue (played.2.inner.players 0).sessionId = [] :=
    List.isEmpty_iff.mp (by decide +kernel)
  have vacant : played.2.inner.population 4 3 = 0 := by decide +kernel
  have entered : sizeByte (played.2.inner.moved 1 3 4) (4, 3) = 1 := by decide +kernel
  have few : played.2.inner.playerList.length < 128 := by decide +kernel
  have chatFirst : played.2.inner.phase 0 = .chat := by decide +kernel
  have chatSecond : played.2.inner.phase 1 = .chat := by decide +kernel
  have accepts : acceptsMove (played.2.inner.players 1) 8 3 4 = true := by decide +kernel
  clear_value played
  obtain ⟨after, post, run', events, taken, member, sent⟩ :=
    reply_rewritten run few chatFirst chatSecond drained accepts
  refine ⟨after, post, run', events, taken, member, fun occupancy => ?_⟩
  have shown := occupancy _ (by rw [sent]; exact List.mem_singleton.mpr rfl) rfl
  have byte := shown.2 4 3 (by decide) (by decide)
  rw [getSectorMonitoringInfo_getElem? (by decide) (by decide), entered, vacant] at byte
  cases byte

end ChatServerRedis
