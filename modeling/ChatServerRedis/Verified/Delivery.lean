import ChatServerRedis.Verified.Interleaving
import ChatServerRedis.Verified.OnceEach
import ChatServerRedis.Verified.SectorInfoReplies

/-! # What a session is sent, and in which order

A step queues at most one packet for a session, and a send queue is transmitted in
order.  So what a client receives can be read off the steps of the server: the packets
of its session, in the order of the handler calls, up to the point the transmission has
reached.
-/

namespace ChatServerRedis

open Deferred Placement Transition

/-! ## The packets of one step -/

def Call.packetFor (sessionID : ULONGLONG) (made : Call) : Option PacketRef :=
  match made.sent with
  | some (other, ref) => if other = sessionID then some ref else none
  | none => none

def packetsFor (sessionID : ULONGLONG) (calls : List Call) : List PacketRef :=
  calls.filterMap (Call.packetFor sessionID)

def packetsSent (sessionID : ULONGLONG) (steps : List Step) : List PacketRef :=
  steps.flatMap fun taken => packetsFor sessionID taken.calls

theorem packetsSent_snoc (sessionID : ULONGLONG) (steps : List Step) (taken : Step) :
    packetsSent sessionID (steps ++ [taken]) =
      packetsSent sessionID steps ++ packetsFor sessionID taken.calls := by
  simp [packetsSent]

section Step

variable {config : Config} {server post : Server} {event : Event} {calls : List Call}
  {pPlayer : PlayerPtr} {sessionID : ULONGLONG}

theorem packetsFor_eq_nil (unaddressed : sessionID ∉ sessionsSent calls) :
    packetsFor sessionID calls = [] := by
  refine List.filterMap_eq_nil_iff.mpr fun made member => ?_
  cases sent : made.sent with
  | none => simp [Call.packetFor, sent]
  | some packet =>
    obtain ⟨other, ref⟩ := packet
    have differ : other ≠ sessionID := by
      rintro rfl
      exact unaddressed (List.mem_filterMap.mpr ⟨made, member, by rw [sent]; rfl⟩)
    simp [Call.packetFor, sent, differ]

theorem packetsFor_map (sessions : List ULONGLONG) (once : sessions.Nodup) (ref : PacketRef) :
    packetsFor sessionID (sessions.map fun other => .enqPacket other ref) =
      if sessionID ∈ sessions then [ref] else [] := by
  induction sessions with
  | nil => rfl
  | cons other sessions inductionHypothesis =>
    obtain ⟨fresh, once⟩ := List.nodup_cons.mp once
    have rest := inductionHypothesis once
    by_cases same : other = sessionID
    · subst same
      simp only [fresh, if_false] at rest
      simp [packetsFor, Call.packetFor, Call.sent] at rest ⊢
      exact rest
    · simp only [List.mem_cons, Ne.symm same, false_or]
      rw [← rest]
      simp [packetsFor, Call.packetFor, Call.sent, same]

abbrev Server.hearers (server : Server) (pPlayer : PlayerPtr) : List PlayerPtr :=
  server.audience (getSectorAround (server.players pPlayer).sectorX (server.players pPlayer).sectorY)

theorem Server.hearers_sessions_nodup (lifecycle : Lifecycle server)
    (placed : Placed server.sectors server.place) :
    ((server.hearers pPlayer).map fun other => (server.players other).sessionId).Nodup := by
  refine (audience_around_nodup placed _ _).map_on ?_
  intro first memberFirst second memberSecond same
  exact lifecycle.sessionId_injective (chat_of_audience placed memberFirst)
    (chat_of_audience placed memberSecond) same

theorem packetsFor_broadcastCalls (lifecycle : Lifecycle server)
    (placed : Placed server.sectors server.place) (messageLen : WORD) (message : List BYTE) :
    packetsFor sessionID (broadcastCalls config server pPlayer messageLen message ++ [.updateCntTps]) =
      if sessionID ∈ (server.hearers pPlayer).map fun other => (server.players other).sessionId then
        [messagePacket config (server.players pPlayer) messageLen message]
      else [] := by
  rw [← packetsFor_map _ (Server.hearers_sessions_nodup lifecycle placed)]
  simp only [packetsFor, broadcastCalls, cellCalls, Server.audience, List.filterMap_append,
    List.filterMap_flatMap, List.map_flatMap, List.filterMap_cons, List.filterMap_map]
  simp [Call.packetFor, Call.sent, Function.comp_def]

theorem packetsFor_moveCalls (sectorX sectorY : WORD) :
    packetsFor sessionID (moveCalls config server pPlayer sectorX sectorY ++ [.updateCntTps]) =
      if (server.players pPlayer).sessionId = sessionID then
        [.alloc (makeCsChatResSectorMove config (server.players pPlayer).accountNo sectorX sectorY)]
      else [] := by
  have removed : packetsFor sessionID (removeCalls server pPlayer) = [] :=
    packetsFor_eq_nil (by rw [sessionsSent_removeCalls]; exact List.not_mem_nil)
  rw [moveCalls, packetsFor, List.filterMap_append, List.filterMap_append, ← packetsFor, removed]
  by_cases own : (server.players pPlayer).sessionId = sessionID <;>
    simp [List.filterMap_cons, Call.packetFor, Call.sent, own]

theorem packetsFor_enterCalls :
    packetsFor sessionID (enterCalls config server pPlayer) =
      if (server.players pPlayer).bMonitoringLogin = false ∧
          (server.players pPlayer).sessionId = sessionID then
        [.alloc (makeCsChatResLogin config 1 (server.players pPlayer).accountNo)]
      else [] := by
  unfold enterCalls formerDisconnect
  cases (server.players pPlayer).bMonitoringLogin with
  | true => rfl
  | false =>
    by_cases own : (server.players pPlayer).sessionId = sessionID <;>
      cases server.loginPlayerMap (server.players pPlayer).accountNo <;>
        simp [packetsFor, List.filterMap_cons, Call.packetFor, Call.sent, own]

end Step

/-! ## The send queues -/

/-- The packets transmitted to a session and the packets still queued for it. -/
def packetsTo (history : List NetworkStep) (outbox : Network) (sessionID : ULONGLONG) :
    List PacketRef :=
  (transmitted history sessionID ++ outbox.queue sessionID).map Entry.ref

section Queues

variable {config : Config} {history : List NetworkStep} {outbox : Network}

theorem added_refs (server : Server) (calls : List Call) (sessionID : ULONGLONG) :
    (sendQueue.added server calls sessionID).map Entry.ref = packetsFor sessionID calls := by
  simp only [Medium.added, packetsFor, List.map_filterMap]
  refine List.filterMap_congr fun made _ => ?_
  simp only [sendQueue, Call.packetFor]
  cases made.sent with
  | none => rfl
  | some packet =>
    by_cases same : packet.1 = sessionID <;> simp [same]

def serverSteps (config : Config) (history : List NetworkStep) : List Step :=
  innerSteps (chatServer config) history

/-- Handler calls of the server explain all that a network has sent and will send. -/
theorem NetworkRun.packets (run : NetworkRun config history outbox) :
    ServerRun config (serverSteps config history) outbox.inner ∧
      ∀ sessionID, packetsTo history outbox sessionID =
        packetsSent sessionID (serverSteps config history) := by
  obtain ⟨inner, order⟩ := transmitted_append_queue run
  refine ⟨inner, fun sessionID => ?_⟩
  rw [packetsTo, order, Medium.addedBy, List.map_flatMap, packetsSent, serverSteps]
  simp only [added_refs]

theorem alloc_bytes (run : NetworkRun config history outbox) :
    ∀ transmission ∈ history.flatMap Taken.calls, ∀ payload,
      transmission.entry.ref = .alloc payload → transmission.bytes = payload := by
  intro transmission made payload own
  obtain ⟨taken, _, bytes⟩ := transmission_bytes run transmission made
  rw [bytes, own]
  rfl

end Queues

/-! ## The order of the messages -/

/-- RES_MESSAGE is the only packet of its own that is so long. -/
def PacketRef.isMessage : PacketRef → Bool
  | .alloc payload => 92 ≤ payload.length
  | .sectorInfo => false

/-- The payload of the message a step broadcasts. -/
def spoken (config : Config) (taken : Step) : Option (List BYTE) :=
  match taken.event with
  | .chatRecv pPlayer pPacket =>
    match decodeRequest config pPacket with
    | .message accountNo messageLen message =>
      let player := taken.pre.players pPlayer
      if speaksAs player accountNo then
        some (makeCsChatResMessage config player.accountNo player.ID player.nickName messageLen message)
      else none
    | _ => none
  | _ => none

/-- The messages of the steps with the sessions they go to. -/
def broadcasts (config : Config) (steps : List Step) : List (List BYTE × List ULONGLONG) :=
  steps.filterMap fun taken =>
    (spoken config taken).map fun payload => (payload, sessionsSent taken.calls)

def heardBy (sessionID : ULONGLONG) (log : List (List BYTE × List ULONGLONG)) : List PacketRef :=
  (log.filter fun entry => entry.2.contains sessionID).map fun entry => .alloc entry.1

section Messages

variable {config : Config} {server post : Server} {event : Event} {calls : List Call}

theorem isMessage_makeCsChatResMessage (accountNo : INT64) (ID : Vector WCHAR idLen)
    (nickName : Vector WCHAR nickNameLen) (messageLen : WORD) (message : List BYTE) :
    (PacketRef.alloc (makeCsChatResMessage config accountNo ID nickName messageLen message)).isMessage =
      true := by
  have lengthID : (wcharBytes ID).length = 40 := wcharBytes_length ID
  have lengthNick : (wcharBytes nickName).length = 40 := wcharBytes_length nickName
  simp only [PacketRef.isMessage, makeCsChatResMessage, List.length_append, wordBytes_length,
    int64Bytes_length, lengthID, lengthNick, decide_eq_true_eq]
  omega

theorem isMessage_makeCsChatResSectorMove (accountNo : INT64) (sectorX sectorY : WORD) :
    (PacketRef.alloc (makeCsChatResSectorMove config accountNo sectorX sectorY)).isMessage = false := by
  simp [PacketRef.isMessage, makeCsChatResSectorMove, wordBytes_length, int64Bytes_length]

theorem isMessage_makeCsChatResLogin (status : BYTE) (accountNo : INT64) :
    (PacketRef.alloc (makeCsChatResLogin config status accountNo)).isMessage = false := by
  simp [PacketRef.isMessage, makeCsChatResLogin, wordBytes_length, int64Bytes_length]

theorem spoken_chatIdle {pPlayer : PlayerPtr} {pPacket : List BYTE}
    (silent : ∀ accountNo messageLen message,
      decodeRequest config pPacket = .message accountNo messageLen message →
      speaksAs (server.players pPlayer) accountNo = false) :
    spoken config ⟨server, .chatRecv pPlayer pPacket, calls, post⟩ = none := by
  simp only [spoken]
  split
  · next accountNo messageLen message request => simp [silent _ _ _ request]
  · rfl

theorem StepCase.messages (lifecycle : Lifecycle server)
    (placed : Placed server.sectors server.place)
    (outcome : StepCase config server event post calls) (sessionID : ULONGLONG) :
    (packetsFor sessionID calls).filter PacketRef.isMessage =
      heardBy sessionID (broadcasts config [⟨server, event, calls, post⟩]) := by
  cases outcome with
  | @spoke pPlayer pPacket accountNo messageLen message chat request speaks =>
    have log : broadcasts config [⟨server, .chatRecv pPlayer pPacket,
        broadcastCalls config server pPlayer messageLen message ++ [.updateCntTps], server⟩] =
        [(makeCsChatResMessage config (server.players pPlayer).accountNo (server.players pPlayer).ID
          (server.players pPlayer).nickName messageLen message,
          (server.hearers pPlayer).map fun other => (server.players other).sessionId)] := by
      simp [broadcasts, spoken, request, speaks, sessionsSent_broadcastCalls]
    rw [log, packetsFor_broadcastCalls lifecycle placed]
    split
    · next heard => simp [heardBy, heard, messagePacket, isMessage_makeCsChatResMessage]
    · next unheard => simp [heardBy, unheard]
  | chatIdle _ _ silent quiet =>
    rw [packetsFor_eq_nil (by simp [sessionsSent_quiet quiet]), broadcasts, List.filterMap_cons,
      spoken_chatIdle silent]
    rfl
  | moved _ request =>
    rw [packetsFor_moveCalls, broadcasts, List.filterMap_cons]
    simp only [spoken, request]
    split <;> simp [heardBy, isMessage_makeCsChatResSectorMove]
  | sectorInfo _ request =>
    simp only [broadcasts, spoken, List.filterMap_cons, request]
    by_cases own : (server.players ‹_›).sessionId = sessionID <;>
      simp [packetsFor, List.filterMap_cons, Call.packetFor, Call.sent, own, PacketRef.isMessage, heardBy]
  | chatEnter =>
    rw [packetsFor_enterCalls]
    split <;> simp [heardBy, broadcasts, spoken, isMessage_makeCsChatResLogin]
  | loginIdle _ _ _ quiet =>
    rw [packetsFor_eq_nil (by simp [sessionsSent_quiet quiet])]
    rfl
  | monitorLogin =>
    rw [packetsFor_eq_nil (by simp [sessionsSent_monitorCalls])]
    rfl
  | chatLeave =>
    rw [packetsFor_eq_nil (by simp [sessionsSent_leaveCalls])]
    rfl
  | chatLeaveEarly chat login => exact absurd login (lifecycle.chat_bLogin chat)
  | accept | loginEnter | loggedIn | loginLeave => rfl

end Messages

section Order

variable {config : Config}

/-- The messages sent to a session are the broadcasts of the run that it is among the
    recipients of. -/
theorem ServerRun.messages {steps : List Step} {state : Server} (run : ServerRun config steps state)
    (sessionID : ULONGLONG) : (packetsSent sessionID steps).filter PacketRef.isMessage =
      heardBy sessionID (broadcasts config steps) := by
  induction run with
  | start => rfl
  | snoc run taken inductionHypothesis =>
    have here := (step_cases taken).messages (ServerRun.lifecycle run) (ServerRun.placed run) sessionID
    rw [packetsSent_snoc, List.filter_append, inductionHypothesis, here]
    simp [heardBy, broadcasts]

/-- One log of broadcasts explains what every client is told: the messages transmitted
    to a session and queued for it are those of the log that go to the session, in the
    order of the log, and a message is transmitted as it was built. -/
theorem messages_ordered {history : List NetworkStep} {outbox : Network}
    (run : NetworkRun config history outbox) :
    ∃ steps, ServerRun config steps outbox.inner ∧ steps.map Taken.event = handled history ∧
      (∀ sessionID, (packetsTo history outbox sessionID).filter PacketRef.isMessage =
        heardBy sessionID (broadcasts config steps)) ∧
      ∀ transmission ∈ history.flatMap Taken.calls, ∀ payload,
        transmission.entry.ref = .alloc payload → transmission.bytes = payload := by
  obtain ⟨inner, packets⟩ := run.packets
  refine ⟨_, inner, innerSteps_events history, fun sessionID => ?_, alloc_bytes run⟩
  rw [packets, ServerRun.messages inner]

end Order

/-- Two players in one sector speak one after the other; the second has received nothing
    but its login reply yet. -/
theorem messages_ordered_sample :
    let played := (Sample.playNetwork (Sample.twoPlayers ++ [
      .chatRecv 0 (sectorMoveWire Sample.config 7 3 4), .chatRecv 1 (sectorMoveWire Sample.config 8 3 4),
      .chatRecv 0 (messageWire Sample.config 7 2 [72, 105]),
      .chatRecv 1 (messageWire Sample.config 8 2 [72, 111])]) [5, 5, 6, 5, 5]).get (by decide +kernel)
    (∃ steps, ServerRun Sample.config steps played.2.inner ∧ ∀ sessionID,
      (packetsTo played.1 played.2 sessionID).filter PacketRef.isMessage =
        heardBy sessionID (broadcasts Sample.config steps)) ∧
    (transmitted played.1 6).length = 1 ∧
    ((packetsTo played.1 played.2 6).filter PacketRef.isMessage).length = 2 := by
  intro played
  have run : NetworkRun Sample.config played.1 played.2 := Sample.playNetwork_run _ _ (by decide +kernel)
  obtain ⟨steps, inner, _, heard, _⟩ := messages_ordered run
  exact ⟨⟨steps, inner, heard⟩, by decide +kernel, by decide +kernel⟩

end ChatServerRedis
