import ChatServerRedis.Verified.Delivery
import ChatServerRedis.Verified.RoomRefinement

/-! # A client sees the chat room

What a client receives, packet by packet, is what the room shows it, notice by notice:
the refinement of the room and the order of the send queues put together.
-/

namespace ChatServerRedis

open ChatRoom Deferred Refinement Transition

def PacketRef.payload? : PacketRef → Option (List BYTE)
  | .alloc payload => some payload
  | .sectorInfo => none

/-- The payload in which the session is told what the room shows. -/
def payloadTo (config : Config) (sessionID : ULONGLONG) (shown : ULONGLONG × ChatNotice) :
    Option (List BYTE) :=
  if shown.1 = sessionID then payloadOf config shown.2 else none

def payloadsFor (sessionID : ULONGLONG) (taken : Step) : List (List BYTE) :=
  (packetsFor sessionID taken.calls).filterMap PacketRef.payload?

section Step

variable {config : Config} {server post : Server} {event : Event} {calls : List Call}
  {sessionID : ULONGLONG} {payload : List BYTE}

theorem mem_packetsFor {ref : PacketRef} : ref ∈ packetsFor sessionID calls ↔
    ∃ made ∈ calls, made.sent = some (sessionID, ref) := by
  simp only [packetsFor, List.mem_filterMap]
  refine exists_congr fun made => and_congr_right fun _ => ?_
  unfold Call.packetFor
  cases made.sent with
  | none => simp
  | some packet => by_cases same : packet.1 = sessionID <;> simp [same, Prod.ext_iff]

theorem packetsFor_le_one (once : (sessionsSent calls).Nodup) (sessionID : ULONGLONG) :
    (packetsFor sessionID calls).length ≤ 1 := by
  induction calls with
  | nil => exact Nat.zero_le 1
  | cons made calls inductionHypothesis =>
    cases sent : made.sent with
    | none =>
      simp only [sessionsSent, List.filterMap_cons, sent, Option.map_none] at once
      simpa [packetsFor, Call.packetFor, sent] using inductionHypothesis once
    | some packet =>
      obtain ⟨other, ref⟩ := packet
      simp only [sessionsSent, List.filterMap_cons, sent, Option.map_some, List.nodup_cons] at once
      by_cases own : other = sessionID
      · have rest := packetsFor_eq_nil (own ▸ once.1)
        rw [packetsFor] at rest
        simp [packetsFor, Call.packetFor, sent, own, rest]
      · simpa [packetsFor, Call.packetFor, sent, own] using inductionHypothesis once.2

/-- A step sends the session a packet of its own for the one notice it has for it. -/
theorem StepCase.observed (lifecycle : Lifecycle server)
    (placed : Placement.Placed server.sectors server.place)
    (outcome : StepCase config server event post calls) (sessionID : ULONGLONG) :
    (roomView config).Observed (payloadTo config sessionID) ⟨server, event, calls, post⟩
      (payloadsFor sessionID ⟨server, event, calls, post⟩) := by
  have few := packetsFor_le_one (outcome.sent_once lifecycle placed) sessionID
  have queued : ∀ shown ∈ noticesOf config calls, ∀ payload,
      payloadTo config sessionID shown = some payload → .alloc payload ∈ packetsFor sessionID calls := by
    rintro ⟨who, notice⟩ ⟨made, member, told⟩ payload visible
    unfold payloadTo at visible
    split at visible
    · next own =>
      obtain rfl : who = sessionID := own
      obtain ⟨_, rfl⟩ | ⟨other, carried, sent⟩ := told
      · cases visible
      · obtain rfl := Option.some.inj (carried.symm.trans visible)
        exact mem_packetsFor.mpr ⟨made, member, sent⟩
    · cases visible
  have nothing : (∀ payload, .alloc payload ∉ packetsFor sessionID calls) →
      ∀ shown ∈ noticesOf config calls, payloadTo config sessionID shown = none := by
    intro unsent shown member
    refine Option.eq_none_iff_forall_ne_some.mpr fun payload visible => ?_
    exact unsent payload (queued shown member payload visible)
  unfold Abstraction.Observed payloadsFor
  cases packets : packetsFor sessionID calls with
  | nil =>
    refine .inr ⟨nothing fun payload => ?_, rfl⟩
    rw [packets]
    exact List.not_mem_nil
  | cons ref rest =>
    rw [packets, List.length_cons] at few
    obtain rfl : rest = [] := List.length_eq_zero_iff.mp (by omega)
    cases ref with
    | sectorInfo =>
      refine .inr ⟨nothing fun payload => ?_, rfl⟩
      rw [packets]
      simp
    | alloc payload =>
      have member : .alloc payload ∈ packetsFor sessionID calls := by
        rw [packets]
        exact List.mem_singleton_self _
      obtain ⟨made, called, sent⟩ := mem_packetsFor.mp member
      obtain ⟨notice, carried⟩ := outcome.carries lifecycle called sent
      exact .inl ⟨(sessionID, notice), ⟨made, called, .inr ⟨payload, carried, sent⟩⟩, payload,
        by simp [payloadTo, carried], rfl⟩

end Step

/-- The room shows a session at most one thing at a time that is sent in a packet. -/
theorem room_sees_unique {config : Config} {sessionID : ULONGLONG} {acts : List RoomAct}
    {seen seen' : List (List BYTE)}
    (sees : (chatRoom nearPlace).Sees (payloadTo config sessionID) acts seen)
    (sees' : (chatRoom nearPlace).Sees (payloadTo config sessionID) acts seen') : seen = seen' := by
  refine sees.unique (fun state act first member second member' observation observation' here here' => ?_)
    sees'
  obtain ⟨who, notice⟩ := first
  obtain ⟨who', notice'⟩ := second
  have carried : ∀ {who notice payload}, payloadTo config sessionID (who, notice) = some payload →
      who = sessionID ∧ payloadOf config notice = some payload ∧ notice ≠ .dismissed := by
    intro who notice payload visible
    unfold payloadTo at visible
    split at visible
    · next own =>
      refine ⟨own, visible, ?_⟩
      rintro rfl
      cases visible
    · cases visible
  obtain ⟨rfl, payload, stays⟩ := carried here
  obtain ⟨rfl, payload', stays'⟩ := carried here'
  obtain rfl := Room.act_shows_once nearPlace state member member' stays stays'
  exact Option.some.inj (payload.symm.trans payload')

/-- The packets transmitted to a session and queued for it are, in order, what the room
    shows the session as it performs the actions of the server; replies to SECTOR_INFO
    come in between.  A packet is transmitted as it was built. -/
theorem client_sees_room {config : Config} {history : List NetworkStep} {outbox : Network}
    (run : NetworkRun config history outbox)
    (moves : MovesInGrid config (serverSteps config history))
    (placed : SpeakersPlaced config (serverSteps config history)) :
    (∀ sessionID seen, (chatRoom nearPlace).Sees (payloadTo config sessionID)
      ((roomView config).acts (serverSteps config history)) seen ↔
        seen = (packetsTo history outbox sessionID).filterMap PacketRef.payload?) ∧
    ∀ transmission ∈ history.flatMap Taken.calls, ∀ payload,
      transmission.entry.ref = .alloc payload → transmission.bytes = payload := by
  obtain ⟨inner, packets⟩ := run.packets
  refine ⟨fun sessionID seen => ?_, alloc_bytes run⟩
  have observed : ∀ taken ∈ serverSteps config history, (roomView config).Observed
      (payloadTo config sessionID) taken (payloadsFor sessionID taken) :=
    inner.forall_mem fun _ _ _ _ _ reached outcome =>
      outcome.observed reached.lifecycle reached.placed sessionID
  have sees := Run.sees inner room_start (room_matches inner moves placed) observed
  rw [packets, packetsSent, List.filterMap_flatMap]
  constructor
  · intro sees'
    exact room_sees_unique sees' sees
  · rintro rfl
    exact sees

/-- What the first of two players that meet is shown: it is welcomed, moved and greeted. -/
theorem client_sees_room_sample :
    let played := (Sample.playNetwork (Sample.twoPlayers ++ [
      .chatRecv 0 (sectorMoveWire Sample.config 7 6 6), .chatRecv 1 (sectorMoveWire Sample.config 8 7 7),
      .chatRecv 1 (messageWire Sample.config 8 2 [104, 105])]) [5, 5]).get (by decide +kernel)
    (chatRoom nearPlace).Sees (payloadTo Sample.config 5)
      ((roomView Sample.config).acts (serverSteps Sample.config played.1))
      [makeCsChatResLogin Sample.config 1 7, makeCsChatResSectorMove Sample.config 7 6 6,
        makeCsChatResMessage Sample.config 8 (Vector.replicate idLen 0)
          (Vector.replicate nickNameLen 0) 2 [104, 105]] := by
  intro played
  have run : NetworkRun Sample.config played.1 played.2 := Sample.playNetwork_run _ _ (by decide +kernel)
  have inGrid : ∀ step ∈ serverSteps Sample.config played.1, ∀ call ∈ step.calls, call.inGrid = true := by
    decide +kernel
  have moves : MovesInGrid Sample.config (serverSteps Sample.config played.1) := by
    refine run.packets.1.movesInGrid fun step member pPlayer y x used => ?_
    simpa [Call.inGrid] using inGrid step member _ used
  have sees := (client_sees_room run moves (by decide +kernel)).1 5
  refine (sees _).mpr ?_
  decide +kernel

end ChatServerRedis
