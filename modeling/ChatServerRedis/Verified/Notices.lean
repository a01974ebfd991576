import ChatServerRedis.Model.Room
import ChatServerRedis.Verified.Addressing
import ChatServerRedis.Verified.Interleaving

/-! # Notices on the wire

What the server tells its clients, as notices of the chat room, and the packets that
carry them.  A packet carries one notice at most: its length tells the kind, and the
fields can be read back.
-/

namespace ChatServerRedis

open ChatRoom

abbrev Place := WORD × WORD

abbrev Names := Vector WCHAR idLen × Vector WCHAR nickNameLen

abbrev Utterance := { text : List BYTE // text.length < 2 ^ 16 }

abbrev ChatNotice := Notice INT64 Names Place Utterance

/-- The payload that carries a notice; a dismissed session is sent nothing. -/
def payloadOf (config : Config) : ChatNotice → Option (List BYTE)
  | .welcome account => some (makeCsChatResLogin config 1 account)
  | .moved account place => some (makeCsChatResSectorMove config account place.1 place.2)
  | .said account name text => some (makeCsChatResMessage config account name.1 name.2
      (BitVec.ofNat 16 text.1.length) text.1)
  | .dismissed => none

/-- The call tells the session the notice. -/
def Call.tells (config : Config) (made : Call) (sessionID : ULONGLONG) (notice : ChatNotice) : Prop :=
  made = .disconnect sessionID ∧ notice = .dismissed ∨
    ∃ payload, payloadOf config notice = some payload ∧ made.sent = some (sessionID, .alloc payload)

section Injective

variable {config : Config}

theorem wordBytes_injective {first second : WORD} (same : wordBytes first = wordBytes second) :
    first = second := by
  have parsed := readWord_wordBytes second []
  rw [← same, readWord_wordBytes] at parsed
  simpa using parsed

theorem int64Bytes_injective {first second : INT64} (same : int64Bytes first = int64Bytes second) :
    first = second := by
  have parsed := readInt64_int64Bytes second []
  rw [← same, readInt64_int64Bytes] at parsed
  simpa using parsed

theorem flatMap_wordBytes_injective {first second : List WCHAR}
    (same : first.flatMap wordBytes = second.flatMap wordBytes) : first = second := by
  induction first generalizing second with
  | nil =>
    cases second with
    | nil => rfl
    | cons character _ =>
      have lengths := congrArg List.length same
      simp [wordBytes_length] at lengths
      omega
  | cons character first inductionHypothesis =>
    cases second with
    | nil =>
      have lengths := congrArg List.length same
      simp [wordBytes_length] at lengths
    | cons other second =>
      simp only [List.flatMap_cons] at same
      obtain ⟨head, tail⟩ := List.append_inj same (by rw [wordBytes_length, wordBytes_length])
      rw [wordBytes_injective head, inductionHypothesis tail]

theorem wcharBytes_injective {length : Nat} {first second : Vector WCHAR length}
    (same : wcharBytes first = wcharBytes second) : first = second :=
  Vector.toList_inj.mp (flatMap_wordBytes_injective same)

theorem makeCsChatResLogin_injective {account account' : INT64}
    (same : makeCsChatResLogin config 1 account = makeCsChatResLogin config 1 account') :
    account = account' :=
  int64Bytes_injective (List.append_cancel_left same)

theorem makeCsChatResSectorMove_injective {account account' : INT64}
    {sectorX sectorY sectorX' sectorY' : WORD}
    (same : makeCsChatResSectorMove config account sectorX sectorY =
      makeCsChatResSectorMove config account' sectorX' sectorY') :
    account = account' ∧ sectorX = sectorX' ∧ sectorY = sectorY' := by
  simp only [makeCsChatResSectorMove, List.append_assoc] at same
  obtain ⟨accountField, rest⟩ := List.append_inj (List.append_cancel_left same)
    (by rw [int64Bytes_length, int64Bytes_length])
  obtain ⟨fieldX, fieldY⟩ := List.append_inj rest (by rw [wordBytes_length, wordBytes_length])
  exact ⟨int64Bytes_injective accountField, wordBytes_injective fieldX, wordBytes_injective fieldY⟩

theorem take_utterance (text : Utterance) :
    text.1.take (BitVec.ofNat 16 text.1.length).toNat = text.1 := by
  rw [BitVec.toNat_ofNat, Nat.mod_eq_of_lt text.2, List.take_length]

theorem said_injective {account account' : INT64} {name name' : Names} {text text' : Utterance}
    (same : payloadOf config (.said account name text) = payloadOf config (.said account' name' text')) :
    account = account' ∧ name = name' ∧ text = text' := by
  simp only [payloadOf, Option.some.injEq, makeCsChatResMessage, List.append_assoc,
    take_utterance] at same
  obtain ⟨accountField, rest⟩ := List.append_inj (List.append_cancel_left same)
    (by rw [int64Bytes_length, int64Bytes_length])
  obtain ⟨fieldID, rest⟩ := List.append_inj rest (by rw [wcharBytes_length, wcharBytes_length])
  obtain ⟨fieldNick, rest⟩ := List.append_inj rest (by rw [wcharBytes_length, wcharBytes_length])
  obtain ⟨_, fieldText⟩ := List.append_inj rest (by rw [wordBytes_length, wordBytes_length])
  exact ⟨int64Bytes_injective accountField,
    Prod.ext (wcharBytes_injective fieldID) (wcharBytes_injective fieldNick), Subtype.ext fieldText⟩

theorem payloadOf_length (notice : ChatNotice) {payload : List BYTE}
    (carried : payloadOf config notice = some payload) :
    payload.length = match notice with
      | .welcome _ => 11
      | .moved _ _ => 14
      | .said _ _ text => 92 + text.1.length
      | .dismissed => 0 := by
  cases notice with
  | welcome account =>
    cases carried
    simp [makeCsChatResLogin, wordBytes_length, int64Bytes_length]
  | moved account place =>
    cases carried
    simp [makeCsChatResSectorMove, wordBytes_length, int64Bytes_length]
  | said account name text =>
    have lengthID : (wcharBytes name.1).length = 40 := wcharBytes_length name.1
    have lengthNick : (wcharBytes name.2).length = 40 := wcharBytes_length name.2
    cases carried
    simp only [makeCsChatResMessage, take_utterance, List.length_append, wordBytes_length,
      int64Bytes_length, lengthID, lengthNick]
  | dismissed => cases carried

/-- A packet carries one notice at most, whatever the types of the packets are. -/
theorem payloadOf_injective {notice notice' : ChatNotice} {payload : List BYTE}
    (carried : payloadOf config notice = some payload)
    (carried' : payloadOf config notice' = some payload) : notice = notice' := by
  have length := payloadOf_length notice carried
  have length' := payloadOf_length notice' carried'
  have same := carried.trans carried'.symm
  -- packets of different kinds have different lengths
  cases notice with
  | welcome account =>
    cases notice' with
    | welcome account' => rw [makeCsChatResLogin_injective (Option.some.inj same)]
    | moved | said => simp only at length length'; omega
    | dismissed => cases carried'
  | moved account place =>
    cases notice' with
    | moved account' place' =>
      obtain ⟨rfl, sameX, sameY⟩ := makeCsChatResSectorMove_injective (Option.some.inj same)
      rw [Prod.ext sameX sameY]
    | welcome | said => simp only at length length'; omega
    | dismissed => cases carried'
  | said account name text =>
    cases notice' with
    | said account' name' text' =>
      obtain ⟨rfl, rfl, rfl⟩ := said_injective same
      rfl
    | welcome | moved => simp only at length length'; omega
    | dismissed => cases carried'
  | dismissed => cases carried

end Injective

/-! ## What calls tell -/

/-- What a step tells its clients; the replies to SECTOR_INFO requests are no notices. -/
def noticesOf (config : Config) (calls : List Call) : Set (ULONGLONG × ChatNotice) :=
  { shown | ∃ made ∈ calls, made.tells config shown.1 shown.2 }

section Tells

variable {config : Config} {sessionID other : ULONGLONG} {notice notice' : ChatNotice}
  {payload : List BYTE} {made : Call}

@[simp] theorem tells_disconnect : (Call.disconnect other).tells config sessionID notice ↔
    other = sessionID ∧ notice = .dismissed := by
  simp [Call.tells, Call.sent]

theorem tells_sent (carried : payloadOf config notice' = some payload)
    (sent : made.sent = some (other, .alloc payload)) :
    made.tells config sessionID notice ↔ other = sessionID ∧ notice = notice' := by
  constructor
  · rintro (⟨rfl, _⟩ | ⟨payload', carries, sent'⟩)
    · cases sent
    · rw [sent] at sent'
      cases sent'
      exact ⟨rfl, payloadOf_injective carries carried⟩
  · rintro ⟨rfl, rfl⟩
    exact .inr ⟨payload, carried, sent⟩

theorem not_tells (stays : ∀ other, made ≠ .disconnect other)
    (silent : ∀ other payload, made.sent ≠ some (other, .alloc payload)) :
    ¬ made.tells config sessionID notice := by
  rintro (⟨rfl, _⟩ | ⟨payload, _, sent⟩)
  · exact stays _ rfl
  · exact silent _ _ sent

end Tells

end ChatServerRedis
