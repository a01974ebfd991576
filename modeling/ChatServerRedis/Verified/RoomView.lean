import ChatServerRedis.Verified.Broadcast
import ChatServerRedis.Verified.Monitoring
import ChatServerRedis.Verified.Notices

/-! # The server as a chat room

`Server.room` reads the room off the server: the members are the sessions in CHAT, the
holders of the accounts come from `loginPlayerMap`, the monitor from
`MonitoringClientSessionID`.  `actOf` reads off a step what it does in the room.
-/

namespace ChatServerRedis

open ChatRoom Refinement Transition

abbrev ServerRoom := Room ULONGLONG INT64 Names Place

abbrev RoomAct := Act ULONGLONG INT64 Names Place Utterance

def nearPlace (first second : Place) : Prop := near first.1 second.1 ∧ near first.2 second.2

namespace Server

def memberAt (server : Server) (pPlayer : PlayerPtr) : Member INT64 Names Place :=
  let player := server.players pPlayer
  { account := player.accountNo
    name := (player.ID, player.nickName)
    ordinary := !player.bMonitoringLogin
    place := if player.bRegisterAtSector then some (player.sectorX, player.sectorY) else none }

def room (server : Server) : ServerRoom where
  member sessionID :=
    (server.playerList.find? fun pPlayer => server.session pPlayer = sessionID).map server.memberAt
  holder accountNo := (server.loginPlayerMap accountNo).map server.session
  monitor := server.monitorOwner ()

end Server

/-! ## What a step does in the room -/

def requestAct (who : ULONGLONG) (player : Player) : ChatRequest → Option RoomAct
  | .sectorMove accountNo sectorX sectorY =>
    if acceptsMove player accountNo sectorX sectorY then some (.move who (sectorX, sectorY))
    else some (.offend who)
  | .message accountNo _ message =>
    if speaksAs player accountNo then
      if small : message.length < 2 ^ 16 then some (.speak who ⟨message, small⟩) else none
    else some (.offend who)
  | .heartbeat | .sectorInfo => none
  | .refused | .malformed | .unknown => some (.offend who)

/-- A packet in LOGIN of the session, which was admitted or not. -/
def loginAct (config : Config) (who : ULONGLONG) (admitted : Bool) (pPacket : List BYTE) :
    Option RoomAct :=
  match readWord pPacket with
  | none => some (.offend who)
  | some (type, _) =>
    if type = config.csChatMonitorClientLogin then some (.watch who)
    else if type = config.csChatReqLogin then if admitted then none else some (.offend who)
    else none

def actOf (config : Config) (taken : Step) : Option RoomAct :=
  match taken.event with
  | .accept _ _ _ | .loginEnter _ | .loginLeave _ => none
  | .loginRecv pPlayer _ _ _ pPacket =>
    loginAct config (taken.pre.session pPlayer) (taken.post.phase pPlayer = .moving) pPacket
  | .chatEnter pPlayer =>
    let player := taken.pre.players pPlayer
    some (.enter (taken.pre.session pPlayer) player.accountNo (player.ID, player.nickName)
      (!player.bMonitoringLogin))
  | .chatRecv pPlayer pPacket =>
    requestAct (taken.pre.session pPlayer) (taken.pre.players pPlayer) (decodeRequest config pPacket)
  | .chatLeave pPlayer => some (.leave (taken.pre.session pPlayer))

def roomView (config : Config) :
    Abstraction Server Event Call ServerRoom RoomAct (ULONGLONG × ChatNotice) where
  view := Server.room
  act := actOf config
  shows taken := noticesOf config taken.calls

/-! ## Members -/

section Members

variable {config : Config} {server post : Server} {event : Event} {calls : List Call}
  {pPlayer : PlayerPtr} {sessionID : ULONGLONG}

theorem Lifecycle.member_eq_some (lifecycle : Lifecycle server) (chat : server.phase pPlayer = .chat) :
    server.room.member (server.session pPlayer) = some (server.memberAt pPlayer) := by
  have listed := (lifecycle.chatters.mem_iff pPlayer).mpr chat
  simp only [Server.room, Option.map_eq_some_iff]
  cases found : server.playerList.find? fun other => server.session other = server.session pPlayer with
  | none =>
    have missing := List.find?_eq_none.mp found pPlayer listed
    simp at missing
  | some other =>
    have same : server.session other = server.session pPlayer := by simpa using List.find?_some found
    have chatOther := (lifecycle.chatters.mem_iff other).mp (List.mem_of_find?_eq_some found)
    have here := lifecycle.distinct other pPlayer (by simp [chatOther]) (by simp [chat]) same
    exact ⟨other, rfl, by rw [here]⟩

theorem Lifecycle.member_eq_none (lifecycle : Lifecycle server)
    (absent : ∀ pPlayer, server.phase pPlayer = .chat → server.session pPlayer ≠ sessionID) :
    server.room.member sessionID = none := by
  simp only [Server.room, Option.map_eq_none_iff, List.find?_eq_none, decide_eq_true_eq]
  intro pPlayer listed
  exact absent pPlayer ((lifecycle.chatters.mem_iff pPlayer).mp listed)

/-- A member of the room is a player of CHAT. -/
theorem Lifecycle.member_iff (lifecycle : Lifecycle server) {member : Member INT64 Names Place} :
    server.room.member sessionID = some member ↔
      ∃ pPlayer, server.phase pPlayer = .chat ∧ server.session pPlayer = sessionID ∧
        server.memberAt pPlayer = member := by
  constructor
  · intro present
    by_contra nobody
    have absent : server.room.member sessionID = none := by
      refine lifecycle.member_eq_none fun pPlayer chat session => nobody ⟨pPlayer, chat, session, ?_⟩
      rw [← session, lifecycle.member_eq_some chat] at present
      exact Option.some.inj present
    rw [absent] at present
    cases present
  · rintro ⟨pPlayer, chat, rfl, rfl⟩
    exact lifecycle.member_eq_some chat

theorem StepCase.member_kept (outcome : StepCase config server event post calls)
    (lifecycle : Lifecycle server) (lifecycle' : Lifecycle post) (sessionID : ULONGLONG)
    (before : server.phase event.slot = .chat → server.session event.slot ≠ sessionID)
    (after : post.phase event.slot = .chat → post.session event.slot ≠ sessionID) :
    post.room.member sessionID = server.room.member sessionID := by
  have frame := @StepCase.frame _ _ _ _ _ outcome
  have same : ∀ other, other ≠ event.slot → post.memberAt other = server.memberAt other := by
    intro other differ
    rw [Server.memberAt, (frame differ).2.2]
    rfl
  apply Option.ext
  intro member
  rw [lifecycle.member_iff, lifecycle'.member_iff]
  apply exists_congr
  intro other
  by_cases here : other = event.slot
  · subst here
    exact iff_of_false (fun present => after present.1 present.2.1)
      (fun present => before present.1 present.2.1)
  · rw [(frame here).1, (frame here).2.1, same other here]

theorem StepCase.members_kept (outcome : StepCase config server event post calls)
    (lifecycle : Lifecycle server) (before : server.phase event.slot ≠ .chat)
    (after : post.phase event.slot ≠ .chat) : post.room.member = server.room.member := by
  funext sessionID
  exact outcome.member_kept lifecycle (lifecycle.step outcome) sessionID (fun chat => absurd chat before)
    (fun chat => absurd chat after)

theorem holder_kept {history : List Step} (registered : LoginMapRegistered history server)
    (map : post.loginPlayerMap = server.loginPlayerMap)
    (sessions : ∀ other, server.phase other = .chat → post.session other = server.session other) :
    post.room.holder = server.room.holder := by
  funext accountNo
  simp only [Server.room, map]
  cases owner : server.loginPlayerMap accountNo with
  | none => rfl
  | some other =>
    have chat := (registered.owner_holding owner).1
    simp [sessions other chat]

end Members

end ChatServerRedis
