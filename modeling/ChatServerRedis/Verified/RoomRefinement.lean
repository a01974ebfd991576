import ChatServerRedis.Verified.OnceEach
import ChatServerRedis.Verified.RoomView
import ChatServerRedis.Verified.SectorInfoReplies

/-! # The server refines the chat room

Every step of the server performs its action in the room and tells what the action
shows, as long as moves stay in the grid and nobody speaks before it has moved.
`noticesOf` is a set and leaves out every packet without a notice; `TellsOnce` adds that
no session is told anything twice, and that the only such packets are the replies to
SECTOR_INFO, which the room does not show.
-/

namespace ChatServerRedis

open ChatRoom Placement Refinement Transition

def speaker (config : Config) (taken : Step) : Option PlayerPtr :=
  match taken.event with
  | .chatRecv pPlayer pPacket =>
    match decodeRequest config pPacket with
    | .message accountNo _ _ =>
      if speaksAs (taken.pre.players pPlayer) accountNo then some pPlayer else none
    | _ => none
  | _ => none

/-- Whoever speaks has moved before. -/
def SpeakersPlaced (config : Config) (history : List Step) : Prop :=
  ∀ taken ∈ history, ∀ pPlayer ∈ speaker config taken, taken.pre.registered pPlayer

instance {config : Config} {history : List Step} : Decidable (SpeakersPlaced config history) :=
  inferInstanceAs (Decidable (∀ taken ∈ history, ∀ pPlayer ∈ speaker config taken, _))

section Step

variable {config : Config} {history : List Step} {server post : Server} {event : Event}
  {calls : List Call} {pPlayer : PlayerPtr} {sessionID : ULONGLONG}

theorem matches_some (act : RoomAct) {taken : Step} (performed : actOf config taken = some act)
    (room : taken.post.room = (taken.pre.room.act nearPlace act).1)
    (notices : noticesOf config taken.calls = (taken.pre.room.act nearPlace act).2) :
    (roomView config).Matches (chatRoom nearPlace) taken := by
  simp only [Abstraction.Matches, roomView, performed, chatRoom]
  exact Prod.ext room.symm notices.symm

theorem matches_none {taken : Step} (idle : actOf config taken = none)
    (room : taken.post.room = taken.pre.room) (notices : noticesOf config taken.calls = ∅) :
    (roomView config).Matches (chatRoom nearPlace) taken := by
  simp only [Abstraction.Matches, roomView, idle]
  exact ⟨room, notices⟩

/-- A step of a player that stays out of CHAT, and leaves the two registers alone. -/
theorem StepCase.room_kept (outcome : StepCase config server event post calls)
    (reached : ServerRun config history server) (before : server.phase event.slot ≠ .chat)
    (after : post.phase event.slot ≠ .chat) (map : post.loginPlayerMap = server.loginPlayerMap)
    (monitor : post.monitoringClientSessionID = server.monitoringClientSessionID) :
    post.room = server.room := by
  refine Room.ext (outcome.members_kept reached.lifecycle before after) ?_ ?_
  · refine holder_kept reached.loginMap map fun other chat => ?_
    exact (outcome.frame fun same => before (same ▸ chat)).2.1
  · simp only [Server.room, Server.monitorOwner, monitor]

/-! ## What the calls of a step tell -/

theorem noticesOf_eq_empty (silent : ∀ made ∈ calls, made.addressee = none) :
    noticesOf config calls = ∅ := by
  refine Set.eq_empty_of_forall_notMem fun shown tells => ?_
  obtain ⟨made, member, told⟩ := tells
  have nobody := silent made member
  refine not_tells ?_ ?_ told
  · rintro other rfl
    cases nobody
  · intro other payload sent
    rw [Call.addressee_of_sent sent] at nobody
    cases nobody

theorem noticesOf_disconnect (member : .disconnect sessionID ∈ calls)
    (others : ∀ made ∈ calls, made = .disconnect sessionID ∨ made.addressee = none) :
    noticesOf config calls = {(sessionID, .dismissed)} := by
  ext ⟨other, notice⟩
  rw [Set.mem_singleton_iff, Prod.mk.injEq]
  constructor
  · rintro ⟨made, present, told⟩
    rcases others made present with rfl | nobody
    · exact ⟨(tells_disconnect.mp told).1.symm, (tells_disconnect.mp told).2⟩
    · have silent : (other, notice) ∉ noticesOf config [made] := by
        rw [noticesOf_eq_empty (by simpa using nobody)]
        exact Set.notMem_empty _
      exact absurd ⟨made, List.mem_singleton_self _, told⟩ silent
  · rintro ⟨rfl, rfl⟩
    exact ⟨_, member, tells_disconnect.mpr ⟨rfl, rfl⟩⟩

/-! ## Steps in LOGIN -/

theorem loginIdle_matches {typeLocal : WORD} {reply : Reply} {beyond : Nat → BYTE}
    {pPacket : List BYTE} (login : server.phase pPlayer = .login)
    (ordinary : ¬ IsMonitorLogin config pPacket)
    (result : loginResult config server pPlayer typeLocal reply beyond pPacket =
      some (server, calls)) :
    (roomView config).Matches (chatRoom nearPlace)
      ⟨server, .loginRecv pPlayer typeLocal reply beyond pPacket, calls, server⟩ := by
  have others : ∀ made ∈ calls, made = .disconnect (server.session pPlayer) ∨ made.addressee = none :=
    fun made member => (loginResult_addressee result made member).resolve_right
      fun monitor => ordinary monitor.1
  have offends : .disconnect (server.session pPlayer) ∈ calls →
      noticesOf config calls = {(server.session pPlayer, .dismissed)} :=
    fun made => noticesOf_disconnect made others
  have label : config.csChatReqLogin ≠ config.csChatMonitorClientLogin := config.loginLabels_ne.2.1
  obtain ⟨post, same, outcome⟩ : ∃ post, post = server ∧
      LoginCase config server pPlayer reply beyond pPacket post calls := ⟨server, rfl, login_cases result⟩
  cases outcome with
  | truncated type =>
    exact matches_some (.offend (server.session pPlayer)) (by simp [actOf, loginAct, type]) rfl
      (offends (by simp))
  | refused type | denied type =>
    exact matches_some (.offend (server.session pPlayer))
      (by simp [actOf, loginAct, type, label, login]) rfl (offends (by simp))
  | heartbeat type =>
    have heartbeat := config.loginLabels_ne
    exact matches_none (by simp [actOf, loginAct, type, Ne.symm heartbeat.1, heartbeat.2.2]) rfl
      (noticesOf_eq_empty (by simp [Call.addressee]))
  | granted =>
    -- the player would be on its way to CHAT
    have phase := congrArg (fun last => last.phase pPlayer) same
    simp [login] at phase
  | monitor type => exact absurd ⟨_, type⟩ ordinary

theorem loginRecv_matches (reached : ServerRun config history server) {typeLocal : WORD}
    {reply : Reply} {beyond : Nat → BYTE} {pPacket : List BYTE}
    (taken : (chatServer config).step server (.loginRecv pPlayer typeLocal reply beyond pPacket) =
      some (post, calls)) :
    (roomView config).Matches (chatRoom nearPlace)
      ⟨server, .loginRecv pPlayer typeLocal reply beyond pPacket, calls, post⟩ := by
  obtain ⟨login, result⟩ := step_loginRecv taken
  have outcome := step_cases taken
  have stays : server.phase pPlayer ≠ .chat := by simp [login]
  by_cases monitor : IsMonitorLogin config pPacket
  · rw [loginResult_monitor monitor] at result
    cases result
    have sessionId := (reached.lifecycle.slots pPlayer).sessionId (by simp [login])
    obtain ⟨rest, typeField⟩ := monitor
    refine matches_some (.watch (server.session pPlayer))
      (by simp [actOf, loginAct, typeField]) (Room.ext ?_ ?_ ?_) ?_
    · exact outcome.members_kept reached.lifecycle stays (by simp [Event.slot])
    · exact holder_kept reached.loginMap rfl fun other _ => rfl
    -- an id that the register can hold, because it is not the reserved one
    · exact monitorOwner_eq_some.mpr ⟨sessionId, reached.lifecycle.session_valid (by simp [login])⟩
    · ext ⟨other, notice⟩
      simp only [noticesOf, Set.mem_ofPred_eq, List.mem_append, mem_monitorCalls, Room.act,
        Room.dismissal, Server.room, monitorOwner_eq_some]
      constructor
      · rintro ⟨made, (rfl | ⟨set, rfl⟩ | rfl | rfl) | member, told⟩
        · simp [Call.tells, Call.sent] at told
        · obtain ⟨rfl, rfl⟩ := tells_disconnect.mp told
          exact ⟨⟨rfl, set⟩, rfl⟩
        · simp [Call.tells, Call.sent] at told
        · simp [Call.tells, Call.sent] at told
        · rw [List.mem_singleton.mp member] at told
          simp [Call.tells, Call.sent] at told
      · rintro ⟨⟨rfl, set⟩, rfl⟩
        exact ⟨_, .inl (.inr (.inl ⟨set, rfl⟩)), tells_disconnect.mpr ⟨rfl, rfl⟩⟩
  · by_cases granted : ∃ accountNo, GrantsLogin config server reply beyond pPacket accountNo
    · obtain ⟨accountNo, granted⟩ := granted
      obtain ⟨rest, _, ID, nickName, type, _, _, _, rfl, rfl⟩ := loginResult_granted granted result
      have notMonitor : config.csChatReqLogin ≠ config.csChatMonitorClientLogin :=
        config.loginLabels_ne.2.1
      refine matches_none (by simp [actOf, loginAct, type, notMonitor]) ?_
        (noticesOf_eq_empty (by simp [Call.addressee]))
      exact outcome.room_kept reached stays (by simp [Event.slot]) rfl rfl
    · obtain ⟨rfl, _⟩ := loginResult_idle (not_exists.mp granted) monitor result
      exact loginIdle_matches login monitor result

/-! ## Entering -/

theorem entered_holder :
    ((server.enterChat pPlayer).entered pPlayer).room.holder =
      if !(server.players pPlayer).bMonitoringLogin then
        Function.update server.room.holder (server.players pPlayer).accountNo
          (some (server.session pPlayer))
      else server.room.holder := by
  funext accountNo
  cases monitoring : (server.players pPlayer).bMonitoringLogin with
  | true => simp [Server.room, monitoring]
  | false =>
    by_cases own : accountNo = (server.players pPlayer).accountNo
    · subst own
      simp [Server.room, monitoring]
    · simp [Server.room, monitoring, own]

theorem noticesOf_enterCalls (reached : ServerRun config history server)
    (moving : server.phase pPlayer = .moving) :
    noticesOf config (enterCalls config server pPlayer) =
      if !(server.players pPlayer).bMonitoringLogin then
        insert (server.session pPlayer, .welcome (server.players pPlayer).accountNo)
          (Room.dismissal (server.room.holder (server.players pPlayer).accountNo))
      else ∅ := by
  have own := (reached.lifecycle.slots pPlayer).sessionId (by simp [moving])
  -- the handler reads the id in the player, the room the one of its slot
  have former : ∀ other, server.loginPlayerMap (server.players pPlayer).accountNo = some other →
      (server.players other).sessionId = server.session other := by
    intro other owner
    have chat := (reached.loginMap.owner_holding owner).1
    exact (reached.lifecycle.slots other).sessionId (by simp [chat])
  have unheard : ∀ who notice, ¬ (Call.setLogin (server.players pPlayer).sessionId).tells config who notice :=
    fun who notice => not_tells (by simp) (by simp [Call.sent])
  ext ⟨who, notice⟩
  cases monitoring : (server.players pPlayer).bMonitoringLogin with
  | true => simp [noticesOf, enterCalls, monitoring, unheard]
  | false =>
    have welcome : ∀ who notice, (Call.sendPacket (server.players pPlayer).sessionId
        (.alloc (makeCsChatResLogin config 1 (server.players pPlayer).accountNo))).tells config who notice ↔
          (server.players pPlayer).sessionId = who ∧
            notice = .welcome (server.players pPlayer).accountNo :=
      fun who notice => tells_sent rfl rfl
    simp only [noticesOf, Set.mem_ofPred_eq, mem_enterCalls, monitoring, true_and, Bool.not_false,
      if_true, Set.mem_insert_iff, Prod.mk.injEq, Room.dismissal, Server.room, Option.map_eq_some_iff]
    constructor
    · rintro ⟨made, rfl | ⟨other, owner, rfl⟩ | rfl, told⟩
      · exact absurd told (unheard _ _)
      · obtain ⟨rfl, rfl⟩ := tells_disconnect.mp told
        exact .inr ⟨⟨other, owner, (former other owner).symm⟩, rfl⟩
      · obtain ⟨rfl, rfl⟩ := (welcome _ _).mp told
        exact .inl ⟨own, rfl⟩
    · rintro (⟨rfl, rfl⟩ | ⟨⟨other, owner, rfl⟩, rfl⟩)
      · exact ⟨_, .inr (.inr rfl), (welcome _ _).mpr ⟨own, rfl⟩⟩
      · exact ⟨_, .inr (.inl ⟨other, owner, rfl⟩), tells_disconnect.mpr ⟨former other owner, rfl⟩⟩

theorem chatEnter_matches (reached : ServerRun config history server)
    (moving : server.phase pPlayer = .moving) :
    (roomView config).Matches (chatRoom nearPlace) ⟨server, .chatEnter pPlayer,
      enterCalls config server pPlayer, (server.enterChat pPlayer).entered pPlayer⟩ := by
  have outcome : StepCase config server (.chatEnter pPlayer) _ _ := .chatEnter moving
  have lifecycle := reached.lifecycle
  have lifecycle' := lifecycle.step outcome
  have unregistered := (lifecycle.slots pPlayer).unregistered (.inr (.inr moving))
  refine matches_some _ rfl (Room.ext ?_ entered_holder rfl) (noticesOf_enterCalls reached moving)
  funext sessionID
  by_cases own : sessionID = server.session pPlayer
  · have chat : ((server.enterChat pPlayer).entered pPlayer).phase pPlayer = .chat := by simp
    have here := lifecycle'.member_eq_some chat
    simp only [Server.entered_session, Server.enterChat_session] at here
    subst own
    simp [Room.act, here, Server.memberAt, unregistered]
  · have kept := outcome.member_kept lifecycle lifecycle' sessionID
      (by simp [Event.slot, moving]) (by simpa [Event.slot] using Ne.symm own)
    simp [Room.act, own, kept]

/-! ## Leaving -/

theorem noticesOf_leaveCalls : noticesOf config (leaveCalls server pPlayer) = ∅ := by
  refine noticesOf_eq_empty fun made member => ?_
  obtain ⟨_, rfl | rfl⟩ | ⟨_, rfl⟩ | removal := mem_leaveCalls.mp member
  · rfl
  · rfl
  · rfl
  · rw [(mem_removeCalls.mp removal).2]
    rfl

/-- Of the accounts, a leave gives up the one the player has. -/
theorem left_loginPlayerMap (reached : ServerRun config history server) (accountNo : INT64) :
    (server.left pPlayer).loginPlayerMap accountNo =
      if server.loginPlayerMap accountNo = some pPlayer then none
      else server.loginPlayerMap accountNo := by
  rw [Server.left_loginPlayerMap]
  by_cases own : accountNo = (server.players pPlayer).accountNo
  · subst own
    split
    · rw [Function.update_self]
    · rfl
  · have unowned : server.loginPlayerMap accountNo ≠ some pPlayer :=
      fun owner => own (reached.loginMap.owner_holding owner).2.2.symm
    rw [if_neg unowned]
    split
    · rw [Function.update_of_ne own]
    · rfl

theorem left_holder (reached : ServerRun config history server) (chat : server.phase pPlayer = .chat)
    (accountNo : INT64) :
    ((server.left pPlayer).setPhase pPlayer .free).room.holder accountNo =
      if server.room.holder accountNo = some (server.session pPlayer) then none
      else server.room.holder accountNo := by
  have holder : ∀ session, server.room.holder accountNo = some session ↔
      ∃ owner, server.loginPlayerMap accountNo = some owner ∧ server.session owner = session :=
    fun session => Option.map_eq_some_iff
  have after : ((server.left pPlayer).setPhase pPlayer .free).room.holder accountNo =
      ((server.left pPlayer).loginPlayerMap accountNo).map server.session := rfl
  rw [after, left_loginPlayerMap reached]
  by_cases own : server.loginPlayerMap accountNo = some pPlayer
  · rw [if_pos own, if_pos ((holder _).mpr ⟨pPlayer, own, rfl⟩)]
    rfl
  -- the holder is another player of CHAT, and their sessions are distinct
  · have elsewhere : server.room.holder accountNo ≠ some (server.session pPlayer) := by
      intro same
      obtain ⟨owner, owned, session⟩ := (holder _).mp same
      have present := (reached.loginMap.owner_holding owned).1
      have here := reached.lifecycle.distinct owner pPlayer (by simp [present]) (by simp [chat]) session
      exact own (here ▸ owned)
    rw [if_neg own, if_neg elsewhere]
    rfl

theorem left_monitor (reached : ServerRun config history server) (chat : server.phase pPlayer = .chat) :
    ((server.left pPlayer).setPhase pPlayer .free).room.monitor =
      if server.room.monitor = some (server.session pPlayer) then none else server.room.monitor := by
  have left : ∀ who, ((server.left pPlayer).setPhase pPlayer .free).room.monitor = some who ↔
      server.room.monitor = some who ∧ who ≠ server.session pPlayer :=
    reached.monitor.monitorOwner_left reached.lifecycle (by simp [chat])
  apply Option.ext
  intro who
  rw [left who]
  by_cases own : server.room.monitor = some (server.session pPlayer)
  · rw [if_pos own]
    simp only [reduceCtorEq, iff_false, not_and, not_not]
    exact fun owned => Option.some.inj (owned.symm.trans own)
  · rw [if_neg own]
    refine and_iff_left_of_imp fun owned same => own ?_
    rw [owned, same]

theorem chatLeave_matches (reached : ServerRun config history server)
    (chat : server.phase pPlayer = .chat) (login : (server.players pPlayer).bLogin = true) :
    (roomView config).Matches (chatRoom nearPlace) ⟨server, .chatLeave pPlayer,
      leaveCalls server pPlayer, (server.left pPlayer).setPhase pPlayer .free⟩ := by
  have outcome : StepCase config server (.chatLeave pPlayer) _ _ := .chatLeave chat login
  have lifecycle := reached.lifecycle
  have lifecycle' := lifecycle.step outcome
  refine matches_some _ rfl (Room.ext ?_ (funext (left_holder reached chat)) (left_monitor reached chat))
    noticesOf_leaveCalls
  funext sessionID
  by_cases own : sessionID = server.session pPlayer
  · subst own
    have absent : ((server.left pPlayer).setPhase pPlayer .free).room.member (server.session pPlayer) =
        none := by
      refine lifecycle'.member_eq_none fun other present same => ?_
      have differ : other ≠ pPlayer := by
        rintro rfl
        simp at present
      have before : server.phase other = .chat := by simpa [differ] using present
      exact differ (lifecycle.distinct other pPlayer (by simp [before]) (by simp [chat])
        (by simpa using same))
    simp [Room.act, absent]
  · have kept := outcome.member_kept lifecycle lifecycle' sessionID
      (fun _ => Ne.symm own) (by simp [Event.slot])
    simp [Room.act, own, kept]

/-! ## Requests in CHAT -/

theorem standsAt_iff (lifecycle : Lifecycle server) {place : Place} :
    server.room.standsAt sessionID place ↔
      ∃ other, server.registeredAt other place.1 place.2 ∧ server.session other = sessionID := by
  simp only [Room.standsAt, lifecycle.member_iff]
  constructor
  · rintro ⟨_, ⟨other, chat, session, rfl⟩, stands⟩
    simp only [Server.memberAt, Option.ite_none_right_eq_some, Option.some.injEq] at stands
    obtain ⟨registered, rfl⟩ := stands
    exact ⟨other, ⟨⟨chat, registered⟩, rfl, rfl⟩, session⟩
  · rintro ⟨other, ⟨⟨chat, registered⟩, placeX, placeY⟩, session⟩
    exact ⟨_, ⟨other, chat, session, rfl⟩, by simp [Server.memberAt, registered, placeX, placeY]⟩

/-- A broadcast tells everyone linked in the sectors around the same thing. -/
theorem mem_noticesOf_broadcastCalls {messageLen : WORD} {message : Utterance} {notice : ChatNotice}
    (whole : message.1.length = messageLen.toNat) :
    (sessionID, notice) ∈ noticesOf config
        (broadcastCalls config server pPlayer messageLen message.1 ++ [.updateCntTps]) ↔
      (∃ other ∈ server.audience (getSectorAround (server.players pPlayer).sectorX
          (server.players pPlayer).sectorY), (server.players other).sessionId = sessionID) ∧
        notice = .said (server.players pPlayer).accountNo
          ((server.players pPlayer).ID, (server.players pPlayer).nickName) message := by
  have carried : payloadOf config (.said (server.players pPlayer).accountNo
      ((server.players pPlayer).ID, (server.players pPlayer).nickName) message) =
        some (makeCsChatResMessage config (server.players pPlayer).accountNo
          (server.players pPlayer).ID (server.players pPlayer).nickName messageLen message.1) := by
    simp [payloadOf, whole]
  have sent : ∀ other, (Call.enqPacket other (messagePacket config (server.players pPlayer) messageLen
      message.1)).tells config sessionID notice ↔ other = sessionID ∧ notice = _ :=
    fun other => tells_sent carried rfl
  simp only [noticesOf, Set.mem_ofPred_eq, Server.audience, List.mem_flatMap, List.mem_append,
    List.mem_singleton, mem_broadcastCalls]
  constructor
  · rintro ⟨made, ⟨cell, around, rfl | ⟨other, linked, rfl⟩⟩ | rfl, told⟩
    · simp [Call.tells, Call.sent] at told
    · obtain ⟨session, said⟩ := (sent _).mp told
      exact ⟨⟨other, ⟨cell, around, linked⟩, session⟩, said⟩
    · simp [Call.tells, Call.sent] at told
  · rintro ⟨⟨other, ⟨cell, around, linked⟩, session⟩, said⟩
    exact ⟨_, .inl ⟨cell, around, .inr ⟨other, linked, rfl⟩⟩, (sent _).mpr ⟨session, said⟩⟩

theorem noticesOf_speaks (reached : ServerRun config history server)
    (moves : MovesInGrid config history) (registered : server.registered pPlayer)
    {messageLen : WORD} (message : Utterance) (whole : message.1.length = messageLen.toNat) :
    noticesOf config (broadcastCalls config server pPlayer messageLen message.1 ++ [.updateCntTps]) =
      server.room.heard nearPlace (server.session pPlayer) message := by
  have lifecycle := reached.lifecycle
  have here := lifecycle.member_eq_some registered.1
  have stands : (server.memberAt pPlayer).place =
      some ((server.players pPlayer).sectorX, (server.players pPlayer).sectorY) := by
    simp [Server.memberAt, registered.2]
  -- the speaker has moved, so the neighbourhood is the one around its place
  obtain ⟨insideX, insideY⟩ := reached.registered_inGrid moves ⟨registered, rfl, rfl⟩
  ext ⟨who, notice⟩
  simp only [mem_noticesOf_broadcastCalls whole, mem_audience reached moves insideX insideY]
  constructor
  · rintro ⟨⟨other, ⟨otherX, otherY, linked, close⟩, session⟩, said⟩
    have own := (lifecycle.slots other).sessionId (by simp [linked.1.1])
    have heard : server.room.standsAt who (otherX, otherY) :=
      (standsAt_iff lifecycle).mpr ⟨other, linked, own ▸ session⟩
    exact ⟨_, _, _, here, stands, heard, close, said⟩
  · rintro ⟨member, place, there, present, stand, heard, close, said⟩
    rw [here] at present
    cases present
    rw [stands] at stand
    cases stand
    obtain ⟨other, linked, session⟩ := (standsAt_iff lifecycle).mp heard
    have own := (lifecycle.slots other).sessionId (by simp [linked.1.1])
    exact ⟨⟨other, ⟨_, _, linked, close⟩, own.trans session⟩, said⟩

theorem moved_matches (reached : ServerRun config history server) (chat : server.phase pPlayer = .chat)
    {pPacket : List BYTE} {accountNo : INT64} {sectorX sectorY : WORD}
    (request : decodeRequest config pPacket = .sectorMove accountNo sectorX sectorY)
    (accepts : acceptsMove (server.players pPlayer) accountNo sectorX sectorY = true) :
    (roomView config).Matches (chatRoom nearPlace) ⟨server, .chatRecv pPlayer pPacket,
      moveCalls config server pPlayer sectorX sectorY ++ [.updateCntTps],
      server.moved pPlayer sectorX sectorY⟩ := by
  have outcome : StepCase config server (.chatRecv pPlayer pPacket) _ _ := .moved chat request accepts
  have lifecycle := reached.lifecycle
  have lifecycle' := lifecycle.step outcome
  have here := lifecycle.member_eq_some chat
  have own := (lifecycle.slots pPlayer).sessionId (by simp [chat])
  refine matches_some (.move (server.session pPlayer) (sectorX, sectorY))
    (by simp [actOf, request, requestAct, accepts]) ?_ ?_
  · simp only [Room.act, here]
    refine Room.ext ?_ (holder_kept reached.loginMap rfl fun _ _ => rfl) rfl
    funext sessionID
    by_cases mine : sessionID = server.session pPlayer
    · have stays : (server.moved pPlayer sectorX sectorY).phase pPlayer = .chat := chat
      have moved := lifecycle'.member_eq_some stays
      rw [Server.moved_session] at moved
      subst mine
      simp [moved, Server.memberAt]
    · have kept := outcome.member_kept lifecycle lifecycle' sessionID
        (fun _ => Ne.symm mine) (by simpa [Event.slot] using fun _ => Ne.symm mine)
      simp [mine, kept]
  · have carried : payloadOf config (.moved (server.players pPlayer).accountNo (sectorX, sectorY)) =
        some (makeCsChatResSectorMove config (server.players pPlayer).accountNo sectorX sectorY) := rfl
    have sent : ∀ who notice, (Call.enqPacket (server.players pPlayer).sessionId
        (.alloc (makeCsChatResSectorMove config (server.players pPlayer).accountNo sectorX sectorY))).tells
          config who notice ↔ (server.players pPlayer).sessionId = who ∧
            notice = .moved (server.players pPlayer).accountNo (sectorX, sectorY) :=
      fun who notice => tells_sent carried rfl
    ext ⟨who, notice⟩
    simp only [Room.act, here, noticesOf, Set.mem_ofPred_eq, List.mem_append, List.mem_singleton,
      mem_moveCalls, mem_removeCalls, Set.mem_singleton_iff, Prod.mk.injEq]
    constructor
    · rintro ⟨made, (⟨_, rfl⟩ | rfl | rfl) | rfl, told⟩
      · simp [Call.tells, Call.sent] at told
      · simp [Call.tells, Call.sent] at told
      · obtain ⟨rfl, rfl⟩ := (sent _ _).mp told
        exact ⟨own, rfl⟩
      · simp [Call.tells, Call.sent] at told
    · rintro ⟨rfl, rfl⟩
      exact ⟨_, .inl (.inr (.inr rfl)), (sent _ _).mpr ⟨own, rfl⟩⟩

theorem offends_matches {pPacket : List BYTE} (member : .disconnect (server.session pPlayer) ∈ calls)
    (others : ∀ made ∈ calls, made = .disconnect (server.session pPlayer) ∨ made.addressee = none)
    (offends : requestAct (server.session pPlayer) (server.players pPlayer)
      (decodeRequest config pPacket) = some (.offend (server.session pPlayer))) :
    (roomView config).Matches (chatRoom nearPlace)
      ⟨server, .chatRecv pPlayer pPacket, calls, server⟩ :=
  matches_some _ offends rfl (noticesOf_disconnect member others)

theorem chatRecv_matches (reached : ServerRun config history server)
    (moves : MovesInGrid config history) {pPacket : List BYTE}
    (taken : (chatServer config).step server (.chatRecv pPlayer pPacket) = some (post, calls))
    (placed : ∀ other ∈ speaker config ⟨server, .chatRecv pPlayer pPacket, calls, post⟩,
      server.registered other) :
    (roomView config).Matches (chatRoom nearPlace)
      ⟨server, .chatRecv pPlayer pPacket, calls, post⟩ := by
  obtain ⟨chat, result⟩ := step_chatRecv taken
  have own := (reached.lifecycle.slots pPlayer).sessionId (by simp [chat])
  have sentOff : ∀ rest : List Call, (∀ made ∈ rest, made.addressee = none) →
      ∀ made ∈ Call.disconnect (server.session pPlayer) :: rest,
        made = .disconnect (server.session pPlayer) ∨ made.addressee = none :=
    fun rest silent made member => (List.mem_cons.mp member).imp id (silent made)
  generalize request : decodeRequest config pPacket = decoded at result
  cases request_cases result with
  | moved accepts => exact moved_matches reached chat request accepts
  | @spoke accountNo messageLen message speaks =>
    have whole := ((decodeRequest_eq_message config).mp request).2
    have small : message.length < 2 ^ 16 := whole ▸ messageLen.isLt
    have registered := placed pPlayer (by simp [speaker, request, speaks])
    exact matches_some (.speak (server.session pPlayer) ⟨message, small⟩)
      (by simp only [actOf, request, requestAct, speaks, if_true, dif_pos small]) rfl
      (noticesOf_speaks reached moves registered ⟨message, small⟩ whole)
  | heartbeat =>
    exact matches_none (by simp [actOf, request, requestAct]) rfl
      (noticesOf_eq_empty (by simp [Call.addressee]))
  | sectorInfo =>
    refine matches_none (by simp [actOf, request, requestAct]) rfl ?_
    refine Set.eq_empty_of_forall_notMem fun shown tells => ?_
    obtain ⟨made, member, told⟩ := tells
    simp only [List.mem_cons, List.not_mem_nil, or_false] at member
    obtain rfl | rfl := member <;> simp [Call.tells, Call.sent] at told
  | refusedMove refuses | refusedMessage refuses =>
    rw [own]
    exact offends_matches (by simp) (sentOff _ (by simp [Call.addressee]))
      (by simp [request, requestAct, refuses])
  | refused | malformed =>
    rw [own]
    exact offends_matches (by simp) (sentOff _ (by simp [Call.addressee]))
      (by simp [request, requestAct])
  | unknown =>
    exact offends_matches (by simp) (sentOff _ (by simp [Call.addressee]))
      (by simp [request, requestAct])

/-! ## Every step -/

theorem room_step (reached : ServerRun config history server) (moves : MovesInGrid config history)
    (taken : (chatServer config).step server event = some (post, calls))
    (placed : ∀ pPlayer ∈ speaker config ⟨server, event, calls, post⟩, server.registered pPlayer) :
    (roomView config).Matches (chatRoom nearPlace) ⟨server, event, calls, post⟩ := by
  have outcome := step_cases taken
  have silent : noticesOf config [] = ∅ := noticesOf_eq_empty (by simp)
  cases event with
  | loginRecv => exact loginRecv_matches reached taken
  | chatRecv => exact chatRecv_matches reached moves taken placed
  | chatEnter =>
    cases outcome with
    | chatEnter moving => exact chatEnter_matches reached moving
  | chatLeave =>
    cases outcome with
    | chatLeave chat login => exact chatLeave_matches reached chat login
    | chatLeaveEarly chat login => exact absurd login (reached.lifecycle.chat_bLogin chat)
  | accept =>
    have same := outcome.room_kept reached
    cases outcome with
    | accept free =>
      exact matches_none rfl (same (by simp [Event.slot, free]) (by simp [Event.slot]) rfl rfl) silent
  | loginEnter =>
    have same := outcome.room_kept reached
    cases outcome with
    | loginEnter accepted =>
      exact matches_none rfl (same (by simp [Event.slot, accepted]) (by simp [Event.slot]) rfl rfl) silent
  | loginLeave =>
    have same := outcome.room_kept reached
    cases outcome with
    | loginLeave login =>
      exact matches_none rfl (same (by simp [Event.slot, login]) (by simp [Event.slot]) rfl rfl) silent

/-! ## What the notices leave out -/

theorem StepCase.carries (lifecycle : Lifecycle server)
    (outcome : StepCase config server event post calls) {payload : List BYTE}
    {made : Call} (member : made ∈ calls) (sent : made.sent = some (sessionID, .alloc payload)) :
    ∃ notice, payloadOf config notice = some payload := by
  have listed : sessionID ∈ sessionsSent calls :=
    List.mem_filterMap.mpr ⟨made, member, by rw [sent]; rfl⟩
  cases outcome with
  | @moved pPlayer _ _ sectorX sectorY =>
    simp only [List.mem_append, mem_moveCalls, mem_removeCalls, List.mem_singleton] at member
    obtain (⟨_, rfl⟩ | rfl | rfl) | rfl := member <;> cases sent
    exact ⟨.moved (server.players pPlayer).accountNo (sectorX, sectorY), rfl⟩
  | @spoke pPlayer _ _ messageLen message _ request =>
    have whole := ((decodeRequest_eq_message config).mp request).2
    have small : message.length < 2 ^ 16 := whole ▸ messageLen.isLt
    simp only [List.mem_append, mem_broadcastCalls, List.mem_singleton] at member
    obtain ⟨cell, _, rfl | ⟨other, linked, rfl⟩⟩ | rfl := member <;> cases sent
    exact ⟨.said (server.players pPlayer).accountNo
      ((server.players pPlayer).ID, (server.players pPlayer).nickName) ⟨message, small⟩,
      by simp [payloadOf, whole]⟩
  | @chatEnter pPlayer =>
    obtain rfl | ⟨_, ⟨former, owner, rfl⟩ | rfl⟩ := mem_enterCalls.mp member <;> cases sent
    exact ⟨.welcome (server.players pPlayer).accountNo, rfl⟩
  | sectorInfo =>
    simp only [List.mem_cons, List.not_mem_nil, or_false] at member
    obtain rfl | rfl := member <;> cases sent
  | loginIdle _ _ _ quiet | chatIdle _ _ _ quiet =>
    rw [sessionsSent_quiet quiet] at listed
    cases listed
  | monitorLogin =>
    rw [sessionsSent_monitorCalls] at listed
    cases listed
  | chatLeave =>
    rw [sessionsSent_leaveCalls] at listed
    cases listed
  | chatLeaveEarly chat login => exact absurd login (lifecycle.chat_bLogin chat)
  | accept | loginEnter | loggedIn | loginLeave => cases listed

/-- Apart from the replies to SECTOR_INFO, a handler call sends nothing but its notices, and
    no session is sent or disconnected twice. -/
structure TellsOnce (config : Config) (taken : Step) : Prop where
  sent : (sessionsSent taken.calls).Nodup
  disconnected : (sessionsDisconnected taken.calls).length ≤ 1
  carried : ∀ made ∈ taken.calls, ∀ sessionID payload, made.sent = some (sessionID, .alloc payload) →
    ∃ notice, payloadOf config notice = some payload ∧ (sessionID, notice) ∈ noticesOf config taken.calls
  asked : ∀ made ∈ taken.calls, ∀ sessionID, made.sent = some (sessionID, .sectorInfo) →
    AsksSectorInfo config taken.event

theorem tellsOnce_step (reached : ServerRun config history server)
    (taken : (chatServer config).step server event = some (post, calls)) :
    TellsOnce config ⟨server, event, calls, post⟩ := by
  have outcome := step_cases taken
  refine ⟨outcome.sent_once reached.lifecycle reached.placed,
    step_disconnected_once reached.lifecycle taken, fun made member sessionID payload sent => ?_,
    fun made member sessionID sent => outcome.sent_sectorInfo reached.lifecycle member sent⟩
  obtain ⟨notice, carried⟩ := outcome.carries reached.lifecycle member sent
  exact ⟨notice, carried, made, member, .inr ⟨payload, carried, sent⟩⟩

end Step

section Runs

variable {config : Config} {history : List Step}

theorem room_initial (memory : PlayerPtr → Player) : (Server.initial memory).room = Room.empty :=
  Room.ext rfl rfl (by simp [Server.room, Server.monitorOwner, Server.initial, Room.empty])

theorem room_start (server : Server) (initial : (chatServer config).init server) :
    (roomView config).view server = (chatRoom (T := Utterance) nearPlace).start := by
  obtain ⟨memory, rfl⟩ := initial
  exact room_initial memory

theorem room_matches {state : Server} (run : ServerRun config history state)
    (moves : MovesInGrid config history) (placed : SpeakersPlaced config history) :
    ∀ taken ∈ history, (roomView config).Matches (chatRoom nearPlace) taken := by
  intro taken member
  obtain ⟨before, after, rfl⟩ := List.append_of_mem member
  obtain ⟨reached, step⟩ := Run.split run
  exact room_step reached moves.before step (placed taken member)

end Runs

/-- A run of the server is a run of the chat room: it ends in the room that the actions
    lead to, and every step tells the clients what its action shows there, once, and sends
    nothing else but the replies to SECTOR_INFO. -/
theorem server_refines_room {config : Config} {history : List Step} {state : Server}
    (run : ServerRun config history state) (moves : MovesInGrid config history)
    (placed : SpeakersPlaced config history) :
    state.room = (chatRoom nearPlace).after ((roomView config).acts history) ∧
    ∀ before taken after, history = before ++ taken :: after →
      noticesOf config taken.calls = (roomView config).Expected (chatRoom nearPlace) before taken ∧
      TellsOnce config taken := by
  obtain ⟨room, shown⟩ := Run.refines run room_start (room_matches run moves placed)
  refine ⟨room, fun before taken after split => ⟨shown before taken after split, ?_⟩⟩
  subst split
  obtain ⟨reached, step⟩ := Run.split run
  exact tellsOnce_step reached step

/-- The second session takes account 7 over and hears what account 8 says nearby. -/
theorem server_refines_room_sample :
    let played := (Sample.play (Sample.login 0 5 7 ++ [.chatEnter 0] ++ Sample.monitorLogin 2 9 ++
      Sample.login 1 6 7 ++ [.chatEnter 1, .chatRecv 1 (sectorMoveWire Sample.config 7 10 20),
      .chatLeave 0] ++ Sample.login 3 4 8 ++ [.chatEnter 3,
      .chatRecv 3 (sectorMoveWire Sample.config 8 11 21)])).get (by decide +kernel)
    let spoken := (chatServer Sample.config).taken played.2
      (.chatRecv 3 (messageWire Sample.config 8 2 [72, 105])) (by decide +kernel)
    (6, .said 8 (Vector.replicate idLen 0, Vector.replicate nickNameLen 0) ⟨[72, 105], by decide⟩) ∈
      (roomView Sample.config).Expected (chatRoom nearPlace) played.1 spoken := by
  intro played spoken
  have run : ServerRun Sample.config played.1 played.2 := Sample.play_run _ (by decide +kernel)
  have next : ServerRun Sample.config (played.1 ++ [spoken]) spoken.post := run.advance _
  have inGrid : ∀ step ∈ played.1 ++ [spoken], ∀ call ∈ step.calls, call.inGrid = true := by
    decide +kernel
  have moves : MovesInGrid Sample.config (played.1 ++ [spoken]) := by
    refine next.movesInGrid fun step member pPlayer y x used => ?_
    simpa [Call.inGrid] using inGrid step member _ used
  have refined := server_refines_room next moves (by decide +kernel)
  rw [← (refined.2 played.1 spoken [] rfl).1]
  refine ⟨.enqPacket 6 (messagePacket Sample.config (spoken.pre.players 3) 2 [72, 105]),
    by decide +kernel, ?_⟩
  exact .inr ⟨_, rfl, by decide +kernel⟩

end ChatServerRedis
