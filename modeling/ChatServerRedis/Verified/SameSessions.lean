import ChatServerRedis.General.Lockstep
import ChatServerRedis.Verified.Monitoring
import ChatServerRedis.Verified.Addressing

/-! # Servers with the same sessions

Two servers that agree on their sessions, and on what CHAT has registered, take the same
events with the same calls.  Slots may be put aside, as long as none of them is in CHAT:
no handler looks at a player of another session that is not.
-/

namespace ChatServerRedis

open Handlers Lockstep Placement Transition

/-- Two servers that agree on the sessions they have, but for the slots `aside`; the ids in
    `past` are given out on neither of them. -/
structure SameSessions (past : List ULONGLONG) (aside : PlayerPtr → Prop) (first second : Server) :
    Prop where
  phase : ∀ pPlayer, ¬ aside pPlayer → second.phase pPlayer = first.phase pPlayer
  slots : ∀ pPlayer, ¬ aside pPlayer → first.phase pPlayer ≠ .free →
    second.session pPlayer = first.session pPlayer ∧ second.players pPlayer = first.players pPlayer
  issued : ∀ sessionID, sessionID ∉ past → (sessionID ∈ first.issued ↔ sessionID ∈ second.issued)
  lPlayerNum : second.lPlayerNum = first.lPlayerNum
  monitor : second.monitoringClientSessionID = first.monitoringClientSessionID
  loginPlayerMap : second.loginPlayerMap = first.loginPlayerMap
  playerList : second.playerList = first.playerList
  sectors : second.sectors = first.sectors

/-- The event gives out no session id of the past. -/
def NewSession (past : List ULONGLONG) (event : Event) : Prop :=
  ∀ pPlayer sessionID memory, event = .accept pPlayer sessionID memory → sessionID ∉ past

section Step

variable {config : Config} {history : List Step} {past : List ULONGLONG} {first second : Server}
  {aside : PlayerPtr → Prop} {pPlayer : PlayerPtr} (same : SameSessions past aside first second)
  (here : ¬ aside pPlayer) (away : ∀ other, aside other → first.phase other ≠ .chat)

/-- The slot of the event by its own argument, any other slot by the frame. -/
theorem SameSessions.slots_step (same : SameSessions past aside first second) {event : Event}
    {post post' : Server} {calls calls' : List Call}
    (outcome : StepCase config first event post calls)
    (outcome' : StepCase config second event post' calls')
    (phase : post'.phase event.slot = post.phase event.slot)
    (slot : post'.session event.slot = post.session event.slot ∧
      post'.players event.slot = post.players event.slot) :
    (∀ other, ¬ aside other → post'.phase other = post.phase other) ∧
    ∀ other, ¬ aside other → post.phase other ≠ .free →
      post'.session other = post.session other ∧ post'.players other = post.players other := by
  refine ⟨fun other present => ?_, fun other present used => ?_⟩
  · by_cases own : other = event.slot
    · rw [own, phase]
    · rw [(outcome.frame own).1, (outcome'.frame own).1, same.phase other present]
  · by_cases own : other = event.slot
    · rw [own]
      exact slot
    · obtain ⟨frame, session, players⟩ := outcome.frame own
      obtain ⟨_, session', players'⟩ := outcome'.frame own
      rw [frame] at used
      rw [session, session', players, players']
      exact same.slots other present used

include same

theorem SameSessions.sessionId (away : ∀ other, aside other → first.phase other ≠ .chat)
    (reached : ServerRun config history first) :
    (∀ accountNo owner, first.loginPlayerMap accountNo = some owner →
      (second.players owner).sessionId = (first.players owner).sessionId) ∧
    ∀ offset other, other ∈ first.sectors offset →
      (second.players other).sessionId = (first.players other).sessionId := by
  have player : ∀ other, first.phase other = .chat → second.players other = first.players other :=
    fun other chat => (same.slots other (fun out => away other out chat) (by simp [chat])).2
  refine ⟨fun accountNo owner owned => ?_, fun offset other linked => ?_⟩
  · rw [player owner (reached.loginMap.owner_holding owned).1]
  · rw [player other (chat_of_linked reached.placed linked)]

theorem SameSessions.refilled : SameSessions past aside first.refilled second.refilled :=
  ⟨same.phase, same.slots, same.issued, same.lPlayerNum, same.monitor, same.loginPlayerMap,
    same.playerList, same.sectors⟩

include here

theorem SameSessions.accept {sessionID : ULONGLONG} (memory : Player) (new : sessionID ∉ past) :
    Alike (SameSessions past aside) (step config first (.accept pPlayer sessionID memory))
      (step config second (.accept pPlayer sessionID memory)) := by
  have guards := same.issued sessionID new
  refine .guarded (by rw [same.phase pPlayer here, guards]) fun _ => ?_
  rw [onAccept_openSession, onAccept_openSession]
  refine .both ⟨fun other present => ?_, fun other present used => ?_, fun other old => ?_,
    same.lPlayerNum, same.monitor, same.loginPlayerMap, same.playerList, same.sectors⟩
  · by_cases own : other = pPlayer
    · simp [own]
    · simpa [own] using same.phase other present
  · by_cases own : other = pPlayer
    · simp [own]
    · simpa [own] using same.slots other present (by simpa [own] using used)
  · simp [same.issued other old]

theorem SameSessions.loginEnter :
    Alike (SameSessions past aside) (step config first (.loginEnter pPlayer))
      (step config second (.loginEnter pPlayer)) := by
  refine .guarded (by rw [same.phase pPlayer here]) fun accepted => ?_
  have accepted' : second.phase pPlayer = .accepted := by rwa [same.phase pPlayer here]
  obtain ⟨session, player⟩ := same.slots pPlayer here (by simp [accepted])
  have outcome : StepCase config first (.loginEnter pPlayer) _ _ := .loginEnter accepted
  obtain ⟨phase, slots⟩ := same.slots_step outcome (.loginEnter accepted')
    (by simp [Event.slot]) (by simp [Event.slot, session, player])
  rw [LoginContents.onEnter_run, LoginContents.onEnter_run]
  exact .both ⟨phase, slots, same.issued, same.lPlayerNum, same.monitor, same.loginPlayerMap,
    same.playerList, same.sectors⟩

theorem SameSessions.loginLeave :
    Alike (SameSessions past aside) (step config first (.loginLeave pPlayer))
      (step config second (.loginLeave pPlayer)) := by
  refine .guarded (by rw [same.phase pPlayer here]) fun login => ?_
  have login' : second.phase pPlayer = .login := by rwa [same.phase pPlayer here]
  have outcome : StepCase config first (.loginLeave pPlayer) _ _ := .loginLeave login
  obtain ⟨phase, slots⟩ := same.slots_step outcome (.loginLeave login')
    (by simp [Event.slot]) (by simpa [Event.slot] using same.slots pPlayer here (by simp [login]))
  exact .both ⟨phase, slots, same.issued, same.lPlayerNum, same.monitor, same.loginPlayerMap,
    same.playerList, same.sectors⟩

/-! ### A packet in LOGIN -/

theorem SameSessions.loggedIn (login : first.phase pPlayer = .login) (accountNo : INT64)
    (ID : Vector WCHAR idLen) (nickName : Vector WCHAR nickNameLen) :
    SameSessions past aside (first.loggedIn pPlayer accountNo ID nickName)
      (second.loggedIn pPlayer accountNo ID nickName) := by
  obtain ⟨session, player⟩ := same.slots pPlayer here (by simp [login])
  refine ⟨fun other present => ?_, fun other present used => ?_, same.issued, same.lPlayerNum,
    same.monitor, same.loginPlayerMap, same.playerList, same.sectors⟩
  · by_cases own : other = pPlayer
    · simp [own]
    · simpa [own] using same.phase other present
  · by_cases own : other = pPlayer
    · simp [own, session, player]
    · simpa [own] using same.slots other present (by simpa [own] using used)

theorem SameSessions.monitorLoggedIn (login : first.phase pPlayer = .login) :
    SameSessions past aside (first.monitorLoggedIn pPlayer) (second.monitorLoggedIn pPlayer) := by
  obtain ⟨session, player⟩ := same.slots pPlayer here (by simp [login])
  refine ⟨fun other present => ?_, fun other present used => ?_, same.issued, same.lPlayerNum,
    by simp [player], same.loginPlayerMap, same.playerList, same.sectors⟩
  · by_cases own : other = pPlayer
    · simp [own]
    · simpa [own] using same.phase other present
  · by_cases own : other = pPlayer
    · simp [own, session, player]
    · simpa [own] using same.slots other present (by simpa [own] using used)

theorem SameSessions.loginFieldsResult (login : first.phase pPlayer = .login) (reply : Reply)
    (beyond : Nat → BYTE) (fields : LoginFields) :
    Alike (SameSessions past aside) (loginFieldsResult first pPlayer reply beyond fields)
      (loginFieldsResult second pPlayer reply beyond fields) := by
  obtain ⟨session, player⟩ := same.slots pPlayer here (by simp [login])
  unfold ChatServerRedis.loginFieldsResult
  rw [session, player]
  split
  · exact .both same
  · split
    · exact .none
    · split
      · split
        · exact .both (same.loggedIn here login _ _ _)
        · exact .none
      · exact .both same

theorem SameSessions.loginResult (login : first.phase pPlayer = .login) (typeLocal : WORD)
    (reply : Reply) (beyond : Nat → BYTE) (pPacket : List BYTE) :
    Alike (SameSessions past aside) (loginResult config first pPlayer typeLocal reply beyond pPacket)
      (loginResult config second pPlayer typeLocal reply beyond pPacket) := by
  obtain ⟨session, _⟩ := same.slots pPlayer here (by simp [login])
  unfold ChatServerRedis.loginResult
  cases readWord pPacket with
  | none =>
    simp only [session]
    exact .both same
  | some field =>
    obtain ⟨type, rest⟩ := field
    dsimp only
    split
    · refine Alike.map ?_ fun made => made ++ [Call.updateCntTps]
      unfold loginPacketResult
      rw [same.lPlayerNum, session]
      split
      · exact .both same
      · split
        · exact .both same
        · exact same.loginFieldsResult here login reply beyond _
    · split
      · exact .both same
      · have calls : monitorCalls second pPlayer = monitorCalls first pPlayer := by
          simp only [monitorCalls, same.monitor]
        rw [calls]
        split
        · exact .both (same.monitorLoggedIn here login)
        · exact .none

/-! ### CHAT -/

theorem SameSessions.sectorsWithout (used : first.phase pPlayer ≠ .free) :
    second.sectorsWithout pPlayer = first.sectorsWithout pPlayer := by
  simp only [Server.sectorsWithout, Server.storedOffset, (same.slots pPlayer here used).2, same.sectors]

theorem SameSessions.chatLeave (reached : ServerRun config history first) :
    Alike (SameSessions past aside) (step config first (.chatLeave pPlayer))
      (step config second (.chatLeave pPlayer)) := by
  refine .guarded (by rw [same.phase pPlayer here]) fun chat => ?_
  have chat' : second.phase pPlayer = .chat := by rwa [same.phase pPlayer here]
  obtain ⟨session, player⟩ := same.slots pPlayer here (by simp [chat])
  have login := (reached.lifecycle.slots pPlayer).loggedIn (.inr chat)
  have login' : (second.players pPlayer).bLogin = true := by rwa [player]
  have outcome : StepCase config first (.chatLeave pPlayer) _ _ := .chatLeave chat login
  obtain ⟨phase, slots⟩ := same.slots_step outcome (.chatLeave chat' login') (by simp [Event.slot])
    (by simpa [Event.slot] using same.slots pPlayer here (by simp [chat]))
  have calls : leaveCalls second pPlayer = leaveCalls first pPlayer := by
    simp only [leaveCalls, removeCalls, player, same.loginPlayerMap]
  simp only [leaving, ChatContents.onLeave_run _ _ login, ChatContents.onLeave_run _ _ login', calls,
    Option.map_some]
  exact .both ⟨phase, slots, same.issued, by simp [same.lPlayerNum],
    by simp [Server.monitorAfter, player, same.monitor], by simp [same.loginPlayerMap, player],
    by simp [same.playerList], same.sectorsWithout here (by simp [chat])⟩

theorem SameSessions.moved (chat : first.phase pPlayer = .chat) (sectorX sectorY : WORD) :
    SameSessions past aside (first.moved pPlayer sectorX sectorY)
      (second.moved pPlayer sectorX sectorY) := by
  obtain ⟨session, player⟩ := same.slots pPlayer here (by simp [chat])
  refine ⟨same.phase, fun other present used => ?_, same.issued, same.lPlayerNum, same.monitor,
    same.loginPlayerMap, same.playerList, ?_⟩
  · by_cases own : other = pPlayer
    · simp [own, session, player]
    · simpa [own] using same.slots other present used
  · have used : first.phase pPlayer ≠ .free := by simp [chat]
    simp [same.sectorsWithout here used]

include away

theorem SameSessions.chatEnter (reached : ServerRun config history first) :
    Alike (SameSessions past aside) (step config first (.chatEnter pPlayer))
      (step config second (.chatEnter pPlayer)) := by
  refine .guarded (by rw [same.phase pPlayer here]) fun moving => ?_
  have moving' : second.phase pPlayer = .moving := by rwa [same.phase pPlayer here]
  obtain ⟨session, player⟩ := same.slots pPlayer here (by simp [moving])
  have outcome : StepCase config first (.chatEnter pPlayer) _ _ := .chatEnter moving
  obtain ⟨phase, slots⟩ := same.slots_step outcome (.chatEnter moving')
    (by simp [Event.slot]) (by simp [Event.slot, session, player])
  have calls : enterCalls config second pPlayer = enterCalls config first pPlayer := by
    have former : formerDisconnect second pPlayer = formerDisconnect first pPlayer := by
      unfold formerDisconnect
      rw [player, same.loginPlayerMap]
      cases owner : first.loginPlayerMap (first.players pPlayer).accountNo with
      | none => rfl
      | some owner' => simp [(same.sessionId away reached).1 _ _ owner]
    simp only [enterCalls, former, player]
  rw [ChatContents.onEnter_run, ChatContents.onEnter_run]
  have entered : enterCalls config (second.enterChat pPlayer) pPlayer =
      enterCalls config (first.enterChat pPlayer) pPlayer := calls
  rw [entered]
  exact .both ⟨phase, slots, same.issued, by simp [same.lPlayerNum], same.monitor,
    by simp [same.loginPlayerMap, player], by simp [same.playerList], same.sectors⟩

theorem SameSessions.broadcastCalls (reached : ServerRun config history first)
    (chat : first.phase pPlayer = .chat) (messageLen : WORD) (message : List BYTE) :
    broadcastCalls config second pPlayer messageLen message =
      broadcastCalls config first pPlayer messageLen message := by
  unfold ChatServerRedis.broadcastCalls
  rw [(same.slots pPlayer here (by simp [chat])).2]
  refine congrArg (fun calls => List.flatMap calls _) (funext fun cell => ?_)
  simp only [cellCalls, Server.listAt, same.sectors, List.cons.injEq, true_and]
  refine List.map_congr_left fun other linked => ?_
  rw [(same.sessionId away reached).2 _ other linked]

theorem SameSessions.requestResult (reached : ServerRun config history first)
    (chat : first.phase pPlayer = .chat) (request : ChatRequest) :
    Alike (SameSessions past aside) (requestResult config first pPlayer request)
      (requestResult config second pPlayer request) := by
  obtain ⟨session, player⟩ := same.slots pPlayer here (by simp [chat])
  cases request with
  | sectorMove accountNo sectorX sectorY =>
    have calls : moveCalls config second pPlayer sectorX sectorY =
        moveCalls config first pPlayer sectorX sectorY := by
      simp only [moveCalls, removeCalls, player]
    simp only [ChatServerRedis.requestResult, player, calls]
    split
    · exact .both (same.moved here chat sectorX sectorY)
    · exact .both same
  | message accountNo messageLen message =>
    simp only [ChatServerRedis.requestResult, player, same.broadcastCalls here away reached chat]
    split <;> exact .both same
  | sectorInfo =>
    simp only [ChatServerRedis.requestResult, player]
    refine .guarded ?_ fun _ => .both same.refilled
    simp only [Encodable, sizeByte, Server.listAt, same.sectors]
  | heartbeat => exact .both same
  | refused | malformed | unknown =>
    simp only [ChatServerRedis.requestResult, player, session]
    exact .both same

omit here

/-- Events of slots that are not aside and that give out no id of the past are taken alike. -/
theorem SameSessions.step (reached : ServerRun config history first) {event : Event}
    (here : ¬ aside event.slot) (new : NewSession past event) :
    Alike (SameSessions past aside) (step config first event) (step config second event) := by
  cases event with
  | accept pPlayer sessionID memory => exact same.accept here memory (new _ _ _ rfl)
  | loginEnter => exact same.loginEnter here
  | loginLeave => exact same.loginLeave here
  | chatEnter => exact same.chatEnter here away reached
  | chatLeave => exact same.chatLeave here reached
  | loginRecv pPlayer typeLocal reply beyond pPacket =>
    refine .guarded (by rw [same.phase pPlayer here]) fun login => ?_
    rw [LoginContents.onRecv_run, LoginContents.onRecv_run]
    exact same.loginResult here login typeLocal reply beyond pPacket
  | chatRecv pPlayer pPacket =>
    refine .guarded (by rw [same.phase pPlayer here]) fun chat => ?_
    rw [ChatContents.onRecv_run, ChatContents.onRecv_run]
    exact same.requestResult here away reached chat _

end Step

end ChatServerRedis
