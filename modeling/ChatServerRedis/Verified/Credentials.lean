import ChatServerRedis.General.PastTime
import ChatServerRedis.Verified.Lifecycle
import ChatServerRedis.Verified.SectorAround

/-! # Who moves and speaks as an account

The guard of the CHAT handlers is `bLogin_` and a matching `accountNo_`.  For an
ordinary player the two were written together by a successful LOGIN of its own
session.  A monitoring login writes `bLogin_` alone, so `accountNo_` is whatever the
slot held before.
-/

namespace ChatServerRedis

open PastTime Transition

/-- The session sent a LOGIN packet with the account number that was accepted. -/
def Authenticated (config : Config) (sessionID : ULONGLONG) (accountNo : INT64)
    (history : List Step) : Prop :=
  Once (fun taken => ∃ pPlayer, LogsIn config pPlayer taken accountNo ∧
    taken.pre.session pPlayer = sessionID) history

/-- The handler used a sector list, or changed a list or a player. -/
def ActsInSectors (taken : Step) : Prop :=
  (∃ use y x, .listArr use y x ∈ taken.calls) ∨ taken.post.sectors ≠ taken.pre.sectors ∨
    taken.post.players ≠ taken.pre.players

/-- What the phase and the flags of a slot say about the past of its session. -/
structure Credible (config : Config) (history : List Step) (phase : Phase) (session : ULONGLONG)
    (player : Player) : Prop where
  fresh : phase = .accepted ∨ phase = .login →
    ∀ accountNo, ¬ Authenticated config session accountNo history
  ordinary : phase = .moving ∨ phase = .chat → player.bMonitoringLogin = false →
    Authenticated config session player.accountNo history
  monitoring : phase = .moving ∨ phase = .chat → player.bMonitoringLogin = true →
    ∀ accountNo, ¬ Authenticated config session accountNo history

structure Credentials (config : Config) (history : List Step) (server : Server) : Prop where
  issued : ∀ sessionID accountNo, Authenticated config sessionID accountNo history →
    sessionID ∈ server.issued
  slots : ∀ pPlayer, Credible config history (server.phase pPlayer) (server.session pPlayer)
    (server.players pPlayer)

section Step

variable {config : Config} {server post : Server} {event : Event} {calls : List Call}
  {history : List Step}

theorem Credible.free {session : ULONGLONG} {player : Player} :
    Credible config history .free session player := by
  constructor <;> simp

theorem Credible.snoc {taken : Step} {phase : Phase} {session : ULONGLONG} {player : Player}
    (credible : Credible config history phase session player)
    (unlogged : ∀ pPlayer accountNo, LogsIn config pPlayer taken accountNo →
      taken.pre.session pPlayer ≠ session) :
    Credible config (history ++ [taken]) phase session player := by
  have kept : ∀ accountNo, Authenticated config session accountNo (history ++ [taken]) ↔
      Authenticated config session accountNo history := by
    intro accountNo
    rw [Authenticated, once_snoc]
    refine or_iff_left ?_
    rintro ⟨pPlayer, logged, same⟩
    exact unlogged pPlayer accountNo logged same
  constructor <;> simp only [kept]
  · exact credible.fresh
  · exact credible.ordinary
  · exact credible.monitoring

theorem LogsIn.slot_eq {taken : Step} {pPlayer : PlayerPtr} {accountNo : INT64}
    (logged : LogsIn config pPlayer taken accountNo) : pPlayer = taken.event.slot := by
  obtain ⟨_, _, _, _, received, _⟩ := logged
  rw [received]
  rfl

theorem StepCase.login_of_logsIn {pPlayer : PlayerPtr} {accountNo : INT64}
    (outcome : StepCase config server event post calls)
    (logged : LogsIn config pPlayer ⟨server, event, calls, post⟩ accountNo) :
    server.phase pPlayer = .login := by
  obtain ⟨_, _, _, _, received, _⟩ := logged
  simp only at received
  subst received
  cases outcome with
  | loginIdle login | loggedIn login | monitorLogin login => exact login

theorem Credentials.issued_step (credentials : Credentials config history server)
    (lifecycle : Lifecycle server) (outcome : StepCase config server event post calls)
    {sessionID : ULONGLONG} {accountNo : INT64}
    (authenticated : Authenticated config sessionID accountNo
      (history ++ [⟨server, event, calls, post⟩])) : sessionID ∈ post.issued := by
  have given : sessionID ∈ server.issued := by
    obtain earlier | ⟨pPlayer, logged, rfl⟩ := (once_snoc _ _ _).mp authenticated
    · exact credentials.issued _ _ earlier
    · exact lifecycle.issued pPlayer (by simp [outcome.login_of_logsIn logged])
  cases outcome <;> simp [given]

theorem Credentials.slot_step (credentials : Credentials config history server)
    (lifecycle : Lifecycle server) (outcome : StepCase config server event post calls) :
    Credible config (history ++ [⟨server, event, calls, post⟩]) (post.phase event.slot)
      (post.session event.slot) (post.players event.slot) := by
  have before := credentials.slots event.slot
  cases outcome with
  | @accept pPlayer sessionID memory free fresh =>
    simp only [Event.slot, Server.opened_phase, Server.opened_session, Server.opened_players,
      Function.update_self]
    refine Credible.snoc ⟨fun _ accountNo authenticated => ?_, by simp, by simp⟩ (by simp [LogsIn])
    exact fresh (credentials.issued _ accountNo authenticated)
  | @loginEnter pPlayer accepted =>
    simp only [Event.slot, Server.loginEntered_phase, Server.loginEntered_session,
      Server.loginEntered_players, Function.update_self]
    refine Credible.snoc ⟨fun _ => ?_, by simp, by simp⟩ (by simp [LogsIn])
    exact before.fresh (.inl accepted)
  | loginIdle _ refused => exact before.snoc (by simp [refused])
  | @loggedIn pPlayer _ _ _ _ accountNo _ _ login granted =>
    have ordinary := (lifecycle.slots pPlayer).loggedOut login
    simp only [Event.slot, Server.loggedIn_phase, Server.loggedIn_session,
      Server.loggedIn_players, Function.update_self]
    refine ⟨by simp, fun _ _ => (once_snoc _ _ _).mpr (.inr ⟨pPlayer, ?_, rfl⟩), ?_⟩
    · simp [granted]
    · simp [ordinary]
  | @monitorLogin pPlayer _ _ _ _ login monitor =>
    simp only [Event.slot, Server.monitorLoggedIn_phase, Server.monitorLoggedIn_session,
      Server.monitorLoggedIn_players, Function.update_self]
    refine Credible.snoc ⟨by simp, by simp, fun _ _ => before.fresh (.inr login)⟩ ?_
    intro other accountNo logged
    exact absurd monitor (logsIn_loginRecv.mp logged).2.not_monitor
  | loginLeave | chatLeave | chatLeaveEarly =>
    simp only [Event.slot, Server.setPhase_phase, Function.update_self]
    exact .free
  | chatIdle | spoke | sectorInfo => exact before.snoc (by simp [LogsIn])
  | chatEnter moving =>
    simp only [Event.slot, Server.entered_phase, Server.entered_session, Server.entered_players,
      Server.enterChat_phase, Server.enterChat_session, Server.enterChat_players, Function.update_self]
    exact Credible.snoc ⟨by simp, fun _ => before.ordinary (.inl moving),
      fun _ => before.monitoring (.inl moving)⟩ (by simp [LogsIn])
  | moved chat =>
    simp only [Event.slot, Server.moved_phase, Server.moved_session, Server.moved_players,
      Function.update_self]
    exact Credible.snoc ⟨before.fresh, fun _ => before.ordinary (.inr chat),
      fun _ => before.monitoring (.inr chat)⟩ (by simp [LogsIn])

theorem Credentials.step (credentials : Credentials config history server)
    (lifecycle : Lifecycle server) (outcome : StepCase config server event post calls) :
    Credentials config (history ++ [⟨server, event, calls, post⟩]) post where
  issued _ _ := credentials.issued_step lifecycle outcome
  slots pPlayer := by
    by_cases same : pPlayer = event.slot
    · subst same
      exact credentials.slot_step lifecycle outcome
    · obtain ⟨phase, session, player⟩ := outcome.frame same
      rw [phase, session, player]
      by_cases used : server.phase pPlayer = .free
      · rw [used]
        exact .free
      -- a login elsewhere cannot be the session of this slot: ids are distinct
      · refine (credentials.slots pPlayer).snoc fun other accountNo logged sameSession => same ?_
        have login := outcome.login_of_logsIn logged
        rw [← logged.slot_eq]
        exact (lifecycle.distinct other pPlayer (by simp [login]) used sameSession).symm

end Step

theorem ServerRun.credentials {config : Config} {history : List Step} {state : Server}
    (run : ServerRun config history state) : Credentials config history state := by
  refine run.induction ?_ fun history state event post calls run credentials taken => ?_
  · rintro _ ⟨memory, rfl⟩
    exact ⟨by simp [Authenticated], fun pPlayer => .free⟩
  · exact credentials.step (ServerRun.lifecycle run) (step_cases taken)

section Runs

variable {config : Config} {history : List Step} {state : Server}

theorem broadcastCalls_listArr (config : Config) (server : Server) (pPlayer : PlayerPtr)
    (messageLen : WORD) (message : List BYTE) :
    ∃ y x, .listArr .getFirst y x ∈ broadcastCalls config server pPlayer messageLen message := by
  have own : (⟨(server.players pPlayer).sectorX, (server.players pPlayer).sectorY⟩ : SectorCell) ∈
      getSectorAround (server.players pPlayer).sectorX (server.players pPlayer).sectorY :=
    center_mem_getSectorAround _ _
  exact ⟨_, _, List.mem_flatMap.mpr ⟨_, own, List.mem_cons_self⟩⟩

theorem StepCase.acts_iff {server post : Server} {pPlayer : PlayerPtr} {pPacket : List BYTE}
    {calls : List Call} (outcome : StepCase config server (.chatRecv pPlayer pPacket) post calls) :
    ActsInSectors ⟨server, .chatRecv pPlayer pPacket, calls, post⟩ ↔
      (∃ sectorX sectorY, MovesTo config pPlayer ⟨server, .chatRecv pPlayer pPacket, calls, post⟩
        sectorX sectorY) ∨
      ∃ messageLen message, Speaks config pPlayer ⟨server, .chatRecv pPlayer pPacket, calls, post⟩
        messageLen message := by
  constructor
  · intro acts
    cases outcome with
    | moved _ request accepts => exact .inl ⟨_, _, movesTo_chatRecv.mpr ⟨rfl, _, request, accepts⟩⟩
    | spoke _ request speaks => exact .inr ⟨_, _, speaks_chatRecv.mpr ⟨rfl, _, request, speaks⟩⟩
    | sectorInfo => simp [ActsInSectors] at acts
    | chatIdle _ _ _ quiet =>
      obtain ⟨use, y, x, used⟩ | changed | changed := acts
      · have calm := List.all_eq_true.mp quiet _ used
        cases calm
      · exact absurd rfl changed
      · exact absurd rfl changed
  · intro marked
    obtain ⟨sectorX, sectorY, moves⟩ | ⟨messageLen, message, speaks⟩ := marked
    · obtain ⟨_, _, rfl⟩ := outcome.of_movesTo moves
      exact .inl ⟨.pushBack pPlayer, sectorY.toNat, sectorX.toNat, by simp [moveCalls]⟩
    · obtain ⟨_, _, rfl⟩ := outcome.of_speaks speaks
      obtain ⟨y, x, walked⟩ := broadcastCalls_listArr config server pPlayer messageLen message
      exact .inl ⟨.getFirst, y, x, List.mem_append_left _ walked⟩

theorem StepCase.chat_of_chatRecv {server post : Server} {pPlayer : PlayerPtr} {pPacket : List BYTE}
    {calls : List Call} (outcome : StepCase config server (.chatRecv pPlayer pPacket) post calls) :
    server.phase pPlayer = .chat := by
  cases outcome with
  | chatIdle chat | moved chat | spoke chat | sectorInfo chat => exact chat

theorem ServerRun.chatRecv_split (run : ServerRun config history state) :
    ∀ before taken after, history = before ++ taken :: after → ∀ pPlayer pPacket,
      taken.event = .chatRecv pPlayer pPacket →
      Credible config before .chat (taken.pre.session pPlayer) (taken.pre.players pPlayer) ∧
      (ActsInSectors taken ↔ (∃ sectorX sectorY, MovesTo config pPlayer taken sectorX sectorY) ∨
        ∃ messageLen message, Speaks config pPlayer taken messageLen message) := by
  refine run.forall_split fun before server event post calls reached outcome pPlayer pPacket received => ?_
  subst received
  have credible := (ServerRun.credentials reached).slots pPlayer
  rw [outcome.chat_of_chatRecv] at credible
  exact ⟨credible, outcome.acts_iff⟩

/-- Everybody who moves or speaks as an account logged in to it in the same session,
    exactly in the runs in which no monitoring client gets a move or a message
    accepted. -/
theorem acts_authenticated_iff (run : ServerRun config history state) :
    (∀ before taken after, history = before ++ taken :: after → ∀ pPlayer pPacket,
      taken.event = .chatRecv pPlayer pPacket → ActsInSectors taken →
      Authenticated config (taken.pre.session pPlayer) (taken.pre.players pPlayer).accountNo before) ↔
    ∀ taken ∈ history, ∀ pPlayer, (taken.pre.players pPlayer).bMonitoringLogin = true →
      (∀ sectorX sectorY, ¬ MovesTo config pPlayer taken sectorX sectorY) ∧
      ∀ messageLen message, ¬ Speaks config pPlayer taken messageLen message := by
  constructor
  · intro authentic taken member pPlayer monitoring
    obtain ⟨before, after, split⟩ := List.append_of_mem member
    -- a monitoring client that acts would have logged in, which its slot rules out
    have idle : ∀ pPacket, taken.event = .chatRecv pPlayer pPacket → ¬ ActsInSectors taken := by
      intro pPacket received acts
      have credible := (run.chatRecv_split before taken after split pPlayer pPacket received).1
      exact credible.monitoring (.inr rfl) monitoring _
        (authentic before taken after split pPlayer pPacket received acts)
    refine ⟨fun sectorX sectorY moves => ?_, fun messageLen message speaks => ?_⟩
    · have received := moves.choose_spec.1
      exact idle _ received
        ((run.chatRecv_split before taken after split pPlayer _ received).2.mpr (.inl ⟨_, _, moves⟩))
    · have received := speaks.choose_spec.1
      exact idle _ received
        ((run.chatRecv_split before taken after split pPlayer _ received).2.mpr (.inr ⟨_, _, speaks⟩))
  · intro idle before taken after split pPlayer pPacket received acts
    have member : taken ∈ history := by simp [split]
    obtain ⟨credible, acts_iff⟩ := run.chatRecv_split before taken after split pPlayer pPacket received
    refine credible.ordinary (.inr rfl) ?_
    by_contra monitoring
    obtain ⟨still, silent⟩ := idle taken member pPlayer (by simpa using monitoring)
    obtain ⟨_, _, moves⟩ | ⟨_, _, speaks⟩ := acts_iff.mp acts
    · exact still _ _ moves
    · exact silent _ _ speaks

/-- The player of account 7 moves and speaks; no monitoring client is around. -/
theorem acts_authenticated_sample :
    let played := (Sample.play (Sample.login 0 5 7 ++ [.chatEnter 0, .chatRecv 0
      (sectorMoveWire Sample.config 7 3 4), .chatRecv 0 (messageWire Sample.config 7 1 [72])])).get
      (by decide +kernel)
    ∀ before taken after, played.1 = before ++ taken :: after → ∀ pPlayer pPacket,
      taken.event = .chatRecv pPlayer pPacket → ActsInSectors taken →
      Authenticated Sample.config (taken.pre.session pPlayer) (taken.pre.players pPlayer).accountNo
        before := by
  intro played
  have run : ServerRun Sample.config played.1 played.2 := Sample.play_run _ (by decide +kernel)
  have ordinary : ∀ taken ∈ played.1,
      (taken.pre.players taken.event.slot).bMonitoringLogin = false := by decide +kernel
  refine (acts_authenticated_iff run).mpr fun taken member pPlayer monitoring => ?_
  refine ⟨fun _ _ moves => ?_, fun _ _ speaks => ?_⟩
  · obtain ⟨_, received, _⟩ := moves
    have flag := ordinary taken member
    rw [received] at flag
    exact absurd (flag.symm.trans monitoring) (by simp)
  · obtain ⟨_, received, _⟩ := speaks
    have flag := ordinary taken member
    rw [received] at flag
    exact absurd (flag.symm.trans monitoring) (by simp)

/-- A monitoring client in CHAT can move as the account its slot still names. -/
theorem ServerRun.monitor_moves (run : ServerRun config history state) {pPlayer : PlayerPtr}
    (chat : state.phase pPlayer = .chat)
    (monitoring : (state.players pPlayer).bMonitoringLogin = true) {sectorX sectorY : WORD}
    (valid : isNonValidSector sectorX sectorY = false) :
    ∃ taken, ServerRun config (history ++ [taken]) taken.post ∧ taken.pre = state ∧
      taken.event = .chatRecv pPlayer
        (sectorMoveWire config (state.players pPlayer).accountNo sectorX sectorY) ∧
      ActsInSectors taken ∧
      ∀ accountNo, ¬ Authenticated config (state.session pPlayer) accountNo history := by
  have login := (run.lifecycle.slots pPlayer).loggedIn (.inr chat)
  have accepts : acceptsMove (state.players pPlayer) (state.players pPlayer).accountNo sectorX sectorY =
      true := by
    simp [acceptsMove, speaksAs, login, valid]
  have step : (chatServer config).step state (.chatRecv pPlayer (sectorMoveWire config
      (state.players pPlayer).accountNo sectorX sectorY)) = some (state.moved pPlayer sectorX sectorY,
        moveCalls config state pPlayer sectorX sectorY ++ [.updateCntTps]) := by
    simp only [chatServer, ChatServerRedis.step, chat, if_true, ChatContents.onRecv_run,
      (decodeRequest_eq_sectorMove config).mpr rfl, requestResult, accepts]
  have pushed : Call.listArr (.pushBack pPlayer) sectorY.toNat sectorX.toNat ∈
      moveCalls config state pPlayer sectorX sectorY ++ [.updateCntTps] := by
    simp [moveCalls]
  exact ⟨⟨_, _, _, _⟩, run.snoc step, rfl, rfl, .inl ⟨_, _, _, pushed⟩,
    ((ServerRun.credentials run).slots pPlayer).monitoring (.inr chat) monitoring⟩

/-- A monitoring client gets the slot that a player of account 7 has left, and moves
    as account 7 without a LOGIN. -/
theorem monitor_moves_as_former : ∃ history state, ServerRun Sample.config history state ∧
    ∃ before taken after pPlayer pPacket, history = before ++ taken :: after ∧
      taken.event = .chatRecv pPlayer pPacket ∧ ActsInSectors taken ∧
      (taken.pre.players pPlayer).accountNo = 7 ∧
      ∀ accountNo, ¬ Authenticated Sample.config (taken.pre.session pPlayer) accountNo before := by
  let former := Sample.login 0 5 7 ++ [.chatEnter 0, .chatLeave 0]
  let memory := ((Sample.play former).get (by decide +kernel)).2.players 0
  let monitor := (Sample.play (former ++ [.accept 0 6 memory, .loginEnter 0, .loginRecv 0 0 .null
    (fun _ => 0) (wordBytes Sample.config.csChatMonitorClientLogin), .chatEnter 0])).get
      (by decide +kernel)
  have run : ServerRun Sample.config monitor.1 monitor.2 := Sample.play_run _ (by decide +kernel)
  have stale : (monitor.2.players 0).accountNo = 7 := by decide +kernel
  have chat : monitor.2.phase 0 = .chat := by decide +kernel
  have monitoring : (monitor.2.players 0).bMonitoringLogin = true := by decide +kernel
  have valid : isNonValidSector 3 4 = false := by decide
  obtain ⟨taken, moved, pre, received, acts, unlogged⟩ := run.monitor_moves chat monitoring valid
  rw [← pre] at stale unlogged
  exact ⟨_, _, moved, _, taken, [], 0, _, rfl, received, acts, stale, unlogged⟩

end Runs

end ChatServerRedis
