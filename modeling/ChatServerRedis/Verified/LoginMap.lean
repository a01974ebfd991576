import ChatServerRedis.General.Takeover
import ChatServerRedis.Verified.Lifecycle

/-! # The players by account

`loginPlayerMap` is a takeover register: entering CHAT claims the account, leaving
CHAT releases the player.  The register library gives what the map holds over
whole runs; what remains is that the two handlers claim and release correctly.
-/

namespace ChatServerRedis

open PastTime Takeover Transition

def EntersAs (accountNo : INT64) (pPlayer : PlayerPtr) (taken : Step) : Prop :=
  taken.event = .chatEnter pPlayer ∧ (taken.pre.players pPlayer).bMonitoringLogin = false ∧
    (taken.pre.players pPlayer).accountNo = accountNo

/-- Entering claims the account, leaving releases the player. -/
def accounts : Protocol Step INT64 PlayerPtr where
  claims taken accountNo pPlayer := EntersAs accountNo pPlayer taken
  releases taken pPlayer := taken.event = .chatLeave pPlayer

/-- The player is the last ordinary one that entered CHAT with the account, and has
    not left since. -/
abbrev LatestEntrant (accountNo : INT64) (pPlayer : PlayerPtr) (history : List Step) : Prop :=
  Latest accounts accountNo pPlayer history

def Disconnected (sessionID : ULONGLONG) (history : List Step) : Prop :=
  Once (fun taken => .disconnect sessionID ∈ taken.calls) history

def Server.presentAs (server : Server) (pPlayer : PlayerPtr) (accountNo : INT64) : Prop :=
  server.phase pPlayer = .chat ∧ (server.players pPlayer).bMonitoringLogin = false ∧
    (server.players pPlayer).accountNo = accountNo

/-- The map is the register of the accounts after the history. -/
def LoginMapRegistered (history : List Step) (server : Server) : Prop :=
  Registered accounts history server.loginPlayerMap server.presentAs
    fun pPlayer => Disconnected (server.players pPlayer).sessionId history

section Step

variable {config : Config} {server post : Server} {event : Event} {calls : List Call}
  {history : List Step}

theorem Disconnected.snoc {sessionID : ULONGLONG} (disconnected : Disconnected sessionID history)
    (taken : Step) : Disconnected sessionID (history ++ [taken]) :=
  (once_snoc _ _ _).mpr (.inl disconnected)

theorem StepCase.identity_kept (outcome : StepCase config server event post calls)
    {pPlayer : PlayerPtr} (chat : server.phase pPlayer = .chat) :
    (post.players pPlayer).sessionId = (server.players pPlayer).sessionId ∧
      (post.players pPlayer).accountNo = (server.players pPlayer).accountNo ∧
      (post.players pPlayer).bMonitoringLogin = (server.players pPlayer).bMonitoringLogin := by
  by_cases same : pPlayer = event.slot
  · cases outcome <;> simp only [Event.slot] at same <;> subst same <;> simp_all
  · rw [(outcome.frame same).2.2]
    exact ⟨rfl, rfl, rfl⟩

theorem StepCase.chat_kept (outcome : StepCase config server event post calls)
    (unentered : ∀ pPlayer, event ≠ .chatEnter pPlayer)
    (unleft : ∀ pPlayer, event ≠ .chatLeave pPlayer) (other : PlayerPtr) :
    post.phase other = .chat ↔ server.phase other = .chat := by
  cases outcome with
  | chatEnter => exact absurd rfl (unentered _)
  | chatLeave | chatLeaveEarly => exact absurd rfl (unleft _)
  | loginIdle | chatIdle | spoke | sectorInfo | moved => exact Iff.rfl
  | @accept pPlayer | @loginEnter pPlayer | @loginLeave pPlayer | @loggedIn pPlayer
  | @monitorLogin pPlayer => by_cases same : other = pPlayer <;> simp_all

theorem StepCase.presentAs_kept (outcome : StepCase config server event post calls)
    (unentered : ∀ pPlayer, event ≠ .chatEnter pPlayer)
    (unleft : ∀ pPlayer, event ≠ .chatLeave pPlayer) (pPlayer : PlayerPtr) (accountNo : INT64) :
    post.presentAs pPlayer accountNo ↔ server.presentAs pPlayer accountNo := by
  unfold Server.presentAs
  rw [outcome.chat_kept unentered unleft]
  refine and_congr_right fun chat => ?_
  obtain ⟨_, account, monitoring⟩ := outcome.identity_kept chat
  rw [account, monitoring]

/-- A leave erases no entry but that of the player who leaves. -/
theorem StepCase.entry_kept {pPlayer other : PlayerPtr} {accountNo : INT64}
    (outcome : StepCase config server (.chatLeave pPlayer) post calls) (differ : other ≠ pPlayer)
    (owned : server.loginPlayerMap accountNo = some other) :
    post.loginPlayerMap accountNo = some other := by
  cases outcome with
  | chatLeaveEarly => exact owned
  | chatLeave =>
    simp only [Server.setPhase_loginPlayerMap, Server.left_loginPlayerMap]
    split
    · next owner =>
      have elsewhere : accountNo ≠ (server.players pPlayer).accountNo := by
        rintro rfl
        rw [owned] at owner
        exact differ (Option.some.inj owner)
      rw [Function.update_of_ne elsewhere]
      exact owned
    · exact owned

theorem disconnect_mem_enterCalls {pPlayer : PlayerPtr} {sessionID : ULONGLONG}
    (disconnected : .disconnect sessionID ∈ enterCalls config server pPlayer) :
    ∃ former, server.loginPlayerMap (server.players pPlayer).accountNo = some former ∧
      (server.players former).sessionId = sessionID := by
  obtain same | ⟨_, ⟨former, owner, same⟩ | same⟩ := mem_enterCalls.mp disconnected
  · cases same
  · cases same
    exact ⟨former, owner, rfl⟩
  · cases same

theorem LoginMapRegistered.chatEnter {pPlayer : PlayerPtr}
    (registered : LoginMapRegistered history server) (moving : server.phase pPlayer = .moving) :
    LoginMapRegistered (history ++ [⟨server, .chatEnter pPlayer, enterCalls config server pPlayer,
      (server.enterChat pPlayer).entered pPlayer⟩]) ((server.enterChat pPlayer).entered pPlayer) := by
  have releaseless : ∀ other, ¬ accounts.releases ⟨server, .chatEnter pPlayer,
      enterCalls config server pPlayer, (server.enterChat pPlayer).entered pPlayer⟩ other := by
    simp [accounts]
  cases monitoring : (server.players pPlayer).bMonitoringLogin with
  | true =>
    have same : ((server.enterChat pPlayer).entered pPlayer).loginPlayerMap = server.loginPlayerMap := by
      simp [monitoring]
    rw [LoginMapRegistered, same]
    refine Registered.idle registered ?_ releaseless ?_ fun _ _ _ disconnected => disconnected.snoc _
    · rintro accountNo other ⟨entered, ordinary, _⟩
      cases entered
      rw [monitoring] at ordinary
      cases ordinary
    · intro other accountNo
      by_cases here : other = pPlayer <;> simp [Server.presentAs, here, monitoring]
  | false =>
    have claimed : ((server.enterChat pPlayer).entered pPlayer).loginPlayerMap =
        Function.update server.loginPlayerMap (server.players pPlayer).accountNo (some pPlayer) := by
      simp [monitoring]
    rw [LoginMapRegistered, claimed]
    refine Registered.claim registered ?_ releaseless ?_ ?_ fun _ _ _ disconnected => disconnected.snoc _
    · intro accountNo other
      constructor
      · rintro ⟨entered, _, rfl⟩
        cases entered
        exact ⟨rfl, rfl⟩
      · rintro ⟨rfl, rfl⟩
        exact ⟨rfl, monitoring, rfl⟩
    · intro other accountNo
      by_cases here : other = pPlayer
      · subst here; simp [Server.presentAs, moving, monitoring, eq_comm]
      · simp [Server.presentAs, here]
    · intro former owned
      refine (once_snoc _ _ _).mpr (.inr ?_)
      simp [enterCalls, monitoring, formerDisconnect, owned]

theorem LoginMapRegistered.chatLeave {pPlayer : PlayerPtr}
    (registered : LoginMapRegistered history server) :
    LoginMapRegistered (history ++ [⟨server, .chatLeave pPlayer, leaveCalls server pPlayer,
      (server.left pPlayer).setPhase pPlayer .free⟩]) ((server.left pPlayer).setPhase pPlayer .free) := by
  have releases : ∀ other, accounts.releases ⟨server, .chatLeave pPlayer, leaveCalls server pPlayer,
      (server.left pPlayer).setPhase pPlayer .free⟩ other ↔ other = pPlayer := by
    simp [accounts, eq_comm]
  refine Registered.release registered (fun accountNo held => held.2.2.symm)
    (by simp [accounts, EntersAs]) releases ?_ ?_ fun _ _ _ disconnected => disconnected.snoc _
  · intro other accountNo
    by_cases here : other = pPlayer <;> simp [Server.presentAs, here]
  · intro accountNo other
    simp only [Server.setPhase_loginPlayerMap, Server.left_loginPlayerMap]
    -- the entry is erased only while it still points to the player who leaves
    by_cases owner : server.loginPlayerMap (server.players pPlayer).accountNo = some pPlayer
    · rw [if_pos owner]
      by_cases here : accountNo = (server.players pPlayer).accountNo
      · rw [here, Function.update_self, owner]
        simp [eq_comm]
      · simp [here]
    · rw [if_neg owner]
      refine (and_iff_left_of_imp ?_).symm
      rintro owned ⟨rfl, rfl⟩
      exact owner owned

theorem LoginMapRegistered.step (registered : LoginMapRegistered history server)
    (lifecycle : Lifecycle server) (outcome : StepCase config server event post calls) :
    LoginMapRegistered (history ++ [⟨server, event, calls, post⟩]) post := by
  have present := outcome.presentAs_kept
  have identity := @StepCase.identity_kept _ _ _ _ _ outcome
  cases outcome with
  | chatEnter moving => exact registered.chatEnter moving
  | chatLeave => exact registered.chatLeave
  | chatLeaveEarly chat login => exact absurd login (lifecycle.chat_bLogin chat)
  | accept | loginEnter | loginIdle | loggedIn | monitorLogin | loginLeave | chatIdle | moved | spoke
  | sectorInfo =>
    refine Registered.idle registered (by simp [accounts, EntersAs]) (by simp [accounts])
      (present (by simp) (by simp)) fun pPlayer accountNo held disconnected => ?_
    rw [(identity held.1).1]
    exact disconnected.snoc _

end Step

theorem ServerRun.loginMap {config : Config} {history : List Step} {state : Server}
    (run : ServerRun config history state) : LoginMapRegistered history state := by
  refine run.induction ?_ fun history state event post calls run registered taken => ?_
  · rintro _ ⟨memory, rfl⟩
    exact Registered.nil (by simp [Server.presentAs, Server.initial])
  · exact registered.step (ServerRun.lifecycle run) (step_cases taken)

section Runs

variable {config : Config} {history : List Step} {state : Server}

/-- The map holds exactly the latest entrants, and everybody they replaced was
    disconnected. -/
theorem loginPlayerMap_latestEntrant (run : ServerRun config history state) :
    (∀ accountNo pPlayer,
      state.loginPlayerMap accountNo = some pPlayer ↔ LatestEntrant accountNo pPlayer history) ∧
    (∀ pPlayer ∈ state.playerList, (state.players pPlayer).bMonitoringLogin = false →
      ¬ LatestEntrant (state.players pPlayer).accountNo pPlayer history →
      Disconnected (state.players pPlayer).sessionId history) ∧
    (∀ accountNo pPlayer, state.loginPlayerMap accountNo = some pPlayer →
      pPlayer ∈ state.playerList ∧ (state.players pPlayer).bMonitoringLogin = false ∧
        (state.players pPlayer).accountNo = accountNo) ∧
    (∀ taken ∈ history, ∀ pPlayer, taken.event = .chatLeave pPlayer → ∀ accountNo other,
      other ≠ pPlayer → taken.pre.loginPlayerMap accountNo = some other →
      taken.post.loginPlayerMap accountNo = some other) ∧
    (∀ taken ∈ history, ∀ pPlayer, taken.event = .chatEnter pPlayer → ∀ sessionID,
      .disconnect sessionID ∈ taken.calls → ∃ former ∈ taken.pre.playerList,
        (taken.pre.players former).sessionId = sessionID ∧
        (taken.pre.players former).bMonitoringLogin = false ∧
        (taken.pre.players former).accountNo = (taken.pre.players pPlayer).accountNo) := by
  have registered := run.loginMap
  have lifecycle := run.lifecycle
  refine ⟨registered.latest, fun pPlayer present ordinary replaced => ?_,
    fun accountNo pPlayer owned => ?_,
    run.forall_mem fun before server event post calls reached outcome pPlayer left accountNo other
      differ owned => ?_,
    run.forall_mem fun before server event post calls reached outcome pPlayer entered sessionID
      disconnected => ?_⟩
  · have chat := (lifecycle.chatters.mem_iff pPlayer).mp present
    exact registered.replaced _ pPlayer ⟨chat, ordinary, rfl⟩ fun owned =>
      replaced ((registered.latest _ _).mp owned)
  · obtain ⟨chat, ordinary, account⟩ := registered.owner_holding owned
    exact ⟨(lifecycle.chatters.mem_iff pPlayer).mpr chat, ordinary, account⟩
  · cases left
    exact outcome.entry_kept differ owned
  · cases entered
    cases outcome with
    | chatEnter moving =>
      obtain ⟨former, owned, session⟩ := disconnect_mem_enterCalls disconnected
      obtain ⟨chat, ordinary, account⟩ := reached.loginMap.owner_holding owned
      exact ⟨former, (reached.lifecycle.chatters.mem_iff former).mpr chat, session, ordinary, account⟩

/-- Two sessions of one account: the second owns the entry. -/
theorem loginPlayerMap_latestEntrant_sample :
    let played := (Sample.play (Sample.login 0 5 7 ++ Sample.login 1 6 7 ++
      [.chatEnter 0, .chatEnter 1])).get (by decide +kernel)
    LatestEntrant 7 1 played.1 := by
  intro played
  exact ((loginPlayerMap_latestEntrant (Sample.play_run _ (by decide +kernel))).1 7 1).mp
    (by decide +kernel)

/-! ## The lookup of OnLeave -/

theorem endDereference_not_quiet {calls : List Call} (quiet : calls.all Call.quiet = true) :
    .endDereference ∉ calls := by
  intro member
  have absurdity := List.all_eq_true.mp quiet _ member
  cases absurdity

/-- `OnLeave` reads through `end()` exactly when the account of the player has no
    entry; no other handler does. -/
theorem StepCase.endDereference_iff {server post : Server} {event : Event} {calls : List Call}
    (lifecycle : Lifecycle server) (outcome : StepCase config server event post calls) :
    .endDereference ∈ calls ↔ ∃ pPlayer, event = .chatLeave pPlayer ∧
      server.loginPlayerMap (server.players pPlayer).accountNo = none := by
  cases outcome with
  | chatLeaveEarly chat login => exact absurd login (lifecycle.chat_bLogin chat)
  | @chatLeave pPlayer => simp [mem_leaveCalls, mem_removeCalls]
  | loginIdle _ _ _ quiet | chatIdle _ _ _ quiet => simp [endDereference_not_quiet quiet]
  | monitorLogin => simp [mem_monitorCalls]
  | chatEnter => simp [mem_enterCalls]
  | moved => simp [mem_moveCalls, mem_removeCalls]
  | spoke => simp [mem_broadcastCalls]
  | accept | loginEnter | loggedIn | loginLeave | sectorInfo => simp

/-- A run never reads through `end()` exactly when at every leave the latest
    ordinary entrant of the leaving player's account is still in CHAT. -/
theorem endDereference_absent_iff (run : ServerRun config history state) :
    (∀ taken ∈ history, .endDereference ∉ taken.calls) ↔
    ∀ before taken after pPlayer, history = before ++ taken :: after →
      taken.event = .chatLeave pPlayer →
      ∃ owner, LatestEntrant (taken.pre.players pPlayer).accountNo owner before := by
  have each : ∀ before taken after, history = before ++ taken :: after →
      (.endDereference ∈ taken.calls ↔ ∃ pPlayer, taken.event = .chatLeave pPlayer ∧
        ¬ ∃ owner, LatestEntrant (taken.pre.players pPlayer).accountNo owner before) :=
    run.forall_split fun before server event post calls reached outcome => by
      rw [outcome.endDereference_iff reached.lifecycle]
      simp only [← reached.loginMap.latest, Option.eq_none_iff_forall_ne_some, not_exists, ne_eq]
  constructor
  · intro clean before taken after pPlayer split left
    by_contra unowned
    subst split
    exact clean taken (by simp) ((each before taken after rfl).mpr ⟨pPlayer, left, unowned⟩)
  · intro owned taken member dereferenced
    obtain ⟨before, after, split⟩ := List.append_of_mem member
    obtain ⟨pPlayer, left, unowned⟩ := (each before taken after split).mp dereferenced
    exact unowned (owned before taken after pPlayer split left)

/-- A replaced session leaves before its successor does. -/
theorem endDereference_absent_sample :
    let played := (Sample.play (Sample.login 0 5 7 ++ [.chatEnter 0] ++ Sample.login 1 6 7 ++
      [.chatEnter 1, .chatLeave 0, .chatLeave 1])).get (by decide +kernel)
    ∀ before taken after pPlayer, played.1 = before ++ taken :: after →
      taken.event = .chatLeave pPlayer →
      ∃ owner, LatestEntrant (taken.pre.players pPlayer).accountNo owner before := by
  intro played
  exact (endDereference_absent_iff (Sample.play_run _ (by decide +kernel))).mp (by decide +kernel)

/-- A second session replaces the first and leaves before it. -/
theorem endDereference_after_replacement : ∃ history state, ServerRun Sample.config history state ∧
    ∃ taken ∈ history, .endDereference ∈ taken.calls :=
  ⟨_, _, Sample.play_run (Sample.login 0 5 7 ++ [.chatEnter 0] ++ Sample.login 1 6 7 ++
    [.chatEnter 1, .chatLeave 1, .chatLeave 0]) (by decide +kernel), by decide +kernel⟩

end Runs

end ChatServerRedis
