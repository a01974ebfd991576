import ChatServerRedis.Verified.LoginMap

/-! # The monitoring client

`MonitoringClientSessionID` is a takeover register with a single key: a monitoring
login claims it for its session, `OnLeave` releases the session of the player.
-/

namespace ChatServerRedis

open PastTime Takeover Transition

/-- A monitoring login claims the register, leaving CHAT releases the session. -/
def monitors (config : Config) : Protocol Step Unit ULONGLONG where
  claims taken _ sessionID :=
    ∃ pPlayer, MonitorLogsIn config pPlayer taken ∧ taken.pre.session pPlayer = sessionID
  releases taken sessionID :=
    ∃ pPlayer, taken.event = .chatLeave pPlayer ∧ taken.pre.session pPlayer = sessionID

/-- The session of the most recent monitoring login, which has not left CHAT. -/
abbrev LatestMonitor (config : Config) (sessionID : ULONGLONG) (history : List Step) : Prop :=
  Latest (monitors config) () sessionID history

/-- A session that has logged in as a monitoring client and not left CHAT. -/
abbrev MonitorStays (config : Config) (sessionID : ULONGLONG) (history : List Step) : Prop :=
  Held (monitors config) () sessionID history

namespace Server

def isMonitor (server : Server) (pPlayer : PlayerPtr) : Prop :=
  (server.phase pPlayer = .moving ∨ server.phase pPlayer = .chat) ∧
    (server.players pPlayer).bMonitoringLogin = true

def monitorSession (server : Server) (sessionID : ULONGLONG) (_ : Unit) : Prop :=
  ∃ pPlayer, server.isMonitor pPlayer ∧ server.session pPlayer = sessionID

/-- The register that `MonitoringClientSessionID` encodes. -/
def monitorOwner (server : Server) (_ : Unit) : Option ULONGLONG :=
  if server.monitoringClientSessionID = maxULongLong then none
  else some server.monitoringClientSessionID

end Server

def MonitorRegistered (config : Config) (history : List Step) (server : Server) : Prop :=
  Registered (monitors config) history server.monitorOwner server.monitorSession
    fun sessionID => Disconnected sessionID history

section Step

variable {config : Config} {server post : Server} {event : Event} {calls : List Call}
  {history : List Step}

theorem monitorOwner_eq_some {sessionID : ULONGLONG} :
    server.monitorOwner () = some sessionID ↔
      server.monitoringClientSessionID = sessionID ∧ sessionID ≠ maxULongLong := by
  unfold Server.monitorOwner
  split
  · next unset =>
    simp only [reduceCtorEq, false_iff, not_and, not_not]
    exact fun same => same.symm.trans unset
  · next set =>
    simp only [Option.some.injEq]
    exact ⟨fun same => ⟨same, same ▸ set⟩, fun held => held.1⟩

theorem Lifecycle.session_valid (lifecycle : Lifecycle server) {pPlayer : PlayerPtr}
    (used : server.phase pPlayer ≠ .free) : server.session pPlayer ≠ maxULongLong := by
  intro same
  exact lifecycle.reserved (same ▸ lifecycle.issued pPlayer used)

/-- Only monitoring logins and leaves change which sessions are monitors. -/
theorem StepCase.monitorSession_kept (lifecycle : Lifecycle server)
    (outcome : StepCase config server event post calls)
    (ordinary : ∀ pPlayer, ¬ MonitorLogsIn config pPlayer ⟨server, event, calls, post⟩)
    (unleft : ∀ pPlayer, event ≠ .chatLeave pPlayer) (sessionID : ULONGLONG) :
    post.monitorSession sessionID () ↔ server.monitorSession sessionID () := by
  refine exists_congr fun other => ?_
  by_cases same : other = event.slot
  · have flags := (lifecycle.slots other).loggedOut
    cases outcome with
    | @monitorLogin pPlayer _ _ _ _ login monitor =>
      exact absurd ⟨_, _, _, _, rfl, monitor⟩ (ordinary pPlayer)
    | chatLeave | chatLeaveEarly => exact absurd rfl (unleft _)
    | loginIdle | chatIdle | spoke | sectorInfo => exact Iff.rfl
    | accept | loginEnter | loggedIn | loginLeave | chatEnter | moved =>
      simp only [Event.slot] at same
      subst same
      simp_all [Server.isMonitor]
  · obtain ⟨phase, session, player⟩ := outcome.frame same
    unfold Server.isMonitor
    rw [phase, session, player]

theorem MonitorRegistered.monitorLogin {pPlayer : PlayerPtr} {taken : Step}
    (registered : MonitorRegistered config history server) (lifecycle : Lifecycle server)
    (login : server.phase pPlayer = .login)
    (claims : ∀ other, MonitorLogsIn config other taken ↔ other = pPlayer)
    (unleft : ∀ other, taken.event ≠ .chatLeave other) (pre : taken.pre = server)
    (calls : taken.calls = monitorCalls server pPlayer ++ [.updateCntTps]) :
    MonitorRegistered config (history ++ [taken]) (server.monitorLoggedIn pPlayer) := by
  have used : server.phase pPlayer ≠ .free := by simp [login]
  have sessionId := (lifecycle.slots pPlayer).sessionId used
  have owner : (server.monitorLoggedIn pPlayer).monitorOwner =
      Function.update server.monitorOwner () (some (server.session pPlayer)) := by
    funext key
    rw [Function.update_self]
    exact monitorOwner_eq_some.mpr ⟨sessionId, lifecycle.session_valid used⟩
  rw [MonitorRegistered, owner]
  refine Registered.claim registered ?_ ?_ ?_ ?_ fun _ _ _ disconnected => disconnected.snoc _
  · intro key someone
    simp [monitors, claims, pre, eq_comm]
  · rintro someone ⟨other, left, _⟩
    exact unleft other left
  · intro someone key
    have others : ∀ other, other ≠ pPlayer →
        ((server.monitorLoggedIn pPlayer).isMonitor other ↔ server.isMonitor other) := by
      intro other differ
      simp [Server.isMonitor, differ]
    constructor
    · rintro ⟨other, monitor, rfl⟩
      by_cases here : other = pPlayer
      · exact .inr ⟨by rw [here]; rfl, rfl⟩
      · exact .inl ⟨other, (others other here).mp monitor, rfl⟩
    · rintro (⟨other, monitor, rfl⟩ | ⟨rfl, _⟩)
      · by_cases here : other = pPlayer
        · exact ⟨pPlayer, by simp [Server.isMonitor], by rw [here]; rfl⟩
        · exact ⟨other, (others other here).mpr monitor, rfl⟩
      · exact ⟨pPlayer, by simp [Server.isMonitor], rfl⟩
  · intro former owned
    obtain ⟨rfl, valid⟩ := monitorOwner_eq_some.mp owned
    refine (once_snoc _ _ _).mpr (.inr ?_)
    simp [calls, monitorCalls, valid]

theorem Server.isMonitor.used {pPlayer : PlayerPtr} (monitor : server.isMonitor pPlayer) :
    server.phase pPlayer ≠ .free := by
  obtain ⟨moving | present, _⟩ := monitor
  · rw [moving]
    exact Phase.noConfusion
  · rw [present]
    exact Phase.noConfusion

theorem Lifecycle.monitorSession_left (lifecycle : Lifecycle server) {pPlayer : PlayerPtr}
    (used : server.phase pPlayer ≠ .free) (sessionID : ULONGLONG) :
    ((server.left pPlayer).setPhase pPlayer .free).monitorSession sessionID () ↔
      server.monitorSession sessionID () ∧ sessionID ≠ server.session pPlayer := by
  have others : ∀ other, other ≠ pPlayer →
      (((server.left pPlayer).setPhase pPlayer .free).isMonitor other ↔ server.isMonitor other) := by
    intro other differ
    simp [Server.isMonitor, differ]
  constructor
  · rintro ⟨other, monitor, rfl⟩
    have differ : other ≠ pPlayer := by
      rintro rfl
      simp [Server.isMonitor] at monitor
    have before := (others other differ).mp monitor
    exact ⟨⟨other, before, rfl⟩, fun same => differ (lifecycle.distinct _ _ before.used used same)⟩
  · rintro ⟨⟨other, monitor, rfl⟩, elsewhere⟩
    have differ : other ≠ pPlayer := fun same => elsewhere (by rw [same])
    exact ⟨other, (others other differ).mpr monitor, rfl⟩

theorem MonitorRegistered.monitorOwner_left (registered : MonitorRegistered config history server)
    (lifecycle : Lifecycle server) {pPlayer : PlayerPtr} (used : server.phase pPlayer ≠ .free)
    (sessionID : ULONGLONG) :
    ((server.left pPlayer).setPhase pPlayer .free).monitorOwner () = some sessionID ↔
      server.monitorOwner () = some sessionID ∧ sessionID ≠ server.session pPlayer := by
  have sessionId := (lifecycle.slots pPlayer).sessionId used
  rw [monitorOwner_eq_some, monitorOwner_eq_some]
  simp only [Server.setPhase_monitoringClientSessionID, Server.left_monitoringClientSessionID,
    Server.monitorAfter, sessionId]
  split
  · next own =>
    constructor
    · rintro ⟨rfl, valid⟩
      exact absurd rfl valid
    · rintro ⟨⟨rfl, _⟩, elsewhere⟩
      exact absurd own.2 elsewhere
  · next other =>
    refine (and_iff_left_of_imp ?_).symm
    -- the owner is a monitor, so an ordinary player cannot carry its session id
    rintro ⟨rfl, valid⟩ own
    have owned : server.monitorOwner () = some server.monitoringClientSessionID :=
      monitorOwner_eq_some.mpr ⟨rfl, valid⟩
    obtain ⟨holder, monitor, session⟩ := registered.owner_holding owned
    have same := lifecycle.distinct holder pPlayer monitor.used used (session.trans own)
    exact other ⟨same ▸ monitor.2, own⟩

theorem MonitorRegistered.chatLeave {pPlayer : PlayerPtr} {taken : Step}
    (registered : MonitorRegistered config history server) (lifecycle : Lifecycle server)
    (chat : server.phase pPlayer = .chat) (event : taken.event = .chatLeave pPlayer)
    (pre : taken.pre = server) :
    MonitorRegistered config (history ++ [taken]) ((server.left pPlayer).setPhase pPlayer .free) := by
  have used : server.phase pPlayer ≠ .free := by simp [chat]
  have releases : ∀ someone, (monitors config).releases taken someone ↔
      someone = server.session pPlayer := by
    simp [monitors, event, pre, eq_comm]
  have only : ∀ key, server.monitorSession (server.session pPlayer) key → key = () := fun _ _ => rfl
  refine Registered.release registered only ?_ releases
    (fun sessionID _ => lifecycle.monitorSession_left used sessionID) ?_
    fun _ _ _ disconnected => disconnected.snoc _
  · rintro key someone ⟨other, ⟨_, _, _, _, received, _⟩, _⟩
    rw [event] at received
    cases received
  · intro key sessionID
    rw [registered.monitorOwner_left lifecycle used]
    simp

theorem MonitorRegistered.step (registered : MonitorRegistered config history server)
    (lifecycle : Lifecycle server) (outcome : StepCase config server event post calls) :
    MonitorRegistered config (history ++ [⟨server, event, calls, post⟩]) post := by
  have kept := outcome.monitorSession_kept lifecycle
  cases outcome with
  | monitorLogin login monitor =>
    exact registered.monitorLogin lifecycle login (by simp [monitor, eq_comm]) (by simp) rfl rfl
  | chatLeave chat => exact registered.chatLeave lifecycle chat rfl rfl
  | chatLeaveEarly chat login => exact absurd login (lifecycle.chat_bLogin chat)
  | loginIdle _ _ ordinary =>
    refine Registered.idle registered (by simp [monitors, ordinary]) (by simp [monitors])
      (fun _ _ => Iff.rfl) fun _ _ _ disconnected => disconnected.snoc _
  | loggedIn _ granted =>
    have same := kept (by simp [granted.not_monitor]) (by simp)
    refine Registered.idle registered (by simp [monitors, granted.not_monitor]) (by simp [monitors])
      (fun sessionID _ => same sessionID) fun _ _ _ disconnected => disconnected.snoc _
  | accept | loginEnter | loginLeave | chatEnter | chatIdle | moved | spoke | sectorInfo =>
    have same := kept (by simp [MonitorLogsIn]) (by simp)
    refine Registered.idle registered (by simp [monitors, MonitorLogsIn]) (by simp [monitors])
      (fun sessionID _ => same sessionID) fun _ _ _ disconnected => disconnected.snoc _

end Step

theorem ServerRun.monitor {config : Config} {history : List Step} {state : Server}
    (run : ServerRun config history state) : MonitorRegistered config history state := by
  refine run.induction ?_ fun history state event post calls run registered taken => ?_
  · rintro _ ⟨memory, rfl⟩
    exact Registered.nil (by simp [Server.monitorSession, Server.isMonitor, Server.initial])
  · exact registered.step (ServerRun.lifecycle run) (step_cases taken)

section Runs

variable {config : Config} {history : List Step} {state : Server}

/-- The global id is the session of the latest monitoring login that has not left,
    every other monitoring session was disconnected, and a replaced monitor that
    leaves late leaves the id alone. -/
theorem monitoringClientSessionID_latest (run : ServerRun config history state) :
    (∀ sessionID, LatestMonitor config sessionID history →
      state.monitoringClientSessionID = sessionID) ∧
    ((∀ sessionID, ¬ LatestMonitor config sessionID history) →
      state.monitoringClientSessionID = maxULongLong) ∧
    (∀ sessionID, MonitorStays config sessionID history →
      state.monitoringClientSessionID ≠ sessionID → Disconnected sessionID history) ∧
    (∀ first second, MonitorStays config first history → MonitorStays config second history →
      ¬ Disconnected first history → ¬ Disconnected second history → first = second) ∧
    (∀ taken ∈ history, ∀ pPlayer, taken.event = .chatLeave pPlayer →
      taken.pre.monitoringClientSessionID ≠ taken.pre.session pPlayer →
      taken.post.monitoringClientSessionID = taken.pre.monitoringClientSessionID) := by
  have registered := run.monitor
  have replaced : ∀ sessionID, MonitorStays config sessionID history →
      state.monitoringClientSessionID ≠ sessionID → Disconnected sessionID history := by
    intro sessionID stays differ
    refine registered.replaced () sessionID ((registered.held _ _).mpr stays) fun owned => ?_
    exact differ (monitorOwner_eq_some.mp owned).1
  refine ⟨fun sessionID latest => ?_, fun unclaimed => ?_, replaced,
    fun first second staysFirst staysSecond connectedFirst connectedSecond => ?_,
    run.forall_mem fun before server event post calls reached outcome pPlayer left differ => ?_⟩
  · exact (monitorOwner_eq_some.mp ((registered.latest () sessionID).mpr latest)).1
  · by_contra set
    exact unclaimed _ ((registered.latest () _).mp (monitorOwner_eq_some.mpr ⟨rfl, set⟩))
  · have first_id : state.monitoringClientSessionID = first := by
      by_contra differ
      exact connectedFirst (replaced first staysFirst differ)
    have second_id : state.monitoringClientSessionID = second := by
      by_contra differ
      exact connectedSecond (replaced second staysSecond differ)
    exact first_id.symm.trans second_id
  · cases left
    have sessionId := fun used => (reached.lifecycle.slots pPlayer).sessionId used
    cases outcome with
    | chatLeave chat | chatLeaveEarly chat =>
      rw [← sessionId (by simp [chat])] at differ
      simp [Server.monitorAfter, differ]

/-- The second monitoring login replaces the first, which leaves later. -/
theorem monitoringClientSessionID_latest_sample :
    let played := (Sample.play (Sample.monitorLogin 0 5 ++ [.chatEnter 0] ++
      Sample.monitorLogin 1 6 ++ [.chatLeave 0])).get (by decide +kernel)
    ∀ taken ∈ played.1, ∀ pPlayer, taken.event = .chatLeave pPlayer →
      taken.pre.monitoringClientSessionID ≠ taken.pre.session pPlayer →
      taken.post.monitoringClientSessionID = taken.pre.monitoringClientSessionID := by
  intro played
  exact (monitoringClientSessionID_latest (Sample.play_run _ (by decide +kernel))).2.2.2.2

end Runs

end ChatServerRedis
