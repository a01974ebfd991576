import ChatServerRedis.Verified.Lifecycle

/-! # The player counter

`lPlayerNum` counts the players of CHAT exactly.  The limit `MAX_PLAYER_NUM` is
tested in LOGIN against this counter, which does not know the players on their
way to CHAT: it holds as long as nobody is admitted on top of them.
-/

namespace ChatServerRedis

open Transition

def Event.balance : Event → Int
  | .chatEnter _ => 1
  | .chatLeave _ => -1
  | _ => 0

variable {config : Config} {server post : Server} {event : Event} {calls : List Call}
  {history : List Step} {state : Server}

theorem StepCase.lPlayerNum_eq (lifecycle : Lifecycle server)
    (outcome : StepCase config server event post calls) :
    post.lPlayerNum = server.lPlayerNum + event.balance := by
  cases outcome with
  | chatLeaveEarly chat login => exact absurd login (lifecycle.chat_bLogin chat)
  | chatEnter => simp [Event.balance]
  | chatLeave =>
    simp only [Server.setPhase_lPlayerNum, Server.left_lPlayerNum, Event.balance]
    omega
  | accept | loginEnter | loginIdle | loggedIn | monitorLogin | loginLeave | chatIdle | moved | spoke
  | sectorInfo => simp [Event.balance]

/-- The counter is the number of players in CHAT, who are all logged in, and every
    leave takes back what the enter added. -/
theorem playerNum_balanced (run : ServerRun config history state) :
    state.lPlayerNum = state.playerList.length ∧ state.playerList.Nodup ∧
    (∀ pPlayer ∈ state.playerList, (state.players pPlayer).bLogin = true) ∧
    0 ≤ state.lPlayerNum ∧
    ∀ taken ∈ history, taken.post.lPlayerNum = taken.pre.lPlayerNum + taken.event.balance := by
  have lifecycle := run.lifecycle
  refine ⟨lifecycle.counted, lifecycle.chatters.nodup, fun pPlayer present => ?_, ?_,
    run.forall_mem fun before server event post calls reached outcome => ?_⟩
  · exact (lifecycle.slots pPlayer).loggedIn (.inr ((lifecycle.chatters.mem_iff pPlayer).mp present))
  · rw [lifecycle.counted]
    exact Int.natCast_nonneg _
  · exact outcome.lPlayerNum_eq reached.lifecycle

/-- One ordinary and one monitoring player enter, and the first leaves. -/
theorem playerNum_balanced_sample :
    let played := (Sample.play (Sample.login 0 5 7 ++ Sample.monitorLogin 1 6 ++
      [.chatEnter 0, .chatEnter 1, .chatLeave 0])).get (by decide +kernel)
    played.2.lPlayerNum = played.2.playerList.length ∧ played.2.playerList = [1] := by
  exact ⟨(playerNum_balanced (Sample.play_run _ (by decide +kernel))).1, by decide +kernel⟩

/-! ## The limit -/

/-- A LOGIN handler sends the player on its way to CHAT. -/
def Admits (config : Config) (taken : Step) : Prop :=
  ∃ pPlayer, MonitorLogsIn config pPlayer taken ∨ ∃ accountNo, LogsIn config pPlayer taken accountNo

def Server.admitted (server : Server) : Int := server.lPlayerNum + server.moving.length

theorem StepCase.admitted_le (lifecycle : Lifecycle server)
    (outcome : StepCase config server event post calls)
    (room : Admits config ⟨server, event, calls, post⟩ → server.admitted < config.maxPlayerNum)
    (bounded : server.admitted ≤ config.maxPlayerNum) : post.admitted ≤ config.maxPlayerNum := by
  have count := outcome.lPlayerNum_eq lifecycle
  unfold Server.admitted at room bounded ⊢
  rw [count]
  cases outcome with
  | @loggedIn pPlayer _ _ _ _ accountNo _ _ login granted =>
    have below := room ⟨pPlayer, .inr ⟨accountNo, by simp [granted]⟩⟩
    simp only [Event.balance, Server.loggedIn_moving, List.length_append, List.length_singleton]
    omega
  | @monitorLogin pPlayer _ _ _ _ login monitor =>
    have below := room ⟨pPlayer, .inl (by simp [monitor])⟩
    simp only [Event.balance, Server.monitorLoggedIn_moving, List.length_append, List.length_singleton]
    omega
  | @chatEnter pPlayer moving =>
    have waiting : pPlayer ∈ server.moving := (lifecycle.movers.mem_iff pPlayer).mpr moving
    have positive := List.length_pos_of_mem waiting
    simp only [Event.balance, Server.entered_moving, Server.enterChat_moving,
      List.length_erase_of_mem waiting]
    omega
  | chatLeave | chatLeaveEarly | accept | loginEnter | loginLeave | sectorInfo | moved =>
    simp [Event.balance]
    omega
  | loginIdle | chatIdle | spoke =>
    simpa [Event.balance] using bounded

theorem StepCase.moving_of_admits (outcome : StepCase config server event post calls)
    (admits : Admits config ⟨server, event, calls, post⟩) :
    server.moving.length < post.moving.length := by
  obtain ⟨pPlayer, monitor | ⟨accountNo, logs⟩⟩ := admits
  · obtain ⟨_, _, _, _, same, monitor⟩ := monitor
    cases same
    cases outcome with
    | loginIdle login refused ordinary => exact absurd monitor ordinary
    | loggedIn | monitorLogin => simp
  · obtain ⟨_, _, _, _, same, granted⟩ := logs
    cases same
    cases outcome with
    | loginIdle login refused => exact absurd granted (refused accountNo)
    | loggedIn | monitorLogin => simp

/-- The counter stays within the limit in every run that admits a player only while
    fewer than `MAX_PLAYER_NUM` are in CHAT or on their way. -/
theorem playerNum_le_max (run : ServerRun config history state) (limit : 0 ≤ config.maxPlayerNum)
    (room : ∀ taken ∈ history, Admits config taken → taken.pre.admitted < config.maxPlayerNum) :
    state.lPlayerNum ≤ config.maxPlayerNum := by
  -- the invariant bounds the players on their way as well, not the counter alone
  have bounded : state.admitted ≤ config.maxPlayerNum := by
    induction run with
    | start initial =>
      obtain ⟨memory, rfl⟩ := initial
      simpa [Server.admitted, Server.initial] using limit
    | snoc run taken inductionHypothesis =>
      have before := inductionHypothesis fun earlier member => room earlier (by simp [member])
      exact (step_cases taken).admitted_le (ServerRun.lifecycle run) (room _ (by simp)) before
  unfold Server.admitted at bounded
  omega

/-- Two players fill the server and a third one is refused; one leaves, and its place is
    taken by a player that has not entered yet. -/
theorem playerNum_le_max_sample :
    let played := (Sample.play (Sample.login 0 5 7 ++ Sample.login 1 6 8 ++
      [.chatEnter 0, .chatEnter 1] ++ Sample.login 2 9 10 ++ [.chatLeave 0] ++
      Sample.login 3 11 12)).get (by decide +kernel)
    (∃ taken ∈ played.1, taken.post.lPlayerNum = Sample.config.maxPlayerNum) ∧
      played.2.moving = [3] ∧ played.2.admitted = Sample.config.maxPlayerNum ∧
      played.2.lPlayerNum ≤ Sample.config.maxPlayerNum := by
  intro played
  have run : ServerRun Sample.config played.1 played.2 := Sample.play_run _ (by decide +kernel)
  have below : ∀ taken ∈ played.1, taken.pre.moving.length < taken.post.moving.length →
      taken.pre.admitted < Sample.config.maxPlayerNum := by decide +kernel
  refine ⟨by decide +kernel, by decide +kernel, by decide +kernel,
    playerNum_le_max run (by decide) fun taken member admits => below taken member ?_⟩
  obtain ⟨before, after, split⟩ := List.append_of_mem member
  rw [split] at run
  exact (step_cases (Run.split run).2).moving_of_admits admits

/-- Three players pass the test before any of them has entered. -/
theorem playerNum_exceeds_max : ∃ history state, ServerRun Sample.config history state ∧
    0 ≤ Sample.config.maxPlayerNum ∧ ¬ state.lPlayerNum ≤ Sample.config.maxPlayerNum :=
  ⟨_, _, Sample.play_run (Sample.login 0 5 7 ++ Sample.login 1 6 8 ++ Sample.login 2 9 10 ++
    [.chatEnter 0, .chatEnter 1, .chatEnter 2]) (by decide +kernel), by decide, by decide +kernel⟩

/-- Everyone on the way to CHAT can enter it: once more players are admitted than
    the limit allows, the counter gets past the limit. -/
theorem exceeds_of_admitted (run : ServerRun config history state) :
    ∃ later last, ServerRun config (history ++ later) last ∧ last.lPlayerNum = state.admitted := by
  generalize waiting : state.moving.length = number
  induction number generalizing history state with
  | zero => exact ⟨[], state, by simpa using run, by simp [Server.admitted, waiting]⟩
  | succ number inductionHypothesis =>
    have lifecycle := run.lifecycle
    obtain ⟨pPlayer, present⟩ := List.exists_mem_of_length_eq_add_one waiting
    have moving := (lifecycle.movers.mem_iff pPlayer).mp present
    have taken : (chatServer config).step state (.chatEnter pPlayer) =
        some ((state.enterChat pPlayer).entered pPlayer,
          enterCalls config (state.enterChat pPlayer) pPlayer) := by
      simp [chatServer, step, moving, ChatContents.onEnter_run]
    have entered : ServerRun config _ _ := Run.snoc run taken
    obtain ⟨later, last, reached, count⟩ := inductionHypothesis entered
      (by simp [List.length_erase_of_mem present, waiting])
    rw [List.append_assoc] at reached
    refine ⟨_, last, reached, ?_⟩
    rw [count]
    simp only [Server.admitted, Server.entered_lPlayerNum, Server.enterChat_lPlayerNum,
      Server.entered_moving, Server.enterChat_moving, List.length_erase_of_mem present, waiting]
    omega

end ChatServerRedis
