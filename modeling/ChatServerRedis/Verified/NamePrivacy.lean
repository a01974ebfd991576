import ChatServerRedis.General.TwoRuns
import ChatServerRedis.Verified.Credentials

/-! # The memory behind a name

`ID_` and `nickName_` are broadcast as whole arrays, but `wcscpy_s` writes them only up
to the NUL and the construction of a player does not clear them.  What follows the NUL
is what the slot held before.  Two runs that differ in nothing but the memory of the
slots broadcast the same messages when these remains agree.
-/

namespace ChatServerRedis

open Handlers Transition TwoRuns LoginContents

/-! ## Copied texts -/

/-- The two memories agree behind the NUL of the text. -/
def SameBehind {length : Nat} (first second : Vector WCHAR length) (source : Option (List BYTE)) :
    Prop :=
  ∀ bytes nul, source = some bytes → (wchars length bytes).toList.findIdx? (· = 0) = some nul →
    ∀ i : Fin length, nul < i.val → first.get i = second.get i

theorem copiedText_eq_some {length : Nat} {destination copied : Vector WCHAR length}
    {source : Option (List BYTE)} (text : copiedText destination source = some copied) :
    ∃ bytes nul, source = some bytes ∧ (wchars length bytes).toList.findIdx? (· = 0) = some nul ∧
      ∀ i : Fin length, copied.get i =
        if i.val ≤ nul then (wchars length bytes).get i else destination.get i := by
  cases source with
  | none => cases text
  | some bytes =>
    rw [copiedText, Option.bind_some, wcscpyS] at text
    split at text
    · next nul found =>
      cases text
      refine ⟨bytes, nul, rfl, found, fun i => ?_⟩
      show (Vector.ofFn _ : Vector WCHAR length)[i.val] = _
      rw [Vector.getElem_ofFn]
      rfl
    · cases text

/-- A text copied over two memories is the same exactly when they agree behind its NUL. -/
theorem copiedText_same_iff {length : Nat} {first second copied copied' : Vector WCHAR length}
    {source : Option (List BYTE)} (text : copiedText first source = some copied)
    (text' : copiedText second source = some copied') :
    copied = copied' ↔ SameBehind first second source := by
  obtain ⟨bytes, nul, rfl, found, cells⟩ := copiedText_eq_some text
  obtain ⟨_, _, same, found', cells'⟩ := copiedText_eq_some text'
  cases same
  obtain rfl := Option.some.inj (found.symm.trans found')
  constructor
  · intro equal other nul' same found' i behind
    cases same
    obtain rfl := Option.some.inj (found.symm.trans found')
    have cell := cells i
    rw [equal, cells' i, if_neg (Nat.not_le.mpr behind), if_neg (Nat.not_le.mpr behind)] at cell
    exact cell.symm
  · intro agree
    apply Vector.ext
    intro i bound
    show copied.get ⟨i, bound⟩ = copied'.get ⟨i, bound⟩
    rw [cells, cells']
    split
    · rfl
    · next behind => exact agree bytes nul rfl found ⟨i, bound⟩ (Nat.not_le.mp behind)

/-! ## Accepted logins -/

section Login

variable {config : Config} {server server' : Server} {reply : Reply} {beyond : Nat → BYTE}
  {pPacket : List BYTE}

/-- The remains behind the texts of a LOGIN packet agree on the two servers. -/
def SameRemains (server server' : Server) (pPlayer : PlayerPtr) (pPacket : List BYTE) : Prop :=
  ∀ type rest fields, readWord pPacket = some (type, rest) → readLogin rest = some fields →
    SameBehind (server.players pPlayer).ID (server'.players pPlayer).ID fields.pID ∧
    SameBehind (server.players pPlayer).nickName (server'.players pPlayer).nickName fields.pNickName

theorem GrantsLogin.congr {accountNo : INT64} (counted : server.lPlayerNum = server'.lPlayerNum) :
    GrantsLogin config server reply beyond pPacket accountNo ↔
      GrantsLogin config server' reply beyond pPacket accountNo := by
  simp only [GrantsLogin, counted]

end Login

/-! ## Servers that differ in the memory -/

/-- The players of a slot in two runs: the monitoring clients are the same, and so are
    the account and the names of the other players. -/
structure SamePlayer (phase : Phase) (first second : Player) : Prop where
  monitoring : phase = .moving ∨ phase = .chat → first.bMonitoringLogin = second.bMonitoringLogin
  named : phase = .moving ∨ phase = .chat → first.bMonitoringLogin = false →
    first.accountNo = second.accountNo ∧ first.ID = second.ID ∧ first.nickName = second.nickName

structure SameBesidesMemory (first second : Server) : Prop where
  common : first.phase = second.phase ∧ first.session = second.session ∧
    first.issued = second.issued ∧ first.lPlayerNum = second.lPlayerNum
  players : ∀ pPlayer, SamePlayer (first.phase pPlayer) (first.players pPlayer) (second.players pPlayer)

/-- The same event, up to the memory `OnAccept` constructs a player on. -/
inductive SameEvent : Event → Event → Prop where
  | accept (pPlayer : PlayerPtr) (sessionID : ULONGLONG) (memory memory' : Player) :
      SameEvent (.accept pPlayer sessionID memory) (.accept pPlayer sessionID memory')
  | same (event : Event) : SameEvent event event

/-- Where the first run accepts a LOGIN, the remains agree. -/
def AdmitsNames (config : Config) (taken taken' : Step) : Prop :=
  ∀ pPlayer typeLocal reply beyond pPacket accountNo,
    taken.event = .loginRecv pPlayer typeLocal reply beyond pPacket →
    GrantsLogin config taken.pre reply beyond pPacket accountNo →
    SameRemains taken.pre taken'.pre pPlayer pPacket

section Step

variable {config : Config} {first second post post' : Server} {event event' : Event}
  {calls calls' : List Call} {pPlayer : PlayerPtr}

theorem SamePlayer.elsewhere {phase : Phase} {one other : Player}
    (outside : phase ≠ .moving ∧ phase ≠ .chat) : SamePlayer phase one other where
  monitoring inside := absurd inside (by simp [outside])
  named inside := absurd inside (by simp [outside])

namespace SameBesidesMemory

variable (same : SameBesidesMemory first second)

include same

theorem players_step (outcome : StepCase config first event post calls)
    (outcome' : StepCase config second event' post' calls') (slot : event.slot = event'.slot)
    (here : SamePlayer (post.phase event.slot) (post.players event.slot) (post'.players event.slot)) :
    ∀ pPlayer, SamePlayer (post.phase pPlayer) (post.players pPlayer) (post'.players pPlayer) := by
  intro pPlayer
  by_cases own : pPlayer = event.slot
  · rw [own]
    exact here
  · obtain ⟨phase, _, players⟩ := outcome.frame own
    obtain ⟨_, _, players'⟩ := outcome'.frame (slot ▸ own)
    rw [phase, players, players']
    exact same.players pPlayer

theorem loginRecv (lifecycle : Lifecycle first) (lifecycle' : Lifecycle second) {typeLocal : WORD}
    {reply : Reply} {beyond : Nat → BYTE} {pPacket : List BYTE}
    (taken : (chatServer config).step first (.loginRecv pPlayer typeLocal reply beyond pPacket) =
      some (post, calls))
    (taken' : (chatServer config).step second (.loginRecv pPlayer typeLocal reply beyond pPacket) =
      some (post', calls'))
    (agree : ∀ accountNo, GrantsLogin config first reply beyond pPacket accountNo →
      SameRemains first second pPlayer pPacket) : SameBesidesMemory post post' := by
  have players := same.players_step (step_cases taken) (step_cases taken') rfl
  obtain ⟨login, result⟩ := step_loginRecv taken
  obtain ⟨login', result'⟩ := step_loginRecv taken'
  by_cases accepted : ∃ accountNo, GrantsLogin config first reply beyond pPacket accountNo
  · obtain ⟨accountNo, granted⟩ := accepted
    have granted' := (GrantsLogin.congr same.common.2.2.2).mp granted
    obtain ⟨rest, fields, ID, nickName, type, parsed, textID, textNick, rfl, _⟩ :=
      loginResult_granted granted result
    obtain ⟨_, _, ID', nickName', type', parsed', textID', textNick', rfl, _⟩ :=
      loginResult_granted granted' result'
    -- the packet is the same, so only the memory could tell the names apart
    cases type.symm.trans type'
    cases parsed.symm.trans parsed'
    obtain ⟨behindID, behindNick⟩ := agree accountNo granted _ _ _ type parsed
    obtain rfl := (copiedText_same_iff textID textID').mpr behindID
    obtain rfl := (copiedText_same_iff textNick textNick').mpr behindNick
    have ordinary := (lifecycle.slots pPlayer).loggedOut login
    have ordinary' := (lifecycle'.slots pPlayer).loggedOut login'
    exact ⟨by simp [same.common], players ⟨by simp [Event.slot, ordinary, ordinary'], by simp [Event.slot]⟩⟩
  · have refused := not_exists.mp accepted
    by_cases monitor : IsMonitorLogin config pPacket
    · rw [loginResult_monitor monitor] at result result'
      cases result
      cases result'
      exact ⟨by simp [same.common], players ⟨by simp [Event.slot], by simp [Event.slot]⟩⟩
    · have refused' : ∀ accountNo, ¬ GrantsLogin config second reply beyond pPacket accountNo :=
        fun accountNo granted => refused accountNo ((GrantsLogin.congr same.common.2.2.2).mpr granted)
      obtain ⟨rfl, _⟩ := loginResult_idle refused monitor result
      obtain ⟨rfl, _⟩ := loginResult_idle refused' monitor result'
      exact same

theorem chatRecv {pPacket : List BYTE}
    (taken : (chatServer config).step first (.chatRecv pPlayer pPacket) = some (post, calls))
    (taken' : (chatServer config).step second (.chatRecv pPlayer pPacket) = some (post', calls')) :
    SameBesidesMemory post post' := by
  have outcome := request_cases (step_chatRecv taken).2
  have outcome' := request_cases (step_chatRecv taken').2
  obtain ⟨phase, session, issued, counted, _⟩ := outcome.kept
  obtain ⟨phase', session', issued', counted', _⟩ := outcome'.kept
  have common := same.common
  rw [← phase, ← phase', ← session, ← session', ← issued, ← issued', ← counted, ← counted'] at common
  refine ⟨common, fun other => ?_⟩
  obtain ⟨_, _, _, kept⟩ := outcome.player_kept other
  obtain ⟨_, _, _, kept'⟩ := outcome'.player_kept other
  have before := same.players other
  rw [phase, kept, kept']
  exact ⟨before.monitoring, before.named⟩

theorem step (lifecycle : Lifecycle first) (lifecycle' : Lifecycle second)
    (alike : SameEvent event event')
    (taken : (chatServer config).step first event = some (post, calls))
    (taken' : (chatServer config).step second event' = some (post', calls'))
    (admitted : AdmitsNames config ⟨first, event, calls, post⟩ ⟨second, event', calls', post'⟩) :
    SameBesidesMemory post post' := by
  have outcome := step_cases taken
  have outcome' := step_cases taken'
  have players := same.players_step outcome outcome'
  cases alike with
  | accept pPlayer sessionID memory memory' =>
    cases outcome
    cases outcome'
    exact ⟨by simp [same.common], players rfl (.elsewhere (by simp [Event.slot]))⟩
  | same =>
    cases event with
    | loginRecv pPlayer typeLocal reply beyond pPacket =>
      exact same.loginRecv lifecycle lifecycle' taken taken' fun accountNo granted =>
        admitted pPlayer typeLocal reply beyond pPacket accountNo rfl granted
    | chatRecv pPlayer pPacket => exact same.chatRecv taken taken'
    | accept | loginEnter | loginLeave =>
      cases outcome
      cases outcome'
      exact ⟨by simp [same.common], players rfl (.elsewhere (by simp [Event.slot]))⟩
    | chatEnter pPlayer =>
      have before := same.players pPlayer
      cases outcome with
      | chatEnter moving =>
        cases outcome'
        refine ⟨by simp [same.common], players rfl ⟨fun _ => ?_, fun _ => ?_⟩⟩
        · simpa [Event.slot] using before.monitoring (.inl moving)
        · simpa [Event.slot] using before.named (.inl moving)
    | chatLeave pPlayer =>
      cases outcome with
      | chatLeaveEarly chat login => exact absurd login (lifecycle.chat_bLogin chat)
      | chatLeave =>
        cases outcome' with
        | chatLeaveEarly chat login => exact absurd login (lifecycle'.chat_bLogin chat)
        | chatLeave =>
          exact ⟨by simp [same.common], players rfl (.elsewhere (by simp [Event.slot]))⟩

end SameBesidesMemory

end Step

/-! ## Runs -/

section Runs

variable {config : Config} {history history' : List Step} {state state' : Server}

/-- A message of a player that logged in by LOGIN is accepted in both runs, and all
    that is broadcast for it is one payload. -/
def SameMessages (config : Config) (before : List Step) (taken taken' : Step) : Prop :=
  ∀ pPlayer messageLen message accountNo, Speaks config pPlayer taken messageLen message →
    Authenticated config (taken.pre.session pPlayer) accountNo before →
    Speaks config pPlayer taken' messageLen message ∧
    ∃ payload, ∀ sessionID packet, .enqPacket sessionID packet ∈ taken.calls ++ taken'.calls →
      packet = .alloc payload

theorem packet_of_broadcast {server : Server} {pPlayer : PlayerPtr} {messageLen : WORD}
    {message : List BYTE} {sessionID : ULONGLONG} {packet : PacketRef}
    (sent : .enqPacket sessionID packet ∈
      broadcastCalls config server pPlayer messageLen message ++ [.updateCntTps]) :
    packet = messagePacket config (server.players pPlayer) messageLen message := by
  simp only [List.mem_append, mem_broadcastCalls, List.mem_singleton, reduceCtorEq, or_false,
    false_or, Call.enqPacket.injEq] at sent
  obtain ⟨_, _, _, _, _, rfl⟩ := sent
  rfl

/-- The message of an ordinary player, when its account and names are the same. -/
theorem sameMessages_step {before : List Step} {first second post post' : Server}
    {event event' : Event} {calls calls' : List Call} (same : SameBesidesMemory first second)
    (run : ServerRun config before first) (lifecycle' : Lifecycle second)
    (alike : SameEvent event event')
    (taken : (chatServer config).step first event = some (post, calls))
    (taken' : (chatServer config).step second event' = some (post', calls')) :
    SameMessages config before ⟨first, event, calls, post⟩ ⟨second, event', calls', post'⟩ := by
  intro pPlayer messageLen message accountNo speaks authenticated
  obtain ⟨chat, _, rfl⟩ := (step_cases taken).of_speaks speaks
  have ordinary : (first.players pPlayer).bMonitoringLogin = false := by
    have credible := (ServerRun.credentials run).slots pPlayer
    by_contra flag
    exact credible.monitoring (.inr chat) (by simpa using flag) accountNo authenticated
  obtain ⟨account, ID, nickName⟩ := (same.players pPlayer).named (.inr chat) ordinary
  have chat' : second.phase pPlayer = .chat := same.common.1 ▸ chat
  have login := ((ServerRun.lifecycle run).slots pPlayer).loggedIn (.inr chat)
  have login' := (lifecycle'.slots pPlayer).loggedIn (.inr chat')
  have speaks' : Speaks config pPlayer ⟨second, event', calls', post'⟩ messageLen message := by
    obtain ⟨sender, received, whole, accepts⟩ := speaks
    have event_eq : event' = event := by
      dsimp only at received
      rw [received] at alike ⊢
      cases alike
      rfl
    refine ⟨sender, event_eq ▸ received, whole, ?_⟩
    simpa [speaksAs, login, login', account] using accepts
  obtain ⟨_, _, rfl⟩ := (step_cases taken').of_speaks speaks'
  have payload : messagePacket config (second.players pPlayer) messageLen message =
      messagePacket config (first.players pPlayer) messageLen message := by
    simp only [messagePacket, account, ID, nickName]
  let speaker := first.players pPlayer
  refine ⟨speaks', makeCsChatResMessage config speaker.accountNo speaker.ID speaker.nickName messageLen
    message, fun sessionID packet sent => ?_⟩
  obtain here | there := List.mem_append.mp sent
  · exact packet_of_broadcast here
  · exact (packet_of_broadcast there).trans payload

/-- Two runs of the same events over different memories broadcast the same messages for
    every player that logged in by LOGIN, if at every accepted LOGIN the memories agree
    behind the two texts. -/
theorem messages_same (run : ServerRun config history state) (run' : ServerRun config history' state')
    (events : List.Forall₂ (fun taken taken' => SameEvent taken.event taken'.event) history history')
    (agree : ∀ pair ∈ history.zip history', AdmitsNames config pair.1 pair.2) :
    ∀ before pair after, history.zip history' = before ++ pair :: after →
      SameMessages config (before.map Prod.fst) pair.1 pair.2 := by
  have twin := Twin.of_runs run run' events
  have base : ∀ state state', (chatServer config).init state → (chatServer config).init state' →
      SameBesidesMemory state state' := by
    rintro _ _ ⟨memory, rfl⟩ ⟨memory', rfl⟩
    exact ⟨by simp [Server.initial], fun pPlayer => .elsewhere (by simp [Server.initial])⟩
  refine (twin.forall_pairs base ?_ agree).2
  intro pairs first second post post' event event' calls calls' twin same alike taken taken' admitted
  have lifecycle := ServerRun.lifecycle twin.first
  have lifecycle' := ServerRun.lifecycle twin.second
  exact ⟨same.step lifecycle lifecycle' alike taken taken' admitted,
    sameMessages_step same twin.first lifecycle' alike taken taken'⟩

end Runs

/-! ## A name over two memories -/

namespace Sample

def arrival (memory : Player) : List Event :=
  [.accept 0 5 memory, .loginEnter 0,
    .loginRecv 0 0 (.bulkString sessionKey) (fun _ => 0) (loginPacket 7), .chatEnter 0,
    .chatRecv 0 (sectorMoveWire config 7 3 4)]

def greeting : Event := .chatRecv 0 (messageWire config 7 1 [72])

def heard (memory : Player) : Call :=
  .enqPacket 5 (.alloc (makeCsChatResMessage config 7 memory.ID memory.nickName 1 [72]))

def namedAt (position : Nat) : Player := { memory with ID := memory.ID.set! position 66 }

theorem arrival_sameEvents (memory memory' : Player) :
    List.Forall₂ SameEvent (arrival memory) (arrival memory') :=
  .cons (.accept 0 5 memory memory') (List.forall₂_same.mpr fun event _ => .same event)

theorem play_sameEvents {events events' : List Event} (same : List.Forall₂ SameEvent events events')
    (played : (play events).isSome = true) (played' : (play events').isSome = true) :
    List.Forall₂ (fun taken taken' => SameEvent taken.event taken'.event)
      ((play events).get played).1 ((play events').get played').1 :=
  forall₂_of_execute same (Option.some_get played).symm (Option.some_get played').symm

end Sample

/-- Two memories that differ in the place of the NUL: it is overwritten, and the
    messages are the same. -/
theorem messages_same_sample :
    let played := (Sample.play (Sample.arrival Sample.memory ++ [Sample.greeting])).get
      (by decide +kernel)
    let played' := (Sample.play (Sample.arrival (Sample.namedAt 0) ++ [Sample.greeting])).get
      (by decide +kernel)
    ∀ before pair after, played.1.zip played'.1 = before ++ pair :: after →
      SameMessages Sample.config (before.map Prod.fst) pair.1 pair.2 := by
  intro played played'
  have names : ∀ pair ∈ played.1.zip played'.1, pair.1.event.slot = 0 ∧
      (∀ i : Fin idLen, 0 < i.val →
        (pair.1.pre.players 0).ID.get i = (pair.2.pre.players 0).ID.get i) ∧
      (pair.1.pre.players 0).nickName = (pair.2.pre.players 0).nickName := by decide +kernel
  have agree : ∀ pair ∈ played.1.zip played'.1, AdmitsNames Sample.config pair.1 pair.2 := by
    intro pair member pPlayer typeLocal reply beyond pPacket accountNo received _
    obtain ⟨slot, ID, nickName⟩ := names pair member
    obtain rfl : pPlayer = 0 := by simpa [received, Event.slot] using slot
    intro type rest fields _ _
    refine ⟨fun bytes nul _ _ i behind => ID i (by omega), fun bytes nul _ _ i _ => ?_⟩
    rw [nickName]
  have events := List.rel_append (Sample.arrival_sameEvents Sample.memory (Sample.namedAt 0))
    (List.forall₂_same.mpr fun event (_ : event ∈ [Sample.greeting]) => .same event)
  exact messages_same (Sample.play_run _ _) (Sample.play_run _ _)
    (Sample.play_sameEvents events _ _) agree

/-- A character of the former occupant's name goes out with the message of a player that
    has no name. -/
theorem message_shows_memory :
    let played := (Sample.play (Sample.arrival Sample.memory)).get (by decide +kernel)
    let played' := (Sample.play (Sample.arrival (Sample.namedAt 3))).get (by decide +kernel)
    let spoken := (chatServer Sample.config).taken played.2 Sample.greeting (by decide +kernel)
    let spoken' := (chatServer Sample.config).taken played'.2 Sample.greeting (by decide +kernel)
    let history := played.1 ++ [spoken]
    let history' := played'.1 ++ [spoken']
    ServerRun Sample.config history spoken.post ∧ ServerRun Sample.config history' spoken'.post ∧
    List.Forall₂ (fun taken taken' => SameEvent taken.event taken'.event) history history' ∧
    ¬ ∀ before pair after, history.zip history' = before ++ pair :: after →
      SameMessages Sample.config (before.map Prod.fst) pair.1 pair.2 := by
  intro played played' spoken spoken' history history'
  have run : ServerRun Sample.config played.1 played.2 := Sample.play_run _ _
  have run' : ServerRun Sample.config played'.1 played'.2 := Sample.play_run _ _
  have events := Sample.play_sameEvents
    (Sample.arrival_sameEvents Sample.memory (Sample.namedAt 3)) (by decide +kernel) (by decide +kernel)
  have equally : played.1.length = played'.1.length := events.length_eq
  have greeted : SameEvent spoken.event spoken'.event := .same Sample.greeting
  refine ⟨run.advance _, run'.advance _, List.rel_append events (.cons greeted .nil), fun same => ?_⟩
  have messages : SameMessages Sample.config played.1 spoken spoken' := by
    have last := same (played.1.zip played'.1) (spoken, spoken') [] (zip_snoc equally)
    rwa [List.map_fst_zip (Nat.le_of_eq equally)] at last
  have speaks : Speaks Sample.config 0 spoken 1 [72] := ⟨7, rfl, rfl, by decide +kernel⟩
  have authenticated : Authenticated Sample.config (spoken.pre.session 0) 7 played.1 := by
    have chat : played.2.phase 0 = .chat := by decide +kernel
    have ordinary : (played.2.players 0).bMonitoringLogin = false := by decide +kernel
    have account : (played.2.players 0).accountNo = 7 := by decide +kernel
    have credible := ((ServerRun.credentials run).slots 0).ordinary (.inr chat) ordinary
    rw [account] at credible
    rwa [show spoken.pre = played.2 from System.taken_pre _]
  obtain ⟨_, payload, one⟩ := messages 0 1 [72] 7 speaks authenticated
  have here : Sample.heard Sample.memory ∈ spoken.calls := by decide +kernel
  have there : Sample.heard (Sample.namedAt 3) ∈ spoken'.calls := by decide +kernel
  have first := one _ _ (List.mem_append_left _ here)
  have second := one _ _ (List.mem_append_right _ there)
  exact absurd (first.trans second.symm) (by decide +kernel)

end ChatServerRedis
