import ChatServerRedis.General.Lockstep
import Mathlib.Logic.Function.Basic

/-! # Handler calls in parts

The events of a system are handled by threads, one call of a thread at a time.  A call is
divided into a first part, which may look at everything, and statements on what belongs to
its thread.  The other threads take their steps in between.

`parts_whole` is the rule: a run of the parts is as good as a run of the calls executed
whole, in the order in which they were started.  A call that stops before its end is as
good as one that was never started.
-/

namespace Reduction

open Transition Lockstep

variable {σ ε κ ι ω α : Type*}

structure Division (σ ε κ ι α : Type*) where
  /-- The thread that handles the event. -/
  thread : ε → ι
  /-- The first part of a call, and the statements that are left of it. -/
  start : σ → ε → Option (σ × List κ × List α)
  execute : ι → α → σ → Option (σ × List κ)

def Division.finish (division : Division σ ε κ ι α) (thread : ι) :
    List α → σ → Option (σ × List κ)
  | [], state => some (state, [])
  | statement :: rest, state =>
    (division.execute thread statement state).bind fun (next, calls) =>
      (division.finish thread rest next).map fun (last, later) => (last, calls ++ later)

theorem finish_append (division : Division σ ε κ ι α) (thread : ι) (rest : List α) (statement : α)
    (state : σ) : division.finish thread (rest ++ [statement]) state =
      (division.finish thread rest state).bind fun (next, calls) =>
        (division.execute thread statement next).map fun (last, later) => (last, calls ++ later) := by
  induction rest generalizing state with
  | nil =>
    simp only [List.nil_append, Division.finish, Option.bind_some]
    cases division.execute thread statement state <;> simp
  | cons first rest inductionHypothesis =>
    simp only [List.cons_append, Division.finish, inductionHypothesis]
    cases division.execute thread first state with
    | none => rfl
    | some outcome =>
      simp only [Option.bind_some]
      cases division.finish thread rest outcome.1 with
      | none => rfl
      | some finished => simp [Option.map_map, Function.comp_def]

structure Locality (σ ι ω : Type*) where
  own : ι → σ → ω
  /-- What belongs to a thread whose call is under way; no other thread looks at it. -/
  away : ω → Prop
  /-- The states agree, but for what belongs to the threads aside. -/
  agree : (ι → Prop) → σ → σ → Prop

/-- What the division of the calls has to keep. -/
structure Lawful (base : System σ ε κ) (division : Division σ ε κ ι α) (locality : Locality σ ι ω) :
    Prop where
  whole : ∀ state event, base.step state event =
    (division.start state event).bind fun (next, calls, rest) =>
      (division.finish (division.thread event) rest next).map fun (last, later) => (last, calls ++ later)
  /-- Other threads keep what belongs to a thread. -/
  started_own : ∀ {state event next calls rest thread},
    division.start state event = some (next, calls, rest) → thread ≠ division.thread event →
      locality.own thread next = locality.own thread state
  executed_own : ∀ {state statement next calls thread other},
    division.execute other statement state = some (next, calls) → thread ≠ other →
      locality.own thread next = locality.own thread state
  /-- A statement looks at nothing but what belongs to its thread. -/
  executed_alike : ∀ {first second thread} statement, locality.away (locality.own thread first) →
    locality.own thread first = locality.own thread second →
      (division.execute thread statement first).map (fun outcome =>
          (locality.own thread outcome.1, outcome.2)) =
        (division.execute thread statement second).map fun outcome =>
          (locality.own thread outcome.1, outcome.2)
  executed_agree : ∀ {aside state other statement next calls thread},
    division.execute thread statement other = some (next, calls) → aside thread →
      (locality.agree aside state next ↔ locality.agree aside state other)
  /-- A call that stops before its end has not touched anything else. -/
  stopped_agree : ∀ {aside state other event next calls rest},
    division.start other event = some (next, calls, rest) →
      division.finish (division.thread event) rest next = none → locality.agree aside state other →
        locality.agree (fun thread => aside thread ∨ thread = division.thread event) state next
  started_away : ∀ {state event next calls rest},
    division.start state event = some (next, calls, rest) → rest ≠ [] →
      locality.away (locality.own (division.thread event) state) ∧
      locality.away (locality.own (division.thread event) next)
  executed_away : ∀ {state statement next calls thread},
    division.execute thread statement state = some (next, calls) →
      locality.away (locality.own thread state) → locality.away (locality.own thread next)
  agree_refl : ∀ aside state, locality.agree aside state state
  agree_own : ∀ {aside state other thread}, locality.agree aside state other → ¬ aside thread →
    locality.own thread state = locality.own thread other
  agree_settle : ∀ {aside state other thread}, locality.agree aside state other →
    locality.own thread state = locality.own thread other →
      locality.agree (fun another => aside another ∧ another ≠ thread) state other
  agree_mono : ∀ {aside aside' state other}, locality.agree aside state other →
    (∀ thread, aside thread → aside' thread) → locality.agree aside' state other
  lockstep : ∀ {history state other event aside}, Run base history state →
    locality.agree aside state other → (∀ thread, aside thread → locality.away (locality.own thread state)) →
      ¬ aside (division.thread event) →
        Alike (locality.agree aside) (base.step state event) (base.step other event)

section Statements

variable {base : System σ ε κ} {division : Division σ ε κ ι α} {locality : Locality σ ι ω}
  (lawful : Lawful base division locality)
  {thread other : ι} {first second last : σ} {later : List κ}

include lawful

theorem finish_own {rest : List α} (finished : division.finish other rest first = some (last, later))
    (differ : thread ≠ other) : locality.own thread last = locality.own thread first := by
  induction rest generalizing first later with
  | nil =>
    cases finished
    rfl
  | cons statement rest inductionHypothesis =>
    simp only [Division.finish, Option.bind_eq_some_iff, Option.map_eq_some_iff, Prod.exists,
      Prod.mk.injEq] at finished
    obtain ⟨next, calls, executed, _, _, finished, rfl, rfl⟩ := finished
    rw [inductionHypothesis finished, lawful.executed_own executed differ]

theorem finish_alike (rest : List α) (away : rest ≠ [] → locality.away (locality.own thread first))
    (same : locality.own thread first = locality.own thread second) :
    (division.finish thread rest first).map (fun outcome => (locality.own thread outcome.1, outcome.2)) =
      (division.finish thread rest second).map fun outcome =>
        (locality.own thread outcome.1, outcome.2) := by
  induction rest generalizing first second with
  | nil => simp [Division.finish, same]
  | cons statement rest inductionHypothesis =>
    have present := away (List.cons_ne_nil _ _)
    have alike := lawful.executed_alike statement present same
    cases here : division.execute thread statement first with
    | none =>
      cases there : division.execute thread statement second with
      | none => simp [Division.finish, here, there]
      | some => simp [here, there] at alike
    | some outcome =>
      cases there : division.execute thread statement second with
      | none => simp [here, there] at alike
      | some outcome' =>
        simp only [here, there, Option.map_some, Option.some.injEq, Prod.mk.injEq] at alike
        have later := inductionHypothesis (fun _ => lawful.executed_away here present) alike.1
        simp only [Division.finish, here, there, Option.bind_some, Option.map_map, alike.2]
        simpa only [Option.map_map, Function.comp_def] using congrArg
          (Option.map fun outcome : ω × List κ => (outcome.1, outcome'.2 ++ outcome.2)) later

theorem finish_away {rest : List α} (finished : division.finish thread rest first = some (last, later))
    (away : locality.away (locality.own thread first)) : locality.away (locality.own thread last) := by
  induction rest generalizing first later with
  | nil =>
    cases finished
    exact away
  | cons statement rest inductionHypothesis =>
    simp only [Division.finish, Option.bind_eq_some_iff, Option.map_eq_some_iff, Prod.exists,
      Prod.mk.injEq] at finished
    obtain ⟨next, calls, executed, _, _, finished, rfl, rfl⟩ := finished
    exact inductionHypothesis finished (lawful.executed_away executed away)

theorem finish_agree {rest : List α} {aside : ι → Prop} {state : σ}
    (finished : division.finish thread rest first = some (last, later)) (away : aside thread) :
    locality.agree aside state last ↔ locality.agree aside state first := by
  induction rest generalizing first later with
  | nil =>
    cases finished
    rfl
  | cons statement rest inductionHypothesis =>
    simp only [Division.finish, Option.bind_eq_some_iff, Option.map_eq_some_iff, Prod.exists,
      Prod.mk.injEq] at finished
    obtain ⟨next, calls, executed, _, _, finished, rfl, rfl⟩ := finished
    rw [inductionHypothesis finished, lawful.executed_agree executed away]

theorem step_own {event : ε} (taken : base.step first event = some (last, later))
    (differ : thread ≠ division.thread event) : locality.own thread last = locality.own thread first := by
  simp only [lawful.whole, Option.bind_eq_some_iff, Option.map_eq_some_iff, Prod.exists,
    Prod.mk.injEq] at taken
  obtain ⟨next, calls, rest, started, _, _, finished, rfl, rfl⟩ := taken
  rw [finish_own lawful finished differ, lawful.started_own started differ]

end Statements

/-! ## The parts of many threads -/

structure Machine (σ ι α : Type*) where
  state : σ
  /-- What the threads still have to execute. -/
  left : ι → List α

def Machine.busy (machine : Machine σ ι α) (thread : ι) : Prop := machine.left thread ≠ []

inductive Event (ε ι : Type*) where
  | start (event : ε)
  | advance (thread : ι)

def Event.thread (division : Division σ ε κ ι α) : Event ε ι → ι
  | .start event => division.thread event
  | .advance thread => thread

abbrev Part (σ ε κ ι α : Type*) := Taken (Machine σ ι α) (Event ε ι) κ

variable [DecidableEq ι]

def callsOf {σ' ε' : Type*} (thread : ε' → ι) (history : List (Taken σ' ε' κ)) (own : ι) : List κ :=
  history.flatMap fun taken => if thread taken.event = own then taken.calls else []

theorem callsOf_snoc {σ' ε' : Type*} (thread : ε' → ι) (history : List (Taken σ' ε' κ))
    (taken : Taken σ' ε' κ) (own : ι) :
    callsOf thread (history ++ [taken]) own =
      callsOf thread history own ++ if thread taken.event = own then taken.calls else [] := by
  simp [callsOf]

/-- A thread starts a call when it has finished the one before. -/
def parts (base : System σ ε κ) (division : Division σ ε κ ι α) :
    System (Machine σ ι α) (Event ε ι) κ where
  init machine := base.init machine.state ∧ ∀ thread, machine.left thread = []
  step machine
    | .start event =>
      match machine.left (division.thread event) with
      | [] => (division.start machine.state event).map fun (next, calls, rest) =>
          (⟨next, Function.update machine.left (division.thread event) rest⟩, calls)
      | _ :: _ => none
    | .advance thread =>
      match machine.left thread with
      | [] => none
      | statement :: rest => (division.execute thread statement machine.state).map fun (next, calls) =>
          (⟨next, Function.update machine.left thread rest⟩, calls)

/-- The events whose calls were started and do not stop before their end. -/
def begun (base : System σ ε κ) (history : List (Part σ ε κ ι α)) : List ε :=
  history.filterMap fun taken =>
    match taken.event with
    | .start event => if (base.step taken.pre.state event).isSome then some event else none
    | .advance _ => none

/-- A run of whole calls that explains what the machine has come to: once a thread has
    executed what it has left, it has made the same calls and has the same as in that run. -/
structure Matched (base : System σ ε κ) (division : Division σ ε κ ι α) (locality : Locality σ ι ω)
    (history : List (Part σ ε κ ι α)) (machine : Machine σ ι α) (calls : List (Taken σ ε κ))
    (state : σ) : Prop where
  run : Run base calls state
  events : calls.map Taken.event = begun base history
  agree : locality.agree machine.busy state machine.state
  away : ∀ thread, machine.busy thread →
    locality.away (locality.own thread state) ∧ locality.away (locality.own thread machine.state)
  finishes : ∀ thread last later,
    division.finish thread (machine.left thread) machine.state = some (last, later) →
      locality.own thread state = locality.own thread last ∧
      callsOf division.thread calls thread = callsOf (Event.thread division) history thread ++ later

section Steps

variable {base : System σ ε κ} {division : Division σ ε κ ι α} {locality : Locality σ ι ω}
  (lawful : Lawful base division locality)
  {history : List (Part σ ε κ ι α)} {machine post : Machine σ ι α} {whole : List (Taken σ ε κ)}
  {state : σ} {made : List κ}

theorem start_iff {event : ε} : (parts base division).step machine (.start event) = some (post, made) ↔
    machine.left (division.thread event) = [] ∧ ∃ next rest,
      division.start machine.state event = some (next, made, rest) ∧
      post = ⟨next, Function.update machine.left (division.thread event) rest⟩ := by
  simp only [parts]
  cases left : machine.left (division.thread event) with
  | nil =>
    simp only [Option.map_eq_some_iff, Prod.exists, Prod.mk.injEq, true_and]
    constructor
    · rintro ⟨next, calls, rest, started, rfl, rfl⟩
      exact ⟨next, rest, started, rfl⟩
    · rintro ⟨next, rest, started, rfl⟩
      exact ⟨next, made, rest, started, rfl, rfl⟩
  | cons => simp

theorem advance_iff {thread : ι} :
    (parts base division).step machine (.advance thread) = some (post, made) ↔
      ∃ statement rest next, machine.left thread = statement :: rest ∧
        division.execute thread statement machine.state = some (next, made) ∧
        post = ⟨next, Function.update machine.left thread rest⟩ := by
  simp only [parts]
  cases left : machine.left thread with
  | nil => simp
  | cons statement rest =>
    simp only [Option.map_eq_some_iff, Prod.exists, Prod.mk.injEq, List.cons.injEq]
    constructor
    · rintro ⟨next, calls, executed, rfl, rfl⟩
      exact ⟨statement, rest, next, ⟨rfl, rfl⟩, executed, rfl⟩
    · rintro ⟨_, _, next, ⟨rfl, rfl⟩, executed, rfl⟩
      exact ⟨next, made, executed, rfl, rfl⟩

include lawful

theorem Matched.finishes_other (matched : Matched base division locality history machine whole state)
    {event : Event ε ι} {next last : σ} {later : List κ} {thread : ι}
    (same : locality.own thread next = locality.own thread machine.state)
    (differ : thread ≠ event.thread division)
    (finished : division.finish thread (machine.left thread) next = some (last, later)) :
    locality.own thread state = locality.own thread last ∧
      callsOf division.thread whole thread = callsOf (Event.thread division)
        (history ++ [⟨machine, event, made, post⟩]) thread ++ later := by
  have away : machine.left thread ≠ [] → locality.away (locality.own thread next) :=
    fun busy => same ▸ (matched.away thread busy).2
  have alike := finish_alike lawful (machine.left thread) away same
  rw [finished] at alike
  cases here : division.finish thread (machine.left thread) machine.state with
  | none => simp [here] at alike
  | some outcome =>
    obtain ⟨last', later'⟩ := outcome
    simp only [here, Option.map_some, Option.some.injEq, Prod.mk.injEq] at alike
    obtain ⟨own, calls⟩ := matched.finishes thread last' later' here
    refine ⟨own.trans alike.1.symm, ?_⟩
    rw [calls, callsOf_snoc, if_neg (Ne.symm differ), List.append_nil, alike.2]

theorem Matched.advance (matched : Matched base division locality history machine whole state) {thread : ι}
    (taken : (parts base division).step machine (.advance thread) = some (post, made)) :
    Matched base division locality (history ++ [⟨machine, .advance thread, made, post⟩]) post whole state := by
  obtain ⟨statement, rest, next, left, executed, rfl⟩ := advance_iff.mp taken
  have busy : machine.busy thread := by simp [Machine.busy, left]
  have agree := (lawful.executed_agree executed busy).mpr matched.agree
  have still : ∀ other, other ≠ thread →
      (Machine.busy ⟨next, Function.update machine.left thread rest⟩ other ↔ machine.busy other) := by
    intro other differ
    simp [Machine.busy, differ]
  have own : ∀ last later, division.finish thread rest next = some (last, later) →
      locality.own thread state = locality.own thread last ∧
        callsOf division.thread whole thread =
          callsOf (Event.thread division) history thread ++ (made ++ later) := by
    intro last later finished
    refine matched.finishes thread last (made ++ later) ?_
    rw [left]
    simp [Division.finish, executed, finished]
  refine ⟨matched.run, ?_, ?_, fun other busyOther => ?_, fun other last later finished => ?_⟩
  · rw [matched.events]
    simp [begun]
  · cases rest with
    | nil =>
      have settled := lawful.agree_settle agree (own next [] rfl).1
      refine lawful.agree_mono settled fun other busyOther => ?_
      exact (still other busyOther.2).mpr busyOther.1
    | cons =>
      refine lawful.agree_mono agree fun other busyOther => ?_
      by_cases same : other = thread
      · simp [Machine.busy, same]
      · exact (still other same).mpr busyOther
  · by_cases same : other = thread
    · subst same
      obtain ⟨present, away⟩ := matched.away other busy
      exact ⟨present, lawful.executed_away executed away⟩
    · rw [lawful.executed_own executed same]
      exact matched.away other ((still other same).mp busyOther)
  · by_cases same : other = thread
    · subst same
      simp only [Function.update_self] at finished
      obtain ⟨ownData, calls⟩ := own last later finished
      refine ⟨ownData, ?_⟩
      rw [calls, callsOf_snoc]
      simp [Event.thread]
    · simp only [Function.update_of_ne same] at finished
      exact matched.finishes_other lawful (lawful.executed_own executed same) same finished

section Start

variable {event : ε} {next : σ} {rest : List α}
  (matched : Matched base division locality history machine whole state)
  (left : machine.left (division.thread event) = [])
  (started : division.start machine.state event = some (next, made, rest))

include matched left started

theorem Matched.start_stopped (stops : division.finish (division.thread event) rest next = none) :
    Matched base division locality (history ++ [⟨machine, .start event, made,
      ⟨next, Function.update machine.left (division.thread event) rest⟩⟩])
      ⟨next, Function.update machine.left (division.thread event) rest⟩ whole state := by
  -- the whole call stops as well, so it is left out of the run
  have refused : base.step machine.state event = none := by
    simp [lawful.whole, started, stops]
  have unfinished : rest ≠ [] := by
    rintro rfl
    cases stops
  refine ⟨matched.run, ?_, ?_, fun other busyOther => ?_, fun other last later finished => ?_⟩
  · rw [matched.events]
    simp [begun, refused]
  · refine lawful.agree_mono (lawful.stopped_agree started stops matched.agree) fun other busyOther => ?_
    obtain busyOther | rfl := busyOther
    · by_cases same : other = division.thread event
      · exact absurd left (same ▸ busyOther)
      · simpa [Machine.busy, same] using busyOther
    · simpa [Machine.busy] using unfinished
  · by_cases same : other = division.thread event
    · rw [same, (matched.finishes _ machine.state [] (by rw [left]; rfl)).1]
      exact lawful.started_away started unfinished
    · rw [lawful.started_own started same]
      exact matched.away other (by simpa [Machine.busy, same] using busyOther)
  · by_cases same : other = division.thread event
    · subst same
      simp only [Function.update_self, stops] at finished
      cases finished
    · simp only [Function.update_of_ne same] at finished
      exact matched.finishes_other lawful (lawful.started_own started same) same finished

theorem Matched.start_finished {last : σ} {later : List κ}
    (finished : division.finish (division.thread event) rest next = some (last, later)) :
    ∃ post, Matched base division locality (history ++ [⟨machine, .start event, made,
        ⟨next, Function.update machine.left (division.thread event) rest⟩⟩])
      ⟨next, Function.update machine.left (division.thread event) rest⟩
      (whole ++ [⟨state, event, made ++ later, post⟩]) post := by
  -- the whole call is taken where its parts begin
  have taken : base.step machine.state event = some (last, made ++ later) := by
    simp [lawful.whole, started, finished]
  have idle : ¬ machine.busy (division.thread event) := fun busy => busy left
  have alike := lawful.lockstep matched.run matched.agree (fun other busy => (matched.away other busy).1)
    idle
  rw [taken] at alike
  obtain ⟨post, step, agree⟩ : ∃ post, base.step state event = some (post, made ++ later) ∧
      locality.agree machine.busy post last := by
    cases here : base.step state event with
    | none =>
      rw [here] at alike
      cases alike
    | some outcome =>
      obtain ⟨post, calls⟩ := outcome
      rw [here] at alike
      cases alike with
      | some both =>
        obtain ⟨agree, rfl⟩ : locality.agree machine.busy post last ∧ calls = made ++ later := both
        exact ⟨post, rfl, agree⟩
  have still : ∀ other, other ≠ division.thread event →
      (Machine.busy ⟨next, Function.update machine.left (division.thread event) rest⟩ other ↔
        machine.busy other) := by
    intro other differ
    simp [Machine.busy, differ]
  have ownPost := lawful.agree_own agree idle
  refine ⟨post, matched.run.snoc step, ?_, ?_, fun other busyOther => ?_,
    fun other last' later' finished' => ?_⟩
  · rw [List.map_append, matched.events]
    simp [begun, taken]
  -- the machine lags behind in what belongs to the thread, and only in that
  · have aside := lawful.agree_mono agree fun other busyOther =>
      (Or.inl busyOther : machine.busy other ∨ other = division.thread event)
    have agreeNext := (finish_agree lawful finished (.inr rfl)).mp aside
    cases rest with
    | nil =>
      cases finished
      refine lawful.agree_mono agree fun other busyOther => ?_
      by_cases same : other = division.thread event
      · exact absurd (same ▸ busyOther) idle
      · exact (still other same).mpr busyOther
    | cons =>
      refine lawful.agree_mono agreeNext fun other busyOther => ?_
      by_cases same : other = division.thread event
      · simp [Machine.busy, same]
      · exact (still other same).mpr (busyOther.resolve_right same)
  · by_cases same : other = division.thread event
    · subst same
      have away := (lawful.started_away started (by simpa [Machine.busy] using busyOther)).2
      rw [ownPost]
      exact ⟨finish_away lawful finished away, away⟩
    · rw [step_own lawful step same, lawful.started_own started same]
      exact matched.away other ((still other same).mp busyOther)
  · by_cases same : other = division.thread event
    · subst same
      simp only [Function.update_self, finished, Option.some.injEq, Prod.mk.injEq] at finished'
      obtain ⟨rfl, rfl⟩ := finished'
      have before := (matched.finishes (division.thread event) machine.state [] (by rw [left]; rfl)).2
      refine ⟨ownPost, ?_⟩
      rw [callsOf_snoc, callsOf_snoc, before]
      simp [Event.thread]
    · simp only [Function.update_of_ne same] at finished'
      have others : other ≠ Event.thread division (.start event) := same
      obtain ⟨ownData, calls⟩ :=
        matched.finishes_other lawful (lawful.started_own started same) others finished'
      refine ⟨(step_own lawful step same).trans ownData, ?_⟩
      rw [callsOf_snoc, if_neg (Ne.symm same), List.append_nil]
      exact calls

end Start

/-- Every run of the parts is matched by a run of the whole calls. -/
theorem parts_whole (run : Run (parts base division) history machine) :
    ∃ whole state, Matched base division locality history machine whole state := by
  induction run with
  | @start machine initial =>
    obtain ⟨start, idle⟩ := initial
    refine ⟨[], machine.state, .start start, rfl, lawful.agree_refl _ _,
      fun thread busy => absurd (idle thread) busy, fun thread last later finished => ?_⟩
    rw [idle thread] at finished
    cases finished
    exact ⟨rfl, rfl⟩
  | @snoc history machine post event made _ taken inductionHypothesis =>
    obtain ⟨whole, state, matched⟩ := inductionHypothesis
    cases event with
    | advance thread => exact ⟨whole, state, matched.advance lawful taken⟩
    | start event =>
      obtain ⟨left, next, rest, started, rfl⟩ := start_iff.mp taken
      cases finished : division.finish (division.thread event) rest next with
      | none => exact ⟨whole, state, matched.start_stopped lawful left started finished⟩
      | some outcome =>
        obtain ⟨post, matched⟩ := matched.start_finished lawful left started finished
        exact ⟨_, post, matched⟩

end Steps

end Reduction
