import Mathlib.Logic.Function.Basic
import AindyRuntime.Lib.StepSystem

/-! # The circuit breaker of a provider

Calls through one breaker overlap.  Entering a call and recording how it ended
each hold the lock; what a call found on entry may no longer be so when it ends.
-/

namespace AindyRuntime.CircuitBreaker

open Function

inductive CircuitState where
  | closed
  | opened
  | halfOpen
deriving DecidableEq, Repr

structure Config where
  name : String
  failureThreshold : Int := 3
  recoveryTimeoutSecs : Int := 60

/-- Instants are in microseconds. -/
def Config.recoveryTimeout (config : Config) : Int := config.recoveryTimeoutSecs * 1000000

structure CircuitOpenError where
  message : String
deriving DecidableEq, Repr

def Config.openError (config : Config) : CircuitOpenError :=
  ⟨"Circuit '" ++ config.name ++ "' is open; rejecting call"⟩

def Config.halfOpenError (config : Config) : CircuitOpenError :=
  ⟨"Circuit '" ++ config.name ++ "' is half-open; probe already in flight"⟩

structure Breaker where
  state : CircuitState
  failureCount : Int
  openedAt : Option Int
  halfOpenInFlight : Bool
deriving DecidableEq, Repr

inductive Phase where
  | closed
  | halfOpen
deriving DecidableEq, Repr

inductive Outcome where
  | success
  | exception
  /-- A `BaseException` that is not an `Exception`, such as a cancellation. -/
  | baseException
deriving DecidableEq, Repr

namespace Breaker

def fresh : Breaker := ⟨.closed, 0, none, false⟩

def transitionTo (breaker : Breaker) (newState : CircuitState) (now : Int) : Breaker :=
  match newState with
  | .closed => ⟨.closed, 0, none, false⟩
  | .opened => { breaker with state := .opened, openedAt := some now, halfOpenInFlight := false }
  | .halfOpen => { breaker with state := .halfOpen }

def enterCall (config : Config) (breaker : Breaker) (now : Int) : Except CircuitOpenError (Phase × Breaker) :=
  match breaker.state with
  | .closed => .ok (.closed, breaker)
  | .opened =>
    match breaker.openedAt with
    | some openedAt =>
      if config.recoveryTimeout ≤ now - openedAt then
        .ok (.halfOpen, { breaker.transitionTo .halfOpen now with halfOpenInFlight := true })
      else .error config.openError
    | none => .error config.openError
  | .halfOpen =>
    if breaker.halfOpenInFlight then .error config.halfOpenError
    else .ok (.halfOpen, { breaker with halfOpenInFlight := true })

def recordSuccess (breaker : Breaker) (phase : Phase) (now : Int) : Breaker :=
  if phase = .halfOpen ∨ breaker.state ≠ .closed then breaker.transitionTo .closed now
  else { breaker with failureCount := 0 }

def recordFailure (config : Config) (breaker : Breaker) (phase : Phase) (now : Int) : Breaker :=
  if phase = .halfOpen ∨ breaker.state = .halfOpen then
    { breaker with failureCount := config.failureThreshold }.transitionTo .opened now
  else
    let counted := { breaker with failureCount := breaker.failureCount + 1 }
    if config.failureThreshold ≤ counted.failureCount then counted.transitionTo .opened now else counted

def record (config : Config) (breaker : Breaker) (phase : Phase) (outcome : Outcome) (now : Int) : Breaker :=
  match outcome with
  | .success => breaker.recordSuccess phase now
  | .exception => breaker.recordFailure config phase now
  | .baseException => breaker

variable {breaker : Breaker}

theorem enterCall_closed (admitted : breaker.enterCall config now = .ok (.closed, entered)) :
    breaker.state = .closed ∧ entered = breaker := by
  unfold enterCall at admitted
  cases state : breaker.state with
  | closed =>
    rw [state] at admitted
    cases admitted
    exact ⟨rfl, rfl⟩
  | opened =>
    cases opened : breaker.openedAt with
    | none => simp [state, opened] at admitted
    | some openedAt =>
      by_cases elapsed : config.recoveryTimeout ≤ now - openedAt <;> simp [state, opened, elapsed] at admitted
  | halfOpen => cases flag : breaker.halfOpenInFlight <;> simp [state, flag] at admitted

/-- A probe is admitted by a breaker that has been open for long enough, or that
is half open without a probe. -/
theorem enterCall_halfOpen (admitted : breaker.enterCall config now = .ok (.halfOpen, entered)) :
    (breaker.state = .halfOpen ∧ breaker.halfOpenInFlight = false ∨
      breaker.state = .opened ∧ ∃ openedAt, breaker.openedAt = some openedAt ∧
        config.recoveryTimeout ≤ now - openedAt) ∧
    entered.state = .halfOpen ∧ entered.halfOpenInFlight = true := by
  unfold enterCall at admitted
  cases state : breaker.state with
  | closed => simp [state] at admitted
  | opened =>
    cases opened : breaker.openedAt with
    | none => simp [state, opened] at admitted
    | some openedAt =>
      by_cases elapsed : config.recoveryTimeout ≤ now - openedAt
      · simp only [state, opened, elapsed, if_true, Except.ok.injEq, Prod.mk.injEq, true_and] at admitted
        subst admitted
        exact ⟨.inr ⟨rfl, openedAt, rfl, elapsed⟩, rfl, rfl⟩
      · simp [state, opened, elapsed] at admitted
  | halfOpen =>
    cases flag : breaker.halfOpenInFlight with
    | true => simp [state, flag] at admitted
    | false =>
      simp only [state, flag, Bool.false_eq_true, if_false, Except.ok.injEq, Prod.mk.injEq, true_and] at admitted
      subst admitted
      exact ⟨.inl ⟨rfl, rfl⟩, rfl, rfl⟩

theorem record_probe (reports : outcome ≠ .baseException) :
    (breaker.record config .halfOpen outcome now).halfOpenInFlight = false := by
  cases outcome with
  | success => simp [record, recordSuccess, transitionTo]
  | exception => simp [record, recordFailure, transitionTo]
  | baseException => exact absurd rfl reports

theorem recordFailure_not_halfOpen (state : breaker.state ≠ .halfOpen) (flag : breaker.halfOpenInFlight = false) :
    (breaker.recordFailure config .closed now).state ≠ .halfOpen ∧
    (breaker.recordFailure config .closed now).halfOpenInFlight = false ∧
    (breaker.state = .opened → (breaker.recordFailure config .closed now).state = .opened) := by
  simp only [recordFailure, reduceCtorEq, state, or_self, if_false]
  split
  · exact ⟨by simp [transitionTo], rfl, fun _ => rfl⟩
  · exact ⟨state, flag, fun opened => opened⟩

end Breaker

inductive CallState where
  | waiting
  | inFlight (phase : Phase)
  | rejected (error : CircuitOpenError)
  | ended (outcome : Outcome)
deriving DecidableEq, Repr

structure World (Call : Type) where
  breaker : Breaker
  call : Call → CallState

inductive Action (Call : Type) where
  | enter (call : Call) (now : Int)
  | finish (call : Call) (outcome : Outcome) (now : Int)

variable {Call : Type} [DecidableEq Call]

def World.fresh : World Call := ⟨.fresh, fun _ => .waiting⟩

def calls (config : Config) : StepSystem (World Call) (Action Call) where
  step world
    | .enter call now =>
      match world.call call with
      | .waiting =>
        match world.breaker.enterCall config now with
        | .ok (phase, breaker) => some ⟨breaker, update world.call call (.inFlight phase)⟩
        | .error error => some { world with call := update world.call call (.rejected error) }
      | _ => none
    | .finish call outcome now =>
      match world.call call with
      | .inFlight phase =>
        some ⟨world.breaker.record config phase outcome now, update world.call call (.ended outcome)⟩
      | _ => none

variable {config : Config} {world next : World Call}

variable (config world) in
inductive Stepped : Action Call → World Call → Prop where
  | rejected {call : Call} {now : Int} {error : CircuitOpenError} (waiting : world.call call = .waiting)
      (refused : world.breaker.enterCall config now = .error error) :
      Stepped (.enter call now)
        { world with call := update world.call call (.rejected error) }
  | entered {call : Call} {now : Int} {phase : Phase} {breaker : Breaker} (waiting : world.call call = .waiting)
      (admitted : world.breaker.enterCall config now = .ok (phase, breaker)) :
      Stepped (.enter call now) ⟨breaker, update world.call call (.inFlight phase)⟩
  | finished {call : Call} {outcome : Outcome} {now : Int} {phase : Phase}
      (flying : world.call call = .inFlight phase) :
      Stepped (.finish call outcome now)
        ⟨world.breaker.record config phase outcome now, update world.call call (.ended outcome)⟩

theorem calls_stepped (stepped : (calls config).step world action = some next) :
    Stepped config world action next := by
  cases action with
  | enter call now =>
    cases waiting : world.call call with
    | waiting =>
      cases entry : world.breaker.enterCall config now with
      | error =>
        simp only [calls, waiting, entry] at stepped
        cases stepped
        exact .rejected waiting entry
      | ok =>
        simp only [calls, waiting, entry] at stepped
        cases stepped
        exact .entered waiting entry
    | inFlight phase | rejected error | ended outcome => simp [calls, waiting] at stepped
  | finish call outcome =>
    cases flying : world.call call with
    | inFlight =>
      simp only [calls, flying] at stepped
      cases stepped
      exact .finished flying
    | waiting | rejected error | ended outcome => simp [calls, flying] at stepped

def World.Probing (world : World Call) (call : Call) : Prop := world.call call = .inFlight .halfOpen

instance (world : World Call) (call : Call) : Decidable (world.Probing call) :=
  inferInstanceAs (Decidable (_ = _))

/-- A call that was admitted by the closed breaker reports its success to a closed
breaker and its failure to one that is not half open; a probe reports. -/
def reportsInTime (breaker : CircuitState) : CallState → Outcome → Bool
  | .inFlight .closed, .success => breaker = .closed
  | .inFlight .closed, .exception => breaker ≠ .halfOpen
  | .inFlight .halfOpen, .baseException => false
  | _, _ => true

def Timely (world : World Call) : Action Call → Prop
  | .enter _ _ => True
  | .finish call outcome _ => reportsInTime world.breaker.state (world.call call) outcome = true

instance (world : World Call) : ∀ action, Decidable (Timely world action)
  | .enter _ _ => isTrue trivial
  | .finish _ _ _ => inferInstanceAs (Decidable (_ = true))

structure Disciplined (world : World Call) : Prop where
  alone : ∀ one other, world.Probing one → world.Probing other → one = other
  known : ∀ call, world.Probing call → world.breaker.state = .halfOpen ∧ world.breaker.halfOpenInFlight = true
  flying : world.breaker.halfOpenInFlight = true → ∃ call, world.Probing call

omit [DecidableEq Call] in
theorem Disciplined.fresh : Disciplined (World.fresh : World Call) where
  alone _ _ one := by cases one
  known _ probing := by cases probing
  flying flag := by cases flag

omit [DecidableEq Call] in
theorem Disciplined.of_none (none : ∀ call, ¬world.Probing call) (flag : world.breaker.halfOpenInFlight = false) :
    Disciplined world where
  alone one _ probing _ := absurd probing (none one)
  known call probing := absurd probing (none call)
  flying set := by rw [flag] at set; cases set

omit [DecidableEq Call] in
theorem Disciplined.frame (disciplined : Disciplined world) (same : ∀ call, next.Probing call ↔ world.Probing call)
    (state : next.breaker.state = world.breaker.state)
    (flag : next.breaker.halfOpenInFlight = world.breaker.halfOpenInFlight) : Disciplined next where
  alone one other probing otherProbing :=
    disciplined.alone one other ((same one).mp probing) ((same other).mp otherProbing)
  known call probing := by
    rw [state, flag]
    exact disciplined.known call ((same call).mp probing)
  flying set := by
    rw [flag] at set
    obtain ⟨call, probing⟩ := disciplined.flying set
    exact ⟨call, (same call).mpr probing⟩

omit [DecidableEq Call] in
theorem Disciplined.flag_of_not_halfOpen (disciplined : Disciplined world)
    (state : world.breaker.state ≠ .halfOpen) : world.breaker.halfOpenInFlight = false := by
  cases flag : world.breaker.halfOpenInFlight with
  | false => rfl
  | true =>
    obtain ⟨call, probing⟩ := disciplined.flying flag
    exact absurd (disciplined.known call probing).1 state

theorem probing_update :
    (World.mk breaker (update world.call call state)).Probing other ↔
      if other = call then state = .inFlight .halfOpen else world.Probing other := by
  by_cases same : other = call
  · subst same
    simp [World.Probing]
  · simp [World.Probing, same]

/-- A call that is no probe changes what it is to something that is no probe. -/
theorem probing_update_of_not
    (before : ¬world.Probing call) (after : state ≠ .inFlight .halfOpen) (other : Call) :
    (World.mk breaker (update world.call call state)).Probing other ↔ world.Probing other := by
  rw [probing_update]
  by_cases same : other = call
  · subst same
    rw [if_pos rfl]
    exact iff_of_false after before
  · rw [if_neg same]

theorem Disciplined.enter_probe (disciplined : Disciplined world)
    (admitted : world.breaker.enterCall config now = .ok (.halfOpen, breaker)) :
    Disciplined (World.mk breaker (update world.call call (.inFlight .halfOpen))) := by
  obtain ⟨found, state, flag⟩ := Breaker.enterCall_halfOpen admitted
  have none : ∀ other, ¬world.Probing other := by
    intro other probing
    obtain ⟨halfOpen, set⟩ := disciplined.known other probing
    cases found with
    | inl idle => simp [set] at idle
    | inr opened => simp [halfOpen] at opened
  have only : ∀ other, (World.mk breaker (update world.call call (.inFlight .halfOpen))).Probing other →
      other = call := by
    intro other probing
    rw [probing_update] at probing
    by_cases same : other = call
    · exact same
    · rw [if_neg same] at probing
      exact absurd probing (none other)
  refine ⟨fun one other probing otherProbing => ?_, fun _ _ => ⟨state, flag⟩, fun _ => ⟨call, ?_⟩⟩
  · rw [only one probing, only other otherProbing]
  · rw [probing_update, if_pos rfl]

theorem Disciplined.finish_closed (disciplined : Disciplined world)
    (flying : world.call call = .inFlight .closed)
    (timely : reportsInTime world.breaker.state (.inFlight .closed) outcome = true) :
    Disciplined (World.mk (world.breaker.record config .closed outcome now)
      (update world.call call (.ended outcome))) := by
  have notProbing : ¬world.Probing call := by simp [World.Probing, flying]
  have same : ∀ (breaker : Breaker) (other : Call),
      (World.mk breaker (update world.call call (.ended outcome))).Probing other ↔ world.Probing other :=
    fun breaker => probing_update_of_not notProbing (by simp)
  cases outcome with
  | success =>
    have closed : world.breaker.state = .closed := by simpa [reportsInTime] using timely
    apply disciplined.frame (same _)
    · simp [Breaker.record, Breaker.recordSuccess, closed]
    · simp [Breaker.record, Breaker.recordSuccess, closed]
  | exception =>
    have notHalfOpen : world.breaker.state ≠ .halfOpen := by simpa [reportsInTime] using timely
    have flag := disciplined.flag_of_not_halfOpen notHalfOpen
    apply Disciplined.of_none
    · intro other probing
      exact notHalfOpen (disciplined.known other ((same _ other).mp probing)).1
    · exact (Breaker.recordFailure_not_halfOpen notHalfOpen flag).2.1
  | baseException => exact disciplined.frame (same _) rfl rfl

theorem Disciplined.finish_probe (disciplined : Disciplined world)
    (flying : world.call call = .inFlight .halfOpen) (reports : outcome ≠ .baseException) :
    Disciplined (World.mk (world.breaker.record config .halfOpen outcome now)
      (update world.call call (.ended outcome))) := by
  apply Disciplined.of_none
  · intro other probing
    rw [probing_update] at probing
    by_cases same : other = call
    · rw [if_pos same] at probing
      cases probing
    · rw [if_neg same] at probing
      exact same (disciplined.alone other call probing flying)
  · exact Breaker.record_probe reports

theorem Disciplined.step (timely : Timely world action) (disciplined : Disciplined world)
    (stepped : (calls config).step world action = some next) : Disciplined next := by
  cases calls_stepped stepped with
  | @rejected call now error waiting refused =>
    have notProbing : ¬world.Probing call := by simp [World.Probing, waiting]
    exact disciplined.frame (probing_update_of_not notProbing (by simp)) rfl rfl
  | @entered call now phase breaker waiting admitted =>
    cases phase with
    | closed =>
      obtain ⟨_, same⟩ := Breaker.enterCall_closed admitted
      subst same
      have notProbing : ¬world.Probing call := by simp [World.Probing, waiting]
      exact disciplined.frame (probing_update_of_not notProbing (by simp)) rfl rfl
    | halfOpen => exact disciplined.enter_probe admitted
  | @finished call outcome now phase flying =>
    simp only [Timely, flying] at timely
    cases phase with
    | closed => exact disciplined.finish_closed flying timely
    | halfOpen =>
      apply disciplined.finish_probe flying
      intro base
      subst base
      cases timely

def LeavesByProbe (config : Config) (world : World Call) (action : Action Call) (next : World Call) : Prop :=
  world.breaker.state = .opened → next.breaker.state ≠ .opened →
    ∃ call now openedAt, action = .enter call now ∧ next.Probing call ∧
      world.breaker.openedAt = some openedAt ∧ config.recoveryTimeout ≤ now - openedAt

theorem Disciplined.leaves_by_probe (timely : Timely world action) (disciplined : Disciplined world)
    (stepped : (calls config).step world action = some next) : LeavesByProbe config world action next := by
  intro opened left
  cases calls_stepped stepped with
  | rejected => exact absurd opened left
  | @entered call now phase breaker waiting admitted =>
    cases phase with
    | closed =>
      have closed := (Breaker.enterCall_closed admitted).1
      rw [opened] at closed
      cases closed
    | halfOpen =>
      have found := (Breaker.enterCall_halfOpen admitted).1
      simp only [opened, reduceCtorEq, false_and, true_and, false_or] at found
      obtain ⟨openedAt, recorded, elapsed⟩ := found
      refine ⟨call, now, openedAt, rfl, ?_, recorded, elapsed⟩
      rw [probing_update, if_pos rfl]
  | @finished call outcome now phase flying =>
    simp only [Timely, flying] at timely
    cases phase with
    | halfOpen =>
      have halfOpen := (disciplined.known call flying).1
      rw [opened] at halfOpen
      cases halfOpen
    | closed =>
      cases outcome with
      | success => simp [reportsInTime, opened] at timely
      | exception =>
        have notHalfOpen : world.breaker.state ≠ .halfOpen := by simp [opened]
        have flag := disciplined.flag_of_not_halfOpen notHalfOpen
        exact absurd ((Breaker.recordFailure_not_halfOpen notHalfOpen flag).2.2 opened) left
      | baseException => exact absurd opened left

/-- Where every call reports in time, one probe at most is in flight, the breaker
waits for a probe only while one is in flight, and nothing but a probe that is
started late enough takes it out of `OPEN`. -/
theorem recovery_discipline (ran : (calls config).run .fresh actions = some world)
    (met : (calls config).Meets Timely .fresh actions) :
    (∀ one other, world.Probing one → world.Probing other → one = other) ∧
    (world.breaker.halfOpenInFlight = true → ∃ call, world.Probing call) ∧
    ∀ action next, Timely world action → (calls config).step world action = some next →
      LeavesByProbe config world action next := by
  have disciplined : Disciplined world := StepSystem.invariant Disciplined.step met .fresh ran
  exact ⟨disciplined.alone, disciplined.flying, fun _ _ timely => disciplined.leaves_by_probe timely⟩

def untilProbe : List (Action Bool) := [.enter false 0, .finish false .exception 5, .enter true 60000005]

theorem recovery_discipline_of_probe :
    ∃ world, (calls ⟨"openai", 1, 60⟩).run .fresh untilProbe = some world ∧ world.Probing true ∧
      (∀ one other, world.Probing one → world.Probing other → one = other) ∧
      (world.breaker.halfOpenInFlight = true → ∃ call, world.Probing call) ∧
      ∀ action next, Timely world action → (calls ⟨"openai", 1, 60⟩).step world action = some next →
        LeavesByProbe ⟨"openai", 1, 60⟩ world action next :=
  ⟨_, rfl, rfl, @recovery_discipline Bool _ ⟨"openai", 1, 60⟩ _ untilProbe rfl (by decide)⟩

def CallState.flying : CallState → Bool
  | .inFlight _ => true
  | _ => false

structure Wedged (world : World Call) : Prop where
  state : world.breaker.state = .halfOpen
  flag : world.breaker.halfOpenInFlight = true
  landed : ∀ call, (world.call call).flying = false

/-- Every step of a wedged breaker is a call that is rejected. -/
theorem Wedged.stepped (wedged : Wedged world) (stepped : (calls config).step world action = some next) :
    ∃ call now, action = .enter call now ∧
      next = { world with call := update world.call call (.rejected config.halfOpenError) } := by
  cases calls_stepped stepped with
  | @rejected call now error waiting refused =>
    simp only [Breaker.enterCall, wedged.state, wedged.flag, if_true, Except.error.injEq] at refused
    subst refused
    exact ⟨call, now, rfl, rfl⟩
  | entered waiting admitted => simp [Breaker.enterCall, wedged.state, wedged.flag] at admitted
  | @finished call outcome now phase flying =>
    have landed := wedged.landed call
    rw [flying] at landed
    cases landed

/-- From there on every call is rejected, however late it comes. -/
theorem Wedged.run (wedged : Wedged world) (ran : (calls config).run world actions = some final) :
    Wedged final := by
  refine StepSystem.invariant_run (fun {state next action} wedged stepped => ?_) wedged ran
  obtain ⟨call, _, _, same⟩ := wedged.stepped stepped
  subst same
  refine ⟨wedged.state, wedged.flag, fun other => ?_⟩
  by_cases isCall : other = call
  · subst isCall
    simp [CallState.flying]
  · simp only [update_of_ne isCall]
    exact wedged.landed other

/-- A cancelled probe reports nothing, and the breaker waits for it for good. -/
theorem cancelled_probe_wedges :
    ∃ world, (calls ⟨"openai", 1, 60⟩).run .fresh (untilProbe ++ [.finish true .baseException 60000007]) = some world ∧
      world.breaker.halfOpenInFlight = true ∧ (∀ call, ¬world.Probing call) ∧
      ∀ actions final, (calls ⟨"openai", 1, 60⟩).run world actions = some final → Wedged final :=
  ⟨_, rfl, rfl, by decide, fun _ _ => Wedged.run ⟨rfl, rfl, by decide⟩⟩

end AindyRuntime.CircuitBreaker
