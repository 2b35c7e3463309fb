import AindyRuntime.Kernel.EffectGate
import AindyRuntime.Kernel.SyscallReplay

namespace AindyRuntime.Syscall

open EffectLedger EffectGate StepSystem
open EffectGate (Ledger Phase Reply)

structure Calls (deployment : Deployment) (gates : EffectGate.Deployment) (caller : Nat)
    (invocation : Invocation) : Prop extends Keyed deployment gates.actionId invocation where
  postgresql : gates.postgresql = deployment.postgresql
  caller : ∀ canonical, invocation.canonical deployment = .ok canonical → gates.caller caller =
      ⟨invocation.request deployment (canonical.get "input"), deployment.strict, invocation.atMostOnce⟩

structure Shows (key : String) (world : World) (ledger : Ledger) : Prop where
  now : ledger.now = world.now
  row : ledger.row = world.table key
  runs : ledger.handlerRuns.length = world.handlerRuns
  lock : ledger.lock.isSome = world.locks key

structure Mirrors (gate : Gate) (caller : Nat) (phase : Phase) (world : World) (ledger : Ledger) :
    Prop extends Shows gate.actionId world ledger where
  holds : ledger.lock = some caller ↔ gate.locked = true
  phase : ledger.phases caller = phase

structure Alone (gates : EffectGate.Deployment) (caller : Nat) (before after : Ledger) : Prop where
  run : ∃ actions, (system gates).run before actions = some after
  others : ∀ other, other ≠ caller → after.phases other = before.phases other ∧
      (after.lock = some other ↔ before.lock = some other)

variable {deployment : Deployment} {gates : EffectGate.Deployment} {caller : Nat}
variable {invocation : Invocation} {gate : Gate}
variable {world : World} {ledger next : Ledger} {phase : Phase}

namespace Alone

theorem trans (first : Alone gates caller ledger middle) (second : Alone gates caller middle next) :
    Alone gates caller ledger next := by
  obtain ⟨earlier, reached⟩ := first.run
  obtain ⟨later, continued⟩ := second.run
  refine ⟨⟨earlier ++ later, run_append.mpr ⟨middle, reached, continued⟩⟩, ?_⟩
  intro other apart
  obtain ⟨phases, lock⟩ := second.others other apart
  obtain ⟨phasesFirst, lockFirst⟩ := first.others other apart
  exact ⟨phases.trans phasesFirst, lock.trans lockFirst⟩

variable {action : EffectGate.Action}

section

variable (stepped : EffectGate.step gates ledger action = some next)
include stepped

theorem step (others : ∀ other, other ≠ caller → next.phases other = ledger.phases other ∧
      (next.lock = some other ↔ ledger.lock = some other)) :
    Alone gates caller ledger next :=
  ⟨⟨[action], run_cons.mpr ⟨next, stepped, rfl⟩⟩, others⟩

theorem step_goto (phases : next.phases = (ledger.goto caller phase).phases) (lock : next.lock = ledger.lock) :
    Alone gates caller ledger next := by
  refine step stepped fun other apart => ⟨?_, by rw [lock]⟩
  rw [phases]
  simp [apart]

theorem step_leave (phases : next.phases = (ledger.leave caller reply).phases)
    (lock : next.lock = (ledger.leave caller reply).lock) : Alone gates caller ledger next := by
  refine step stepped fun other apart => ⟨?_, ?_⟩
  · rw [phases]
    simp [apart]
  · rw [lock, Ledger.leave_lock]
    split
    case isTrue held => simp [held, apart.symm]
    case isFalse => exact Iff.rfl

end

end Alone

namespace Mirrors

section

variable (mirrors : Mirrors gate caller phase world ledger)
include mirrors

theorem goto : Mirrors gate caller moved world (ledger.goto caller moved) :=
  ⟨⟨mirrors.now, mirrors.row, mirrors.runs, mirrors.lock⟩, mirrors.holds, by simp⟩

theorem store {record : EffectRecord} :
    Mirrors gate caller phase (world.store gate.actionId record) (ledger.store record) :=
  ⟨⟨mirrors.now, by simp [World.store], mirrors.runs, mirrors.lock⟩, mirrors.holds, mirrors.phase⟩

theorem leave : Mirrors ⟨gate.actionId, false⟩ caller (.left reply) (world.leave gate)
      (ledger.leave caller reply) := by
  have lock : (ledger.leave caller reply).lock.isSome = (world.leave gate).locks gate.actionId := by
    rw [World.leave_locks, ← mirrors.lock, Ledger.leave_lock]
    split
    case isTrue held => simp [mirrors.holds.mp held]
    case isFalse other =>
      have unlocked : gate.locked = false := by simpa using mt mirrors.holds.mpr other
      simp [unlocked]
  refine ⟨⟨?_, ?_, ?_, lock⟩, ?_, by simp⟩
  · rw [World.leave_now]
    exact mirrors.now
  · rw [World.leave_table]
    exact mirrors.row
  · rw [World.leave_handlerRuns]
    exact mirrors.runs
  · rw [Ledger.leave_lock]
    split <;> simp_all

end

end Mirrors

variable (deployment invocation) in
inductive Reports : Except Raised Envelope → Phase → Prop where
  | refused {envelope : Envelope} (error : envelope.status = .error) : Reports (.ok envelope) (.left .refused)
  | replayed {payload : Json} : Reports (.ok (replayEnvelope invocation payload)) (.left (.replayed payload))
  | held {outcome : HeldOutcome} {envelope : Envelope}
      (reads : heldEnvelope invocation outcome = .ok envelope) :
      Reports (.ok envelope) (.left (.held outcome))
  | unreadable {outcome : HeldOutcome} {error : PyError}
      (fails : heldEnvelope invocation outcome = .error error) :
      Reports (.ok (errorEnvelope deployment invocation "unknown" error.text none)) (.left (.held outcome))
  | finished {result : Except Raised Envelope} {status : EffectStatus} {payload : Json}
      (concluded : Concluded deployment invocation result status payload) :
      Reports result (.left .finished)
  | escaped {result : Except Raised Envelope} (escapes : ¬Contained deployment invocation)
      (handled : invocation.ended = none) :
      Reports result (.handling true)

variable (deployment : Deployment) (invocation : Invocation) (key : String) (caller : Nat) (ledger : Ledger) in
inductive Opens : Except Raised Opening × World → Prop where
  | answered {envelope : Envelope} {world : World} {reply : Reply}
      (reports : Reports deployment invocation (.ok envelope) (.left reply))
      (mirrors : Mirrors ⟨key, false⟩ caller (.left reply) world ledger) :
      Opens (.ok (.answered envelope), world)
  | unreadable {outcome : HeldOutcome} {error : PyError} {world : World}
      (fails : heldEnvelope invocation outcome = .error error)
      (mirrors : Mirrors ⟨key, false⟩ caller (.left (.held outcome)) world ledger) :
      Opens (.error (.exception error), world)
  | through {locked : Bool} {world : World}
      (mirrors : Mirrors ⟨key, locked⟩ caller (.admitted true) world ledger) :
      Opens (.ok (.through (some ⟨key, locked⟩)), world)

theorem resolveRow_opens (mirrors : Mirrors gate caller .entered world ledger)
    (atMostOnce : (gates.caller caller).atMostOnce = invocation.atMostOnce) :
    ∃ next, Alone gates caller ledger next ∧ Opens deployment invocation gate.actionId caller next
        ((resolveRow deployment invocation gate (gates.caller caller).request).run world) := by
  have selects : EffectGate.step gates ledger (.select caller) =
      some (ledger.goto caller (.selected ledger.row)) := by
    simp [EffectGate.step, select, mirrors.phase]
  have selected : Alone gates caller ledger (ledger.goto caller (.selected ledger.row)) :=
    .step_goto selects rfl rfl
  have stands : Mirrors gate caller (.selected ledger.row) world
      (ledger.goto caller (.selected ledger.row)) := mirrors.goto
  generalize ledger.goto caller (.selected ledger.row) = read at selected stands
  have phase := stands.phase
  rw [mirrors.row] at phase
  cases present : world.table gate.actionId with
  | none =>
    have absent : read.row = none := stands.row.trans present
    have inserts : EffectGate.step gates read (.insert caller) =
        some ((read.store (reservedRow read.now (gates.caller caller).request)).goto caller (.admitted true)) := by
      simp [EffectGate.step, EffectGate.insert, phase, present, absent]
    refine ⟨_, selected.trans (.step_goto inserts rfl rfl), ?_⟩
    simp only [resolveRow, Program.run_bind, Program.run_read, present, Program.run_modify]
    rw [stands.now]
    exact .through stands.store.goto
  | some record =>
    have found : read.row = some record := stands.row.trans present
    have resolves : EffectGate.step gates read (.resolve caller) = resolve gates read caller := rfl
    simp only [resolve, phase, present, stands.now] at resolves
    simp only [resolveRow, Program.run_bind, Program.run_read, present]
    cases resolution : resolveExistingRow world.now (gates.caller caller).request record with
    | replay =>
      simp only [resolution] at resolves
      exact ⟨_, selected.trans (.step_leave resolves rfl rfl), .answered .replayed stands.leave⟩
    | held outcome =>
      simp only [resolution] at resolves
      refine ⟨_, selected.trans (.step_leave resolves rfl rfl), ?_⟩
      simp only [Program.run_bind, Program.run_modify, Program.run_call]
      cases reads : heldEnvelope invocation outcome with
      | ok => exact .answered (.held reads) stands.leave
      | error => exact .unreadable reads stands.leave
    | degraded =>
      simp only [resolution, atMostOnce] at resolves
      cases once : invocation.atMostOnce with
      | true =>
        simp only [once, if_true] at resolves
        exact ⟨_, selected.trans (.step_leave resolves rfl rfl), .answered (.refused rfl) stands.leave⟩
      | false =>
        simp only [once, Bool.false_eq_true, if_false] at resolves
        exact ⟨_, selected.trans (.step_goto resolves rfl rfl), .through stands.goto⟩
    | reclaim =>
      simp only [resolution, found, Option.map_some, EffectRecord.commit_fresh] at resolves
      exact ⟨_, selected.trans (.step_goto resolves rfl rfl), .through stands.store.goto⟩

section

variable (calls : Calls deployment gates caller invocation)
include calls

theorem Calls.atMostOnce : (gates.caller caller).atMostOnce = invocation.atMostOnce := by
  obtain ⟨canonical, dumped, _⟩ := @Keyed.enters deployment invocation _ emptyWorld calls.toKeyed
  rw [calls.caller canonical dumped]

theorem Calls.asksLock : ((gates.caller caller).locks && gates.postgresql) = invocation.asksLock deployment := by
  obtain ⟨canonical, dumped, _⟩ := @Keyed.enters deployment invocation _ emptyWorld calls.toKeyed
  rw [calls.caller canonical dumped, calls.postgresql]
  rfl

omit calls in
theorem Mirrors.openSession (mirrors : Mirrors gate caller phase world ledger) :
    Mirrors gate caller phase world.openSession ledger :=
  ⟨⟨mirrors.now, mirrors.row, mirrors.runs, mirrors.lock⟩, mirrors.holds, mirrors.phase⟩

/-- The caller is in the gate, with the lock if it was free. -/
theorem Calls.enters_gate (mirrors : Mirrors ⟨gates.actionId, false⟩ caller .idle world ledger)
    (arises : LockState.Arises (invocation.asksLock deployment) (world.locks gates.actionId) state)
    (stays : ¬(state = .timeout ∧ invocation.atMostOnce = true)) :
    ∃ next, Alone gates caller ledger next ∧
      Mirrors ⟨gates.actionId, decide (state = .acquired)⟩ caller .entered
        (world.take ⟨gates.actionId, decide (state = .acquired)⟩) next := by
  cases arises with
  | without unasked _ free =>
    have enters : EffectGate.step gates ledger (.enter caller) = some (ledger.goto caller .entered) := by
      simp [EffectGate.step, enter, mirrors.phase, calls.asksLock, unasked]
    refine ⟨_, .step_goto enters rfl rfl, ?_⟩
    rw [decide_eq_false free]
    exact mirrors.goto
  | timeout asked =>
    have mayRepeat : invocation.atMostOnce = false := by simpa using stays
    have times : EffectGate.step gates ledger (.lockTimeout caller) = some (ledger.goto caller .entered) := by
      simp [EffectGate.step, lockTimeout, mirrors.phase, calls.asksLock, asked, calls.atMostOnce, mayRepeat]
    exact ⟨_, .step_goto times rfl rfl, mirrors.goto⟩
  | acquired asked free =>
    have unheld : ledger.lock = none := by
      simpa [free] using mirrors.lock
    have enters : EffectGate.step gates ledger (.enter caller) =
        some { ledger.goto caller .entered with lock := some caller } := by
      simp [EffectGate.step, enter, mirrors.phase, calls.asksLock, asked, unheld]
    refine ⟨_, .step enters fun other apart => ⟨by simp [apart], by simp [unheld, apart.symm]⟩, ?_⟩
    refine ⟨⟨mirrors.now, mirrors.row, mirrors.runs, ?_⟩, by simp, by simp⟩
    simp [World.take, World.setLock]

theorem openGate_opens (mirrors : Mirrors ⟨gates.actionId, false⟩ caller .idle before ledger) :
    ∃ next, Alone gates caller ledger next ∧ Opens deployment invocation gates.actionId caller next
        ((openGate deployment invocation).run before) := by
  obtain ⟨canonical, dumped, opened⟩ := @Keyed.enters deployment invocation _ before calls.toKeyed
  have request : (gates.caller caller).request = invocation.request deployment (canonical.get "input") := by
    rw [calls.caller canonical dumped]
  have waits := mirrors.openSession
  obtain ⟨state, acquired, arises⟩ :=
    @acquireLock_arises deployment invocation gates.actionId before.openSession calls.lock
  rw [opened, ← request]
  simp only [enterGate, Program.run_bind, Program.run_modify, Program.run_read, acquired]
  by_cases refused : state = .timeout ∧ invocation.atMostOnce = true
  · have asked : invocation.asksLock deployment = true := by
      cases arises with
      | without _ inTime => exact absurd refused.1 inTime
      | acquired asked | timeout asked => exact asked
    have times : EffectGate.step gates ledger (.lockTimeout caller) = some (ledger.leave caller .refused) := by
      simp [EffectGate.step, lockTimeout, mirrors.phase, calls.asksLock, asked, calls.atMostOnce, refused.2]
    refine ⟨_, .step_leave times rfl rfl, ?_⟩
    rw [if_pos refused]
    exact .answered (.refused rfl) waits.leave
  · obtain ⟨_, alone, stands⟩ := calls.enters_gate waits arises refused
    obtain ⟨next, aloneNext, opens⟩ := @resolveRow_opens deployment gates caller invocation _ _ _
      stands calls.atMostOnce
    refine ⟨next, alone.trans aloneNext, ?_⟩
    rw [if_neg refused]
    simpa [calls.resolve] using opens

end

section

variable (mirrors : Mirrors gate caller (.admitted true) world ledger)
include mirrors

theorem Mirrors.handles (seconds : Nat) : ∃ next, Alone gates caller ledger next ∧
      Mirrors gate caller (.handling true) (world.handle seconds) next := by
  have starts : EffectGate.step gates ledger (.startHandler caller) =
      some { ledger.goto caller (.handling true) with
        handlerRuns := caller :: ledger.handlerRuns } := by
    simp [EffectGate.step, startHandler, mirrors.phase]
  have ticks : EffectGate.step gates { ledger.goto caller (.handling true) with
        handlerRuns := caller :: ledger.handlerRuns } (.tick seconds) =
      some { ledger.goto caller (.handling true) with
        handlerRuns := caller :: ledger.handlerRuns, now := ledger.now + seconds } := rfl
  refine ⟨_, .trans (.step_goto starts rfl rfl) (.step ticks fun _ _ => ⟨rfl, Iff.rfl⟩), ?_⟩
  refine ⟨⟨?_, mirrors.row, ?_, mirrors.lock⟩, mirrors.holds, by simp⟩
  · simp [World.handle, mirrors.now]
  · simp [World.handle, mirrors.runs]

omit mirrors in
theorem Mirrors.completes {status : EffectStatus} {payload : Json} {record : EffectRecord}
    (mirrors : Mirrors gate caller (.ran true status payload) world ledger)
    (terminal : status ≠ .pending) (present : world.table gate.actionId = some record) :
    ∃ next, Alone gates caller ledger next ∧ Mirrors ⟨gate.actionId, false⟩ caller (.left .finished)
        ((world.complete gate.actionId status payload).leave gate) next := by
  have found : ledger.row = some record := mirrors.row.trans present
  have checked : checkTerminal gates.actionId status = .ok () := by
    cases status <;> first | rfl | cases terminal rfl
  have selects : EffectGate.step gates ledger (.completeSelect caller) =
      some (ledger.goto caller (.completing status payload record)) := by
    simp [EffectGate.step, completeSelect, mirrors.phase, checked, found]
  have commits : EffectGate.step gates (ledger.goto caller (.completing status payload record))
      (.completeCommit caller) = some (((ledger.goto caller (.completing status payload record)).store
          (record.completed ledger.now status payload)).leave caller .finished) := by
    simp only [EffectGate.step, completeCommit, Ledger.goto_phases, if_true,
      Ledger.goto_row, found, Option.map_some, EffectRecord.commit_fresh]
    rfl
  have selected : Mirrors gate caller (.completing status payload record) world
      (ledger.goto caller (.completing status payload record)) := mirrors.goto
  refine ⟨_, .trans (.step_goto selects rfl rfl) (.step_leave commits rfl rfl), ?_⟩
  rw [mirrors.now, World.complete, present]
  exact selected.store.leave

theorem Mirrors.refuses : ∃ next, Alone gates caller ledger next ∧
      Mirrors gate caller (.ran true .failed .null) world next := by
  have refuses : EffectGate.step gates ledger (.refuseEnded caller) =
      some (ledger.goto caller (.ran true .failed .null)) := by
    simp [EffectGate.step, EffectGate.refuseEnded, mirrors.phase]
  exact ⟨_, .step_goto refuses rfl rfl, mirrors.goto⟩

omit mirrors in
theorem Mirrors.ran (mirrors : Mirrors gate caller (.handling true) world ledger)
    (status : EffectStatus) (payload : Json) :
    ∃ next, Alone gates caller ledger next ∧ Mirrors gate caller (.ran true status payload) world next := by
  have finishes : EffectGate.step gates ledger (.finishHandler caller status payload) =
      some (ledger.goto caller (.ran true status payload)) := by
    simp [EffectGate.step, finishHandler, mirrors.phase]
  exact ⟨_, .step_goto finishes rfl rfl, mirrors.goto⟩

/-- From its admission to its completion, the caller goes where the dispatch
goes. -/
theorem Mirrors.reaches (concluded : Concluded deployment invocation result status payload) :
    ∃ next, Alone gates caller ledger next ∧
      Mirrors gate caller (.ran true status payload) (invocation.reached world) next := by
  cases ended : invocation.ended with
  | some =>
    simp only [Invocation.reached, ended]
    cases concluded with
    | failed | violated => exact mirrors.refuses
    | recorded handled => simp [ended] at handled
  | none =>
    simp only [Invocation.reached, ended]
    obtain ⟨_, alone, stands⟩ := mirrors.handles invocation.seconds
    obtain ⟨next, aloneNext, ran⟩ := stands.ran status payload
    exact ⟨next, alone.trans aloneNext, ran⟩

end

/-- A dispatch takes the steps of its caller.  One that escapes leaves the caller
in the handler, where it keeps the lock. -/
theorem dispatch_alone (calls : Calls deployment gates caller invocation)
    (mirrors : Mirrors ⟨gates.actionId, false⟩ caller .idle before ledger) :
    ∃ next locked phase, Alone gates caller ledger next ∧
      Mirrors ⟨gates.actionId, locked⟩ caller phase ((dispatch deployment invocation).run before).2 next ∧
      Reports deployment invocation ((dispatch deployment invocation).run before).1 phase ∧
      (locked = true → phase = .handling true) := by
  obtain ⟨opened, alone, opens⟩ := openGate_opens calls mirrors
  generalize ran : (openGate deployment invocation).run before = outcome at opens
  cases opens with
  | @answered envelope world reply reports stands =>
    have left : (dispatch deployment invocation).run before = (.ok envelope, world) := by
      simp [dispatch, dispatchInner, ran]
    rw [left]
    exact ⟨opened, false, _, alone, stands, reports, by simp⟩
  | @unreadable held error world fails stands =>
    have left : (dispatch deployment invocation).run before =
        (.ok (errorEnvelope deployment invocation "unknown" error.text none), world) := by
      simp [dispatch, dispatchInner, ran, rescue, Raised.text]
    rw [left]
    exact ⟨opened, false, _, alone, stands, .unreadable fails, by simp⟩
  | @through locked world stands =>
    by_cases contained : Contained deployment invocation
    · obtain ⟨_, _, concluded, left⟩ := dispatch_ends ran calls.complete contained
      obtain ⟨_, present, _⟩ :=
        (@Reserved.reached invocation _ _ _ (openGate_reserved.returned ran _ rfl)).pending
      obtain ⟨_, aloneReached, standsReached⟩ := stands.reaches concluded
      obtain ⟨next, aloneNext, standsNext⟩ := standsReached.completes concluded.terminal present
      rw [left]
      exact ⟨next, false, _, (alone.trans aloneReached).trans aloneNext, standsNext, .finished concluded, by simp⟩
    · have handled : invocation.ended = none := by
        by_contra ended
        exact contained fun running => absurd running ended
      obtain ⟨next, aloneNext, standsNext⟩ := stands.handles invocation.seconds
      refine ⟨next, locked, _, alone.trans aloneNext, ?_, .escaped contained handled, by simp⟩
      rw [dispatch_escapes ran contained]
      simpa [Invocation.reached, handled] using standsNext

def afterAll (deployment : Deployment) : World → List (Nat × Invocation) → World
  | world, [] => world
  | world, (seconds, invocation) :: rest =>
    afterAll deployment ((dispatch deployment invocation).run (world.later seconds)).2 rest

/-- A sequence of dispatches is a run of the callers: its world is the one that
a run of the gate shows, also where dispatches leave their locks behind. -/
theorem afterAll_run
    (calls : ∀ place call, history[place]? = some call → Calls deployment gates (first + place) call.2)
    (shows : Shows gates.actionId world ledger)
    (waiting : ∀ caller, first ≤ caller → ledger.phases caller = .idle ∧ ledger.lock ≠ some caller) :
    ∃ actions final, (system gates).run ledger actions = some final ∧
      Shows gates.actionId (afterAll deployment world history) final := by
  induction history generalizing world ledger first with
  | nil => exact ⟨[], ledger, rfl, shows⟩
  | cons call rest ih =>
    obtain ⟨seconds, _⟩ := call
    have ticks : EffectGate.step gates ledger (.tick seconds) =
        some { ledger with now := ledger.now + seconds } := rfl
    obtain ⟨idle, unheld⟩ := waiting first (Nat.le_refl first)
    have stands : Mirrors ⟨gates.actionId, false⟩ first .idle (world.later seconds)
        { ledger with now := ledger.now + seconds } := by
      refine ⟨⟨?_, shows.row, shows.runs, shows.lock⟩, by simp [unheld], idle⟩
      simp [World.later, shows.now]
    obtain ⟨next, _, _, alone, mirrors, _⟩ := dispatch_alone (calls 0 _ rfl) stands
    obtain ⟨actions, ran⟩ := alone.run
    have waits : ∀ caller, first + 1 ≤ caller → next.phases caller = .idle ∧ next.lock ≠ some caller := by
      intro caller later
      obtain ⟨idleLater, unheldLater⟩ := waiting caller (by omega)
      obtain ⟨phases, lock⟩ := alone.others caller (by omega)
      exact ⟨phases.trans idleLater, fun held => unheldLater (lock.mp held)⟩
    have callsRest : ∀ place call, rest[place]? = some call →
        Calls deployment gates (first + 1 + place) call.2 := by
      intro place call found
      have here := calls (place + 1) call found
      rwa [show first + (place + 1) = first + 1 + place by omega] at here
    obtain ⟨further, final, ranFurther, showsFinal⟩ := ih callsRest mirrors.toShows waits
    refine ⟨.tick seconds :: (actions ++ further), final, ?_, showsFinal⟩
    exact run_cons.mpr ⟨_, ticks, run_append.mpr ⟨next, ran, ranFurther⟩⟩

def mailGates : EffectGate.Deployment := ⟨"a1", true, fun _ => ⟨mailSent.request mailDeployment .null, false, true⟩⟩

theorem afterAll_run_of_mail :
    ∃ actions final, (system mailGates).run ⟨0, none, none, fun _ => .idle, []⟩ actions = some final ∧
      Shows "a1" (afterAll mailDeployment emptyWorld (.replicate 2 (60, mailSent))) final := by
  refine @afterAll_run mailDeployment mailGates _ _ (.replicate 2 (60, mailSent)) 0 ?_
    ⟨rfl, rfl, rfl, rfl⟩ fun _ _ => ⟨rfl, nofun⟩
  intro place call found
  obtain rfl := List.eq_of_mem_replicate (List.mem_of_getElem? found)
  refine ⟨⟨rfl, rfl, rfl, rfl, rfl⟩, rfl, fun _ dumped => ?_⟩
  cases dumped
  rfl

end AindyRuntime.Syscall
