import AindyRuntime.Kernel.Admission
import AindyRuntime.Scheduler.Waits

/-! # Waiting for capacity

`_check_resources` of the flow runner against `_release_slot` and
`_publish_capacity_freed` of the resource manager.
-/

namespace AindyRuntime.CapacityWakes

open ResourceManager Scheduler Option

variable {Run : Type}

structure Setting (Run : Type) where
  limit : Int
  testing : Bool
  backend : Backend
  (idOf tenantOf unitOf traceOf : Run → String)
  priorityOf : Run → Priority

def Setting.wait (setting : Setting Run) (run : Run) : WaitEntry where
  waitFor := "resource_available"
  tenantId := setting.tenantOf run
  euId := setting.unitOf run
  priority := setting.priorityOf run
  correlationId := some (setting.traceOf run)
  euType := "flow"
  waitCondition := .forEvent "resource_available"

def capacityEvent : Notification := ⟨"resource_available", none, none⟩

theorem capacityEvent_wakes (setting : Setting Run) (run : Run) :
    capacityEvent.wakes (setting.idOf run) (setting.wait run) = true := by
  have admitted : capacityEvent.admits (some (setting.traceOf run)) = true := by
    simp only [Notification.admits, correlationAdmits]
    cases given (some (setting.traceOf run)) <;> rfl
  simp only [Notification.wakes, Setting.wait, admitted]
  rfl

inductive Phase where
  | idle
  | admitted
  | holding
  | refused
  /-- The row is committed as waiting. -/
  | parked
  | registered
  | woken
  /-- A release that has read the counter, and one that has found it below zero. -/
  | releasing (earlier : Int)
  | underflowed (earlier : Int)
  | released (observed : Int × Int)
deriving DecidableEq, Repr

inductive Action (Run : Type) where
  | ask (run : Run)
  | start (run : Run)
  /-- A caller that is not a flow run, or a commit or a registration that raises. -/
  | giveUp (run : Run)
  | park (run : Run)
  | register (run : Run)
  | read (run : Run)
  | lower (run : Run)
  | reset (run : Run)
  | publish (run : Run)

structure World (Run : Type) where
  counters : Counters
  phases : Run → Phase

def World.zero : World Run := ⟨.zero, fun _ => .idle⟩

def World.notify (setting : Setting Run) (world : World Run) : World Run :=
  { world with
    phases := fun run =>
      if world.phases run = .registered ∧ capacityEvent.wakes (setting.idOf run) (setting.wait run) then
        .woken
      else world.phases run }

def World.active (world : World Run) (setting : Setting Run) (run : Run) : Int :=
  world.counters.on setting.backend (setting.tenantOf run)

variable [DecidableEq Run]

def World.enter (world : World Run) (run : Run) (phase : Phase) : World Run :=
  { world with phases := Function.update world.phases run phase }

variable (setting : Setting Run)

/-- The count a release compares with what it leaves: the local counter is read
and lowered under one lock. -/
def Setting.seen (earlier count : Int) : Int :=
  match setting.backend with
  | .redis => earlier
  | .process => count

variable (world : World Run)

def World.lowered (setting : Setting Run) (run : Run) (earlier : Int) : World Run :=
  let seen := setting.seen earlier (world.active setting run)
  let lowered := world.counters.lower setting.backend (setting.tenantOf run)
  { world.enter run (if lowered.1 then .underflowed seen
      else .released (seen, lowered.2.on setting.backend (setting.tenantOf run))) with
    counters := lowered.2 }

def callers : StepSystem (World Run) (Action Run) where
  step world action :=
    match action with
    | .ask run =>
      if world.phases run = .idle ∨ world.phases run = .woken then
        some (world.enter run (if world.counters.canExecute setting.limit setting.testing setting.backend
              (setting.tenantOf run) then .admitted else .refused))
      else none
    | .start run =>
      if world.phases run = .admitted then
        some { world.enter run .holding with
          counters := world.counters.markStarted setting.backend (setting.tenantOf run) }
      else none
    | .giveUp run =>
      if world.phases run = .refused ∨ world.phases run = .parked then
        some (world.enter run .idle)
      else none
    | .park run => if world.phases run = .refused then some (world.enter run .parked) else none
    | .register run => if world.phases run = .parked then some (world.enter run .registered) else none
    | .read run =>
      if world.phases run = .idle ∨ world.phases run = .holding then
        some (world.enter run (.releasing (world.active setting run)))
      else none
    | .lower run =>
      match world.phases run with
      | .releasing earlier => some (world.lowered setting run earlier)
      | _ => none
    | .reset run =>
      match world.phases run with
      | .underflowed earlier =>
        some { world.enter run (.released (earlier, 0)) with
          counters := world.counters.resetTenantQuota setting.backend (setting.tenantOf run) }
      | _ => none
    | .publish run =>
      match world.phases run with
      | .released observed =>
        let done := world.enter run .idle
        some (if Counters.capacityFreed setting.limit observed then done.notify setting else done)
      | _ => none

def Phase.settled : Phase → Bool
  | .idle | .holding | .registered => true
  | _ => false

def World.Quiescent : Prop := ∀ run, (world.phases run).settled = true

/-- No slot is freed between a refusal and its registration, none is taken
between the two halves of a release, and no reset empties a full counter. -/
def steady (action : Action Run) : Bool :=
  match action with
  | .register run => decide (setting.limit ≤ world.active setting run)
  | .lower run =>
    match world.phases run, setting.backend with
    | .releasing earlier, .redis => decide (world.active setting run ≤ earlier)
    | _, _ => true
  | .reset run => decide (world.active setting run < setting.limit)
  | _ => true

def Steady (action : Action Run) : Prop :=
  steady setting world action = true

instance : ∀ world action, Decidable (Steady setting world action) :=
  fun world action => inferInstanceAs (Decidable (steady setting world action = true))

def Phase.promises (limit : Int) : Phase → Bool
  | .released observed => Counters.capacityFreed limit observed
  | .underflowed _ => decide (limit ≤ 0)
  | _ => false

variable (before : World Run) in
inductive Stepped : Action Run → World Run → Prop where
  | moved {action : Action Run} {run : Run} {phase : Phase} (fresh : phase ≠ .registered)
      (unpromised : (before.phases run).promises setting.limit = false) :
      Stepped action (before.enter run phase)
  | started {run : Run} (admitted : before.phases run = .admitted) :
      Stepped (.start run) { before.enter run .holding with
        counters := before.counters.markStarted setting.backend (setting.tenantOf run) }
  | registered {run : Run} (parked : before.phases run = .parked) :
      Stepped (.register run) (before.enter run .registered)
  | lowered {run : Run} {earlier : Int} (releasing : before.phases run = .releasing earlier) :
      Stepped (.lower run) (before.lowered setting run earlier)
  | reset {run : Run} {earlier : Int} (underflowed : before.phases run = .underflowed earlier) :
      Stepped (.reset run) { before.enter run (.released (earlier, 0)) with
        counters := before.counters.resetTenantQuota setting.backend (setting.tenantOf run) }
  | published {run : Run} : Stepped (.publish run) ((before.enter run .idle).notify setting)

section Steps

variable {setting : Setting Run}

theorem callers_stepped (stepped : (callers setting).step before action = some after) :
    Stepped setting before action after := by
  cases action with
  | ask =>
    obtain ⟨origin, entered⟩ := ite_none_right_eq_some.mp stepped
    cases entered
    apply Stepped.moved
    · split <;> decide
    · rcases origin with origin | origin <;> rw [origin] <;> rfl
  | start =>
    obtain ⟨admitted, entered⟩ := ite_none_right_eq_some.mp stepped
    cases entered
    exact .started admitted
  | giveUp =>
    obtain ⟨origin, entered⟩ := ite_none_right_eq_some.mp stepped
    cases entered
    apply Stepped.moved (by decide)
    rcases origin with origin | origin <;> rw [origin] <;> rfl
  | park =>
    obtain ⟨refused, entered⟩ := ite_none_right_eq_some.mp stepped
    cases entered
    apply Stepped.moved (by decide)
    rw [refused]
    rfl
  | register =>
    obtain ⟨parked, entered⟩ := ite_none_right_eq_some.mp stepped
    cases entered
    exact .registered parked
  | read =>
    obtain ⟨origin, entered⟩ := ite_none_right_eq_some.mp stepped
    cases entered
    apply Stepped.moved (by simp)
    rcases origin with origin | origin <;> rw [origin] <;> rfl
  | lower =>
    simp only [callers] at stepped
    split at stepped <;> cases stepped
    case h_1 releasing => exact .lowered releasing
  | reset =>
    simp only [callers] at stepped
    split at stepped <;> cases stepped
    case h_1 underflowed => exact .reset underflowed
  | publish =>
    simp only [callers] at stepped
    split at stepped <;> cases stepped
    case h_1 released =>
      split
      case isTrue => exact .published
      case isFalse full =>
        apply Stepped.moved (by decide)
        rw [released]
        exact Bool.eq_false_iff.mpr full

end Steps

theorem lower_other {counters : Counters} (apart : tenant ≠ tenantId) :
    (counters.lower backend tenantId).2.on backend tenant = counters.on backend tenant := by
  cases backend with
  | redis => simp [Counters.lower, Counters.on_write, apart]
  | process =>
    simp only [Counters.lower]
    split
    · simp [Counters.on_write, apart]
    · rfl

theorem lower_underflows {counters : Counters}
    (underflows : (counters.lower backend tenantId).1 = true) : counters.on backend tenantId ≤ 0 := by
  cases backend with
  | redis =>
    have below := of_decide_eq_true underflows
    omega
  | process => cases underflows

def World.Promised (run : Run) : Prop :=
  ∃ releaser, (world.phases releaser).promises setting.limit = true
    ∧ setting.tenantOf releaser = setting.tenantOf run

def World.Attended : Prop :=
  ∀ run, world.phases run = .registered → world.active setting run < setting.limit →
    world.Promised setting run

section Runs

variable {setting : Setting Run} {before world : World Run}
variable {run : Run} {phase : Phase} {earlier : Int}

/-- A promise outlives the steps of all but the release that made it. -/
theorem World.Promised.enter {counters : Counters} (promised : before.Promised setting run)
    (unpromised : (before.phases mover).promises setting.limit = false) :
    World.Promised setting { before.enter mover phase with counters } run := by
  obtain ⟨releaser, promises, same⟩ := promised
  refine ⟨releaser, ?_, same⟩
  have apart : releaser ≠ mover := by
    rintro rfl
    rw [unpromised] at promises
    cases promises
  simpa [World.enter, apart] using promises

theorem registered_before (registered : (before.enter mover phase).phases run = .registered)
    (fresh : phase ≠ .registered) : before.phases run = .registered := by
  by_cases own : run = mover
  · subst own
    simp [World.enter, fresh] at registered
  · simpa [World.enter, own] using registered

theorem World.Attended.start (attended : before.Attended setting) (admitted : before.phases mover = .admitted) :
    World.Attended setting { before.enter mover .holding with
      counters := before.counters.markStarted setting.backend (setting.tenantOf mover) } := by
  intro run registered below
  have known := registered_before registered (by decide)
  have below' : before.active setting run < setting.limit := by
    simp only [World.active, Counters.on_markStarted, true_and] at below ⊢
    split at below
    case isTrue same =>
      rw [same]
      omega
    case isFalse => exact below
  apply (attended run known below').enter
  rw [admitted]
  rfl

theorem World.Attended.register (attended : before.Attended setting) (parked : before.phases mover = .parked)
    (full : setting.limit ≤ before.active setting mover) : (before.enter mover .registered).Attended setting := by
  intro run registered below
  have below' : before.active setting run < setting.limit := below
  by_cases own : run = mover
  · subst own
    omega
  · have known : before.phases run = .registered := by simpa [World.enter, own] using registered
    apply (attended run known below').enter
    rw [parked]
    rfl

omit [DecidableEq Run] in
theorem Setting.le_seen {count : Int} (read : setting.backend = .redis → count ≤ earlier) :
    count ≤ setting.seen earlier count := by
  simp only [Setting.seen]
  split
  case h_1 shared => exact read shared
  case h_2 => exact Int.le_refl _

/-- A decrement that brings a full tenant below the limit is a promise. -/
theorem World.lowered_promises (read : setting.backend = .redis → before.active setting mover ≤ earlier)
    (full : setting.limit ≤ before.active setting mover)
    (below : (before.lowered setting mover earlier).active setting mover < setting.limit) :
    ((before.lowered setting mover earlier).phases mover).promises setting.limit = true := by
  simp only [World.lowered, World.enter, Function.update_self]
  split
  case isTrue underflows =>
    have empty := lower_underflows underflows
    apply decide_eq_true
    exact Int.le_trans full empty
  case isFalse =>
    simp only [Phase.promises, Counters.capacityFreed, Bool.and_eq_true, decide_eq_true_eq]
    exact ⟨Int.le_trans full (Setting.le_seen read), below⟩

theorem World.Attended.lower (attended : before.Attended setting)
    (releasing : before.phases mover = .releasing earlier)
    (read : setting.backend = .redis → before.active setting mover ≤ earlier) :
    (before.lowered setting mover earlier).Attended setting := by
  intro run registered below
  have known : before.phases run = .registered := by
    refine registered_before registered ?_
    split <;> simp
  by_cases short : before.active setting run < setting.limit
  · apply (attended run known short).enter
    rw [releasing]
    rfl
  · have same : setting.tenantOf mover = setting.tenantOf run := by
      by_contra apart
      simp only [World.active, World.lowered, lower_other (Ne.symm apart)] at below
      exact short below
    simp only [World.active, ← same] at below short
    exact ⟨mover, World.lowered_promises read (Int.not_lt.mp short) below, same⟩

theorem World.Attended.reset (attended : before.Attended setting)
    (underflowed : before.phases mover = .underflowed earlier)
    (short : before.active setting mover < setting.limit) :
    World.Attended setting { before.enter mover (.released (earlier, 0)) with
      counters := before.counters.resetTenantQuota setting.backend (setting.tenantOf mover) } := by
  intro run registered below
  have known := registered_before registered (by simp)
  simp only [World.active, Counters.resetTenantQuota, Counters.on_write, true_and] at below
  split at below
  case isTrue same =>
    have shortRun : before.active setting run < setting.limit := by
      simpa [World.active, same] using short
    apply (attended run known shortRun).enter
    rw [underflowed]
    exact decide_eq_false (Int.not_le.mpr below)
  case isFalse apart =>
    obtain ⟨releaser, promises, same⟩ := attended run known below
    refine ⟨releaser, ?_, same⟩
    have other : releaser ≠ mover := by
      rintro rfl
      exact apart same.symm
    simpa [World.enter, other] using promises

theorem World.Attended.stepped (steady : Steady setting before action)
    (attended : before.Attended setting) (stepped : Stepped setting before action after) :
    after.Attended setting := by
  cases stepped with
  | moved fresh unpromised =>
    intro run registered below
    have known := registered_before registered fresh
    exact (attended run known below).enter unpromised
  | started admitted => exact attended.start admitted
  | registered parked => exact attended.register parked (of_decide_eq_true steady)
  | @lowered mover earlier releasing =>
    apply attended.lower releasing
    intro shared
    simp only [Steady, CapacityWakes.steady, releasing, shared, decide_eq_true_eq] at steady
    exact steady
  | reset underflowed => exact attended.reset underflowed (of_decide_eq_true steady)
  | published =>
    intro run registered _
    simp only [World.notify, capacityEvent_wakes, and_true] at registered
    split at registered
    · cases registered
    case isFalse absent => exact absurd registered absent

theorem attended_run (met : (callers setting).Meets (Steady setting) World.zero actions)
    (ran : (callers setting).run World.zero actions = some world) : world.Attended setting := by
  refine StepSystem.invariant ?_ met ?_ ran
  · intro before next action steady attended stepped
    exact attended.stepped steady (callers_stepped stepped)
  · intro run registered
    cases registered

theorem Phase.settled_of_promises (promises : phase.promises limit = true) : phase.settled = false := by
  cases phase <;> first | rfl | cases promises

end Runs

/-- Once everybody has come to rest, a run waits for capacity only where there
is none. -/
theorem no_wait_below_limit (actions : List (Action Run))
    (world : World Run) (met : (callers setting).Meets (Steady setting) World.zero actions)
    (ran : (callers setting).run World.zero actions = some world) (quiet : world.Quiescent) :
    ∀ run, world.phases run = .registered → setting.limit ≤ world.active setting run := by
  intro run registered
  by_contra short
  obtain ⟨releaser, promises, _⟩ := attended_run met ran run registered (Int.not_le.mp short)
  have settled := quiet releaser
  rw [Phase.settled_of_promises promises] at settled
  cases settled

def oneTenant {Caller : Type} (limit : Int) (idOf : Caller → String) : Setting Caller where
  limit
  testing := false
  backend := .redis
  idOf
  tenantOf _ := "tenant"
  unitOf := idOf
  traceOf := idOf
  priorityOf _ := .normal

def pairSetting : Setting Bool := oneTenant 1 fun second => if second then "second" else "first"

def waitsWhileFull : List (Action Bool) :=
  [.ask false, .start false, .ask true, .park true, .register true]

theorem no_wait_below_limit_of_full :
    ∃ world, (callers pairSetting).run World.zero waitsWhileFull = some world
      ∧ world.phases true = .registered
      ∧ pairSetting.limit ≤ world.active pairSetting true :=
  ⟨_, rfl, rfl, no_wait_below_limit pairSetting waitsWhileFull _ (by decide) rfl
    (by unfold World.Quiescent; decide) true rfl⟩

/-- The slot is freed, and its event published, while the second caller has
committed its row and not registered its wait. -/
theorem wait_registered_after_wake :
    ∃ world, (callers pairSetting).run World.zero
        [.ask false, .start false, .ask true, .park true, .read false, .lower false,
          .publish false, .register true] = some world
      ∧ world.Quiescent
      ∧ world.phases true = .registered
      ∧ world.active pairSetting true = 0 :=
  ⟨_, rfl, by unfold World.Quiescent; decide, rfl, rfl⟩

end AindyRuntime.CapacityWakes
