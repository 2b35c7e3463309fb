import AindyRuntime.Lib.StepSystem
import Mathlib.Logic.Function.Basic

/-! # Threads over a shared store

A thread takes atomic steps on a store that it shares with others, and ends in a
value.
-/

inductive Thread (Shared Value : Type) where
  | done (value : Value)
  /-- One step: the store is rewritten, and the thread goes on by what it saw. -/
  | step (write : Shared → Shared) (next : Shared → Thread Shared Value)

namespace Thread

open List Option

variable {Shared Value Other Party Common Own : Type}

def look (next : Shared → Thread Shared Value) : Thread Shared Value := step id next

def change (write : Shared → Shared) (next : Thread Shared Value) : Thread Shared Value :=
  step write fun _ => next

def bind : Thread Shared Value → (Value → Thread Shared Other) → Thread Shared Other
  | done value, next => next value
  | step write rest, next => step write fun shared => (rest shared).bind next

def solo : Thread Shared Value → Shared → Value × Shared
  | done value, shared => (value, shared)
  | step write next, shared => (next shared).solo (write shared)

variable (threads : Party → Thread Shared Value)

def solos : List Party → Shared → List Value × Shared
  | [], shared => ([], shared)
  | party :: rest, shared =>
    let ran := (threads party).solo shared
    let others := solos rest ran.2
    (ran.1 :: others.1, others.2)

structure Views (Party Shared Common Own : Type) where
  common : Shared → Common
  own : Party → Shared → Own

namespace Views

variable (views : Views Party Shared Common Own)

def Same (party : Party) (shared shared' : Shared) : Prop :=
  views.common shared = views.common shared' ∧ views.own party shared = views.own party shared'

structure Leaves (party : Party) (write : Shared → Shared) : Prop where
  common : ∀ shared, views.common (write shared) = views.common shared
  others : ∀ other ≠ party, ∀ shared, views.own other (write shared) = views.own other shared

end Views

variable (views : Views Party Shared Common Own) (party : Party) in
/-- Two threads of `party` that go on alike from stores it can not tell apart. -/
inductive Alike :
    Thread Shared Value → Thread Shared Value → Prop where
  | done (value : Value) : Alike (done value) (done value)
  | step {write write' : Shared → Shared} {next next' : Shared → Thread Shared Value}
      (leaves : views.Leaves party write) (leaves' : views.Leaves party write')
      (written : ∀ shared shared', views.Same party shared shared' →
        views.own party (write shared) = views.own party (write' shared'))
      (goesOn : ∀ shared shared', views.Same party shared shared' →
        Alike (next shared) (next' shared')) :
      Alike (step write next) (step write' next')

def Confined (views : Views Party Shared Common Own) (party : Party) (thread : Thread Shared Value) : Prop :=
  thread.Alike views party thread

variable {views : Views Party Shared Common Own} {party other : Party}
variable {thread thread' : Thread Shared Value} {shared : Shared}

theorem Views.Leaves.id : views.Leaves party id := ⟨fun _ => rfl, fun _ _ _ => rfl⟩

theorem Alike.look {next : Shared → Thread Shared Value}
    (goesOn : ∀ shared shared', views.Same party shared shared' →
      (next shared).Alike views party (next' shared')) :
    (Thread.look next).Alike views party (Thread.look next') :=
  .step .id .id (fun _ _ same => same.2) goesOn

section

variable (alike : thread.Alike views party thread')
include alike

theorem Alike.bind {next : Value → Thread Shared Other}
    (goesOn : ∀ value, (next value).Alike views party (next' value)) :
    (thread.bind next).Alike views party (thread'.bind next') := by
  induction alike with
  | done value => exact goesOn value
  | step leaves leaves' written _ ih => exact .step leaves leaves' written ih

theorem Alike.solo_eq (same : views.Same party shared shared') :
    (thread.solo shared).1 = (thread'.solo shared').1 := by
  induction alike generalizing shared shared' with
  | done => rfl
  | step leaves leaves' written _ ih =>
    apply ih _ _ same
    refine ⟨?_, written _ _ same⟩
    rw [leaves.common, leaves'.common]
    exact same.1

theorem Alike.solo_common : views.common (thread.solo shared).2 = views.common shared := by
  induction alike generalizing shared with
  | done => rfl
  | step leaves _ _ _ ih => exact (ih shared shared ⟨rfl, rfl⟩).trans (leaves.common shared)

theorem Alike.solo_same (foreign : other ≠ party) : views.Same other (thread.solo shared).2 shared := by
  refine ⟨alike.solo_common, ?_⟩
  induction alike generalizing shared with
  | done => rfl
  | step leaves _ _ _ ih => exact (ih shared shared ⟨rfl, rfl⟩).trans (leaves.others other foreign shared)

end

theorem Confined.next {next : Shared → Thread Shared Value}
    (confined : (step write next).Confined views party) (shared : Shared) :
    (next shared).Confined views party := by
  cases confined with
  | step _ _ _ goesOn => exact goesOn shared shared ⟨rfl, rfl⟩

theorem Confined.leaves {next : Shared → Thread Shared Value}
    (confined : (step write next).Confined views party) : views.Leaves party write := by
  cases confined with
  | step leaves => exact leaves

section Solos

variable {threads : Party → Thread Shared Value}

theorem solos_common (confined : ∀ party ∈ order, (threads party).Confined views party) :
    views.common (solos threads order shared).2 = views.common shared := by
  induction order generalizing shared with
  | nil => rfl
  | cons first rest ih =>
    have later := @ih ((threads first).solo shared).2
      fun party member => confined party (mem_cons_of_mem _ member)
    exact later.trans (Alike.solo_common (confined first mem_cons_self))

theorem solos_eq (distinct : order.Nodup) (confined : ∀ party ∈ order, (threads party).Confined views party) :
    (solos threads order shared).1 = order.map fun party => ((threads party).solo shared).1 := by
  induction order generalizing shared with
  | nil => rfl
  | cons first rest ih =>
    obtain ⟨fresh, distinctRest⟩ := nodup_cons.mp distinct
    have later := @ih ((threads first).solo shared).2 distinctRest
      fun party member => confined party (mem_cons_of_mem _ member)
    simp only [solos, map_cons, List.cons.injEq, true_and]
    rw [later]
    apply map_congr_left
    intro party member
    have apart : party ≠ first := fun same => fresh (same ▸ member)
    exact (confined party (mem_cons_of_mem _ member)).solo_eq
      (Alike.solo_same (confined first mem_cons_self) apart)

end Solos

inductive Phase (Shared Value : Type) where
  | queued (thread : Thread Shared Value)
  | running (thread : Thread Shared Value)
  | finished (value : Value)

namespace Phase

def isQueued : Phase Shared Value → Bool
  | .queued _ => true
  | _ => false

def isRunning : Phase Shared Value → Bool
  | .running _ => true
  | _ => false

def value? : Phase Shared Value → Option Value
  | .finished value => some value
  | _ => none

def outcome (shared : Shared) : Phase Shared Value → Value
  | .queued thread | .running thread => (thread.solo shared).1
  | .finished value => value

def Confined (views : Views Party Shared Common Own) (party : Party) : Phase Shared Value → Prop
  | .queued thread | .running thread => thread.Confined views party
  | .finished _ => True

theorem Confined.outcome_eq {phase : Phase Shared Value} (confined : phase.Confined views party)
    (same : views.Same party shared shared') : phase.outcome shared = phase.outcome shared' := by
  cases phase with
  | queued thread | running thread => exact Alike.solo_eq confined same
  | finished => rfl

end Phase

structure Pool (Party Shared Value : Type) where
  order : List Party
  shared : Shared
  phases : Party → Phase Shared Value

inductive PoolAction (Party : Type) where
  /-- A free worker takes the thread that was submitted first. -/
  | start
  | turn (party : Party)

namespace Pool

def submit (order : List Party) (shared : Shared) : Pool Party Shared Value :=
  ⟨order, shared, fun party => .queued (threads party)⟩

def results? (pool : Pool Party Shared Value) : Option (List Value) :=
  pool.order.mapM fun party => (pool.phases party).value?

variable [DecidableEq Party]

def set (pool : Pool Party Shared Value) (party : Party) (phase : Phase Shared Value)
    (shared : Shared) : Pool Party Shared Value :=
  ⟨pool.order, shared, Function.update pool.phases party phase⟩

end Pool

variable [DecidableEq Party]

def pool (width : Nat) : StepSystem (Pool Party Shared Value) (PoolAction Party) where
  step pool action :=
    match action with
    | .start =>
      if pool.order.countP (fun party => (pool.phases party).isRunning) < width then
        (pool.order.find? fun party => (pool.phases party).isQueued).map fun party =>
          match pool.phases party with
          | .queued thread => pool.set party (.running thread) pool.shared
          | _ => pool
      else none
    | .turn party =>
      match pool.phases party with
      | .running (.done value) => some (pool.set party (.finished value) pool.shared)
      | .running (.step write next) => some (pool.set party (.running (next pool.shared)) (write pool.shared))
      | _ => none

variable (before : Pool Party Shared Value) in
inductive Stepped : Pool Party Shared Value → Prop where
  | started {party : Party} {thread : Thread Shared Value} (listed : party ∈ before.order)
      (queued : before.phases party = .queued thread) :
      Stepped (before.set party (.running thread) before.shared)
  | ended {party : Party} {value : Value} (running : before.phases party = .running (.done value)) :
      Stepped (before.set party (.finished value) before.shared)
  | wentOn {party : Party} {write : Shared → Shared} {next : Shared → Thread Shared Value}
      (running : before.phases party = .running (.step write next)) :
      Stepped (before.set party (.running (next before.shared)) (write before.shared))

theorem pool_stepped {after : Pool Party Shared Value}
    (stepped : (pool width).step before action = some after) : Stepped before after := by
  cases action with
  | start =>
    obtain ⟨_, found⟩ := ite_none_right_eq_some.mp stepped
    obtain ⟨party, first, taken⟩ := map_eq_some_iff.mp found
    have waits := find?_some first
    cases phase : before.phases party with
    | queued =>
      simp only [phase] at taken
      cases taken
      exact .started (mem_of_find?_eq_some first) phase
    | running thread | finished value => simp [phase, Phase.isQueued] at waits
  | turn =>
    simp only [pool] at stepped
    split at stepped <;> cases stepped
    case h_1 running => exact .ended running
    case h_2 running => exact .wentOn running

/-- What a pool that was submitted with `threads` keeps: every thread is on its
way to the value it ends in alone. -/
structure Destined (views : Views Party Shared Common Own) (threads : Party → Thread Shared Value)
    (order : List Party) (initial : Shared) (pool : Pool Party Shared Value) : Prop where
  submitted : pool.order = order
  listed : ∀ party, (pool.phases party).isRunning = true → party ∈ order
  confined : ∀ party ∈ order, (pool.phases party).Confined views party
  outcome : ∀ party ∈ order,
    (pool.phases party).outcome pool.shared = ((threads party).solo initial).1
  common : views.common pool.shared = views.common initial

section Runs

variable {threads : Party → Thread Shared Value} {order : List Party} {initial : Shared}
variable {after : Pool Party Shared Value}

omit [DecidableEq Party] in
theorem destined_submit (confined : ∀ party ∈ order, (threads party).Confined views party) :
    Destined views threads order initial (Pool.submit threads order initial) where
  submitted := rfl
  listed := by
    intro party running
    cases running
  confined := confined
  outcome := fun _ _ => rfl
  common := rfl

/-- One party moves and leaves what is not its own. -/
theorem Destined.set (destined : Destined views threads order initial before) (member : party ∈ order)
    (confined : phase.Confined views party)
    (same : phase.outcome shared = (before.phases party).outcome before.shared)
    (common : views.common shared = views.common before.shared)
    (others : ∀ other ≠ party, views.own other shared = views.own other before.shared) :
    Destined views threads order initial (before.set party phase shared) where
  submitted := destined.submitted
  listed := by
    intro asked running
    by_cases own : asked = party
    · exact own ▸ member
    · exact destined.listed asked (by simpa [Pool.set, own] using running)
  confined := by
    intro asked listed
    by_cases own : asked = party
    · subst own
      simpa [Pool.set] using confined
    · simpa [Pool.set, own] using destined.confined asked listed
  outcome := by
    intro asked listed
    have ends := destined.outcome asked listed
    by_cases own : asked = party
    · subst own
      simpa [Pool.set, same] using ends
    · have unmoved := (destined.confined asked listed).outcome_eq ⟨common, others asked own⟩
      simpa [Pool.set, own] using unmoved.trans ends
  common := common.trans destined.common

theorem Destined.stepped (destined : Destined views threads order initial before)
    (stepped : Stepped before after) : Destined views threads order initial after := by
  cases stepped with
  | @started party thread listed queued =>
    have member : party ∈ order := destined.submitted ▸ listed
    have confined := destined.confined party member
    rw [queued] at confined
    exact destined.set member confined (by rw [queued]; rfl) rfl fun _ _ => rfl
  | @ended party value running =>
    have member := destined.listed party (by rw [running]; rfl)
    exact destined.set member trivial (by rw [running]; rfl) rfl fun _ _ => rfl
  | @wentOn party write next running =>
    have member := destined.listed party (by rw [running]; rfl)
    have confined := destined.confined party member
    rw [running] at confined
    have leaves := Thread.Confined.leaves confined
    exact destined.set member (Thread.Confined.next confined before.shared)
      (by rw [running]; rfl) (leaves.common _) fun other apart => leaves.others other apart _

theorem Destined.run (confined : ∀ party ∈ order, (threads party).Confined views party)
    (ran : (pool width).run (Pool.submit threads order initial) actions = some after) :
    Destined views threads order initial after :=
  StepSystem.invariant_run (fun destined stepped => destined.stepped (pool_stepped stepped))
    (destined_submit confined) ran

omit [DecidableEq Party] in
theorem Destined.value {value : Value} (destined : Destined views threads order initial after)
    (member : party ∈ order) (finished : (after.phases party).value? = some value) :
    value = ((threads party).solo initial).1 := by
  have outcome := destined.outcome party member
  cases phase : after.phases party with
  | queued thread | running thread => simp [phase, Phase.value?] at finished
  | finished =>
    rw [phase] at outcome finished
    cases finished
    exact outcome

omit [DecidableEq Party] in
theorem Pool.collected {expected : Party → Value} {phases : Party → Phase Shared Value}
    {parties : List Party} {results : List Value}
    (each : ∀ party ∈ parties, ∀ value, (phases party).value? = some value → value = expected party)
    (collected : (parties.mapM fun party => (phases party).value?) = some results) :
    results = parties.map expected := by
  induction parties generalizing results with
  | nil =>
    cases collected
    rfl
  | cons party rest ih =>
    simp only [mapM_cons, bind_eq_bind, bind_eq_some_iff, Option.pure_def,
      Option.some.injEq] at collected
    obtain ⟨value, finished, _, collectedRest, rfl⟩ := collected
    have first := each party mem_cons_self value finished
    have later := ih (fun other member => each other (mem_cons_of_mem _ member)) collectedRest
    rw [map_cons, first, later]

omit [DecidableEq Party] in
/-- A pool that has ended holds what its threads end in alone. -/
theorem Destined.results {results : List Value}
    (destined : Destined views threads order initial after) (ended : after.results? = some results) :
    results = order.map fun party => ((threads party).solo initial).1 := by
  rw [Pool.results?, destined.submitted] at ended
  exact Pool.collected (fun _ member _ finished => destined.value member finished) ended

omit [DecidableEq Party] in
theorem Pool.unfinished {phases : Party → Phase Shared Value} {parties : List Party}
    (missing : (parties.mapM fun party => (phases party).value?) = none) :
    ∃ party ∈ parties, (phases party).value? = none := by
  induction parties with
  | nil => cases missing
  | cons party rest ih =>
    cases finished : (phases party).value? with
    | none => exact ⟨party, mem_cons_self, finished⟩
    | some value =>
      cases later : rest.mapM fun party => (phases party).value? with
      | none =>
        obtain ⟨other, member, missing⟩ := ih later
        exact ⟨other, mem_cons_of_mem _ member, missing⟩
      | some => simp [finished, later] at missing

/-- A pool with a worker goes on until every thread has ended. -/
theorem Pool.goes_on {now : Pool Party Shared Value} (wide : 0 < width)
    (unfinished : now.results? = none) : ∃ action next, (Thread.pool width).step now action = some next := by
  obtain ⟨party, listed, missing⟩ := Pool.unfinished unfinished
  by_cases busy : ∃ other ∈ now.order, (now.phases other).isRunning = true
  · obtain ⟨other, _, running⟩ := busy
    cases phase : now.phases other with
    | queued thread | finished value => simp [phase, Phase.isRunning] at running
    | running thread =>
      refine ⟨.turn other, ?_⟩
      simp only [pool, phase]
      cases thread with
      | done value | step write next => exact ⟨_, rfl⟩
  · have idle : now.order.countP (fun other => (now.phases other).isRunning) = 0 := by
      rw [countP_eq_zero]
      exact fun other member running => busy ⟨other, member, running⟩
    have queued : (now.phases party).isQueued = true := by
      cases phase : now.phases party with
      | queued => rfl
      | running => exact absurd ⟨party, listed, by rw [phase]; rfl⟩ busy
      | finished value => simp [phase, Phase.value?] at missing
    have waits : (now.order.find? fun other => (now.phases other).isQueued).isSome = true :=
      find?_isSome.mpr ⟨party, listed, queued⟩
    obtain ⟨_, found⟩ := isSome_iff_exists.mp waits
    refine ⟨.start, ?_⟩
    simp only [pool, idle, wide, found, map_some]
    exact ⟨_, rfl⟩

end Runs

end Thread
