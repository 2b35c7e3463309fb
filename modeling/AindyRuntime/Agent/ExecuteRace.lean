import AindyRuntime.Agent.CancelRace

/-! # Entering the execution of an approved run

`execute_run` of `agents/agent_runtime/execution.py`, called any number of times
on one run.
-/

namespace AindyRuntime.Agent

inductive Coordination where
  | executeHere
  | dispatched
  | blocked (error : String)
  | undispatched

def AgentRun.coordinate : Coordination → AgentRun → AgentRun
  | .executeHere, run => { run with status := .executing }
  | .dispatched, run => { run with status := .delegated }
  | .blocked error, run => { run with status := .failed, errorMessage := .str error }
  | .undispatched, run =>
    { run with
      status := .failed
      errorMessage := .str "Delegation dispatch failed before a child run was created." }

def AgentRun.refuseToken (run : AgentRun) : AgentRun :=
  { run with status := .failed, errorMessage := .str "Missing scoped capability token." }

structure ExecuteCall where
  (ownerMatches capabilityToken : Bool)

inductive ExecutePhase where
  | entered
  | untrusted
  | admitted
  | committed
  | done
deriving DecidableEq

structure ExecuteWorld (Party : Type) where
  sessions : Sessions Party AgentRun
  phase : Party → ExecutePhase
  /-- The calls that have gone on to the plan, or have dispatched a child. -/
  started : List Party

inductive ExecuteAction (Party : Type) where
  | query (party : Party)
  | refuse (party : Party)
  /-- `register_or_update_agent` commits, and the run is read again. -/
  | register (party : Party)
  | reload (party : Party)
  | commit (party : Party) (coordination : Coordination)
  | execute (party : Party)
  /-- The call raises, or its process dies. -/
  | fail (party : Party)
  /-- Anyone else writes the status; no one writes `approved` here. -/
  | write (status : AgentStatus)

variable {Party : Type} {world next last : ExecuteWorld Party} {party : Party}

def ExecutePhase.pending (phase : ExecutePhase) : Bool := phase = .admitted || phase = .committed

structure Entered (world : ExecuteWorld Party) : Prop where
  one : ∀ {party other}, (world.phase party).pending = true → (world.phase other).pending = true → party = other
  unstarted : ∀ {party}, (world.phase party).pending = true → world.started = []
  approved : world.sessions.row.status = .approved → world.started = [] ∧ ∀ party, world.phase party ≠ .committed
  loaded : ∀ {party loaded}, world.sessions.object party = some loaded → loaded.status ≠ .approved →
    world.sessions.row.status ≠ .approved
  fresh : ∀ {party}, world.phase party = .entered → world.sessions.object party = none
  single : world.started.length ≤ 1

/-- No one reads another status than `approved` before the row has one. -/
theorem Entered.held (entered : Entered world) (read : (world.sessions.held party).status ≠ .approved) :
    world.sessions.row.status ≠ .approved := by
  rw [Sessions.held] at read
  cases found : world.sessions.object party with
  | none => simpa [found] using read
  | some loaded => exact entered.loaded found (by simpa [found] using read)

variable [DecidableEq Party]

namespace ExecuteWorld

variable (world : ExecuteWorld Party) (party : Party)

def moveTo (phase : ExecutePhase) : ExecuteWorld Party :=
  { world with phase := fun other => if other = party then phase else world.phase other }

def enter (call : ExecuteCall) (party : Party) : ExecuteWorld Party :=
  let queried := { world with sessions := world.sessions.query party }
  if (world.sessions.held party).status ≠ .approved || !call.ownerMatches then queried.moveTo party .done
  else if !call.capabilityToken then queried.moveTo party .untrusted
  else queried.moveTo party .admitted

def commit (assign : AgentRun → AgentRun) : ExecuteWorld Party :=
  { world with sessions := world.sessions.commit AgentRun.writeBack party assign }

def start : ExecuteWorld Party :=
  { world.moveTo party .done with started := party :: world.started }

def coordinate (coordination : Coordination) : ExecuteWorld Party :=
  let written := world.commit party (AgentRun.coordinate coordination)
  match coordination with
  | .executeHere => written.moveTo party .committed
  | .dispatched => written.start party
  | .blocked _ | .undispatched => written.moveTo party .done

end ExecuteWorld

def executeRace (calls : Party → ExecuteCall) : StepSystem (ExecuteWorld Party) (ExecuteAction Party) where
  step world
    | .query party => if world.phase party = .entered then some (world.enter (calls party) party) else none
    | .refuse party =>
      if world.phase party = .untrusted then
        some ((world.commit party AgentRun.refuseToken).moveTo party .done)
      else none
    | .register party =>
      if world.phase party = .admitted then
        some { world with sessions := world.sessions.expire party }
      else none
    | .reload party =>
      if world.phase party = .admitted then
        some { world with sessions := world.sessions.query party }
      else none
    | .commit party coordination =>
      if world.phase party = .admitted then some (world.coordinate party coordination) else none
    | .execute party => if world.phase party = .committed then some (world.start party) else none
    | .fail party => some (world.moveTo party .done)
    | .write status =>
      if status = .approved then none
      else some { world with sessions := { world.sessions with row := { world.sessions.row with status } } }

def ExecuteWorld.approved (row : AgentRun) : ExecuteWorld Party :=
  ⟨⟨{ row with status := .approved }, fun _ => none⟩, fun _ => .entered, []⟩

/-- A call reads `approved` while no other call is between its own read of it and its commit. -/
def Unraced (world : ExecuteWorld Party) : ExecuteAction Party → Prop
  | .query _ => world.sessions.row.status = .approved → ∀ other, world.phase other ≠ .admitted
  | _ => True

theorem Entered.commit_row (entered : Entered world) (assigned : ∀ run, (assign run).status ≠ .approved) :
    (world.commit party assign).sessions.row.status ≠ .approved := by
  simp only [ExecuteWorld.commit, Sessions.commit, AgentRun.writeBack, UnitOfWork.writeBack]
  split
  case isTrue same => exact entered.held (same ▸ assigned _)
  case isFalse => exact assigned _

theorem moveTo_phase :
    (world.moveTo party phase).phase other = if other = party then phase else world.phase other := rfl

theorem moveTo_self : (world.moveTo party phase).phase party = phase := by
  rw [moveTo_phase, if_pos rfl]

theorem phase_of_moveTo
    (there : (world.moveTo party phase).phase other = target) (different : phase ≠ target) :
    world.phase other = target := by
  rw [moveTo_phase] at there
  split at there
  · exact absurd there different
  · exact there

theorem Entered.moveTo (entered : Entered world) (idle : phase.pending = false)
    (left : phase ≠ .entered) : Entered (world.moveTo party phase) := by
  have kept {other : Party} (pending : ((world.moveTo party phase).phase other).pending = true) :
      (world.phase other).pending = true := by
    rw [moveTo_phase] at pending
    split at pending
    · rw [idle] at pending
      cases pending
    · exact pending
  refine ⟨fun first second => entered.one (kept first) (kept second), fun pending => entered.unstarted (kept pending),
    fun status => ⟨(entered.approved status).1, fun other committed => ?_⟩, entered.loaded, fun {other} entering => ?_,
    entered.single⟩
  · refine (entered.approved status).2 other (phase_of_moveTo committed ?_)
    rintro rfl
    cases idle
  · exact entered.fresh (phase_of_moveTo entering left)

theorem Entered.query (entered : Entered world) (left : world.phase party ≠ .entered) :
    Entered { world with sessions := world.sessions.query party } := by
  refine ⟨entered.one, entered.unstarted, entered.approved, fun {other loaded} found status => ?_,
    fun {other} entering => ?_, entered.single⟩
  · simp only [Sessions.query] at found
    split at found
    · cases found
      exact entered.held status
    · exact entered.loaded found status
  · simp only [Sessions.query]
    rw [if_neg (by rintro rfl; exact left entering)]
    exact entered.fresh entering

theorem Entered.expire (entered : Entered world) :
    Entered { world with sessions := world.sessions.expire party } := by
  refine ⟨entered.one, entered.unstarted, entered.approved, fun {other loaded} found status => ?_,
    fun {other} entering => ?_, entered.single⟩
  · simp only [Sessions.expire] at found
    split at found
    · cases found
    · exact entered.loaded found status
  · simp only [Sessions.expire]
    split
    · rfl
    · exact entered.fresh entering

theorem Entered.commit (entered : Entered world)
    (assigned : ∀ run, (assign run).status ≠ .approved) : Entered (world.commit party assign) where
  one := entered.one
  unstarted := entered.unstarted
  approved status := absurd status (entered.commit_row assigned)
  loaded _ _ := entered.commit_row assigned
  fresh := entered.expire.fresh
  single := entered.single

theorem coordinate_status (coordination : Coordination) (run : AgentRun) :
    (run.coordinate coordination).status ≠ .approved := by
  cases coordination <;> simp [AgentRun.coordinate]

section

variable (entered : Entered world)
include entered

section

variable (pending : (world.phase party).pending = true) (row : world.sessions.row.status ≠ .approved)
include pending row

theorem Entered.start : Entered (world.start party) := by
  have idle : Entered (world.moveTo party .done) := entered.moveTo rfl (by simp)
  have alone {other : Party} (also : ((world.moveTo party .done).phase other).pending = true) : False := by
    rw [moveTo_phase] at also
    split at also
    · cases also
    case isFalse different => exact different (entered.one also pending)
  refine ⟨idle.one, fun also => (alone also).elim, fun status => absurd status row, entered.loaded, idle.fresh, ?_⟩
  simp [ExecuteWorld.start, entered.unstarted pending]

theorem Entered.proceed : Entered (world.moveTo party .committed) := by
  have kept {other : Party} (also : ((world.moveTo party .committed).phase other).pending = true) :
      (world.phase other).pending = true := by
    rw [moveTo_phase] at also
    split at also
    case isTrue same => rwa [same]
    case isFalse => exact also
  refine ⟨fun first second => entered.one (kept first) (kept second), fun also => entered.unstarted (kept also),
    fun status => absurd status row, entered.loaded, fun {other} entering => ?_, entered.single⟩
  exact entered.fresh (phase_of_moveTo entering (by simp))

end

theorem Entered.pass (alone : ∀ other, world.phase other ≠ .admitted)
    (status : world.sessions.row.status = .approved) : Entered (world.moveTo party .admitted) := by
  obtain ⟨unstarted, uncommitted⟩ := entered.approved status
  have only {other : Party} (pending : ((world.moveTo party .admitted).phase other).pending = true) :
      other = party := by
    rw [moveTo_phase] at pending
    split at pending
    case isTrue same => exact same
    case isFalse =>
      simp only [ExecutePhase.pending, Bool.or_eq_true, decide_eq_true_eq] at pending
      rcases pending with admitted | committed
      · exact absurd admitted (alone other)
      · exact absurd committed (uncommitted other)
  refine ⟨fun first second => (only first).trans (only second).symm, fun _ => unstarted,
    fun _ => ⟨unstarted, fun other committed => ?_⟩, entered.loaded, fun {other} entering => ?_, entered.single⟩
  · exact uncommitted other (phase_of_moveTo committed (by simp))
  · exact entered.fresh (phase_of_moveTo entering (by simp))

theorem Entered.enter (call : ExecuteCall)
    (unraced : world.sessions.row.status = .approved → ∀ other, world.phase other ≠ .admitted)
    (entering : world.phase party = .entered) : Entered (world.enter call party) := by
  have queried {phase : ExecutePhase} (moved : Entered (world.moveTo party phase)) (left : phase ≠ .entered) :
      Entered ({ world with sessions := world.sessions.query party }.moveTo party phase) :=
    moved.query (by rwa [moveTo_self])
  simp only [ExecuteWorld.enter]
  split
  · exact queried (entered.moveTo rfl (by simp)) (by simp)
  case isFalse passed =>
    split
    · exact queried (entered.moveTo rfl (by simp)) (by simp)
    · simp only [Sessions.held, entered.fresh entering, Bool.or_eq_true, not_or,
        decide_eq_true_eq, not_not] at passed
      exact queried (entered.pass (unraced passed.1) passed.1) (by simp)

theorem Entered.coordinate (admitted : world.phase party = .admitted)
    (coordination : Coordination) : Entered (world.coordinate party coordination) := by
  have written : Entered (world.commit party (AgentRun.coordinate coordination)) :=
    entered.commit (coordinate_status coordination)
  have row : (world.commit party (AgentRun.coordinate coordination)).sessions.row.status ≠ .approved :=
    entered.commit_row (coordinate_status coordination)
  have pending : ((world.commit party (AgentRun.coordinate coordination)).phase party).pending = true := by
    simp [ExecuteWorld.commit, admitted, ExecutePhase.pending]
  cases coordination with
  | executeHere => exact written.proceed pending row
  | dispatched => exact written.start pending row
  | blocked error | undispatched => exact written.moveTo rfl (by simp)

end

theorem step_entered (unraced : Unraced world action) (entered : Entered world)
    (stepped : (executeRace calls).step world action = some next) : Entered next := by
  cases action <;> simp only [executeRace, Option.ite_none_right_eq_some] at stepped
  case query party =>
    obtain ⟨entering, same⟩ := stepped
    cases same
    exact entered.enter (calls party) unraced entering
  case refuse =>
    obtain ⟨-, same⟩ := stepped
    cases same
    exact (entered.commit (by simp [AgentRun.refuseToken])).moveTo rfl (by simp)
  case register =>
    obtain ⟨-, same⟩ := stepped
    cases same
    exact entered.expire
  case reload =>
    obtain ⟨admitted, same⟩ := stepped
    cases same
    exact entered.query (by simp [admitted])
  case commit coordination =>
    obtain ⟨admitted, same⟩ := stepped
    cases same
    exact entered.coordinate admitted coordination
  case execute party =>
    obtain ⟨committed, same⟩ := stepped
    cases same
    refine entered.start (by simp [committed, ExecutePhase.pending]) fun status => ?_
    exact (entered.approved status).2 party committed
  case fail =>
    cases stepped
    exact entered.moveTo rfl (by simp)
  case write status =>
    simp only [Option.ite_none_left_eq_some] at stepped
    obtain ⟨other, same⟩ := stepped
    cases same
    exact ⟨entered.one, entered.unstarted, fun status => absurd status other, fun _ _ => other, entered.fresh,
      entered.single⟩

/-- An approved run is entered once in every run whose reads are all `Unraced`. -/
theorem approved_run_executed_once (calls : Party → ExecuteCall) (row : AgentRun)
    {actions : List (ExecuteAction Party)} (unraced : (executeRace calls).Meets Unraced (.approved row) actions)
    (ran : (executeRace calls).run (.approved row) actions = some last) : last.started.length ≤ 1 := by
  have initial : Entered (ExecuteWorld.approved row : ExecuteWorld Party) := by
    refine ⟨fun pending => ?_, fun _ => rfl, fun _ => ⟨rfl, ?_⟩, fun found => ?_, fun _ => rfl, Nat.zero_le _⟩
    · cases pending
    · simp [ExecuteWorld.approved]
    · cases found
  exact (StepSystem.invariant step_entered unraced initial ran).single

def ownCall : ExecuteCall := ⟨true, true⟩

/-- Two calls read `approved` before either of them commits. -/
theorem approved_run_executed_twice :
    ∃ last, (executeRace fun _ : Bool => ownCall).run (.approved executingRow)
        [.query true, .query false, .commit true .executeHere, .commit false .executeHere,
          .execute true, .execute false] = some last ∧
      last.started = [false, true] :=
  ⟨_, rfl, rfl⟩

/-- The second call comes after the commit of the first. -/
theorem approved_run_executed_once_in_turn :
    ∃ last, (executeRace fun _ : Bool => ownCall).run (.approved executingRow)
        [.query true, .register true, .commit true .executeHere, .query false, .execute true] = some last ∧
      last.started = [true] ∧ last.started.length ≤ 1 := by
  have unraced : (executeRace fun _ : Bool => ownCall).Meets Unraced (.approved executingRow)
      [.query true, .register true, .commit true .executeHere, .query false, .execute true] := by
    refine .cons ?_ rfl (.cons trivial rfl (.cons trivial rfl (.cons ?_ rfl (.cons trivial rfl trivial))))
    · simp [Unraced, ExecuteWorld.approved]
    · intro status
      cases status
  refine ⟨_, rfl, rfl, ?_⟩
  exact approved_run_executed_once (fun _ => ownCall) executingRow unraced rfl

end AindyRuntime.Agent
