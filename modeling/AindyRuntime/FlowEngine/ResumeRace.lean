import AindyRuntime.FlowEngine.Quarantine
import AindyRuntime.Lib.Claims

/-! # Racing to resume a parked run

Any number of scheduler callbacks and direct calls of `resume` work on one
parked run, on any number of instances.
-/

namespace AindyRuntime.FlowEngine.ResumeRace

structure Caller where
  path : Path
  conflicts : Bool
deriving DecidableEq, Repr

inductive Phase where
  | entered
  | claimed
  | loaded (status : RunStatus)
  | driving
  | parked
  | done
deriving DecidableEq, Repr

structure World (Party : Type) where
  row : RunStatus
  parkings : Nat
  phase : Party → Phase
  /-- The claims that found the row, and the nodes executed, with the number of
  parkings before each; latest first. -/
  claims : List (Nat × Party)
  executed : List (Nat × Party)

variable {Party : Type} {world next : World Party}

def World.asClaims (world : World Party) : Claims Party where
  free := decide (world.row = .waiting)
  round := world.parkings
  won := world.claims

def Follows (world next : World Party) : Prop :=
  Claims.Follows Claims.Closing world.asClaims next.asClaims

theorem Follows.moved (row : next.row ≠ .waiting) (parkings : next.parkings = world.parkings)
    (claims : next.claims = world.claims) : Follows world next := by
  refine .inr ⟨.move false, rfl, ?_⟩
  simp [Claims.system, World.asClaims, row, parkings, claims]

inductive Action (Party : Type) where
  | claim (party : Party) (commits : Bool)
  | load (party : Party)
  | enter (party : Party) (commits : Bool)
  | execute (party : Party)
  | write (party : Party) (status : RunStatus)
  | stop (party : Party)

variable [DecidableEq Party]

inductive Entrance where
  | quarantined
  | unclaimed
  | claims

def entrance (conflicts : Bool) (loaded : RunStatus) : Entrance :=
  if conflicts then .quarantined
  else if loaded ≠ .waiting then .unclaimed
  else .claims

namespace World

variable (world : World Party)

def moveTo (party : Party) (phase : Phase) : World Party :=
  { world with phase := fun other => if other = party then phase else world.phase other }

def claim (party : Party) (commits : Bool) (winner : Phase) : World Party :=
  if commits && decide (world.row = .waiting) then
    { world.moveTo party winner with
      row := .executing
      claims := (world.parkings, party) :: world.claims }
  else world.moveTo party .done

def deadLetter : World Party :=
  if world.row = .waiting then { world with row := .deadLetter } else world

end World

def race (callers : Party → Caller) : StepSystem (World Party) (Action Party) where
  step world
    | .claim party commits =>
      if world.phase party = .entered ∧ (callers party).path = .callback then
        some (world.claim party commits .claimed)
      else none
    | .load party =>
      if world.phase party = .claimed ∨
          (world.phase party = .entered ∧ (callers party).path = .direct) then
        some (world.moveTo party (.loaded world.row))
      else none
    | .enter party commits =>
      match world.phase party with
      | .loaded status =>
        match entrance (callers party).conflicts status with
        | .quarantined => some (world.deadLetter.moveTo party .done)
        | .unclaimed => some (world.moveTo party .driving)
        | .claims => some (world.claim party commits .driving)
      | _ => none
    | .execute party =>
      if world.phase party = .driving then
        some { world with executed := (world.parkings, party) :: world.executed }
      else none
    | .write party status =>
      match world.phase party, status with
      | .driving, .waiting =>
        some { world.moveTo party .parked with row := .waiting, parkings := world.parkings + 1 }
      | .driving, status => some { world with row := status }
      | .parked, .failed => some { world with row := .failed }
      | _, _ => none
    | .stop party => some (world.moveTo party .done)

def World.parkedRun : World Party where
  row := .waiting
  parkings := 0
  phase _ := .entered
  claims := []
  executed := []

def claimOn (row : RunStatus) (commits : Bool) : Claim :=
  if !commits then .commitFailed else if row = .waiting then .won else .lost

def Entrance.opens (row : RunStatus) (commits : Bool) : Entrance → Prop
  | .quarantined => False
  | .unclaimed => True
  | .claims => commits = true ∧ row = .waiting

theorem enterResume_yields (found : calls.runFound = true) (claimed : calls.claim = claimOn row commits) :
    (enterResume signature calls).Yields engine
      (fun reached _ => (∃ node, reached = .inr node) ↔
        (entrance (signaturesConflict engine.run.graphSignature (some signature))
          engine.run.status).opens row commits)
      (fun _ _ => signaturesConflict engine.run.graphSignature (some signature) = true) := by
  by_cases conflict : signaturesConflict engine.run.graphSignature (some signature) = true
  · simp [enterResume, conflict, entrance, Entrance.opens, moveToDeadLetter]
  · by_cases waiting : engine.run.status = .waiting
    · cases commits <;> by_cases free : row = .waiting <;>
        simp [enterResume, found, conflict, entrance, Entrance.opens, claimWaitingRun, waiting,
          claimed, claimOn, free, loadState]
    · simp [enterResume, found, conflict, entrance, Entrance.opens, claimWaitingRun, waiting, loadState]

/-! Every step of the race is one of a closing claim, or changes nothing a
claim can see. -/

theorem follows_claim : Follows world (world.claim party commits winner) := by
  simp only [World.claim]
  split
  case isTrue won =>
    have free : world.row = .waiting := by
      simp only [Bool.and_eq_true, decide_eq_true_eq] at won
      exact won.2
    refine .inr ⟨.claim party true, rfl, ?_⟩
    simp [Claims.system, World.asClaims, World.moveTo, free]
  · exact .inl rfl

theorem follows_deadLetter : Follows world (world.deadLetter.moveTo party .done) := by
  simp only [World.deadLetter]
  split
  · exact .moved (by simp [World.moveTo]) rfl rfl
  · exact .inl rfl

theorem step_follows (stepped : (race callers).step world action = some next) : Follows world next := by
  cases action <;> simp only [race] at stepped
  case claim =>
    split at stepped <;> cases stepped
    · exact follows_claim
  case load party | execute party =>
    split at stepped <;> cases stepped
    · exact .inl rfl
  case enter =>
    split at stepped
    · split at stepped <;> cases stepped
      · exact follows_deadLetter
      · exact .inl rfl
      · exact follows_claim
    · cases stepped
  case write =>
    split at stepped <;> cases stepped
    · exact .inr ⟨.offer, trivial, rfl⟩
    case h_2 other => exact .moved other rfl rfl
    · exact .moved (by simp) rfl rfl
  case stop =>
    cases stepped
    exact .inl rfl

def Phase.holds : Phase → Bool
  | .claimed | .driving => true
  | .loaded status => status ≠ .waiting
  | _ => false

structure Guarded (world : World Party) : Prop where
  closed : world.asClaims.Closed
  holders : ∀ {party}, (world.phase party).holds = true → (world.parkings, party) ∈ world.claims
  executed : ∀ {entry}, entry ∈ world.executed → entry ∈ world.claims

theorem Guarded.moveTo (guarded : Guarded world)
    (kept : phase.holds = true → (world.parkings, party) ∈ world.claims) : Guarded (world.moveTo party phase) := by
  refine ⟨guarded.closed, fun {other} holds => ?_, guarded.executed⟩
  by_cases same : other = party
  · subst same
    exact kept (by simpa [World.moveTo] using holds)
  · exact guarded.holders (by simpa [World.moveTo, same] using holds)

theorem Guarded.claim (guarded : Guarded world) : Guarded (world.claim party commits winner) := by
  have closed : (world.claim party commits winner).asClaims.Closed :=
    Claims.Follows.closed follows_claim guarded.closed
  simp only [World.claim] at closed ⊢
  split
  case isTrue won =>
    rw [if_pos won] at closed
    refine ⟨closed, fun {other} holds => ?_, fun member => List.mem_cons_of_mem _ (guarded.executed member)⟩
    by_cases same : other = party
    · subst same
      exact List.mem_cons_self
    · exact List.mem_cons_of_mem _ (guarded.holders (by simpa [World.moveTo, same] using holds))
  · exact guarded.moveTo (by simp [Phase.holds])

def ReadsWaiting (callers : Party → Caller) (world : World Party) : Action Party → Prop
  | .load party => (callers party).path = .direct → world.row = .waiting
  | _ => True

theorem step_guarded (reads : ReadsWaiting callers world action) (guarded : Guarded world)
    (stepped : (race callers).step world action = some next) : Guarded next := by
  have closed := Claims.Follows.closed (step_follows stepped) guarded.closed
  cases action <;> simp only [race] at stepped
  case claim =>
    split at stepped <;> cases stepped
    · exact guarded.claim
  case load =>
    split at stepped <;> cases stepped
    case isTrue ready =>
      apply guarded.moveTo
      intro holds
      rcases ready with claimed | ⟨_, direct⟩
      · exact guarded.holders (by simp [claimed, Phase.holds])
      · simp [Phase.holds, reads direct] at holds
  case enter party commits =>
    split at stepped
    case h_1 status loaded =>
      split at stepped <;> cases stepped
      · have stopped : Guarded (world.moveTo party .done) := guarded.moveTo (by simp [Phase.holds])
        simp only [World.deadLetter] at closed ⊢
        split
        case isTrue waiting =>
          rw [if_pos waiting] at closed
          exact ⟨closed, stopped.holders, stopped.executed⟩
        · exact stopped
      case h_2 passed =>
        refine guarded.moveTo fun _ => guarded.holders ?_
        have other : status ≠ .waiting := by
          simp only [entrance] at passed
          split at passed
          · cases passed
          · split at passed
            · assumption
            · cases passed
        simp [loaded, Phase.holds, other]
      · exact guarded.claim
    · cases stepped
  case execute =>
    split at stepped <;> cases stepped
    case isTrue driving =>
      refine ⟨closed, guarded.holders, fun member => ?_⟩
      rcases List.mem_cons.mp member with rfl | earlier
      · exact guarded.holders (by simp [driving, Phase.holds])
      · exact guarded.executed earlier
  case write party status =>
    split at stepped <;> cases stepped
    case h_1 driving =>
      have own : (world.parkings, party) ∈ world.claims :=
        guarded.holders (by simp [driving, Phase.holds])
      refine ⟨closed, fun {other} holds => ?_, guarded.executed⟩
      by_cases same : other = party
      · simp [World.moveTo, same, Phase.holds] at holds
      · have others : (world.parkings, other) ∈ world.claims :=
          guarded.holders (by simpa [World.moveTo, same] using holds)
        exact absurd (guarded.closed.exclusive.unique others own) same
    · exact ⟨closed, guarded.holders, guarded.executed⟩
    · exact ⟨closed, guarded.holders, guarded.executed⟩
  case stop =>
    cases stepped
    exact guarded.moveTo (by simp [Phase.holds])

def ExecutedByOne (world : World Party) : Prop :=
  ∀ parkings one other, (parkings, one) ∈ world.executed → (parkings, other) ∈ world.executed →
    one = other

/-- A parked run is resumed by one caller at a time, whatever the interleaving,
if every direct call reads the row while it is waiting. -/
theorem resume_exclusive {final : World Party} {actions : List (Action Party)}
    (met : (race callers).Meets (ReadsWaiting callers) World.parkedRun actions)
    (ran : (race callers).run World.parkedRun actions = some final) : ExecutedByOne final := by
  have start : Guarded (World.parkedRun : World Party) :=
    ⟨.of_empty rfl, by simp [World.parkedRun, Phase.holds], by simp [World.parkedRun]⟩
  have guarded : Guarded final := StepSystem.invariant step_guarded met start ran
  intro parkings one other first second
  exact guarded.closed.exclusive.unique (guarded.executed first) (guarded.executed second)

def oneCallback (party : Nat) : Caller := ⟨if party = 0 then .callback else .direct, false⟩

/-- The direct call has read the row first, and loses its claim. -/
theorem resume_exclusive_of_early_read :
    ∃ final, (race oneCallback).run World.parkedRun
        [.load 1, .claim 0 true, .load 0, .enter 0 true, .enter 1 true, .execute 0, .write 0 .waiting]
          = some final ∧
      final.executed = [(0, 0)] ∧ ExecutedByOne final := by
  refine ⟨_, rfl, rfl, @resume_exclusive _ _ oneCallback _
    [.load 1, .claim 0 true, .load 0, .enter 0 true, .enter 1 true, .execute 0, .write 0 .waiting] ?_ rfl⟩
  refine .cons (fun _ => rfl) rfl (.cons trivial rfl (.cons (fun direct => ?_) rfl ?_))
  · cases direct
  · exact .cons trivial rfl (.cons trivial rfl (.cons trivial rfl (.cons trivial rfl trivial)))

/-- The direct call reads the row after the callback's claim, takes it for its
own, and both execute. -/
theorem resume_not_exclusive :
    ∃ final, (race oneCallback).run World.parkedRun
        [.claim 0 true, .load 1, .enter 1 true, .load 0, .enter 0 true, .execute 0, .execute 1]
          = some final ∧
      final.parkings = 0 ∧ ¬ExecutedByOne final := by
  refine ⟨_, rfl, rfl, fun byOne => ?_⟩
  have same := byOne 0 0 1 (by decide) (by decide)
  cases same

end AindyRuntime.FlowEngine.ResumeRace
