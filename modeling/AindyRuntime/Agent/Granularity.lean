import AindyRuntime.Agent.Recovery

namespace AindyRuntime.Agent

open Program List Option

/-- How the tools answer and which awaited events arrive, by the number of waits
the run has been parked on before. -/
structure Outcomes where
  tool : Nat → Nat → Nat → ToolReturn
  delivered : Nat → Bool

def callOnce (chain : Chain) (outcomes : Outcomes) (world : World) (drive : Drive) : World :=
  ((executeAgentSegmentChain chain drive ⟨.finishing (outcomes.tool world.parks.length), false⟩).run world).2

def resumed (outcomes : Outcomes) (world : World) : Option (World × Drive) :=
  match world.registered with
  | none => none
  | some registration =>
    if outcomes.delivered world.parks.length then
      (World.claim { world with registered := none } .waiting).map fun claimed =>
        (claimed, registration.resume)
    else none

def runPlan (chain : Chain) (outcomes : Outcomes) : Nat → World → Drive → Option World
  | 0, _, _ => none
  | fuel + 1, world, drive =>
    let after := callOnce chain outcomes world drive
    match resumed outcomes after with
    | some (claimed, next) => runPlan chain outcomes fuel claimed next
    | none => some after

structure Observation where
  calls : List ToolCall
  parks : List Wait
  status : Option AgentStatus

def World.observation (world : World) : Observation :=
  ⟨world.worker.calls, world.parks, world.run.map AgentRun.status⟩

def Observes (chain : Chain) (plan : Json) (outcomes : Outcomes) (seen : Observation) : Prop :=
  ∃ fuel after, runPlan chain outcomes fuel (.started plan) ⟨0, [], false⟩ = some after ∧
    after.observation = seen

variable {chain : Chain} {world after : World} {drive : Drive}

theorem runPlan_mono (enough : fuel ≤ more) (ran : runPlan chain outcomes fuel world drive = some after) :
    runPlan chain outcomes more world drive = some after := by
  induction fuel generalizing more world drive with
  | zero => cases ran
  | succ fuel ih =>
    obtain ⟨rest, rfl⟩ : ∃ rest, more = rest + 1 := ⟨more - 1, by omega⟩
    simp only [runPlan] at ran ⊢
    cases next : resumed outcomes (callOnce chain outcomes world drive) with
    | none => simpa [next] using ran
    | some =>
      simp only [next] at ran ⊢
      exact ih (Nat.le_of_succ_le_succ enough) ran

theorem runPlan_unique (first : runPlan chain outcomes one world drive = some after)
    (second : runPlan chain outcomes two world drive = some other) : after = other := by
  have left := runPlan_mono (Nat.le_max_left one two) first
  have right := runPlan_mono (Nat.le_max_right one two) second
  rw [left] at right
  exact Option.some.inj right

def ToolReturn.succeeding : ToolReturn := ⟨true, .null, .null, false, none, true⟩

def Outcomes.quiet : Outcomes where
  tool _ _ _ := .succeeding
  delivered _ := true

theorem attemptStep_quiet {attempt : Nat} :
    attemptStep false step (fun _ => .succeeding) retries attempt worker
      = (.done (returnedEntry step .succeeding), worker.call step .succeeding) := by
  cases retries <;> rfl

theorem runSteps_quiet :
    ∃ after, runSteps false (fun _ _ => .succeeding) steps worker
        = ((steps.map (returnedEntry · .succeeding), none), after) ∧
      after.calls.length = worker.calls.length + steps.length := by
  induction steps generalizing worker with
  | nil => exact ⟨worker, rfl, rfl⟩
  | cons step rest ih =>
    obtain ⟨after, ran, counted⟩ := @ih (worker.call step .succeeding)
    refine ⟨after, ?_, ?_⟩
    · simp [runSteps, attemptStep_quiet, ran]
    · simp only [counted, Worker.call, length_append, length_cons, length_nil]
      omega

def reachedSteps : List Segment → Nat
  | [] => 0
  | segment :: rest => segment.toolSteps.length + if segment.wait.isSome then reachedSteps rest else 0

variable {segment : Segment}

theorem runSegment_quiet (compiles : compileSteps segment.baseIndex segment.toolSteps = .ok compiled) :
    (runSegment segment false (.finishing fun _ _ => .succeeding)).Yields world
      (fun ran after => ran.failed = false ∧ ran.gate = none ∧ after.run = world.run ∧
        after.registered = world.registered ∧
        after.worker.calls.length = world.worker.calls.length + segment.toolSteps.length)
      (fun _ _ => False) := by
  simp only [runSegment]
  split
  case isTrue empty =>
    rw [List.isEmpty_iff] at empty
    simp [SegmentRun.nothing, empty]
  case isFalse present =>
    have compiled' : compileAgentSegment segment.toolSteps segment.baseIndex = .ok compiled := by
      rw [compileAgentSegment, if_neg present, compiles]
    obtain ⟨_, ran, counted⟩ := @runSteps_quiet compiled world.worker
    simp only [yields_bind, yields_call, compiled', Except.ok.injEq, yields_read, yields_modify,
      SegmentCalls.finishing, runGuest, segmentRun, yields_pure]
    refine ⟨?_, by simp⟩
    intro _ same
    subst same
    simp only [ran]
    refine ⟨?_, trivial, trivial, trivial, ?_⟩
    · simp [returnedEntry, ToolReturn.succeeding]
    · rw [counted, compileSteps_length compiles]

theorem conclusion_parked {run : Option AgentRun} (executing : run.map AgentRun.status = some .executing)
    (ungated : ran.gate = none) (passed : ran.failed = false) (waits : segment.wait = some wait) :
    conclusion chain run segment ran steps = .parked wait := by
  simp [conclusion, executing, ungated, passed, waits]

theorem conclusion_unregistered {run : Option AgentRun}
    (ungated : ran.gate = none) (last : segment.wait = none) :
    (conclusion chain run segment ran steps).registration index ran before = none := by
  simp only [conclusion, ungated, last]
  split
  · rfl
  · split
    · rfl
    · split <;> rfl

structure Advanced (segment : Segment) (drive : Drive) (world after : World) : Prop where
  calls : after.worker.calls.length = world.worker.calls.length + segment.toolSteps.length
  ended : segment.wait = none → after.registered = none
  parked : segment.wait ≠ none → ∃ registration run, after.registered = some registration ∧
    registration.resume.segment = drive.segment + 1 ∧ registration.resume.continuation = false ∧
    after.run = some run ∧ run.status = .waiting

theorem callOnce_quiet {run : AgentRun} (row : world.run = some run)
    (executing : run.status = .executing) (unregistered : world.registered = none)
    (fresh : drive.continuation = false) (found : chain.segments[drive.segment]? = some segment)
    (compiles : ∃ compiled, compileSteps segment.baseIndex segment.toolSteps = .ok compiled) :
    Advanced segment drive world (callOnce chain .quiet world drive) := by
  obtain ⟨_, compiles⟩ := compiles
  have running : world.run.map AgentRun.status ≠ some .cancelled := by simp [row, executing]
  apply Program.Yields.left_state
  simp only [executeAgentSegmentChain, yields_attempt, yields_bind, yields_read, running, if_false,
    found, fresh]
  refine (runSegment_quiet compiles).mono ?_ fun _ _ absurd => absurd.elim
  intro ran last held
  obtain ⟨passed, open', kept, registered, counted⟩ := held
  refine ⟨counted, fun final => ?_, fun waits => ?_⟩
  · simp [World.conclude, conclusion_unregistered open' final, registered, unregistered]
  · obtain ⟨wait, follows⟩ := ne_none_iff_exists'.mp waits
    have status : last.run.map AgentRun.status = some .executing := by
      rw [kept, row, map_some, executing]
    rw [conclusion_parked status open' passed follows]
    refine ⟨⟨wait, ⟨drive.segment + 1, drive.accumulated ++ ran.results, false⟩⟩,
      run.conclude drive.segment ran drive.accumulated (.parked wait), rfl, rfl, rfl, ?_, rfl⟩
    exact World.conclude_run (kept.trans row)

theorem callOnce_past_end (missing : chain.segments[drive.segment]? = none) :
    callOnce chain outcomes world drive = world := by
  have same : (executeAgentSegmentChain chain drive
      ⟨.finishing (outcomes.tool world.parks.length), false⟩).Yields world
        (fun _ after => after = world) (fun _ after => after = world) := by
    simp [executeAgentSegmentChain, missing]
  exact same.left_state

theorem resumed_quiet {run : AgentRun}
    (registered : world.registered = some registration) (row : world.run = some run)
    (waiting : run.status = .waiting) :
    resumed .quiet world = some
      ({ world with
          registered := none
          run := some { run with status := .executing, waitState := none } }, registration.resume) := by
  simp [resumed, registered, Outcomes.quiet, World.claim, row, waiting]

/-- The run comes to rest with the tool calls of the segments the chain gets to. -/
theorem runPlan_quiet {run : AgentRun} (row : world.run = some run)
    (executing : run.status = .executing) (unregistered : world.registered = none)
    (fresh : drive.continuation = false) (ahead : chain.segments.drop drive.segment = rest)
    (compiles : Compiles rest) :
    ∃ fuel after, runPlan chain .quiet fuel world drive = some after ∧
      after.worker.calls.length = world.worker.calls.length + reachedSteps rest := by
  induction rest generalizing world drive run with
  | nil =>
    have missing : chain.segments[drive.segment]? = none :=
      getElem?_eq_none (drop_eq_nil_iff.mp ahead)
    refine ⟨1, world, ?_, rfl⟩
    simp [runPlan, callOnce_past_end missing, resumed, unregistered]
  | cons segment rest ih =>
    have found : chain.segments[drive.segment]? = some segment := by
      have first : (chain.segments.drop drive.segment)[0]? = some segment := by rw [ahead]; rfl
      rwa [getElem?_drop, Nat.add_zero] at first
    have later : chain.segments.drop (drive.segment + 1) = rest := by
      rw [← tail_drop, ahead, tail_cons]
    have advanced := callOnce_quiet row executing unregistered fresh found
      (compiles segment mem_cons_self)
    cases follows : segment.wait with
    | none =>
      refine ⟨1, callOnce chain .quiet world drive, ?_, ?_⟩
      · simp [runPlan, resumed, advanced.ended follows]
      · simp [advanced.calls, reachedSteps, follows]
    | some =>
      obtain ⟨registration, parked, registered, next, unmarked, waitingRow, waiting⟩ :=
        advanced.parked (by simp [follows])
      have claims := resumed_quiet registered waitingRow waiting
      obtain ⟨fuel, after, ran, counted⟩ := @ih
        { callOnce chain .quiet world drive with
          registered := none
          run := some { parked with status := .executing, waitState := none } }
        registration.resume _ rfl rfl rfl unmarked (next ▸ later)
        fun other member => compiles other (mem_cons_of_mem _ member)
      refine ⟨fuel + 1, after, ?_, ?_⟩
      · simp [runPlan, claims, ran]
      · rw [counted, advanced.calls]
        simp only [reachedSteps, follows, isSome_some, if_true]
        omega

theorem reachedSteps_shaped (shaped : Shaped base segments) :
    reachedSteps segments = totalToolSteps segments := by
  induction segments generalizing base with
  | nil => exact shaped.elim
  | cons segment rest ih =>
    cases rest with
    | nil => simp [reachedSteps]
    | cons =>
      have waits : segment.wait.isSome = true := isSome_iff_ne_none.mpr shaped.2.1
      have later := ih shaped.2.2
      rw [reachedSteps, if_pos waits, later]
      rfl

theorem expandToStepSegments_of_single (single : ∀ segment ∈ segments, segment.toolSteps.length ≤ 1) :
    expandToStepSegments segments = segments := by
  induction segments with
  | nil => rfl
  | cons segment rest ih =>
    have first : expandSegment segment = [segment] := if_pos (single segment mem_cons_self)
    have later := ih fun other member => single other (mem_cons_of_mem _ member)
    simp only [expandToStepSegments] at later ⊢
    rw [flatMap_cons, first, later, singleton_append]

theorem reachedSteps_expand_lt (shaped : Shaped base segments)
    (several : ∃ segment ∈ segments, 2 ≤ segment.toolSteps.length) :
    reachedSteps (expandToStepSegments segments) < totalToolSteps segments := by
  induction segments generalizing base with
  | nil => exact shaped.elim
  | cons segment rest ih =>
    have unfolded : expandToStepSegments (segment :: rest)
        = expandSegment segment ++ expandToStepSegments rest := flatMap_cons
    by_cases single : segment.toolSteps.length ≤ 1
    · obtain ⟨wide, member, steps⟩ := several
      have inRest : wide ∈ rest := by
        rcases mem_cons.mp member with rfl | later
        · omega
        · exact later
      cases rest with
      | nil => cases inRest
      | cons =>
        have later := ih shaped.2.2 ⟨wide, inRest, steps⟩
        have waits : segment.wait.isSome = true := isSome_iff_ne_none.mpr shaped.2.1
        rw [unfolded, expandSegment, if_pos single, singleton_append, reachedSteps,
          if_pos waits, totalToolSteps_cons]
        omega
    · obtain ⟨first, second, more, steps⟩ : ∃ first second more,
          segment.toolSteps = first :: second :: more := by
        rcases listed : segment.toolSteps with _ | ⟨first, _ | ⟨second, more⟩⟩
        · simp [listed] at single
        · simp [listed] at single
        · exact ⟨first, second, more, rfl⟩
      rw [unfolded, expandSegment, if_neg single]
      simp only [stepSegments, cons_append, reachedSteps, totalToolSteps_cons, steps,
        length_cons, length_nil, isSome_none, Bool.false_eq_true, if_false]
      omega

theorem compiles_stepSegments (compiles : compileSteps base steps = .ok compiled) :
    Compiles (stepSegments wait base steps) := by
  induction steps generalizing base compiled with
  | nil =>
    intro segment member
    cases member
  | cons step rest ih =>
    simp only [compileSteps] at compiles
    split at compiles
    · cases compiles
    case h_2 first compiledFirst =>
      cases later : compileSteps (base + 1) rest with
      | error => simp [later, Except.map] at compiles
      | ok =>
        have alone : compileSteps base [step] = .ok [first] := by
          simp [compileSteps, compiledFirst, Except.map]
        cases rest with
        | nil =>
          intro segment member
          cases mem_singleton.mp member
          exact ⟨[first], alone⟩
        | cons =>
          intro segment member
          rcases mem_cons.mp member with rfl | inRest
          · exact ⟨[first], alone⟩
          · exact ih later segment inRest

theorem Compiles.expand (compiles : Compiles segments) : Compiles (expandToStepSegments segments) := by
  intro piece member
  obtain ⟨segment, listed, inside⟩ := mem_flatMap.mp member
  obtain ⟨compiled, steps⟩ := compiles segment listed
  simp only [expandSegment] at inside
  split at inside
  · cases mem_singleton.mp inside
    exact ⟨compiled, steps⟩
  · exact compiles_stepSegments steps piece inside

theorem splitAgentPlan_both
    (split : splitAgentPlan false plan = .ok segments) (granular : splitAgentPlan true plan = .ok expanded) :
    Shaped 0 segments ∧ expanded = expandToStepSegments segments := by
  obtain ⟨_, _, listed, found, rfl⟩ := splitAgentPlan_pieces split
  obtain ⟨_, _, listedAgain, foundAgain, rfl⟩ := splitAgentPlan_pieces granular
  cases listed.symm.trans listedAgain
  cases found.symm.trans foundAgain
  exact ⟨splitSteps_shaped found, rfl⟩

def SameMeaning (verifier : Verifier) (plan : Json) (segments expanded : List Segment) : Prop :=
  ∀ outcomes seen, Observes ⟨expanded, verifier⟩ plan outcomes seen ↔
    Observes ⟨segments, verifier⟩ plan outcomes seen

theorem observes_quiet {segments : List Segment} (compiles : Compiles segments) :
    ∃ fuel after, runPlan ⟨segments, verifier⟩ .quiet fuel (.started plan) ⟨0, [], false⟩ = some after ∧
      after.worker.calls.length = reachedSteps segments := by
  obtain ⟨fuel, after, ran, counted⟩ :=
    @runPlan_quiet ⟨segments, verifier⟩ (.started plan) ⟨0, [], false⟩ segments _ rfl rfl rfl rfl rfl compiles
  exact ⟨fuel, after, ran, counted.trans (Nat.zero_add _)⟩

/-- One segment for each step keeps the meaning of a plan exactly if no segment
of the plan has two tool steps, and then it changes nothing. -/
theorem step_granularity_preserves_iff {verifier : Verifier} {plan : Json}
    {segments expanded : List Segment} (split : splitAgentPlan false plan = .ok segments)
    (granular : splitAgentPlan true plan = .ok expanded) (compiles : Compiles segments) :
    SameMeaning verifier plan segments expanded ↔
      ∀ segment ∈ segments, segment.toolSteps.length ≤ 1 := by
  obtain ⟨shaped, rfl⟩ := splitAgentPlan_both split granular
  constructor
  · intro same segment member
    by_contra wide
    have less := reachedSteps_expand_lt shaped ⟨segment, member, by omega⟩
    obtain ⟨fuel, after, ran, counted⟩ := @observes_quiet verifier plan segments compiles
    obtain ⟨_, after', ran', counted'⟩ := @observes_quiet verifier plan _ compiles.expand
    obtain ⟨_, other, ranOther, seen⟩ := (same .quiet after.observation).mpr ⟨fuel, after, ran, rfl⟩
    have equal : after' = other := runPlan_unique ran' ranOther
    have calls : after'.worker.calls = after.worker.calls := by
      rw [equal]
      exact congrArg Observation.calls seen
    rw [calls, counted, reachedSteps_shaped shaped] at counted'
    omega
  · intro single outcomes seen
    rw [expandToStepSegments_of_single single]

theorem step_granularity_preserves_single_steps :
    ∃ segments expanded, splitAgentPlan false (planOf [toolStep "a", waitStep "go", toolStep "b"]) = .ok segments ∧
      splitAgentPlan true (planOf [toolStep "a", waitStep "go", toolStep "b"]) = .ok expanded ∧
      SameMeaning passing (planOf [toolStep "a", waitStep "go", toolStep "b"]) segments expanded := by
  refine ⟨_, _, rfl, rfl, (@step_granularity_preserves_iff passing
    (planOf [toolStep "a", waitStep "go", toolStep "b"]) _ _ rfl rfl ?_).mpr ?_⟩
  · intro segment member
    rcases mem_cons.mp member with rfl | later
    · exact ⟨_, rfl⟩
    · cases mem_singleton.mp later
      exact ⟨_, rfl⟩
  · decide

/-- Two tool steps in a row: as one segment they complete the run, and as two
the run fails after the first. -/
theorem step_granularity_loses_second_step :
    ∃ segments expanded whole cut,
      splitAgentPlan false (planOf [toolStep "a", toolStep "b"]) = .ok segments ∧
      splitAgentPlan true (planOf [toolStep "a", toolStep "b"]) = .ok expanded ∧
      Observes ⟨segments, passing⟩ (planOf [toolStep "a", toolStep "b"]) .quiet whole ∧
      Observes ⟨expanded, passing⟩ (planOf [toolStep "a", toolStep "b"]) .quiet cut ∧
      whole.calls.map (·.tool) = ["a", "b"] ∧ whole.status = some .completed ∧
      cut.calls.map (·.tool) = ["a"] ∧ cut.status = some .failed := by
  refine ⟨[⟨[toolStep "a", toolStep "b"], 0, none⟩],
    [⟨[toolStep "a"], 0, none⟩, ⟨[toolStep "b"], 1, none⟩], _, _, rfl, rfl, ⟨1, _, rfl, rfl⟩, ⟨1, _, rfl, rfl⟩, ?_⟩
  exact ⟨rfl, rfl, rfl, rfl⟩

end AindyRuntime.Agent
