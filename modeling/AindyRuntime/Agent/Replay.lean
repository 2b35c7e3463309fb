import AindyRuntime.Agent.Gate

namespace AindyRuntime.Agent

open List
open Program (raise read modify attempt)

variable {world after : World} {segment : Segment}
variable {worker : Worker} {step : CompiledStep} {continuation : Bool}

def Worker.callsAt (worker : Worker) (index : Nat) : List ToolCall :=
  worker.calls.filter (·.stepIndex = index)

structure Untouched (index : Nat) (worker later : Worker) : Prop where
  row : later.rows.get? index = worker.rows.get? index
  calls : later.callsAt index = worker.callsAt index

theorem Untouched.refl : Untouched index worker worker := ⟨rfl, rfl⟩

theorem Untouched.trans (first : Untouched index worker later)
    (second : Untouched index later last) : Untouched index worker last :=
  ⟨second.row.trans first.row, second.calls.trans first.calls⟩

def Replayable (worker : Worker) (index : Nat) : Prop :=
  ∃ row, worker.rows.get? index = some row ∧ row.replayable = true

theorem Replayable.of_untouched (held : Replayable worker index)
    (untouched : Untouched index worker later) : Replayable later index := by
  obtain ⟨row, found, replays⟩ := held
  exact ⟨row, untouched.row.trans found, replays⟩

/-- What a program of the guest may do: it touches the `indices`, and of them no
row that a continued run replays. -/
structure Worked (continuation : Bool) (indices : List Nat) (worker later : Worker) : Prop where
  outside : ∀ {index}, index ∉ indices → Untouched index worker later
  replayed : ∀ {index}, continuation = true → Replayable worker index → Untouched index worker later

theorem Worked.refl : Worked continuation indices worker worker :=
  ⟨fun _ => .refl, fun _ _ => .refl⟩

theorem Worked.trans {all : List Nat}
    (begun : Worked continuation first worker later) (done : Worked continuation second later last)
    (left : ∀ index ∈ first, index ∈ all) (right : ∀ index ∈ second, index ∈ all) :
    Worked continuation all worker last := by
  constructor
  · intro index absent
    apply (begun.outside fun member => absent (left index member)).trans
    exact done.outside fun member => absent (right index member)
  · intro index continued held
    have kept := begun.replayed continued held
    exact kept.trans (done.replayed continued (held.of_untouched kept))

theorem Worker.call_untouched (other : step.index ≠ index) :
    Untouched index worker (worker.call step returned) := by
  constructor
  · simp only [Worker.call]
    split
    · rw [Dict.get?_set, if_neg other]
    · rfl
  · simp [Worker.callsAt, Worker.call, other]

theorem attemptOnce_worked :
    Worked continuation [step.index] worker (attemptOnce continuation step returned worker).2 := by
  simp only [attemptOnce]
  split
  · exact .refl
  case h_2 absent =>
    have called : Worked continuation [step.index] worker (worker.call step returned) := by
      constructor
      · intro index other
        apply Worker.call_untouched
        simpa [eq_comm] using other
      · intro index continued held
        apply Worker.call_untouched
        intro same
        subst same
        obtain ⟨_, found, replays⟩ := held
        simp [Worker.replay?, continued, found, replays] at absent
    split
    · exact called
    · split <;> exact called

theorem attemptStep_worked {attempt : Nat} :
    Worked continuation [step.index] worker
      (attemptStep continuation step tool retries attempt worker).2 := by
  induction retries generalizing attempt worker with
  | zero => exact attemptOnce_worked
  | succ retries ih =>
    have first := @attemptOnce_worked worker step continuation (tool attempt)
    simp only [attemptStep]
    split
    case h_1 ended =>
      rw [ended] at first
      split
      · exact first.trans ih (by simp) (by simp)
      · exact first
    · exact first

variable {tool : Nat → Nat → ToolReturn}

theorem runSteps_worked :
    Worked continuation (steps.map (·.index)) worker (runSteps continuation tool steps worker).2 := by
  induction steps generalizing worker with
  | nil => exact .refl
  | cons step rest ih =>
    have first := @attemptStep_worked worker step continuation (tool step.index)
      (step.maxAttempts - 1) 1
    have here : ∀ index ∈ [step.index], index ∈ (step :: rest).map (·.index) := by simp
    have there : ∀ index ∈ rest.map (·.index), index ∈ (step :: rest).map (·.index) := by
      intro index member
      exact mem_cons_of_mem _ member
    simp only [runSteps]
    split
    case h_1 ended =>
      rw [ended] at first
      exact first.trans ih here there
    case h_2 ended =>
      rw [ended] at first
      exact first.trans .refl here there
    case h_3 ended =>
      rw [ended] at first
      exact first.trans .refl here there

theorem Worked.mono {all : List Nat} (worked : Worked continuation indices worker later)
    (within : ∀ index ∈ indices, index ∈ all) : Worked continuation all worker later :=
  worked.trans .refl within within

theorem fillGaps_worked {calls : List ToolCall} {rows : Dict Nat StepRow} :
    Worked continuation (entries.map (·.stepIndex)) ⟨rows, calls⟩ ⟨fillGaps rows entries, calls⟩ := by
  induction entries generalizing rows with
  | nil => exact .refl
  | cons entry rest ih =>
    have there : ∀ index ∈ rest.map (·.stepIndex),
        index ∈ (entry :: rest).map (·.stepIndex) := by
      intro index member
      exact mem_cons_of_mem _ member
    simp only [fillGaps]
    split
    · exact ih.mono there
    case isFalse missing =>
      have filled : Worked continuation [entry.stepIndex] ⟨rows, calls⟩
          ⟨rows.set entry.stepIndex ⟨entry.tool, entry.status, entry.result, entry.error⟩, calls⟩ := by
        constructor
        · intro index other
          refine ⟨?_, rfl⟩
          rw [Dict.get?_set, if_neg (by simpa [eq_comm] using other)]
        · intro index _ held
          obtain ⟨_, found, _⟩ := held
          refine ⟨?_, rfl⟩
          have other : entry.stepIndex ≠ index := by
            intro same
            subst same
            simp [Dict.contains, found] at missing
          rw [Dict.get?_set, if_neg other]
      exact filled.trans ih (by simp) there

def StepResult.name (entry : StepResult) : Nat × Json := (entry.stepIndex, .str entry.tool)

def planned (base : Nat) : List Json → List (Nat × Json)
  | [] => []
  | step :: rest => (base, step.get "tool") :: planned (base + 1) rest

theorem planned_length {steps : List Json} : (planned base steps).length = steps.length := by
  induction steps generalizing base with
  | nil => rfl
  | cons step rest ih => simp [planned, ih]

theorem planned_append :
    planned base (front ++ rest) = planned base front ++ planned (base + front.length) rest := by
  induction front generalizing base with
  | nil => rfl
  | cons step front ih =>
    simp only [cons_append, planned, ih, length_cons]
    rw [Nat.add_assoc, Nat.add_comm 1]

theorem planned_fst {steps : List Json} : (planned base steps).map Prod.fst = List.range' base steps.length := by
  induction steps generalizing base with
  | nil => rfl
  | cons step rest ih => simp [planned, ih, range'_succ]

theorem compileStep_name (compiles : compileStep index json = .ok compiled) :
    compiled.index = index ∧ json.get "tool" = .str compiled.tool := by
  simp only [compileStep] at compiles
  split at compiles
  · cases compiles
  · split at compiles
    case h_1 named =>
      split at compiles
      · cases compiles
      · generalize (if json.get "args" = .null then .obj [] else json.get "args") = args at compiles
        split at compiles
        · cases compiles
        · cases attempts : resolveMaxAttempts
              (if json.hasKey "risk_level" then json.get "risk_level" else .str "high") with
          | error error => simp [attempts, Except.map] at compiles
          | ok count =>
            simp only [attempts, Except.map, Except.ok.injEq] at compiles
            subst compiles
            exact ⟨rfl, named⟩
    · cases compiles

theorem compileSteps_names {steps : List Json} (compiles : compileSteps base steps = .ok compiled) :
    compiled.map (fun step => (step.index, Json.str step.tool)) = planned base steps := by
  induction steps generalizing base compiled with
  | nil =>
    cases compiles
    rfl
  | cons step rest ih =>
    simp only [compileSteps] at compiles
    split at compiles
    · cases compiles
    case h_2 compiledFirst =>
      cases tail : compileSteps (base + 1) rest with
      | error => simp [tail, Except.map] at compiles
      | ok =>
        obtain ⟨place, tool⟩ := compileStep_name compiledFirst
        simp only [tail, Except.map, Except.ok.injEq] at compiles
        subst compiles
        simp [planned, ih tail, place, tool]

def StepEnd.Of (step : CompiledStep) (tool : Nat → ToolReturn) : StepEnd → Prop
  | .done entry | .failed entry => entry.name = (step.index, .str step.tool)
  | .gated gate => ∃ attempt, (tool attempt).gate = some gate

theorem attemptOnce_of {tool : Nat → ToolReturn} {attempt : Nat} :
    (attemptOnce continuation step (tool attempt) worker).1.Of step tool := by
  simp only [attemptOnce]
  split
  · rfl
  · split
    · rfl
    · split
      case h_1 gated => exact ⟨attempt, gated⟩
      · rfl

theorem attemptStep_of {tool : Nat → ToolReturn} {retries attempt : Nat} :
    (attemptStep continuation step tool retries attempt worker).1.Of step tool := by
  induction retries generalizing attempt worker with
  | zero => exact attemptOnce_of
  | succ retries ih =>
    have once := @attemptOnce_of worker step continuation tool attempt
    simp only [attemptStep]
    split
    case h_1 first =>
      split
      · exact ih
      · rwa [first] at once
    · exact once

theorem runSteps_names :
    (runSteps continuation tool steps worker).1.1.map StepResult.name
      <+: steps.map fun step => (step.index, Json.str step.tool) := by
  induction steps generalizing worker with
  | nil => exact prefix_rfl
  | cons step rest ih =>
    have attempted := @attemptStep_of worker step continuation (tool step.index)
      (step.maxAttempts - 1) 1
    simp only [runSteps]
    split
    case h_1 entry after ended =>
      have name : entry.name = (step.index, .str step.tool) := by rwa [ended] at attempted
      rw [map_cons, name]
      exact (prefix_cons_inj _).mpr ih
    case h_2 entry after ended =>
      have name : entry.name = (step.index, .str step.tool) := by rwa [ended] at attempted
      rw [map_cons, name, map_nil]
      exact (prefix_cons_inj _).mpr nil_prefix
    · exact nil_prefix

theorem runSteps_gated (gated : (runSteps continuation tool steps worker).1.2 = some (.gated gate)) :
    ∃ step ∈ steps, ∃ attempt, (tool step.index attempt).gate = some gate := by
  induction steps generalizing worker with
  | nil => cases gated
  | cons step rest ih =>
    have attempted := @attemptStep_of worker step continuation (tool step.index)
      (step.maxAttempts - 1) 1
    simp only [runSteps] at gated
    split at gated
    · obtain ⟨found, member, returned⟩ := ih gated
      exact ⟨found, mem_cons_of_mem _ member, returned⟩
    · cases gated
    case h_3 ended =>
      cases gated
      rw [ended] at attempted
      exact ⟨step, mem_cons_self, attempted⟩

theorem Seam.tool_gate {seam : Seam} {attempt : Nat}
    (gated : (seam.tool index attempt).gate = some gate) : ∃ denial, gate = buildAuthorityGate index denial := by
  obtain ⟨denial, _, built⟩ := Option.map_eq_some_iff.mp gated
  exact ⟨denial, built.symm⟩

def Segment.indices (segment : Segment) : List Nat :=
  List.range' segment.baseIndex segment.toolSteps.length

structure SegmentRun.Fits (ran : SegmentRun) (segment : Segment) : Prop where
  names : ran.results.map StepResult.name <+: planned segment.baseIndex segment.toolSteps
  gate : ∀ {gate}, ran.gate = some gate →
    ∃ index denial, index ∈ segment.indices ∧ gate = buildAuthorityGate index denial

theorem indices_of_names {results : List StepResult}
    (names : results.map StepResult.name <+: planned segment.baseIndex segment.toolSteps) :
    ∀ index ∈ results.map (·.stepIndex), index ∈ segment.indices := by
  intro index member
  have fewer := (names.map Prod.fst).subset
  rw [planned_fst, map_map] at fewer
  exact fewer member

theorem compiled_indices {compiled : List CompiledStep}
    (names : compiled.map (fun step => (step.index, Json.str step.tool))
      = planned segment.baseIndex segment.toolSteps) :
    compiled.map (·.index) = segment.indices := by
  rw [Segment.indices, ← planned_fst, ← names, map_map]
  rfl

theorem runGuest_initial {compiled : List CompiledStep} :
    ∃ steps, steps <+: compiled ∧
      runGuest continuation calls compiled worker = runSteps continuation calls.tool steps worker := by
  simp only [runGuest]
  split
  · exact ⟨_, take_prefix _ _, rfl⟩
  · exact ⟨_, prefix_rfl, rfl⟩

theorem segmentRun_fits {calls : SegmentCalls} {compiled steps : List CompiledStep}
    (names : compiled.map (fun step => (step.index, Json.str step.tool))
      = planned segment.baseIndex segment.toolSteps) (first : steps <+: compiled) :
    (segmentRun (calls.through seam) compiled (runSteps continuation seam.tool steps worker).1).Fits segment := by
  constructor
  · simp only [segmentRun]
    split
    · rw [← names]
      exact runSteps_names.trans (first.map _)
    · exact nil_prefix
  · intro gate gated
    simp only [segmentRun] at gated
    split at gated
    case h_1 halted =>
      split at gated <;> cases gated
      obtain ⟨step, member, _, returned⟩ := runSteps_gated halted
      obtain ⟨denial, built⟩ := Seam.tool_gate returned
      refine ⟨step.index, denial, ?_, built⟩
      rw [← compiled_indices names]
      exact mem_map_of_mem (first.subset member)
    · cases gated

theorem runSegment_worked {calls : SegmentCalls} :
    (runSegment segment continuation (calls.through seam)).Yields world
      (fun ran after => Worked continuation segment.indices world.worker after.worker ∧ ran.Fits segment)
      (fun _ after => Worked continuation segment.indices world.worker after.worker) := by
  simp only [runSegment]
  split
  · refine ⟨.refl, nil_prefix, fun gated => ?_⟩
    cases gated
  case isFalse present =>
    simp only [Program.yields_bind, Program.yields_call, Program.yields_read, Program.yields_modify]
    refine ⟨fun compiled compiles => ?_, fun _ _ => .refl⟩
    rw [compileAgentSegment, if_neg present] at compiles
    have names := compileSteps_names compiles
    obtain ⟨steps, first, guest⟩ := @runGuest_initial world.worker continuation
      (calls.through seam) compiled
    have worked := @runSteps_worked world.worker continuation seam.tool steps
    have ran : Worked continuation segment.indices world.worker
        (runGuest continuation (calls.through seam) compiled world.worker).2 := by
      rw [guest]
      apply worked.mono
      rw [← compiled_indices names]
      exact (first.map _).subset
    split
    · exact ran
    · rw [guest] at ran ⊢
      have fits := @segmentRun_fits segment world.worker continuation seam calls compiled steps names first
      refine ⟨?_, fits⟩
      have filled := @fillGaps_worked continuation
        (segmentRun (calls.through seam) compiled (runSteps continuation seam.tool steps world.worker).1).results
        (runSteps continuation seam.tool steps world.worker).2.calls
      exact ran.trans filled (fun _ member => member) (indices_of_names fits.names)

end AindyRuntime.Agent
