import AindyRuntime.Continuation.SameTurns

namespace AindyRuntime.Continuation

open FlowEngine Program

variable {runner : Runner} {functions : Functions}

def drive (runner : Runner) (functions : Functions) (machine : Machine) : Option Machine :=
  match machine.control with
  | .at node => (engineLoop runner).step machine (answers functions node machine.engine.state)
  | .returned _ | .raised _ => none

variable (runner : Runner) (functions : Functions) (Ok : Machine → Machine → Prop) in
inductive Ends :
    Machine → Machine → Prop where
  | rest {machine : Machine} (stopped : drive runner functions machine = none) :
      Ends machine machine
  | step {machine next final : Machine} (driven : drive runner functions machine = some next)
      (ok : Ok machine next) (ends : Ends next final) :
      Ends machine final

abbrev Anyhow : Machine → Machine → Prop := fun _ _ => True

inductive SameControl : Control → Control → Prop where
  | at (node : String) : SameControl (.at node) (.at node)
  | returned {left right : Response} (same : SameStatus left right) :
      SameControl (.returned left) (.returned right)
  | raised (error : PyError) : SameControl (.raised error) (.raised error)

structure AlikeMachine (left right : Machine) : Prop where
  engine : AlikeEngine left.engine right.engine
  control : SameControl left.control right.control

theorem AlikeMachine.standing (alike : AlikeMachine left right) :
    left.control = .at node ↔ right.control = .at node := by
  have same := alike.control
  generalize left.control = control at same ⊢
  generalize right.control = control' at same ⊢
  cases same <;> simp

theorem drive_at (standing : machine.control = .at node) :
    drive runner functions machine = some (Machine.after
      ((iteration runner (answers functions node machine.engine.state) node).run machine.engine)) := by
  simp [drive, standing, engineLoop]

variable {machine next : Machine}

theorem drive_none (stopped : drive runner functions machine = none) : machine.control ≠ .at node := by
  intro standing
  rw [drive_at standing] at stopped
  cases stopped

theorem drive_stopped (stopped : ∀ node, machine.control ≠ .at node) : drive runner functions machine = none := by
  simp only [drive]
  split
  case h_1 node standing => exact absurd standing (stopped node)
  all_goals rfl

theorem drive_some (driven : drive runner functions machine = some next) :
    ∃ node, machine.control = .at node ∧ next = Machine.after
      ((iteration runner (answers functions node machine.engine.state) node).run machine.engine) := by
  cases standing : machine.control with
  | «at» node =>
    rw [drive_at standing] at driven
    exact ⟨node, rfl, (Option.some.inj driven).symm⟩
  | returned response | raised error => simp [drive, standing] at driven

theorem paired_after (paired : Program.Paired AlikeEngine SameTurn ended ended') :
    AlikeMachine (Machine.after ended) (Machine.after ended') := by
  cases paired with
  | returned same alike =>
    cases same with
    | again node => exact ⟨alike, .at node⟩
    | final same => exact ⟨alike, .returned same⟩
  | raised alike => exact ⟨alike, .raised _⟩

theorem drive_alike (blind : Blind runner functions)
    (alike : AlikeMachine left right) (standing : left.control = .at node)
    (settled : Settled functions node left.engine.state) (driven : drive runner functions left = some next) :
    ∃ next', drive runner functions right = some next' ∧ AlikeMachine next next' := by
  rw [drive_at standing] at driven
  cases driven
  refine ⟨_, drive_at (alike.standing.mp standing), paired_after ?_⟩
  exact iteration_couples blind alike.engine.state settled _ _ alike.engine

def Retries (functions : Functions) (node : String) (state : State) : Prop :=
  ∃ result, functions node state = .ok result ∧ result.status = some "RETRY"

def attemptsOf (engine : Engine) (node : String) : Nat := (engine.attempts.get? node).getD 0

def failedRow (row : FlowRun) (message : Json) : FlowRun :=
  { row with status := .failed, waitingFor := none, errorMessage := message }

def RetryTurn (runner : Runner) (node : String) (before : Engine) : Turn → Engine → Prop
  | .again next, after => next = node ∧ after.state = before.state ∧ after.run = before.run ∧
      after.commits = before.commits ∧ attemptsOf after node = attemptsOf before node + 1 ∧
      (attemptsOf after node : Int) < maxAttempts runner node
  | .final response, after => response.status = "FAILED" ∧ after.state = before.state ∧
      ∃ message, after.run = failedRow before.run message

theorem failExecution_fails :
    (failExecution ⟨.ok (), .ok (), .ok ()⟩ message node).Yields engine
      (fun response after => response.status = "FAILED" ∧ after = engine.fail message)
      (fun _ _ => False) := by
  simp [failExecution]

structure Called (before : Engine) (node : String) (after : Engine) : Prop where
  state : after.state = before.state
  run : after.run = before.run
  commits : after.commits = before.commits
  attempts : attemptsOf after node = attemptsOf before node + 1

variable {engine : Engine} {node : String}

/-- An iteration fails the run, or goes on from what the node returned. -/
theorem iteration_yields
    (failing : ∀ {failed : Engine} {message response}, failed.state = engine.state →
      failed.run = engine.run → failed.commits = engine.commits → response.status = "FAILED" →
        normal (.final response) (failed.fail message))
    (answering : ∀ {called : Engine} {result}, Called engine node called →
      functions node engine.state = .ok result →
        (finishNode runner (answers functions node engine.state) node engine.state result).Yields called
          normal raised) :
    (iteration runner (answers functions node engine.state) node).Yields engine normal raised := by
  simp only [iteration, executeCurrentNode, answers_runFound,
    answers_runFoundAfter, answers_nodeFailed, answers_failure, answers_node, Bool.not_true,
    Bool.false_eq_true, if_false, yields_bind, yields_read, yields_call]
  refine ⟨fun _ _ => (checkResources_grants engine).mono ?_ fun _ _ never => never.elim, by simp⟩
  rintro _ entered ⟨rfl, kept⟩
  have failed {before : Engine} {error : PyError} (state : before.state = engine.state)
      (run : before.run = engine.run) (commits : before.commits = engine.commits) :
      (failExecution ⟨.ok (), .ok (), .ok ()⟩ (.str error.text) node).Yields before
        (fun response after => normal (.final response) after) raised :=
    failExecution_fails.mono
      (fun _ _ ends => ends.2 ▸ failing state run commits ends.1) fun _ _ never => never.elim
  simp only [executeNode, yields_attempt, yields_bind, yields_call, yields_pure]
  refine ⟨fun _ _ => ⟨fun result returned => ?_, fun error _ => ?_⟩, fun error _ => ?_⟩
  · refine answering ⟨rfl, kept.run, kept.commits, ?_⟩ returned
    simp [attemptsOf, Engine.enterNode, Engine.countAttempt, Engine.withState, kept.attempts]
  · exact ⟨fun _ _ => failed rfl kept.run kept.commits, by simp⟩
  · exact ⟨fun _ _ => failed kept.state kept.run kept.commits, by simp⟩

theorem mergeSuperstep_unlanded :
    (mergeSuperstep runner [⟨node, patch, "RETRY"⟩]).Yields engine (fun _ after => after = engine)
      (fun _ _ => False) := by
  simp [mergeSuperstep, landed, mergeState, Engine.withState]

theorem failNode_fails :
    (failNode (answers functions node state) message node).Yields engine
      (fun handled after => ∃ response, handled = .final response ∧ response.status = "FAILED" ∧
        after = engine.fail message)
      (fun _ _ => False) := by
  simp only [failNode, yields_bind, yields_pure]
  exact failExecution_fails.mono (fun response _ ends => ⟨response, rfl, ends⟩) fun _ _ never => never

theorem Engine.fail_run : (engine.fail message).run = failedRow engine.run message := by
  simp [Engine.fail, Engine.commit, failedRow]

theorem iteration_retries (retries : Retries functions node engine.state) :
    (iteration runner (answers functions node engine.state) node).Yields engine
      (RetryTurn runner node engine) (fun _ _ => False) := by
  have failing {failed : Engine} {message : Json} {response : Response}
      (state : failed.state = engine.state) (run : failed.run = engine.run)
      (status : response.status = "FAILED") :
      RetryTurn runner node engine (.final response) (failed.fail message) :=
    ⟨status, by simpa using state, message, by rw [Engine.fail_run, run]⟩
  refine iteration_yields (fun state run _ status => failing state run status) ?_
  intro called result entered returned
  obtain ⟨_, answered, retry⟩ := retries
  rw [answered] at returned
  cases returned
  simp only [finishNode, retry, yields_bind, yields_modify, yields_call]
  refine ⟨fun _ _ => mergeSuperstep_unlanded.mono ?_ fun _ _ never => never, by simp⟩
  rintro _ _ rfl
  simp only [handleNodeStatus, yields_bind, yields_ite, yields_pure, Bool.and_eq_true,
    decide_eq_true_eq]
  refine ⟨fun again => ?_, fun _ => ?_⟩
  · exact ⟨rfl, entered.state, entered.run, entered.commits, entered.attempts, again.1⟩
  refine failNode_fails.mono ?_ fun _ _ never => never
  rintro _ _ ⟨response, rfl, status, rfl⟩
  exact failing entered.state entered.run status

structure Failed (first final : Machine) : Prop where
  control : ∃ response, final.control = .returned response ∧ response.status = "FAILED"
  state : final.engine.state = first.engine.state
  run : ∃ message, final.engine.run = failedRow first.engine.run message

/-- A machine at a node that asks for a retry, and the one after its iteration. -/
theorem drive_retries (standing : machine.control = .at node)
    (retries : Retries functions node machine.engine.state) (driven : drive runner functions machine = some next) :
    Failed machine next ∨ next.control = .at node ∧
      next.engine.state = machine.engine.state ∧ next.engine.run = machine.engine.run ∧
      next.engine.commits = machine.engine.commits ∧
      attemptsOf next.engine node = attemptsOf machine.engine node + 1 ∧
      (attemptsOf next.engine node : Int) < maxAttempts runner node := by
  rw [drive_at standing] at driven
  cases driven
  have turn := @iteration_retries runner _ _ _ retries
  generalize ran : (iteration runner (answers functions node machine.engine.state) node).run
    machine.engine = ended
  obtain ⟨_ | turned, _⟩ := ended
  · exact absurd (turn.raises ran) id
  · have turn := turn.returned ran
    cases turned with
    | again =>
      obtain ⟨rfl, rest⟩ := turn
      exact .inr ⟨rfl, rest⟩
    | final response =>
      obtain ⟨status, state, run⟩ := turn
      exact .inl ⟨⟨response, rfl, status⟩, state, run⟩

theorem Failed.stopped (failed : Failed first final) : drive runner functions final = none := by
  obtain ⟨_, returned, _⟩ := failed.control
  exact drive_stopped fun node standing => by simp [returned] at standing

theorem Failed.of_same (failed : Failed middle final)
    (state : middle.engine.state = first.engine.state) (run : middle.engine.run = first.engine.run) :
    Failed first final :=
  ⟨failed.control, failed.state.trans state, run ▸ failed.run⟩

/-- The retries come to an end: each adds to the attempts, which are bounded. -/
theorem retries_end (standing : machine.control = .at node)
    (retries : Retries functions node machine.engine.state) :
    ∃ final, Ends runner functions Anyhow machine final ∧ Failed machine final := by
  generalize left : (maxAttempts runner node - attemptsOf machine.engine node).toNat = bound
  induction bound using Nat.strong_induction_on generalizing machine with
  | _ bound ih =>
    have driven := @drive_at runner functions machine node standing
    rcases drive_retries standing retries driven with failed | ⟨standing', state, run, _, more, below⟩
    · exact ⟨_, .step driven trivial (.rest failed.stopped), failed⟩
    · obtain ⟨final, ends, failed⟩ :=
        ih _ (by omega) standing' (by rw [state]; exact retries) rfl
      exact ⟨final, .step driven trivial ends, failed.of_same state run⟩

/-- However a machine at such a node ends, it has failed the run. -/
theorem ends_retries (ends : Ends runner functions Ok machine final) (standing : machine.control = .at node)
    (retries : Retries functions node machine.engine.state) : Failed machine final := by
  induction ends with
  | rest stopped => exact absurd standing (drive_none stopped)
  | step driven ok ends ih =>
    rcases drive_retries standing retries driven with failed | ⟨standing', state, run, _⟩
    · cases ends with
      | rest => exact failed
      | step again => exact absurd (failed.stopped.symm.trans again) (by simp)
    · exact (ih standing' (by rw [state]; exact retries)).of_same state run

theorem Failed.alike (failed : Failed first final)
    (failed' : Failed first' final') (alike : AlikeEngine first.engine first'.engine) :
    AlikeMachine final final' := by
  obtain ⟨⟨_, returned, status⟩, state, _, run⟩ := failed
  obtain ⟨⟨_, returned', status'⟩, state', _, run'⟩ := failed'
  refine ⟨⟨?_, ?_⟩, ?_⟩
  · rw [state, state']
    exact alike.state
  · rw [run, run']
    exact alike.run.withStatus
  · rw [returned, returned']
    exact .returned (status.trans status'.symm)

/-- Where one of two machines that are alike stops, the other stops alike. -/
theorem ends_alike (blind : Blind runner functions)
    (ends : Ends runner functions Ok machine final) (alike : AlikeMachine machine machine') :
    ∃ final', Ends runner functions Anyhow machine' final' ∧ AlikeMachine final final' := by
  induction ends generalizing machine' with
  | @rest machine stopped =>
    refine ⟨machine', .rest (drive_stopped fun node standing' => ?_), alike⟩
    exact drive_none stopped (alike.standing.mpr standing')
  | @step machine next final driven ok ends ih =>
    obtain ⟨node, standing, _⟩ := drive_some driven
    by_cases settled : Settled functions node machine.engine.state
    · obtain ⟨_, driven', alike'⟩ := drive_alike blind alike standing settled driven
      obtain ⟨final', ends', same⟩ := ih alike'
      exact ⟨final', .step driven' trivial ends', same⟩
    · obtain ⟨result, returned, retry⟩ : Retries functions node machine.engine.state := by
        simpa only [Retries, Settled, not_forall, not_not, exists_prop] using settled
      have returned' : functions node machine'.engine.state = .ok result :=
        (blind.function node alike.engine.state.symm).trans returned
      obtain ⟨final', ends', failed'⟩ := @retries_end runner functions machine' node
        (alike.standing.mp standing) ⟨result, returned', retry⟩
      have failed := ends_retries (.step driven ok ends) standing ⟨result, returned, retry⟩
      exact ⟨final', ends', failed.alike failed' alike.engine⟩

def Uncommitted (before after : Engine) : Prop :=
  after.run = before.run ∧ after.commits = before.commits

def Moved (before : Engine) (next : String) (after : Engine) : Prop :=
  after.run = { before.run with currentNode := next, state := after.state } ∧
    ∃ point history, after.commits = ⟨point, after.run, history⟩ :: before.commits

section Uncommitted

variable {start : Engine}

theorem uncommitted_mergeSuperstep : (mergeSuperstep runner outcomes).Keeps (Uncommitted start) :=
  .bind .read fun _ => .bind (.modify fun _ same => same) fun _ => .call

theorem uncommitted_runFanOutBranches :
    (runFanOutBranches runner calls targets).Keeps (Uncommitted start) := by
  induction targets with
  | nil => exact .pure
  | cons target rest ih =>
    refine .bind ?_ fun _ => .bind ih fun _ => .pure
    simp only [runBranch]
    split
    · exact .pure
    · exact .bind (.modify fun _ same => same) fun _ => .pure

theorem uncommitted_executeSuperstep {frontier : FanOutEdgeGroup} :
    (executeSuperstep runner calls frontier).Keeps (Uncommitted start) := by
  refine .bind .read fun _ => .bind uncommitted_runFanOutBranches fun _ => .bind .call fun _ => ?_
  refine .bind (.modify fun _ same => same) fun _ => .bind uncommitted_mergeSuperstep fun _ => ?_
  refine .bind .call fun _ => .bind (.ite ?_ .pure) fun _ => .bind .read fun _ => ?_
  · exact .bind .read fun _ => .bind .call fun _ => .modify fun _ same => same
  · exact .bind .call fun _ => .call

def HandledFrom (start : Engine) : NodeResponse → Engine → Prop
  | .retry, _ => False
  | .final _, _ => True
  | .advance, after => Uncommitted start after

theorem handleNodeStatus_handles (settled : status ≠ "RETRY") (same : Uncommitted start engine) :
    (handleNodeStatus runner calls node result status).Returns engine (HandledFrom start) :=
  handleNodeStatus_passes (fun _ _ => trivial) (fun retry => absurd retry settled) fun _ => same

def ReachedFrom (start : Engine) : Response ⊕ String → Engine → Prop
  | .inl _, _ => True
  | .inr next, after => Moved start next after

theorem noNextNode_reaches : (noNextNode calls node).Returns engine (ReachedFrom start) := by
  simp only [noNextNode, yields_bind]
  exact yields_true

theorem proceed_reaches (same : Uncommitted start engine) :
    (proceed calls node point successor).Returns engine (ReachedFrom start) := by
  simp only [proceed, yields_ite, yields_bind, yields_pure]
  refine ⟨fun _ => noNextNode_reaches, fun _ => ?_⟩
  cases successor with
  | group => trivial
  | node =>
    simp only [moveTo, yields_bind, yields_modify, yields_pure]
    refine ⟨?_, point, engine.history, ?_⟩
    · rw [← same.1]
      rfl
    · rw [← same.2]
      rfl

theorem advanceToNextNode_reaches (same : Uncommitted start engine) :
    (advanceToNextNode runner calls node status).Returns engine (ReachedFrom start) := by
  simp only [advanceToNextNode, yields_bind, yields_read]
  split
  · simp only [yields_ite, yields_bind, yields_raise]
    exact ⟨fun _ => yields_true, fun _ => trivial⟩
  · exact noNextNode_reaches
  · exact proceed_reaches same
  · simp only [trySuperstep, yields_bind, yields_attempt]
    refine (uncommitted_executeSuperstep engine same).mono (fun _ _ same => proceed_reaches same) ?_
    exact fun _ _ _ => yields_true

def TurnedFrom (start : Engine) : Turn → Engine → Prop
  | .again next, after => Moved start next after
  | .final _, _ => True

theorem finishNode_turns (settled : result.status ≠ some "RETRY") (same : Uncommitted start engine) :
    (finishNode runner calls node snapshot result).Returns engine (TurnedFrom start) := by
  simp only [finishNode]
  split
  · trivial
  case h_2 status reported =>
    have settled : status ≠ "RETRY" := fun retry => settled (reported.trans (congrArg some retry))
    simp only [yields_bind, yields_call]
    refine ⟨fun _ _ => ?_, fun _ _ => trivial⟩
    have recorded (rows : List FlowHistory) : Uncommitted start (engine.record rows) := same
    refine (uncommitted_mergeSuperstep _ (recorded _)).into fun _ _ same => ?_
    refine (handleNodeStatus_handles settled same).into ?_
    intro handled after held
    cases handled with
    | retry => exact absurd held id
    | final => trivial
    | advance =>
      rw [yields_bind]
      refine (advanceToNextNode_reaches held).into ?_
      intro reached left held
      cases reached with
      | inl => trivial
      | inr => exact held

end Uncommitted

/-- What an iteration yields where the loop goes on holds at the next head. -/
theorem drive_goes_on {Post : String → Engine → Prop} {machine next : Machine} {node node' : String}
    (turn : (iteration runner (answers functions node machine.engine.state) node).Returns machine.engine
      (fun turn after => ∀ next, turn = .again next → Post next after))
    (standing : machine.control = .at node) (driven : drive runner functions machine = some next)
    (standing' : next.control = .at node') : Post node' next.engine := by
  rw [drive_at standing] at driven
  cases driven
  generalize ran : (iteration runner (answers functions node machine.engine.state) node).run
    machine.engine = ended at standing' ⊢
  obtain ⟨_ | turned, _⟩ := ended
  · cases standing'
  · have turn := turn.returned ran
    cases turned with
    | again =>
      cases standing'
      exact turn node' rfl
    | final => cases standing'

/-- From one head of the loop to the next, the run is as it was or has moved. -/
theorem drive_again
    (standing : machine.control = .at node) (driven : drive runner functions machine = some next)
    (standing' : next.control = .at node') :
    node' = node ∧ next.engine.state = machine.engine.state ∧
        Uncommitted machine.engine next.engine ∨
      Moved machine.engine node' next.engine := by
  by_cases retries : Retries functions node machine.engine.state
  · rcases drive_retries standing retries driven with failed | ⟨again, state, run, commits, _⟩
    · obtain ⟨_, returned, _⟩ := failed.control
      simp [returned] at standing'
    · rw [again] at standing'
      cases standing'
      exact .inl ⟨rfl, state, run, commits⟩
  · have turn : (iteration runner (answers functions node machine.engine.state) node).Returns
        machine.engine (TurnedFrom machine.engine) := by
      refine iteration_yields (fun _ _ _ _ => trivial) fun called returned => ?_
      exact finishNode_turns (fun retry => retries ⟨_, returned, retry⟩) ⟨called.run, called.commits⟩
    refine .inr (drive_goes_on (turn.into ?_) standing driven standing')
    intro turned after held next same
    subst same
    exact held

end AindyRuntime.Continuation
