import AindyRuntime.Continuation.Driving
import AindyRuntime.FlowEngine.HistoryFidelity

namespace AindyRuntime.Continuation

open FlowEngine Program List

variable {runner : Runner} {functions : Functions}

structure Grown (start engine : Engine) : Prop where
  latest : ∃ newer, engine.commits = newer ++ start.commits ∧
    engine.run = (newer.head?.map Commit.run).getD start.run

namespace Grown

variable {start : Engine}

theorem refl : Grown start start := ⟨[], rfl, rfl⟩

theorem commit (grown : Grown start engine) {run : FlowRun} : Grown start (engine.commit point run) := by
  obtain ⟨newer, commits, _⟩ := grown.latest
  exact ⟨⟨point, run, engine.history⟩ :: newer, by simp [Engine.commit, commits], rfl⟩

theorem releaseSlot (grown : Grown start engine) : Grown start engine.releaseSlot := by
  obtain ⟨newer, commits, run⟩ := grown.latest
  exact ⟨newer, by simpa using commits, by simpa using run⟩

theorem stable : Stable (Grown start) where
  fail _ grown := grown.commit.releaseSlot
  acquire _ grown := ⟨grown.latest⟩
  parkOnResources _ grown := grown.commit
  parkOnWait _ _ grown := grown.commit.releaseSlot
  enterNode _ grown := ⟨grown.latest⟩
  withState _ grown := ⟨grown.latest⟩
  record _ grown := ⟨grown.latest⟩

theorem drive {next : Machine} (driven : drive runner functions machine = some next) :
    Grown machine.engine next.engine := by
  obtain ⟨node, _, rfl⟩ := drive_some driven
  generalize ran : (iteration runner (answers functions node machine.engine.state) node).run
    machine.engine = ended
  obtain ⟨outcome, after⟩ := ended
  have finalized (status : String) : (maybeFinalizeCompletion runner
      (answers functions node machine.engine.state) node status).Keeps (Grown machine.engine) :=
    stable.maybeFinalizeCompletion (fun _ _ grown => grown.releaseSlot.commit)
      fun _ _ _ _ _ grown => grown.commit
  have kept : Grown machine.engine after :=
    (stable.iteration finalized fun _ _ _ grown => grown.commit).at_end refl ran
  rcases outcome with error | turn
  · exact kept
  · cases turn <;> exact kept

end Grown

/-- What an iteration may not do for a crash after it to go unnoticed: commit a
second time, leave a run without its trace id at a node, or end the loop on a
new row that looks as if it were still running. -/
structure Orderly (machine next : Machine) : Prop where
  once : next.engine.commits.length ≤ machine.engine.commits.length + 1
  traced : ∀ node, next.control = .at node → hasTraceId next.engine.run.state = true
  rests : (∀ node, next.control ≠ .at node) →
    next.engine.run = machine.engine.run ∨ next.engine.run.status ∉ activeStatuses

def Durable (first final : Machine) (row : FlowRun) : Prop :=
  row = first.engine.run ∨
    ∃ newer, final.engine.commits = newer ++ first.engine.commits ∧ ∃ commit ∈ newer, commit.run = row

variable {digest : Json → String} {traceId : String}

structure Stands (digest : Json → String) (runner : Runner) (machine : Machine) (node : String) :
    Prop where
  standing : machine.control = .at node
  node : machine.engine.run.currentNode = node
  state : machine.engine.run.state = machine.engine.state
  active : machine.engine.run.status ∈ activeStatuses
  planned : signaturesConflict machine.engine.run.graphSignature
    (some (flowTopologySignature digest runner.flow)) = false

variable {machine : Machine} {node : String}

theorem Stands.next {next : Machine}
    (stands : Stands digest runner machine node) (driven : drive runner functions machine = some next)
    (standing : next.control = .at node') : Stands digest runner next node' := by
  rcases drive_again stands.standing driven standing with ⟨rfl, state, run, _⟩ | ⟨run, _⟩
  · refine ⟨standing, ?_, ?_, ?_, ?_⟩
    · rw [run, stands.node]
    · rw [run, stands.state, state]
    · rw [run]
      exact stands.active
    · rw [run]
      exact stands.planned
  · refine ⟨standing, ?_, ?_, ?_, ?_⟩
    · rw [run]
    · rw [run]
    · rw [run]
      exact stands.active
    · rw [run]
      exact stands.planned

structure Head (digest : Json → String) (runner : Runner) (traceId : String) (machine : Machine)
    (node : String) : Prop where
  standing : machine.control = .at node
  node : machine.engine.run.currentNode = node
  state : machine.engine.run.state = machine.engine.state
  active : machine.engine.run.status ∈ activeStatuses
  traced : Agree (withTraceId machine.engine.state traceId) machine.engine.state
  planned : signaturesConflict machine.engine.run.graphSignature
    (some (flowTopologySignature digest runner.flow)) = false

theorem Head.stands (head : Head digest runner traceId machine node) : Stands digest runner machine node :=
  ⟨head.standing, head.node, head.state, head.active, head.planned⟩

theorem Stands.head (stands : Stands digest runner machine node)
    (traced : Agree (withTraceId machine.engine.state traceId) machine.engine.state) :
    Head digest runner traceId machine node :=
  ⟨stands.standing, stands.node, stands.state, stands.active, traced, stands.planned⟩

theorem withTraceId_of_has (has : hasTraceId state = true) : withTraceId state traceId = state := by
  simp [withTraceId, has]

theorem Head.next {next : Machine} (head : Head digest runner traceId machine node)
    (driven : drive runner functions machine = some next) (orderly : Orderly machine next)
    (standing : next.control = .at node') : Head digest runner traceId next node' := by
  have stands := head.stands.next driven standing
  apply stands.head
  rw [← stands.state, withTraceId_of_has (orderly.traced node' standing)]
  exact .refl

theorem Grown.ends (ends : Ends runner functions Ok machine final) :
    ∃ newer, final.engine.commits = newer ++ machine.engine.commits := by
  induction ends with
  | rest => exact ⟨[], rfl⟩
  | step driven ok ends ih =>
    obtain ⟨newer, commits⟩ := ih
    obtain ⟨first, commits', _⟩ := (Grown.drive driven).latest
    exact ⟨newer ++ first, by rw [commits, commits', append_assoc]⟩

theorem Orderly.row {next : Machine} (orderly : Orderly machine next)
    (driven : drive runner functions machine = some next)
    (commits : next.engine.commits = newer ++ machine.engine.commits)
    (member : commit ∈ newer) : commit.run = next.engine.run := by
  obtain ⟨first, commits', run⟩ := (Grown.drive driven).latest
  obtain rfl : newer = first := append_cancel_right (commits.symm.trans commits')
  have short : newer.length ≤ 1 := by
    have once := orderly.once
    rw [commits, length_append] at once
    omega
  rcases newer with _ | ⟨only, _ | ⟨second, rest⟩⟩
  · cases member
  · rw [mem_singleton.mp member, run]
    rfl
  · simp at short

theorem Ends.stopped
    (ends : Ends runner functions Ok machine final) (stopped : ∀ node, machine.control ≠ .at node) :
    final = machine := by
  cases ends with
  | rest => rfl
  | step driven => exact absurd (driven.symm.trans (drive_stopped stopped)) (by simp)

theorem Durable.of_stopped {row : FlowRun} (durable : Durable machine machine row) : row = machine.engine.run := by
  rcases durable with same | ⟨newer, commits, commit, member, _⟩
  · exact same
  · rw [self_eq_append_left.mp commits] at member
    cases member

/-- A crash leaves the row of a machine at a node, or the row where the loop
stopped. -/
theorem Durable.row {row : FlowRun} (head : Head digest runner traceId machine node)
    (ends : Ends runner functions Orderly machine final) (durable : Durable machine final row) :
    (∃ crashed node, Head digest runner traceId crashed node ∧ crashed.engine.run = row ∧
      Ends runner functions Orderly crashed final) ∨
    row = final.engine.run ∧ row.status ∉ activeStatuses := by
  induction ends generalizing node with
  | rest stopped => exact absurd head.standing (drive_none stopped)
  | @step machine next final driven orderly ends ih =>
    have here : ∃ crashed node, Head digest runner traceId crashed node ∧
        crashed.engine.run = machine.engine.run ∧ Ends runner functions Orderly crashed final :=
      ⟨machine, node, head, rfl, .step driven orderly ends⟩
    have later : row = machine.engine.run ∨ Durable next final row := by
      rcases durable with same | ⟨newer, commits, commit, member, same⟩
      · exact .inl same
      · obtain ⟨after, commits'⟩ := Grown.ends ends
        obtain ⟨first, commits'', _⟩ := (Grown.drive driven).latest
        have split : newer = after ++ first := by
          rw [commits', commits'', ← append_assoc] at commits
          exact (append_cancel_right commits).symm
        rw [split, mem_append] at member
        rcases member with afterwards | now
        · exact .inr (.inr ⟨after, commits', commit, afterwards, same⟩)
        · exact .inr (.inl (same.symm.trans (orderly.row driven commits'' now)))
    rcases later with rfl | durable
    · exact .inl here
    · by_cases standing : ∃ node', next.control = .at node'
      · obtain ⟨_, standing⟩ := standing
        exact ih (head.next driven orderly standing) durable
      · have stopped (node' : String) : next.control ≠ .at node' := fun there => standing ⟨node', there⟩
        obtain rfl := ends.stopped stopped
        obtain rfl := durable.of_stopped
        rcases orderly.rests stopped with same | resting
        · exact .inl (same ▸ here)
        · exact .inr ⟨rfl, resting⟩

def undisturbed (traceId : String) : ResumeCalls := ⟨true, .won, traceId, .ok ()⟩

def resumed (runner : Runner) (digest : Json → String) (traceId : String) (row : FlowRun)
    (history : List FlowHistory) : Machine :=
  resume runner digest (undisturbed traceId) (Engine.fresh row history)

def claimedRow (row : FlowRun) : FlowRun :=
  if row.status = .waiting then { row with status := .executing, waitingFor := none } else row

theorem claimWaitingRun_claims :
    (claimWaitingRun .won).Yields engine
      (fun answer after => answer = none ∧ after.run = claimedRow engine.run) (fun _ _ => False) := by
  simp only [claimWaitingRun, yields_bind, yields_ite, yields_modify, yields_pure]
  refine ⟨fun running => ⟨trivial, (if_neg running).symm⟩, fun waiting => ⟨trivial, ?_⟩⟩
  exact (if_pos (not_not.mp waiting)).symm

theorem claimedRow_state : (claimedRow row).state = row.state := by
  simp only [claimedRow]
  split <;> rfl

theorem claimedRow_currentNode : (claimedRow row).currentNode = row.currentNode := by
  simp only [claimedRow]
  split <;> rfl

structure Entry (traceId : String) (row : FlowRun) (machine : Machine) : Prop where
  control : machine.control = .at row.currentNode
  state : machine.engine.state = withTraceId row.state traceId
  run : machine.engine.run = { claimedRow row with state := withTraceId row.state traceId }

theorem loadState_entry (claimed : engine.run = claimedRow row) :
    (loadState traceId).Yields engine
      (fun node after => Entry traceId row ⟨after, .at node⟩) (fun _ _ => False) := by
  have state : engine.run.state = row.state := by rw [claimed, claimedRow_state]
  have node : engine.run.currentNode = row.currentNode := by rw [claimed, claimedRow_currentNode]
  simp only [loadState, yields_bind, yields_modify, yields_ite, yields_pure]
  refine ⟨fun missing => ⟨by rw [node], by simp [Engine.commit, Engine.withState, state], ?_⟩,
    fun has => ⟨by rw [node], by simp [Engine.withState, state], ?_⟩⟩
  · simp [Engine.commit, Engine.withState, claimed, claimedRow_state]
  · have has : hasTraceId row.state = true := by simpa [state] using has
    have same : { claimedRow row with state := row.state } = claimedRow row := by
      simp only [claimedRow]
      split <;> rfl
    rw [withTraceId_of_has has, same]
    exact claimed

theorem resume_entry (planned : signaturesConflict engine.run.graphSignature
      (some (flowTopologySignature digest runner.flow)) = false) :
    Entry traceId engine.run (resume runner digest (undisturbed traceId) engine) := by
  have entered : (enterResume (flowTopologySignature digest runner.flow) (undisturbed traceId)).Yields
      engine
      (fun answer after => ∃ node, answer = .inr node ∧ Entry traceId engine.run ⟨after, .at node⟩)
      (fun _ _ => False) := by
    have found : (undisturbed traceId).runFound = true := rfl
    have won : (undisturbed traceId).claim = .won := rfl
    have named : (undisturbed traceId).traceId = traceId := rfl
    simp only [enterResume, found, named, planned, Bool.not_true, Bool.false_eq_true, if_false,
      yields_bind, yields_read]
    refine claimWaitingRun_claims.mono ?_ fun _ _ never => never
    rintro _ after ⟨rfl, claimed⟩
    rw [yields_bind]
    exact (loadState_entry claimed).mono (fun node _ entry => ⟨node, rfl, entry⟩) fun _ _ never => never
  rw [resume]
  generalize ended : (enterResume (flowTopologySignature digest runner.flow) (undisturbed traceId)).run
    engine = outcome
  obtain ⟨_ | _, _⟩ := outcome
  · exact absurd (entered.raises ended) id
  · obtain ⟨_, rfl, entry⟩ := entered.returned ended
    exact entry

variable {row row' : FlowRun}

theorem AlikeRun.waiting (rows : AlikeRun row row') : row.status = .waiting ↔ row'.status = .waiting := by
  rcases rows.status with same | ⟨active, active'⟩
  · rw [same]
  · constructor <;> intro waiting <;> simp [waiting, activeStatuses] at active active'

theorem moveToDeadLetter_couples :
    (moveToDeadLetter reason).Couples (moveToDeadLetter reason) AlikeEngine Eq := by
  refine .bind .read fun {engine engine'} alike => ?_
  refine .ite_of_iff alike.run.waiting (fun _ => ?_) fun _ => .pure rfl
  exact .bind_eq (.modify fun alike => alike.commit alike.run.withStatus) fun _ => .pure rfl

theorem claimWaitingRun_couples :
    (claimWaitingRun .won).Couples (claimWaitingRun .won) AlikeEngine
      (fun left right => left = none ∧ right = none) := by
  refine .bind .read fun {engine engine'} alike => ?_
  refine .ite_of_iff (not_congr alike.run.waiting) (fun _ => .pure ⟨rfl, rfl⟩) fun _ => ?_
  exact .bind_eq (.modify fun alike => alike.commit alike.run.withStatus) fun _ => .pure ⟨rfl, rfl⟩

theorem loadState_couples : (loadState traceId).Couples (loadState traceId) AlikeEngine Eq := by
  refine .bind .read fun {engine engine'} alike => ?_
  rw [alike.run.currentNode, alike.run.state.hasTraceId]
  refine .bind_eq (.modify fun alike => ⟨alike.run.state.withTraceId, alike.run⟩) fun _ => ?_
  refine .ite (fun _ => ?_) fun _ => .pure rfl
  exact .bind_eq (.modify fun alike => alike.commit (alike.run.withState alike.state)) fun _ => .pure rfl

theorem enterResume_couples :
    (enterResume signature (undisturbed traceId)).Couples (enterResume signature (undisturbed traceId))
      AlikeEngine SameAnswer := by
  refine .ite (fun _ => .pure (.inl rfl)) fun _ => .bind .read fun {engine engine'} alike => ?_
  rw [alike.run.graphSignature]
  refine .ite (fun _ => .bind_eq moveToDeadLetter_couples fun _ => ?_) fun _ => ?_
  · exact .bind_eq .call fun _ => .pure (.inl rfl)
  · refine claimWaitingRun_couples.bind ?_
    rintro _ _ ⟨rfl, rfl⟩
    exact .bind_eq loadState_couples fun _ => .pure (.inr rfl)

theorem resumed_alike (rows : AlikeRun row row') :
    AlikeMachine (resumed runner digest traceId row history)
      (resumed runner digest traceId row' history') := by
  have alike : AlikeEngine (Engine.fresh row history) (Engine.fresh row' history') := ⟨.refl, rows⟩
  have paired := @enterResume_couples traceId (flowTopologySignature digest runner.flow) _ _ alike
  simp only [resumed, resume]
  generalize (enterResume (flowTopologySignature digest runner.flow) (undisturbed traceId)).run
    (Engine.fresh row history) = ended at paired ⊢
  generalize (enterResume (flowTopologySignature digest runner.flow) (undisturbed traceId)).run
    (Engine.fresh row' history') = ended' at paired ⊢
  cases paired with
  | raised alike => exact ⟨alike, .raised _⟩
  | returned same alike =>
    cases same with
    | inl same => exact ⟨alike, .returned same⟩
    | inr same =>
      cases same
      exact ⟨alike, .at _⟩

theorem withTraceId_twice :
    Agree (withTraceId (withTraceId state traceId) traceId) (withTraceId state traceId) := by
  by_cases has : hasTraceId state = true
  · rw [withTraceId_of_has has, withTraceId_of_has has]
    exact .refl
  · by_cases named : hasTraceId (withTraceId state traceId) = true
    · rw [withTraceId_of_has named]
      exact .refl
    · have set (other : State) (unnamed : ¬hasTraceId other = true) :
          withTraceId other traceId = other.set "trace_id" (.str traceId) := by
        simp [withTraceId, if_neg unnamed]
      rw [set _ named, set _ has]
      intro cell _
      simp only [Dict.get?_set]
      split <;> rfl

theorem resume_head (planned : signaturesConflict engine.run.graphSignature
      (some (flowTopologySignature digest runner.flow)) = false)
    (driven : engine.run.status ∈ activeStatuses ∨ engine.run.status = .waiting) :
    Head digest runner traceId (resume runner digest (undisturbed traceId) engine)
      engine.run.currentNode := by
  have entry : Entry traceId engine.run (resume runner digest (undisturbed traceId) engine) :=
    resume_entry planned
  refine ⟨entry.control, ?_, ?_, ?_, ?_, ?_⟩
  · rw [entry.run]
    exact claimedRow_currentNode
  · rw [entry.run, entry.state]
  · rw [entry.run]
    simp only [claimedRow]
    split
    · simp [activeStatuses]
    case isFalse running => exact driven.resolve_right running
  · rw [entry.state]
    exact withTraceId_twice
  · rw [entry.run]
    simp only [claimedRow]
    split <;> exact planned

variable (runner digest traceId) in
inductive Begun : Machine → Prop where
  | resumed {row : FlowRun} {history : List FlowHistory}
      (planned : signaturesConflict row.graphSignature (some (flowTopologySignature digest runner.flow)) = false)
      (driven : row.status ∈ activeStatuses ∨ row.status = .waiting) :
      Begun (resumed runner digest traceId row history)
  | started (initialState : State) (jobLogId : Json) (eventId : String) :
      Begun
        (start runner digest initialState jobLogId ⟨true, .ok eventId, undisturbed traceId⟩)

theorem initializeRun_runs :
    (initializeRun ⟨true, .ok eventId, undisturbed traceId⟩).Yields engine
      (fun _ after => after.run.status = engine.run.status ∧ after.run.graphSignature = engine.run.graphSignature)
      (fun _ _ => False) := by
  simp only [initializeRun, Bool.not_true, Bool.false_eq_true, if_false, yields_bind,
    yields_call, yields_ite, yields_pure]
  refine ⟨fun _ _ => ⟨fun _ => ⟨rfl, rfl⟩, fun _ => ⟨rfl, rfl⟩⟩, fun _ failed => ?_⟩
  cases failed

theorem signaturesConflict_self : signaturesConflict (some signature) (some signature) = false := by
  simp [signaturesConflict]

theorem Begun.head (begun : Begun runner digest traceId machine) :
    ∃ node, Head digest runner traceId machine node := by
  cases begun with
  | @resumed row history planned driven =>
    exact ⟨_, @resume_head runner digest traceId (Engine.fresh row history) planned driven⟩
  | started initialState jobLogId eventId =>
    have initialized := @initializeRun_runs traceId eventId
    rw [start]
    split
    case h_1 engine ran =>
      obtain ⟨status, signature⟩ := initialized.returned ran
      have planned : signaturesConflict engine.run.graphSignature
          (some (flowTopologySignature digest runner.flow)) = false := by
        rw [signature]
        exact signaturesConflict_self
      refine ⟨_, resume_head planned (.inl ?_)⟩
      rw [status]
      exact mem_cons_self
    case h_2 ran => exact absurd (initialized.raises ran) id

theorem Head.present (head : Head digest runner traceId machine node) : machine.engine.run.state.entries ≠ [] := by
  intro empty
  have absent : machine.engine.run.state.get? "trace_id" = none := by
    rw [Dict.get?, empty]
    rfl
  have traced := head.traced "trace_id" (by decide)
  rw [← head.state] at traced
  simp [withTraceId, hasTraceId, absent, Json.truthy] at traced

theorem continued_of_present (present : row.state.entries ≠ []) :
    continued runtime recorded attempts row =
      { row with status := .executing, state := counted attempts row.state } := by
  have whole : rebuilt? runtime recorded row.state = none := by
    simp [rebuilt?, present]
  rw [continued, whole]
  rfl

/-- The new runner of a row stands where the old one stood, if it is given the
old one's state. -/
theorem Stands.resumes {state : State} (stands : Stands digest runner machine node)
    (agree : Agree machine.engine.state (withTraceId state traceId)) :
    AlikeMachine machine
      (resumed runner digest traceId { machine.engine.run with status := .executing, state } history) := by
  generalize found : { machine.engine.run with status := RunStatus.executing, state } = row
  have planned : signaturesConflict row.graphSignature
      (some (flowTopologySignature digest runner.flow)) = false := by
    rw [← found]
    exact stands.planned
  have entry : Entry traceId row (resumed runner digest traceId row history) :=
    @resume_entry runner digest traceId (Engine.fresh row history) planned
  have running : claimedRow row = row := by
    rw [← found]
    simp [claimedRow]
  have kept : row.state = state := by rw [← found]
  refine ⟨⟨?_, ?_⟩, ?_⟩
  · rw [entry.state, kept]
    exact agree
  · rw [entry.run, running]
    rw [← stands.state] at agree
    subst found
    exact ⟨.inr ⟨stands.active, by simp [activeStatuses]⟩, agree, rfl, rfl, rfl, rfl⟩
  · have there : row.currentNode = node := by
      rw [← found]
      exact stands.node
    rw [entry.control, stands.standing, there]
    exact .at node

theorem Head.continued {node : String} {runtime : Instance}
    {recorded history : List FlowHistory} {attempts : Int} (head : Head digest runner traceId machine node) :
    AlikeMachine machine
      (resumed runner digest traceId (continued runtime recorded attempts machine.engine.run) history) := by
  rw [continued_of_present head.present]
  apply head.stands.resumes
  rw [head.state]
  exact head.traced.symm.trans Agree.counted.withTraceId

/-- What a wake finds in the row of a waiting run: with the payload that
`route_event` wrote there, or as it was. -/
def delivered (payload : Option Json) (row : FlowRun) : FlowRun :=
  match payload with
  | some event => { row with state := row.state.set "event" event }
  | none => row

variable (runner functions digest traceId) in
inductive Follows : Machine → List (Option Json) → List Machine → Prop where
  | done {machine : Machine} : Follows machine [] []
  | woken {machine next : Machine} {event : Option Json} {events : List (Option Json)}
      {later : List Machine} {history : List FlowHistory} (waiting : machine.engine.run.status = .waiting)
      (ends : Ends runner functions Anyhow
        (resumed runner digest traceId (delivered event machine.engine.run) history) next)
      (follows : Follows next events later) :
      Follows machine (event :: events) (next :: later)

theorem AlikeRun.delivered (rows : AlikeRun row row') {payload : Option Json} :
    AlikeRun (delivered payload row) (delivered payload row') := by
  cases payload with
  | none => exact rows
  | some => exact rows.withState rows.state.set

theorem follows_alike (blind : Blind runner functions)
    (follows : Follows runner functions digest traceId machine events later)
    (alike : AlikeMachine machine machine') :
    ∃ later', Follows runner functions digest traceId machine' events later' ∧
      List.Forall₂ AlikeMachine later later' := by
  induction follows generalizing machine' with
  | done => exact ⟨[], .done, .nil⟩
  | @woken machine next event events later history waiting ends follows ih =>
    have waiting' : machine'.engine.run.status = .waiting := alike.engine.run.waiting.mp waiting
    have rows : AlikeRun (delivered event machine.engine.run) (delivered event machine'.engine.run) :=
      alike.engine.run.delivered
    obtain ⟨next', ends', alike'⟩ :=
      ends_alike blind ends (@resumed_alike runner digest traceId _ _ history [] rows)
    obtain ⟨later', follows', all⟩ := ih alike'
    exact ⟨next' :: later', .woken waiting' ends' follows', .cons alike' all⟩

/-- A crash between two commits of the loop leaves either the row at which the
loop stopped anyway, or a row from which the continuation drives the run to the
same waits, the same statuses and the same states. -/
theorem crash_continuation_transparent {nodes : JsonNodes} (blind : Blind runner nodes.json) {first final : Machine}
    {crashed : FlowRun} {events : List (Option Json)} {later : List Machine}
    (begun : Begun runner digest traceId first) (ends : Ends runner nodes.json Orderly first final)
    (follows : Follows runner nodes.json digest traceId final events later)
    (durable : Durable first final crashed) : (crashed.status ∉ activeStatuses → crashed = final.engine.run) ∧
    ∀ runtime flow store attempts, crashed.status ∈ activeStatuses → store.row = some crashed →
      assess runtime flow crashed.state = .ok (.claims attempts) →
      ((tryContinueFlowRun runtime flow crashed .quiet).run store).2.row =
        some (continued runtime store.history attempts crashed) ∧
      ∀ history', ∃ final' later',
        Ends runner nodes.json Anyhow
          (resumed runner digest traceId (continued runtime store.history attempts crashed) history')
          final' ∧
        AlikeMachine final final' ∧
        Follows runner nodes.json digest traceId final' events later' ∧
        List.Forall₂ AlikeMachine later later' := by
  obtain ⟨_, head⟩ := begun.head
  rcases durable.row head ends with ⟨machine, node, head, rfl, ends⟩ | ⟨rfl, resting⟩
  · refine ⟨fun resting => absurd head.active resting, ?_⟩
    intro runtime flow store attempts active stored claims
    refine ⟨by rw [tryContinueFlowRun_claims stored active claims], fun history' => ?_⟩
    obtain ⟨final', ends', alike⟩ := ends_alike blind ends
      (@Head.continued _ _ _ _ _ runtime store.history history' attempts head)
    obtain ⟨later', follows', all⟩ := follows_alike blind follows alike
    exact ⟨final', later', ends', alike, follows', all⟩
  · exact ⟨fun _ => rfl, fun _ _ _ _ active => absurd active resting⟩

/-! A node, a group of two branches and a last node, each of which writes the
patch it is given. -/

def writing (patch : String → State) : Functions := fun node _ =>
  .ok ⟨some "SUCCESS", some (patch node), none, .null, none⟩

def writtenNodes (patch : String → State) : JsonNodes :=
  ⟨fun node _ => (writing patch node ∅).map pyResult, writing patch, fun _ _ => rfl⟩

theorem resolveNextNode_of_ungated (ungated : ∀ edge rest, flow.edgesOf node ≠ .list (.gated edge :: rest)) :
    resolveNextNode predicates flow node left = resolveNextNode predicates flow node right := by
  unfold resolveNextNode
  split
  case h_3 edge rest found => exact absurd found (ungated edge rest)
  all_goals rfl

theorem Blind.plain
    (function : ∀ node {left right}, Agree left right → functions node left = functions node right)
    (ungated : ∀ node edge rest, flow.edgesOf node ≠ .list (.gated edge :: rest)) :
    Blind (Runner.plain flow registered) functions where
  function := function
  edges node _ _ _ := resolveNextNode_of_ungated (ungated node)
  extractor extracted := by cases extracted
  resultKey := by simp [Runner.plain]

theorem writing_blind : Blind splitRunner (writing patch) := by
  refine .plain (fun _ _ _ _ => rfl) fun node edge rest => ?_
  have declared : splitRunner.flow.edges.get? node =
      if "split" = node then some (.group ⟨["left", "right"], .all, by decide, by decide, trivial⟩)
      else if "left" = node then some (.list [.bare "done"])
      else if "right" = node then some (.list [.bare "done"])
      else none := rfl
  change splitRunner.flow.edgesOf node ≠ _
  rw [Flow.edgesOf, declared]
  split_ifs <;> simp

def splitRow : FlowRun :=
  ⟨.running, Dict.ofList [("trace_id", .str "t")], "split", none, .null, .null, none⟩

def continuing : Instance := ⟨true, 3, true, true, ["split"], [], [], .ascii⟩

def joinedRow (state : List (String × Json)) : FlowRun :=
  { splitRow with currentNode := "done", state := Dict.ofList state }

def ownCell (node : String) : State := Dict.ofList [(node, .bool true)]

def joinedCells : List (String × Json) :=
  [("trace_id", .str "t"), ("split", .bool true), ("left", .bool true), ("right", .bool true)]

theorem crash_continuation_transparent_of_join :
    ∃ final final', Ends splitRunner (writing ownCell) Orderly
        (resumed splitRunner (fun _ => "s") "t" splitRow []) final ∧
      final.engine.run.status = .success ∧
      Durable (resumed splitRunner (fun _ => "s") "t" splitRow []) final (joinedRow joinedCells) ∧
      Ends splitRunner (writing ownCell) Anyhow
        (resumed splitRunner (fun _ => "s") "t" (continued continuing [] 0 (joinedRow joinedCells)) []) final' ∧
      AlikeMachine final final' := by
  have ends : ∃ final, Ends splitRunner (writing ownCell) Orderly
      (resumed splitRunner (fun _ => "s") "t" splitRow []) final ∧
      final.engine.run.status = .success ∧
      Durable (resumed splitRunner (fun _ => "s") "t" splitRow []) final (joinedRow joinedCells) := by
    refine ⟨_, .step rfl ⟨by decide, ?_, ?_⟩ (.step rfl ⟨by decide, ?_, ?_⟩ (.rest rfl)), rfl, ?_⟩
    · exact fun _ _ => rfl
    · exact fun stopped => absurd rfl (stopped "done")
    · exact fun _ _ => rfl
    · exact fun _ => .inr (by decide)
    · exact .inr ⟨_, (append_nil _).symm, _, mem_cons_of_mem _ mem_cons_self, rfl⟩
  obtain ⟨final, ends, finished, durable⟩ := ends
  have transparent := @crash_continuation_transparent _ _ _ (writtenNodes ownCell) writing_blind _ _ _ _ _
    (.resumed rfl (.inl (by decide))) ends .done durable
  obtain ⟨_, continues⟩ := transparent.2 continuing ⟨"split", "flow"⟩
    ⟨some (joinedRow joinedCells), [], none, 0⟩ 0 (by decide) rfl rfl
  obtain ⟨final', _, ends', alike, _⟩ := continues []
  exact ⟨final, final', ends, finished, durable, ends', alike⟩

def blanksTraceId (node : String) : State :=
  if node = "split" then Dict.ofList [("trace_id", .str "")] else ∅

def blankRow : FlowRun := joinedRow [("trace_id", .str "")]

/-- The first node writes an empty trace id. The loop goes on with it, but a
crash after the superstep has `resume` write the run's own trace id again. -/
theorem crash_continuation_restores_trace_id :
    ∃ final final',
      Ends splitRunner (writing blanksTraceId) Anyhow
        (resumed splitRunner (fun _ => "s") "t" splitRow []) final ∧
      Durable (resumed splitRunner (fun _ => "s") "t" splitRow []) final blankRow ∧
      ((tryContinueFlowRun continuing ⟨"split", "flow"⟩ blankRow .quiet).run
        ⟨some blankRow, [], none, 0⟩).2.row = some (continued continuing [] 0 blankRow) ∧
      Ends splitRunner (writing blanksTraceId) Anyhow
        (resumed splitRunner (fun _ => "s") "t" (continued continuing [] 0 blankRow) []) final' ∧
      final.engine.run.status = .success ∧ final'.engine.run.status = .success ∧
      final.engine.run.state.get? "trace_id" = some (.str "") ∧
      final'.engine.run.state.get? "trace_id" = some (.str "t") := by
  refine ⟨_, _, .step rfl trivial (.step rfl trivial (.rest rfl)), ?_, rfl,
    .step rfl trivial (.rest rfl), rfl, rfl, rfl, rfl⟩
  exact .inr ⟨_, (append_nil _).symm, _, mem_cons_of_mem _ mem_cons_self, rfl⟩

end AindyRuntime.Continuation
