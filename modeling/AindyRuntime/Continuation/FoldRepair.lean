import AindyRuntime.Continuation.IterationRows
import AindyRuntime.Continuation.Transparency

/-! # Repairing a lost snapshot from the history

With fold repair on, `try_continue_flow_run` replaces an empty snapshot by the
fold of the FlowHistory rows and leaves `current_node` as it is.
-/

namespace AindyRuntime.Continuation

open FlowEngine

variable {runner : Runner} {functions : Functions} {digest : Json → String} {traceId : String}
variable {textCase : TextCase} {runtime : Instance}

variable (machine next : Machine) in
/-- The rows that a crash in the middle of an iteration finds committed: those of
the earlier iterations, then the node's, then those of the branches. -/
inductive Written : List FlowHistory → Prop where
  | earlier : Written machine.engine.history
  | node {row : FlowHistory} {rows : List FlowHistory}
      (written : next.engine.history = machine.engine.history ++ row :: rows) :
      Written (machine.engine.history ++ [row])
  | branches : Written next.engine.history

variable (runner functions) in
/-- A row of the run, with its history, that a crash of the loop leaves in the
database: in the middle of an iteration the row is the one the iteration began
with, and afterwards one that it committed. -/
inductive Crash :
    Machine → FlowRun → List FlowHistory → Prop where
  | within {machine next : Machine} {recorded : List FlowHistory}
      (driven : drive runner functions machine = some next) (written : Written machine next recorded) :
      Crash machine machine.engine.run recorded
  | committed {machine next : Machine} {newer : List Commit} {commit : Commit}
      (driven : drive runner functions machine = some next)
      (commits : next.engine.commits = newer ++ machine.engine.commits) (member : commit ∈ newer) :
      Crash machine commit.run commit.history
  | later {machine next : Machine} {row : FlowRun} {recorded : List FlowHistory}
      (driven : drive runner functions machine = some next)
      (crash : Crash next row recorded) :
      Crash machine row recorded

variable (runner functions textCase) in
/-- The crash points at which the last row and the row of the run are of one
moment: after a node's row whose patch the fold does not need, and after an
iteration whose last row tells what it left. -/
inductive Consistent :
    Machine → FlowRun → List FlowHistory → Prop where
  | inert {machine next : Machine} {node status : String} {result : NodeResult}
      {rows : List FlowHistory} (driven : drive runner functions machine = some next)
      (written : next.engine.history = machine.engine.history ++ nodeRow machine.engine node result status :: rows)
      (inert : Inert textCase machine.engine.state result status) :
      Consistent machine machine.engine.run
        (machine.engine.history ++ [nodeRow machine.engine node result status])
  | advanced {machine next : Machine} {node node' : String} (standing : machine.control = .at node)
      (driven : drive runner functions machine = some next) (standing' : next.control = .at node')
      (tells : TellingAt runner functions textCase node machine.engine.state) :
      Consistent machine next.engine.run next.engine.history
  | later {machine next : Machine} {row : FlowRun} {recorded : List FlowHistory}
      (driven : drive runner functions machine = some next)
      (consistent : Consistent next row recorded) :
      Consistent machine row recorded

namespace Consistent

theorem crash (consistent : Consistent runner functions textCase machine row recorded) :
    Crash runner functions machine row recorded := by
  induction consistent with
  | inert driven written => exact .within driven (.node written)
  | advanced _ driven standing' => exact .later driven (.within (drive_at standing') .earlier)
  | later driven _ ih => exact .later driven ih

theorem standing (consistent : Consistent runner functions textCase machine row recorded) :
    ∃ node, machine.control = .at node := by
  have driven : ∃ next, drive runner functions machine = some next := by
    cases consistent with
    | inert driven | advanced _ driven | later driven => exact ⟨_, driven⟩
  obtain ⟨_, driven⟩ := driven
  obtain ⟨node, standing, _⟩ := drive_some driven
  exact ⟨node, standing⟩

end Consistent

theorem Ends.next {next : Machine}
    (ends : Ends runner functions Ok machine final) (driven : drive runner functions machine = some next) :
    Ends runner functions Ok next final := by
  cases ends with
  | rest stopped => exact absurd (stopped.symm.trans driven) (by simp)
  | step driven' _ ends =>
    obtain rfl := Option.some.inj (driven'.symm.trans driven)
    exact ends

/-- The row is that of a machine on the way, and the fold is that machine's state. -/
theorem Consistent.crashed (consistent : Consistent runner functions textCase machine row recorded)
    (stands : Stands digest runner machine node) (ends : Ends runner functions Anyhow machine final) :
    ∃ crashed node, Stands digest runner crashed node ∧ crashed.engine.run = row ∧
      Ends runner functions Anyhow crashed final ∧
      Agree (reconstructState textCase recorded) crashed.engine.state := by
  induction consistent generalizing node with
  | inert driven written inert => exact ⟨_, node, stands, rfl, ends, inert.nodeRow⟩
  | advanced standing driven standing' tells =>
    have here := Control.at.inj (stands.standing.symm.trans standing)
    have told := drive_tells standing (stands.node.trans here) tells driven standing'
    exact ⟨_, _, stands.next driven standing', rfl, ends.next driven, told⟩
  | later driven consistent ih =>
    obtain ⟨_, standing'⟩ := consistent.standing
    exact ih (stands.next driven standing') (ends.next driven)

def lostRow (row : FlowRun) : FlowRun := { row with state := ∅ }

theorem continued_of_lost (repairs : runtime.foldRepair = true) :
    continued runtime recorded attempts (lostRow row) =
      { row with
        status := .executing
        state := counted attempts (reconstructState runtime.textCase recorded) } := by
  have found : (rebuilt? runtime recorded ∅).getD ∅ = reconstructState runtime.textCase recorded := by
    have lost : (∅ : State).entries.isEmpty = true := rfl
    simp only [rebuilt?, repairs, lost, Bool.and_self, if_true]
    split
    case isTrue empty =>
      generalize reconstructState runtime.textCase recorded = rebuilt at empty ⊢
      obtain ⟨entries, _⟩ := rebuilt
      obtain rfl : entries = [] := by simpa using empty
      rfl
    case isFalse => rfl
  rw [continued, lostRow, found]

/-- The new runner stands where the crashed one stood, if the history tells the
state of the crashed one. -/
theorem Stands.repaired {node : String} {recorded history : List FlowHistory}
    {attempts : Int} (stands : Stands digest runner machine node)
    (repairs : runtime.foldRepair = true) (traced : hasTraceId machine.engine.state = true)
    (told : Agree (reconstructState runtime.textCase recorded) machine.engine.state) :
    AlikeMachine machine
      (resumed runner digest traceId (continued runtime recorded attempts (lostRow machine.engine.run))
        history) := by
  rw [continued_of_lost repairs]
  apply stands.resumes
  have kept : withTraceId machine.engine.state traceId = machine.engine.state :=
    withTraceId_of_has traced
  rw [← kept]
  exact (told.symm.trans Agree.counted).withTraceId

/-- A crash at a consistent point loses nothing with the snapshot: the
continuation rebuilds the state the loop stood with, and drives the run to the
same waits, the same statuses and the same states. -/
theorem fold_repair_transparent {nodes : JsonNodes} (blind : Blind runner nodes.json) {first final : Machine}
    {crashedRow : FlowRun} {recorded : List FlowHistory} {events : List (Option Json)} {later : List Machine}
    (begun : Begun runner digest traceId first) (ends : Ends runner nodes.json Anyhow first final)
    (follows : Follows runner nodes.json digest traceId final events later)
    (consistent : Consistent runner nodes.json runtime.textCase first crashedRow recorded)
    (traced : hasTraceId crashedRow.state = true) (repairs : runtime.foldRepair = true) :
    ∀ flow store attempts, store.row = some (lostRow crashedRow) → store.history = recorded →
      assess runtime flow ∅ = .ok (.claims attempts) →
      ((tryContinueFlowRun runtime flow (lostRow crashedRow) .quiet).run store).2.row =
        some (continued runtime recorded attempts (lostRow crashedRow)) ∧
      ∃ crashed, crashed.engine.run = crashedRow ∧ Ends runner nodes.json Anyhow crashed final ∧
        ∀ history',
          AlikeMachine crashed
            (resumed runner digest traceId (continued runtime recorded attempts (lostRow crashedRow)) history') ∧
          ∃ final' later',
            Ends runner nodes.json Anyhow
              (resumed runner digest traceId (continued runtime recorded attempts (lostRow crashedRow))
                history') final' ∧
            AlikeMachine final final' ∧
            Follows runner nodes.json digest traceId final' events later' ∧
            List.Forall₂ AlikeMachine later later' := by
  intro flow store attempts stored kept claims
  obtain ⟨_, head⟩ := begun.head
  obtain ⟨crashed, node, stands, rfl, ends, told⟩ := consistent.crashed head.stands ends
  have active : (lostRow crashed.engine.run).status ∈ activeStatuses := stands.active
  subst kept
  refine ⟨by rw [tryContinueFlowRun_claims stored active claims], crashed, rfl, ends, fun history' => ?_⟩
  rw [stands.state] at traced
  have alike := @Stands.repaired runner digest traceId runtime crashed node store.history history' attempts
    stands repairs traced told
  obtain ⟨final', ends', same⟩ := ends_alike blind ends alike
  obtain ⟨later', follows', all⟩ := follows_alike blind follows same
  exact ⟨alike, final', later', ends', same, follows', all⟩

def countRunner : Runner :=
  Runner.plain ⟨"count", ["done"], Dict.ofList [("count", .list [.bare "done"])], ∅, ∅⟩ ["count", "done"]

theorem find?_ofEntries {entries : List (String × Json)} :
    Dict.Entries.find? key (PyObject.ofEntries entries) = (Dict.Entries.find? key entries).map PyObject.ofJson := by
  induction entries with
  | nil => rfl
  | cons entry rest ih =>
      simp only [PyObject.ofEntries, Dict.Entries.find?, ih]
      split <;> rfl

def countOf (state : State) : Int :=
  match state.get? "n" with
  | some (.int count) => count
  | _ => 0

def counting : Functions := fun node state =>
  .ok ⟨some "SUCCESS",
    some (if node = "count" then Dict.ofList [("n", .int (countOf state + 1))] else ∅), none, .null, none⟩

def pyCountOf (entries : PyEntries) : Int :=
  match Dict.Entries.find? "n" entries with
  | some (.int count) => count
  | _ => 0

theorem pyCountOf_ofEntries {state : State} : pyCountOf (PyObject.ofEntries state.entries) = countOf state := by
  simp only [pyCountOf, countOf, Dict.get?, find?_ofEntries]
  rcases Dict.Entries.find? "n" state.entries with _ | (_ | _ | _ | _ | _ | _) <;> rfl

def countingNodes : JsonNodes where
  python node entries :=
    (counting node (Dict.ofList [("n", .int (pyCountOf entries))])).map pyResult
  json := counting
  valued node state := by
    rw [pyCountOf_ofEntries]
    rfl

theorem counting_blind : Blind countRunner counting := by
  refine .plain (fun node left right agree => ?_) fun node edge rest => ?_
  · have same : countOf left = countOf right := by
      simp only [countOf]
      rw [agree "n" (by decide)]
    simp [counting, same]
  · have declared : countRunner.flow.edges.get? node =
        if "count" = node then some (.list [.bare "done"]) else none := rfl
    change countRunner.flow.edgesOf node ≠ _
    rw [Flow.edgesOf, declared]
    split_ifs <;> simp

def countRow : FlowRun :=
  ⟨.running, Dict.ofList [("trace_id", .str "t"), ("n", .int 0)], "count", none, .null, .null, none⟩

def countedRow : FlowRun :=
  { countRow with currentNode := "done", state := Dict.ofList [("trace_id", .str "t"), ("n", .int 1)] }

def countHistory : List FlowHistory :=
  [⟨"count", "SUCCESS", Dict.ofList [("trace_id", .str "t"), ("n", .int 0)],
    some (Dict.ofList [("n", .int 1)]), .null, some 1⟩]

def repairing : Instance := { continuing with registered := ["count"] }

def countMachine : Machine := resumed countRunner (fun _ => "s") "t" countRow []

theorem fold_repair_transparent_of_advance :
    ∃ final final', Ends countRunner counting Anyhow countMachine final ∧
      Crash countRunner counting countMachine countedRow countHistory ∧
      Ends countRunner counting Anyhow
        (resumed countRunner (fun _ => "s") "t"
          (continued repairing countHistory 0 (lostRow countedRow)) countHistory) final' ∧
      final.engine.run.state.get? "n" = some (.int 1) ∧
      AlikeMachine final final' := by
  have ends : ∃ final, Ends countRunner counting Anyhow countMachine final ∧
      final.engine.run.state.get? "n" = some (.int 1) :=
    ⟨_, .step rfl trivial (.step rfl trivial (.rest rfl)), rfl⟩
  obtain ⟨final, ends, counted⟩ := ends
  have tells : TellingAt countRunner counting repairing.textCase "count" countMachine.engine.state := by
    intro result status returned reported
    cases returned
    cases reported
    exact ⟨fun _ => rfl, fun _ declared => by cases declared⟩
  have consistent : Consistent countRunner counting repairing.textCase countMachine countedRow
      countHistory := @Consistent.advanced _ _ _ countMachine _ "count" "done" rfl rfl rfl tells
  obtain ⟨_, _, _, _, repaired⟩ := @fold_repair_transparent _ _ _ _ countingNodes counting_blind _ _ _ _ _ _
    (.resumed rfl (.inl (by decide))) ends .done consistent rfl rfl ⟨"count", "flow"⟩
    ⟨some (lostRow countedRow), countHistory, none, 0⟩ 0 rfl rfl rfl
  obtain ⟨_, final', _, ends', alike, _⟩ := repaired countHistory
  exact ⟨final, final', ends, consistent.crash, ends', counted, alike⟩

/-- The crash falls between the commit of the counting node's row and the commit
that moves the run on: the fold holds the count already, and the node counts
again on top of it. -/
theorem counting_node_counts_its_own_result :
    ∃ final final', Ends countRunner counting Anyhow countMachine final ∧
      Crash countRunner counting countMachine countRow countHistory ∧
      ((tryContinueFlowRun repairing ⟨"count", "flow"⟩ (lostRow countRow) .quiet).run
        ⟨some (lostRow countRow), countHistory, none, 0⟩).2.row =
          some (continued repairing countHistory 0 (lostRow countRow)) ∧
      Ends countRunner counting Anyhow
        (resumed countRunner (fun _ => "s") "t"
          (continued repairing countHistory 0 (lostRow countRow)) countHistory) final' ∧
      final.engine.run.status = .success ∧ final'.engine.run.status = .success ∧
      final.engine.run.state.get? "n" = some (.int 1) ∧
      final'.engine.run.state.get? "n" = some (.int 2) := by
  refine ⟨_, _, .step rfl trivial (.step rfl trivial (.rest rfl)), ?_, rfl,
    .step rfl trivial (.step rfl trivial (.rest rfl)), rfl, rfl, rfl, rfl⟩
  exact @Crash.within _ _ countMachine _ countHistory rfl (@Written.node countMachine _ _ [] rfl)

end AindyRuntime.Continuation
