import AindyRuntime.FlowEngine.Runner

/-! # Invariants of the loop's parts

An invariant that the loop's plain writes preserve is kept by every part of an
iteration short of the commits that end a node: those of a completion, of a
handoff and of the move to the next node.
-/

namespace AindyRuntime.FlowEngine

open Program (Keeps)

structure Stable (Invariant : Engine → Prop) : Prop where
  fail : ∀ {engine} message, Invariant engine → Invariant (engine.fail message)
  acquire : ∀ {engine}, engine.holdsSlot = false → Invariant engine → Invariant engine.acquireSlot
  parkOnResources : ∀ {engine} node, Invariant engine → Invariant (engine.parkOnResources node)
  parkOnWait : ∀ {engine} node waitFor,
    Invariant engine → Invariant (engine.parkOnWait node waitFor)
  enterNode : ∀ {engine} node, Invariant engine → Invariant (engine.enterNode node)
  withState : ∀ {engine} state, Invariant engine → Invariant (engine.withState state)
  record : ∀ {engine} rows, Invariant engine → Invariant (engine.record rows)

namespace Stable

variable (stable : Stable Invariant)
include stable

theorem failExecution {calls : FailureCalls} : (failExecution calls message node).Keeps Invariant := by
  refine .bind (.modify fun _ => stable.fail message) fun _ => ?_
  refine .bind .call fun _ => .bind .call fun _ => .bind .call fun _ => .pure

theorem takeSlot : (takeSlot calls).Keeps Invariant := by
  intro engine holds
  simp only [FlowEngine.takeSlot, Program.yields_bind, Program.yields_ite,
    Program.yields_pure, Program.yields_call, Program.yields_modify]
  refine ⟨fun _ => holds, fun free => ⟨fun answer _ => ⟨fun _ => ?_, fun _ => holds⟩, fun _ _ => holds⟩⟩
  exact stable.acquire (by simpa using free) holds

theorem checkResources : (checkResources calls node).Keeps Invariant := by
  refine .attempt (.bind stable.takeSlot fun answer => .ite ?_ ?_) fun error => .ite .pure .raise
  · refine .bind (.modify fun _ => stable.parkOnResources node) fun _ => ?_
    exact .bind .call fun _ => .pure
  · refine .bind .call fun quota => .ite ?_ .pure
    exact .bind stable.failExecution fun _ => .pure

theorem executeNode : (executeNode runner node nodeRun).Keeps Invariant := by
  refine .bind .call fun _ => .bind (.modify fun engine holds => ?_) fun _ => .call
  exact stable.withState nodeRun.after (stable.enterNode node holds)

theorem executeCurrentNode : (executeCurrentNode runner calls node).Keeps Invariant := by
  refine .bind stable.checkResources fun answer => ?_
  cases answer with
  | some => exact .pure
  | none =>
    refine .attempt (.bind stable.executeNode fun _ => .pure) fun error => ?_
    exact .bind .call fun _ => .bind stable.failExecution fun _ => .pure

theorem mergeSuperstep : (mergeSuperstep runner outcomes).Keeps Invariant :=
  .bind .read fun _ => .bind (.modify fun _ => stable.withState _) fun _ => .call

theorem failNode : (failNode calls message node).Keeps Invariant :=
  .bind stable.failExecution fun _ => .pure

theorem parkedOnWait : (FlowEngine.parkOnWait calls node waitFor pending).Keeps Invariant := by
  refine .bind (.modify fun _ => stable.withState _) fun _ => ?_
  refine .bind (.modify fun _ => stable.parkOnWait node waitFor) fun _ => ?_
  exact .bind .call fun _ => .bind .call fun _ => .pure

theorem runBranch : (runBranch runner calls node).Keeps Invariant := by
  simp only [FlowEngine.runBranch]
  cases admitNode runner node with
  | error => exact .pure
  | ok => exact .bind (.modify fun _ => stable.enterNode node) fun _ => .pure

theorem runFanOutBranches : (runFanOutBranches runner calls targets).Keeps Invariant := by
  induction targets with
  | nil => exact .pure
  | cons target rest ih => exact .bind stable.runBranch fun _ => .bind ih fun _ => .pure

theorem notePartial : (notePartial outcome branches).Keeps Invariant := by
  refine .ite (.bind .read fun _ => .bind .call fun _ => ?_) .pure
  exact .modify fun _ => stable.withState _

theorem executeSuperstep {frontier : FanOutEdgeGroup} :
    (executeSuperstep runner calls frontier).Keeps Invariant := by
  refine .bind .read fun _ => .bind stable.runFanOutBranches fun _ => .bind .call fun _ => ?_
  refine .bind (.modify fun _ => stable.record _) fun _ => .bind stable.mergeSuperstep fun _ => ?_
  refine .bind .call fun _ => .bind stable.notePartial fun _ => .bind .read fun _ => ?_
  exact .bind .call fun _ => .call

theorem trySuperstep {frontier : FanOutEdgeGroup} : (trySuperstep runner calls node frontier).Keeps Invariant := by
  refine .attempt (.bind stable.executeSuperstep fun _ => .pure) fun _ => ?_
  exact .bind stable.failExecution fun _ => .pure

theorem noNextNode : (noNextNode calls node).Keeps Invariant :=
  .bind stable.failExecution fun _ => .pure

theorem proceed (moved : ∀ engine next, Invariant engine → Invariant (engine.moveTo point next)) :
    (proceed calls node point successor).Keeps Invariant := by
  refine .ite stable.noNextNode (.bind ?_ fun _ => .pure)
  cases successor with
  | node next => exact .bind (.modify fun engine => moved engine next) fun _ => .pure
  | group => exact .raise

theorem advanceToNextNode
    (moved : ∀ point engine next, Invariant engine → Invariant (engine.moveTo point next)) :
    (advanceToNextNode runner calls node status).Keeps Invariant := by
  refine .bind .read fun engine => ?_
  split
  · exact .ite (.bind stable.failExecution fun _ => .pure) .raise
  · exact stable.noNextNode
  · exact stable.proceed (moved _)
  · refine .bind stable.trySuperstep fun reached => ?_
    cases reached with
    | inl => exact .pure
    | inr => exact stable.proceed (moved _)

theorem maybeFinalizeCompletion
    (completed : ∀ engine point, Invariant engine → Invariant (engine.complete point))
    (handedOff : ∀ engine point status node jobLogId,
      Invariant engine → Invariant (engine.handOff point status node jobLogId)) :
    (maybeFinalizeCompletion runner calls node status).Keeps Invariant := by
  refine .ite .pure (.attempt (.bind .read fun engine => .bind .call fun result => ?_) fun error => ?_)
  · split
    · refine .ite .raise (.bind (.modify fun engine => handedOff engine _ _ _ _) fun _ => ?_)
      exact .ite .raise (.bind .call fun _ => .pure)
    · refine .bind .call fun _ => .bind (.modify fun engine => completed engine _) fun _ => ?_
      exact .bind .call fun _ => .bind .call fun _ => .bind .call fun _ => .pure
  · exact stable.failNode

theorem handleNodeStatus
    (finalized : (FlowEngine.maybeFinalizeCompletion runner calls node status).Keeps Invariant) :
    (handleNodeStatus runner calls node result status).Keeps Invariant := by
  simp only [FlowEngine.handleNodeStatus]
  split
  · exact .bind (.modify fun _ => stable.withState _) fun _ => finalized
  · exact .bind .read fun _ => .ite .pure stable.failNode
  · exact stable.failNode
  · split
    · exact stable.failNode
    · exact stable.failNode
    · split
      · exact stable.failNode
      · exact stable.parkedOnWait
  · exact finalized

theorem iteration (finalized : ∀ status, (FlowEngine.maybeFinalizeCompletion runner calls node status).Keeps Invariant)
    (moved : ∀ point engine next, Invariant engine → Invariant (engine.moveTo point next)) :
    (iteration runner calls node).Keeps Invariant := by
  refine .ite .pure (.bind .read fun engine => .bind .call fun _ => ?_)
  refine .bind stable.executeCurrentNode fun answer => ?_
  cases answer with
  | inl => exact .pure
  | inr =>
    refine .ite .pure ?_
    simp only [FlowEngine.finishNode]
    split
    · exact .raise
    · refine .bind (.modify fun _ => stable.record _) fun _ => .bind .call fun _ => ?_
      refine .bind stable.mergeSuperstep fun _ => ?_
      refine .bind (stable.handleNodeStatus (finalized _)) fun handled => ?_
      cases handled with
      | retry | final response => exact .pure
      | advance =>
        refine .bind (stable.advanceToNextNode moved) fun reached => ?_
        cases reached with
        | inl response | inr next => exact .pure

end Stable

theorem step_engine (stepped : (engineLoop runner).step machine calls = some next)
    (kept : ∀ node, machine.control = .at node →
      (iteration runner calls node).Yields machine.engine (fun _ => Invariant) (fun _ => Invariant)) :
    Invariant next.engine := by
  simp only [engineLoop] at stepped
  split at stepped <;> cases stepped
  case h_1 node located =>
    have left := (kept node located).left_state
    generalize (iteration runner calls node).run machine.engine = ended at left ⊢
    obtain ⟨_ | _ | _, _⟩ := ended <;> exact left

theorem loop_keeps (kept : ∀ calls node, (iteration runner calls node).Keeps Invariant)
    (holds : Invariant initial.engine) (ran : (engineLoop runner).run initial iterations = some final) :
    Invariant final.engine := by
  refine @StepSystem.invariant_run _ _ _ _ _ _ (fun machine => Invariant machine.engine) ?_ holds ran
  exact fun holds stepped => step_engine stepped fun node _ => kept _ node _ holds

end AindyRuntime.FlowEngine
