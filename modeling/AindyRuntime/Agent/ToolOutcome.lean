import AindyRuntime.Agent.ToolSeam

namespace AindyRuntime.Tool

open EffectLedger Program
open PyObject (DumpError)

variable {deployment : Deployment} {call : Call}
variable {before world : World}

structure Holding (gate : Gate) (before world : World) : Prop where
  lock : world.locked = (gate.locked || before.locked)
  free : gate.locked = true → before.locked = false

theorem Holding.release (holding : Holding gate before world) : (world.release gate).locked = before.locked := by
  have released : (world.release gate).locked = (!gate.locked && world.locked) := rfl
  rw [released, holding.lock]
  cases locked : gate.locked
  · rfl
  · exact (holding.free locked).symm

def LockIs (held : Bool) (world : World) : Prop := world.locked = held

def LockKept (before : World) : Opening → World → Prop
  | .answered _, after => LockIs before.locked after
  | .through gate, after => Holding gate before after

theorem resolveFailed_lock (holding : Holding gate before world) :
    (resolveFailed call gate).Yields world (LockKept before)
      (fun _ => LockIs before.locked) := by
  simp only [resolveFailed, yields_ite, yields_bind, yields_modify, yields_pure]
  exact ⟨fun _ => holding.release, fun _ => ⟨holding.lock, holding.free⟩⟩

theorem resolveEffectRecord_lock (holding : Holding gate before world) :
    (resolveEffectRecord call gate).Yields world (LockKept before)
      (fun _ => LockIs before.locked) := by
  simp only [resolveEffectRecord, yields_bind, yields_read]
  split
  · exact ⟨holding.lock, holding.free⟩
  · split
    · exact ⟨holding.lock, holding.free⟩
    · simp only [yields_ite, yields_bind, yields_modify, yields_pure]
      exact ⟨fun _ => holding.release, fun _ => holding⟩
    · exact holding.release
    · simp only [yields_bind, yields_modify, yields_call, yields_pure]
      exact ⟨fun _ _ => holding.release, fun _ _ => holding.release⟩

theorem acquireEffectLock_free (acquired : acquireEffectLock deployment call world = .acquired) :
    world.locked = false := by
  simp only [acquireEffectLock] at acquired
  repeat' split at acquired
  all_goals simp_all

theorem enterGate_lock :
    (enterGate deployment call).Yields before (LockKept before)
      (fun _ => LockIs before.locked) := by
  simp only [enterGate, yields_bind, yields_ite, yields_pure, yields_modify]
  refine ⟨fun _ => rfl, fun _ => ?_⟩
  have holding : Holding ⟨true, decide (acquireEffectLock deployment call before = .acquired)⟩ before
      (before.take ⟨true, decide (acquireEffectLock deployment call before = .acquired)⟩) :=
    ⟨rfl, fun acquired => acquireEffectLock_free (of_decide_eq_true acquired)⟩
  split
  · exact resolveFailed_lock holding
  · exact resolveEffectRecord_lock holding

theorem openGate_lock :
    (openGate deployment call).Yields before (LockKept before)
      (fun _ => LockIs before.locked) := by
  have ungated : Holding ⟨false, false⟩ before before := ⟨rfl, by simp⟩
  simp only [openGate]
  split
  · rfl
  · simp only [admitCall, yields_ite, yields_bind, yields_call]
    refine ⟨fun _ => ⟨fun _ _ => ?_, fun _ _ => rfl⟩, fun _ => ?_⟩
    · split
      · rfl
      · exact enterGate_lock
    · split
      · rfl
      · exact ungated

section Keeps

theorem completeEffectRecord_keeps : (completeEffectRecord call status payload).Keeps (LockIs held) := by
  simp only [completeEffectRecord]
  split
  · exact .pure
  · exact .modify fun _ locked => locked

theorem finalizeFailed_keeps : (finalizeFailed call gate).Keeps (LockIs held) :=
  .ite completeEffectRecord_keeps .pure

theorem finalizeUnknown_keeps : (finalizeUnknown call gate detail).Keeps (LockIs held) :=
  .ite completeEffectRecord_keeps .pure

theorem finalizeSuccess_keeps : (finalizeSuccess deployment call gate result).Keeps (LockIs held) :=
  .ite (.bind .call fun _ => completeEffectRecord_keeps) .pure

theorem checkToolReturn_keeps : (checkToolReturn deployment result).Keeps (LockIs held) := by
  simp only [checkToolReturn]
  split
  · split
    · exact .raise
    · exact .pure
  · exact .pure

theorem runIsolated_keeps : (runIsolated deployment call gate).Keeps (LockIs held) := by
  refine .bind .call fun _ => .bind (.modify fun _ locked => locked) fun _ => .bind .call
    fun envelope => ?_
  refine .bind ?_ fun _ => .bind (.ite checkToolReturn_keeps .pure) fun _ => .pure
  exact .ite finalizeSuccess_keeps (.ite finalizeUnknown_keeps finalizeFailed_keeps)

theorem runInProcess_keeps : (runInProcess deployment call gate).Keeps (LockIs held) := by
  refine .bind (.modify fun _ locked => locked) fun _ => ?_
  split
  · exact .raise
  · exact .raise
  · exact .bind checkToolReturn_keeps fun _ => .bind finalizeSuccess_keeps fun _ => .pure

theorem dispatch_keeps : (dispatch deployment call gate).Keeps (LockIs held) := by
  simp only [dispatch]
  split
  · exact .bind finalizeFailed_keeps fun _ => .pure
  · exact .ite (.bind finalizeFailed_keeps fun _ => .pure)
      (.ite runIsolated_keeps runInProcess_keeps)

theorem dispatchFailed_keeps : (dispatchFailed call gate raised).Keeps (LockIs held) := by
  cases raised with
  | interrupt => exact .raise
  | exception => exact .bind (.ite finalizeUnknown_keeps finalizeFailed_keeps) fun _ => .pure

end Keeps

theorem executeTool_lock :
    (executeTool deployment call).Yields before (fun _ => LockIs before.locked)
      (fun _ => LockIs before.locked) := by
  simp only [executeTool, yields_bind]
  refine openGate_lock.mono (fun opening after kept => ?_) fun _ _ kept => kept
  cases opening with
  | answered => exact kept
  | through gate =>
    have keeps : (Program.attempt (dispatch deployment call gate) (dispatchFailed call gate)).Keeps
        (LockIs after.locked) := .attempt dispatch_keeps fun _ => dispatchFailed_keeps
    rw [yields_ensuring]
    exact (keeps after rfl).mono
      (fun _ _ locked => Holding.release ⟨locked.trans kept.lock, kept.free⟩)
      fun _ _ locked => Holding.release ⟨locked.trans kept.lock, kept.free⟩

structure Guarded (deployment : Deployment) (call : Call) : Prop where
  engages : call.engages deployment = true
  resolves : call.resolveCall = .ok ()
  completes : ∀ status, call.completeCall status = .ok ()

/-- `json.dumps` stays within the recursion limit. -/
def Fits (room : Nat) (value : PyObject) : Prop := value.dumps room ≠ .error .nesting

theorem Fits.of_ok (marshals : value.dumps room = .ok dumped) : Fits room value := by
  simp [Fits, marshals]

/-- What a worker left behind tells of a function that returned in it: a reply that
the server can read and that says so, or, from a tool with a guarantee, no reply. -/
def Stdout.Tells (room : Nat) (gated : Bool) (code : Int) : Stdout → Prop
  | .blank | .unreadable _ => gated = true
  | .written reply =>
    if code ≠ 0 then gated = true
    else
      Fits room (.ofJson reply) ∧ reply.isDict = true ∧
        if (reply.get "ok").truthy then Fits room (.ofJson (reply.get "result"))
        else replyClass reply = some "unknown"

/-- The returned value crosses the pipe, or breaks the worker of a tool with a guarantee. -/
def FnExit.Crosses (room workerRoom : Nat) (gated : Bool) : FnExit → Prop
  | .raised _ | .exited _ => True
  | .returned value =>
    match value.dumps workerRoom with
    | .ok result =>
      Fits room (.ofJson (.obj [("ok", .bool true), ("result", result)])) ∧ Fits room (.ofJson result)
    | .error .nesting => gated = true
    | .error _ => False

/-- The server gets to know of a normal return in the worker. -/
def WorkerEnd.Reported (room workerRoom : Nat) (gated : Bool) : WorkerEnd → Prop
  | .notStarted _ | .unregistered => True
  | .broken fn _ => fn.any FnExit.returns = false
  | .cancelled fn | .timedOut fn => fn.any FnExit.returns = true → gated = true
  | .died fn code stdout => fn.any FnExit.returns = true → stdout.Tells room gated code
  | .ran fn => fn.Crosses room workerRoom gated

/-- A normal return of the function, in process or in the worker, is known to the seam. -/
def Call.Reported (deployment : Deployment) (call : Call) : Prop :=
  if call.isolated deployment then
    call.worker.Reported deployment.room deployment.workerRoom call.entry.gated
  else ∀ value, call.fn = .returned value → Fits deployment.room value

/-- What `recordIsolated` takes for a return. -/
def Envelope.Vouches (room : Nat) (envelope : Envelope) : Prop :=
  if envelope.success then Fits room envelope.result else envelope.failureClass = some "unknown"

theorem midCallOutcome_vouches
    (unsuccessful : envelope.success = false) (known : envelope.failureClass ≠ some "unknown") :
    (midCallOutcome effectful envelope).Vouches room ↔ effectful = true := by
  cases effectful <;> simp [midCallOutcome, Envelope.Vouches, unsuccessful, known]

theorem readReply_vouches {room : Nat} {reply : Json} :
    (∃ envelope, readReply reply = .ok envelope ∧ envelope.Vouches room) ↔
      reply.isDict = true ∧
        if (reply.get "ok").truthy then Fits room (.ofJson (reply.get "result"))
        else replyClass reply = some "unknown" := by
  simp only [readReply]
  split
  case isTrue dict =>
    split
    · simp [dict, Envelope.Vouches, Envelope.answer]
    · have declared : declaredFailureClass (replyClass reply) = some "unknown" ↔
          replyClass reply = some "unknown" := by
        simp only [declaredFailureClass, Option.filter_eq_some_iff]
        exact ⟨And.left, fun unknown => ⟨unknown, by decide⟩⟩
      simp [dict, Envelope.Vouches, Envelope.refusal, declared]
  case isFalse other => simp [other]

theorem readWorker_vouches {room : Nat} {stdout : Stdout} :
    (∃ envelope, readWorker room toolName gated code stdout = .ok envelope ∧ envelope.Vouches room) ↔
      stdout.Tells room gated code := by
  have lost (code : Int) : (midCallOutcome gated (readWorker.failed toolName code)).Vouches room ↔ gated = true :=
    midCallOutcome_vouches rfl (by simp [readWorker.failed, Envelope.refusal])
  cases stdout with
  | blank => simp [readWorker, Stdout.Tells, lost]
  | unreadable message =>
      simp only [readWorker, Stdout.Tells]
      split
      · simp [lost]
      · simp only [Except.ok.injEq, exists_eq_left']
        exact midCallOutcome_vouches rfl (by simp [Envelope.refusal])
  | written reply =>
      simp only [readWorker, Stdout.Tells]
      split
      · simp [lost]
      · split
        case h_1 nested => simp [Fits, nested]
        case h_2 fits => simp only [readReply_vouches, and_iff_right (show Fits room (.ofJson reply) from fits)]

/-- Where the function returned in the worker, the condition on its end is what the
server makes of that end. -/
theorem reported_iff_vouches (isolated : call.isolated deployment = true) (returned : call.worker.returns = true) :
    call.Reported deployment ↔
      ∃ envelope, call.outOfProcess deployment = .ok envelope ∧ envelope.Vouches deployment.room := by
  simp only [Call.Reported, isolated, if_true, Call.outOfProcess]
  cases ended : call.worker with
  | notStarted | unregistered => simp [ended, WorkerEnd.returns] at returned
  | broken =>
      simp only [ended, WorkerEnd.returns] at returned
      simp [WorkerEnd.Reported, returned, runToolOutOfProcess, workerNotStarted, Envelope.Vouches, Envelope.refusal]
  | cancelled =>
      simp only [ended, WorkerEnd.returns] at returned
      simp only [WorkerEnd.Reported, returned, forall_const, runToolOutOfProcess, Except.ok.injEq, exists_eq_left']
      exact (midCallOutcome_vouches rfl (by simp [workerCancelled, Envelope.refusal])).symm
  | timedOut =>
      simp only [ended, WorkerEnd.returns] at returned
      simp only [WorkerEnd.Reported, returned, forall_const, runToolOutOfProcess, Except.ok.injEq, exists_eq_left']
      exact (midCallOutcome_vouches rfl (by simp [workerTimedOut, Envelope.refusal])).symm
  | died =>
      simp only [ended, WorkerEnd.returns] at returned
      simp only [WorkerEnd.Reported, returned, forall_const, runToolOutOfProcess, readWorker_vouches]
  | ran fn =>
      cases fn with
      | raised | exited => simp [ended, WorkerEnd.returns, FnExit.returns] at returned
      | returned value =>
          simp only [WorkerEnd.Reported, FnExit.Crosses, runToolOutOfProcess, readWorker_vouches, runResolved]
          cases dumped : value.dumps deployment.workerRoom with
          | ok =>
              constructor
              · rintro ⟨readable, recordable⟩
                exact ⟨readable, rfl, recordable⟩
              · rintro ⟨readable, -, recordable⟩
                exact ⟨readable, recordable⟩
          | error error =>
              cases error with
              | nesting => simp [Stdout.Tells]
              | unsupported | digits =>
                  refine iff_of_false id ?_
                  rintro ⟨-, -, ⟨⟩⟩

/-- The row tells of the function: where it returned, the row is `failed` just
when the seam did not get to know. -/
structure Told (deployment : Deployment) (call : Call) (before after : World) : Prop where
  count : after.returns ≤ before.returns + 1
  row : after.returns ≠ before.returns → ∃ record, after.row = some record ∧
    record.status ≠ .pending ∧ (record.status = .failed ↔ ¬call.Reported deployment)

structure Through (before : World) (gate : Gate) (world : World) : Prop where
  gated : gate.idempotent = true
  row : ∃ record, world.row = some record
  returns : world.returns = before.returns

theorem Told.quiet (same : after.returns = before.returns) : Told deployment call before after :=
  ⟨by omega, fun grew => absurd same grew⟩

theorem Told.complete
    (present : ∃ record, world.row = some record) (count : world.returns ≤ before.returns + 1)
    (terminal : status ≠ .pending)
    (verdict : world.returns ≠ before.returns → (status = .failed ↔ ¬call.Reported deployment)) :
    Told deployment call before (world.complete status payload) := by
  obtain ⟨record, row⟩ := present
  refine ⟨count, fun grew => ⟨record.completed world.now status payload, ?_, terminal, verdict grew⟩⟩
  simp [World.complete, row]

section Finalize

section

variable (guarded : Guarded deployment call)
include guarded

theorem yields_completeEffectRecord :
    (completeEffectRecord call status payload).Yields world normal raised ↔
      normal () (world.complete status payload) := by
  simp [completeEffectRecord, guarded.completes]

theorem yields_finalizeFailed (gated : gate.idempotent = true) :
    (finalizeFailed call gate).Yields world normal raised ↔
      normal () (world.complete .failed .null) := by
  simp [finalizeFailed, gated, yields_completeEffectRecord guarded]

theorem yields_finalizeUnknown (gated : gate.idempotent = true) :
    (finalizeUnknown call gate detail).Yields world normal raised ↔
      normal () (world.complete .unknown (unknownPayload ((detail.map Json.str).getD .null))) := by
  simp [finalizeUnknown, gated, yields_completeEffectRecord guarded]

/-- A result that does not marshal is recorded as a success without its value;
only one that nests too deeply raises. -/
theorem finalizeSuccess_yields (gated : gate.idempotent = true) (fits : Fits deployment.room result)
    (recorded : ∀ payload, normal () (world.complete .success payload)) :
    (finalizeSuccess deployment call gate result).Yields world normal raised := by
  simp only [finalizeSuccess, gated, if_true, yields_bind, yields_call, yields_completeEffectRecord guarded]
  refine ⟨fun payload _ => recorded payload, fun error failed => absurd fits ?_⟩
  simp only [successPayload] at failed
  split at failed
  case h_1 | h_3 => cases failed
  case h_2 nested => exact not_not_intro nested

end

theorem finalizeSuccess_overflows (gated : gate.idempotent = true)
    (overflows : ¬Fits deployment.room result) (uncaught : raised (.exception (dumpFailed .nesting)) world) :
    (finalizeSuccess deployment call gate result).Yields world normal raised := by
  have nested : result.dumps deployment.room = .error .nesting := not_not.mp overflows
  simp only [finalizeSuccess, gated, if_true, yields_bind, yields_call, successPayload, nested]
  refine ⟨by simp [Except.mapError], ?_⟩
  rintro _ ⟨⟩
  exact uncaught

theorem checkToolReturn_yields (checked : normal () world)
    (uncaught : ¬Fits deployment.room result → raised (.exception (dumpFailed .nesting)) world) :
    (checkToolReturn deployment result).Yields world normal raised := by
  simp only [checkToolReturn]
  split
  · split
    case h_1 nested => exact uncaught (not_not_intro nested)
    case h_2 => exact checked
  · exact checked

end Finalize

def Rescued (deployment : Deployment) (call : Call) (gate : Gate) (before : World) (raised : Raised)
    (world : World) : Prop :=
  (dispatchFailed call gate raised).Yields world (fun _ => Told deployment call before)
    (fun _ => Told deployment call before)

theorem Rescued.quiet (guarded : Guarded deployment call) (gated : gate.idempotent = true)
    (same : world.returns = before.returns) : Rescued deployment call gate before raised world := by
  cases raised with
  | interrupt => exact Told.quiet same
  | exception =>
    simp only [Rescued, dispatchFailed, recordRaised, yields_bind, yields_ite,
      yields_finalizeUnknown guarded gated, yields_finalizeFailed guarded gated]
    exact ⟨fun _ => .quiet same, fun _ => .quiet same⟩

variable {error : ToolError}

section

variable (guarded : Guarded deployment call)
include guarded

theorem Rescued.failed (gated : gate.idempotent = true) (unclassed : error.failureClass = none)
    (present : ∃ record, world.row = some record) (count : world.returns ≤ before.returns + 1)
    (unreported : world.returns ≠ before.returns → ¬call.Reported deployment) :
    Rescued deployment call gate before (.exception error) world := by
  have undeclared : declaredFailureClass error.failureClass ≠ some "unknown" := by
    simp [unclassed, declaredFailureClass]
  simp only [Rescued, dispatchFailed, recordRaised, if_neg undeclared, yields_bind,
    yields_finalizeFailed guarded gated]
  exact .complete present count (by simp) fun grew => by simpa using unreported grew

theorem runInProcess_told (through : Through before gate world) (inside : call.isolated deployment = false) :
    (runInProcess deployment call gate).Yields world (fun _ => Told deployment call before)
      (Rescued deployment call gate before) := by
  have same : (world.later call.seconds false).returns = before.returns := through.returns
  simp only [runInProcess, yields_bind, yields_modify]
  cases ended : call.fn with
  | raised => exact Rescued.quiet guarded through.gated same
  | exited code =>
    exact (Rescued.quiet guarded through.gated same : Rescued deployment call gate before
      (.interrupt code) (world.later call.seconds false))
  | returned value =>
    have reported : call.Reported deployment ↔ Fits deployment.room value := by
      simp [Call.Reported, inside, ended]
    have count : (world.later call.seconds true).returns ≤ before.returns + 1 := by
      simp [World.later, through.returns]
    have overflow (overflows : ¬Fits deployment.room value) :
        Rescued deployment call gate before (.exception (dumpFailed .nesting))
          (world.later call.seconds true) :=
      .failed guarded through.gated rfl through.row count fun _ => by rwa [reported]
    simp only [FnExit.returns, yields_bind]
    refine checkToolReturn_yields ?_ overflow
    by_cases fits : Fits deployment.room value
    · refine finalizeSuccess_yields guarded through.gated fits fun payload => ?_
      exact .complete through.row count (by simp) fun _ => by simpa [reported] using fits
    · exact finalizeSuccess_overflows through.gated fits (overflow fits)

omit guarded in
theorem readWorker_unclassed {room : Nat} {toolName : String} {effectful : Bool} {code : Int} {stdout : Stdout}
    (raised : readWorker room toolName effectful code stdout = .error error) : error.failureClass = none := by
  cases stdout with
  | blank => cases raised
  | unreadable =>
    simp only [readWorker] at raised
    split at raised <;> cases raised
  | written =>
    simp only [readWorker, readReply] at raised
    repeat' split at raised
    all_goals cases raised
    all_goals rfl

omit guarded in
theorem outOfProcess_unclassed
    (raised : call.outOfProcess deployment = .error error) : error.failureClass = none := by
  simp only [Call.outOfProcess] at raised
  cases ended : call.worker <;> simp only [ended, runToolOutOfProcess] at raised
  case died | unregistered | ran => exact readWorker_unclassed raised
  all_goals cases raised

theorem recordIsolated_told (gated : gate.idempotent = true)
    (present : ∃ record, world.row = some record) (count : world.returns ≤ before.returns + 1)
    (reported : world.returns ≠ before.returns →
      (call.Reported deployment ↔ envelope.Vouches deployment.room)) :
    (recordIsolated deployment call gate envelope >>= fun _ =>
        checkIsolated deployment envelope >>= fun _ => pure envelope).Yields world
      (fun _ => Told deployment call before) (Rescued deployment call gate before) := by
  simp only [yields_bind]
  cases succeeded : envelope.success with
  | true =>
      have vouches (grew : world.returns ≠ before.returns) :
          call.Reported deployment ↔ Fits deployment.room envelope.result := by
        rw [reported grew, Envelope.Vouches, if_pos succeeded]
      simp only [recordIsolated, checkIsolated, succeeded]
      by_cases fits : Fits deployment.room envelope.result
      · refine finalizeSuccess_yields guarded gated fits fun payload => ?_
        refine checkToolReturn_yields ?_ fun overflows => absurd fits overflows
        exact .complete present count (by simp) fun grew => by simpa [vouches grew] using fits
      · refine finalizeSuccess_overflows gated fits ?_
        exact .failed guarded gated rfl present count fun grew => by rwa [vouches grew]
  | false =>
      have vouches (grew : world.returns ≠ before.returns) :
          call.Reported deployment ↔ envelope.failureClass = some "unknown" := by
        rw [reported grew, Envelope.Vouches, if_neg (by simp [succeeded])]
      simp only [recordIsolated, checkIsolated, succeeded, Bool.false_eq_true, if_false, yields_ite,
        yields_finalizeUnknown guarded gated, yields_finalizeFailed guarded gated]
      refine ⟨fun unknown => ?_, fun known => ?_⟩
      · exact .complete present count (by simp) fun grew => by simpa [vouches grew] using unknown
      · exact .complete present count (by simp) fun grew => by simpa [vouches grew] using known

theorem runIsolated_told (through : Through before gate world) (isolated : call.isolated deployment = true) :
    (runIsolated deployment call gate).Yields world (fun _ => Told deployment call before)
      (Rescued deployment call gate before) := by
  have same : world.returns = before.returns := through.returns
  have present : ∃ record, (world.later call.seconds call.worker.returns).row = some record :=
    through.row
  have count : (world.later call.seconds call.worker.returns).returns ≤ before.returns + 1 := by
    simp only [World.later]
    split <;> omega
  have vouched (grew : (world.later call.seconds call.worker.returns).returns ≠ before.returns) :
      call.Reported deployment ↔
        ∃ envelope, call.outOfProcess deployment = .ok envelope ∧ envelope.Vouches deployment.room := by
    refine reported_iff_vouches isolated ?_
    by_contra quiet
    simp [World.later, quiet, same] at grew
  rw [runIsolated, yields_bind, yields_call]
  refine ⟨fun _ _ => ?_, fun _ _ => .quiet guarded through.gated same⟩
  cases ended : call.outOfProcess deployment with
  | error =>
      refine .failed guarded through.gated (outOfProcess_unclassed ended) present count fun grew => ?_
      simp [vouched grew, ended]
  | ok envelope =>
      refine recordIsolated_told guarded through.gated present count fun grew => ?_
      simp [vouched grew, ended]

theorem dispatch_told (through : Through before gate world) :
    (dispatch deployment call gate).Yields world (fun _ => Told deployment call before)
      (Rescued deployment call gate before) := by
  have same : world.returns = before.returns := through.returns
  simp only [dispatch]
  split
  · rw [yields_bind, yields_finalizeFailed guarded through.gated]
    exact .quiet same
  · simp only [yields_ite]
    refine ⟨fun _ => ?_, fun _ => ⟨runIsolated_told guarded through, fun inside => ?_⟩⟩
    · rw [yields_bind, yields_finalizeFailed guarded through.gated]
      exact .quiet same
    · exact runInProcess_told guarded through (by simpa using inside)

end

def Settled (world : World) : Prop :=
  ∃ record, world.row = some record ∧ record.status.settled = true

structure Untouched (before after : World) : Prop where
  row : after.row = before.row
  returns : after.returns = before.returns

def Opened (before : World) : Opening → World → Prop
  | .answered _, after => Untouched before after
  | .through gate, after => Through before gate after ∧ ¬Settled before

theorem not_settled (present : world.row = some record)
    (unsettled : record.status.settled = false) : ¬Settled world := by
  rintro ⟨other, found, settled⟩
  rw [present] at found
  cases found
  rw [unsettled] at settled
  cases settled

theorem resolveEffectRecord_opens (gated : gate.idempotent = true) (same : Untouched before world) :
    (resolveEffectRecord call gate).Yields world (Opened before) (fun _ => Untouched before) := by
  simp only [resolveEffectRecord, yields_bind, yields_read]
  split
  case h_1 absent =>
    refine ⟨⟨gated, ⟨_, rfl⟩, same.returns⟩, ?_⟩
    rintro ⟨record, present, _⟩
    rw [← same.row, absent] at present
    cases present
  case h_2 record present =>
    have unsettled (unanswered : (resolveExistingRow world.now call.request record).answered = false) :
        ¬Settled before :=
      not_settled (same.row.symm.trans present) (by rwa [← resolveExistingRow_answered])
    split
    case h_1 resolution => exact ⟨⟨gated, ⟨_, rfl⟩, same.returns⟩, unsettled (by rw [resolution]; rfl)⟩
    case h_2 resolution =>
      simp only [yields_ite, yields_bind, yields_modify, yields_pure]
      refine ⟨fun _ => ⟨same.row, same.returns⟩, fun _ => ?_⟩
      exact ⟨⟨gated, ⟨record, present⟩, same.returns⟩, unsettled (by rw [resolution]; rfl)⟩
    case h_3 => exact ⟨same.row, same.returns⟩
    case h_4 =>
      simp only [yields_bind, yields_modify, yields_call, yields_pure]
      exact ⟨fun _ _ => ⟨same.row, same.returns⟩, fun _ _ => ⟨same.row, same.returns⟩⟩

theorem openGate_opens (guarded : Guarded deployment call) :
    (openGate deployment call).Yields before (Opened before) (fun _ => Untouched before) := by
  have same : Untouched before before := ⟨rfl, rfl⟩
  simp only [openGate]
  split
  · exact same
  · simp only [admitCall, guarded.engages, if_true, yields_bind, yields_call]
    refine ⟨fun _ _ => ?_, fun _ _ => same⟩
    split
    · exact same
    · simp only [enterGate, guarded.resolves, yields_bind, yields_ite, yields_pure, yields_modify]
      exact ⟨fun _ => same, fun _ => resolveEffectRecord_opens rfl ⟨rfl, rfl⟩⟩

structure Accounted (deployment : Deployment) (call : Call) (before after : World) : Prop where
  told : Told deployment call before after
  settled : Settled before → Untouched before after

theorem executeTool_accounted (guarded : Guarded deployment call) :
    (executeTool deployment call).Yields before (fun _ => Accounted deployment call before)
      (fun _ => Accounted deployment call before) := by
  simp only [executeTool, yields_bind]
  refine (openGate_opens guarded).mono (fun opening after opened => ?_)
    fun _ _ same => ⟨.quiet same.returns, fun _ => same⟩
  cases opening with
  | answered =>
    have same : Untouched before after := opened
    exact ⟨.quiet same.returns, fun _ => same⟩
  | through gate =>
    obtain ⟨through, unsettled⟩ : Through before gate after ∧ ¬Settled before := opened
    have accounts {left : World} (told : Told deployment call before left) :
        Accounted deployment call before (left.release gate) :=
      ⟨⟨told.count, told.row⟩, fun settled => absurd settled unsettled⟩
    rw [yields_ensuring, yields_attempt]
    refine (dispatch_told guarded through).mono (fun _ _ told => accounts told) ?_
    exact fun _ _ rescued => Program.Yields.mono rescued (fun _ _ told => accounts told)
      fun _ _ told => accounts told

def system (deployment : Deployment) : StepSystem World Call :=
  ⟨fun world call => some ((executeTool deployment call).run world).2⟩

def fresh (now : Nat) : World := ⟨now, none, false, 0⟩

def Once (world : World) : Prop := world.returns = 0 ∨ world.returns = 1 ∧ Settled world

theorem Told.settled (told : Told deployment call before after)
    (reported : call.Reported deployment) (grew : after.returns ≠ before.returns) : Settled after := by
  obtain ⟨record, present, _⟩ := told.row grew
  refine ⟨record, present, ?_⟩
  cases status : record.status <;> simp_all [EffectStatus.settled]

theorem Once.step (guarded : Guarded deployment call) (reported : call.Reported deployment)
    (once : Once before) (stepped : (system deployment).step before call = some after) : Once after := by
  have accounted : Accounted deployment call before after := by
    cases stepped
    exact (executeTool_accounted guarded).left_state
  obtain never | ⟨one, settled⟩ := once
  · by_cases grew : after.returns = before.returns
    · exact .inl (grew.trans never)
    · have count := accounted.told.count
      exact .inr ⟨by omega, accounted.told.settled reported grew⟩
  · have same := accounted.settled settled
    refine .inr ⟨same.returns.trans one, ?_⟩
    obtain ⟨record, present, held⟩ := settled
    exact ⟨record, same.row.trans present, held⟩

theorem Once.of_failed (once : Once world)
    (present : world.row = some record) (failed : record.status = .failed) : world.returns = 0 := by
  obtain never | ⟨_, settled⟩ := once
  · exact never
  · exact absurd settled (not_settled present (by rw [failed]; rfl))

theorem calls_once (met : (system deployment).Meets
      (fun _ call => Guarded deployment call ∧ call.Reported deployment) (fresh now) calls)
    (ran : (system deployment).run (fresh now) calls = some after) : Once after :=
  StepSystem.invariant (fun met once stepped => Once.step met.1 met.2 once stepped) met (.inl rfl) ran

def mailServer : Deployment where
  postgresql := true
  idempotency := true
  strict := true
  isolationEnforced := true
  hostClass := "container-grade-sandbox"
  room := 8
  workerRoom := 8

def sendMail (worker : WorkerEnd) : Call where
  entry := ⟨"mail.send", .exactlyOnce, some "container-grade-sandbox"⟩
  args := [("to", .str "ops")]
  userId := "user-1"
  runId := "run-1"
  durable := false
  request := ⟨"mail.send", "hash", some "user-1", none, none⟩
  malformed := none
  denied := none
  cancelled := false
  fn := .exited 0
  worker := worker
  seconds := 1
  lockCall := .ok ()
  resolveCall := .ok ()
  completeCall := fun _ => .ok ()

theorem sendMail_guarded : Guarded mailServer (sendMail worker) :=
  ⟨rfl, rfl, fun _ => rfl⟩

def sendMailReturning (value : PyObject) : Call :=
  sendMail (.ran (.returned (.dict [("sent", value)])))

end AindyRuntime.Tool
