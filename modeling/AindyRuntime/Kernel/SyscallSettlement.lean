import AindyRuntime.Kernel.SyscallDispatch

/-! # Settlement of a gated dispatch

From the reservation on, a dispatch either completes its row, releases the lock
and closes the session, or raises past all of that: after the handler the claim
is read, the output validated and the result dumped outside every `try`.
-/

namespace AindyRuntime.Syscall

open EffectLedger Program
open PyObject (DumpError)

structure Concludes (deployment : Deployment) (invocation : Invocation) (returned : PyEntries) :
    Prop where
  claim : ClaimReadable deployment.reprRoom returned
  schema : ∀ data resolved, resolveOutcome deployment.reprRoom returned = .ok (data, resolved) →
    resolved.refusal = none → ∃ errors, outputErrors deployment invocation data resolved = .ok errors
  dump : ∀ data resolved errors,
    resolveOutcome deployment.reprRoom returned = .ok (data, resolved) → resolved.refusal = none →
    outputErrors deployment invocation data resolved = .ok errors →
    ¬(errors ≠ [] ∧ invocation.entry.stable = true) →
      PyObject.dumps deployment.dumpsRoom (gatePayload data resolved) ≠ .error .nesting

def Contained (deployment : Deployment) (invocation : Invocation) : Prop :=
  invocation.ended = none →
    match invocation.handler with
    | .raised (.interrupt _) => False
    | .raised _ => True
    | .unobserved detail units => Concludes deployment invocation [(outcomeKey, unknownClaim detail units)]
    | .returned (.dict entries) => Concludes deployment invocation entries
    | .returned _ => True

/-- The row is settled with the status that is reported, and the lock and the
sessions are as they were before the dispatch. -/
structure Settles (key : String) (before after : World) (reported : Option EffectStatus) : Prop where
  row : ∃ record, after.table key = some record ∧ record.status ≠ .pending ∧
    ∀ status, reported = some status → record.status = status
  lock : after.locks key = before.locks key
  session : after.sessions = before.sessions

structure Entered (gate : Gate) (before world : World) : Prop where
  lock : world.locks gate.actionId = (gate.locked || before.locks gate.actionId)
  free : gate.locked = true → before.locks gate.actionId = false
  session : world.sessions = before.sessions + 1

structure Reserved (gate : Gate) (before world : World) : Prop extends Entered gate before world where
  pending : ∃ record, world.table gate.actionId = some record ∧ record.status = .pending

variable {deployment : Deployment} {invocation : Invocation} {gate : Gate}
variable {before world : World}

theorem Reserved.not_settles (reserved : Reserved gate before world)
    : ¬Settles gate.actionId before world reported := by
  intro settles
  obtain ⟨record, present, pending⟩ := reserved.pending
  obtain ⟨other, found, settled, _⟩ := settles.row
  obtain rfl : record = other := Option.some.inj (present.symm.trans found)
  exact settled pending

theorem Reserved.handle (reserved : Reserved gate before world) :
    Reserved gate before (world.handle seconds) :=
  ⟨⟨reserved.lock, reserved.free, reserved.session⟩, reserved.pending⟩

theorem Reserved.settles (reserved : Reserved gate before world) {status : EffectStatus}
    {payload : Json} (terminal : status ≠ .pending) {reported : Option EffectStatus}
    (reports : ∀ other, reported = some other → status = other) :
    Settles gate.actionId before ((world.complete gate.actionId status payload).leave gate)
      reported := by
  obtain ⟨record, present, _⟩ := reserved.pending
  refine ⟨⟨record.completed world.now status payload, ?_, terminal, reports⟩, ?_, ?_⟩
  · rw [World.leave_table, World.complete_table present]
  · rw [World.leave_locks, World.complete_locks, reserved.lock]
    cases locked : gate.locked
    · rfl
    · rw [reserved.free locked]
      rfl
  · rw [World.leave_sessions, World.complete_sessions, reserved.session, Nat.add_sub_cancel]

theorem Entered.store (entered : Entered gate before world) {record : EffectRecord}
    (pending : record.status = .pending) : Reserved gate before (world.store gate.actionId record) :=
  ⟨⟨entered.lock, entered.free, entered.session⟩, record, by simp [World.store], pending⟩

theorem Entered.of_take (free : locked = true → before.locks key = false) :
    Entered ⟨key, locked⟩ before (before.openSession.take ⟨key, locked⟩) := by
  cases locked with
  | false => exact ⟨rfl, free, rfl⟩
  | true => exact ⟨by simp [World.take, World.setLock], free, rfl⟩

theorem resolveRow_reserved (entered : Entered gate before world) :
    (resolveRow deployment invocation gate request).Returns world
      (fun opening after => ∀ other, opening = .through (some other) → Reserved other before after) := by
  simp only [resolveRow, yields_bind, yields_read]
  split
  case h_1 =>
    rintro _ ⟨⟩
    exact entered.store rfl
  case h_2 record present =>
    split
    case h_1 resolution =>
      rintro _ ⟨⟩
      exact entered.store (by rw [resolveExistingRow_reclaim resolution]; rfl)
    case h_2 resolution =>
      simp only [yields_ite, yields_bind, yields_modify, yields_pure]
      refine ⟨by simp, fun _ => ?_⟩
      rintro _ ⟨⟩
      exact ⟨entered, record, present, resolveExistingRow_degraded resolution⟩
    · simp
    · simp

theorem acquireLock_free (acquired : acquireLock deployment invocation key world = .ok .acquired) :
    world.locks key = false := by
  simp only [acquireLock] at acquired
  split at acquired
  · cases acquired
  · split at acquired
    · cases acquired
    · simp only [bind, Except.bind] at acquired
      split at acquired
      · cases acquired
      · by_contra held
        simp [pure, Except.pure, held] at acquired

theorem gateFailed_not_reserved :
    (gateFailed deployment invocation gate error).Returns world
      (fun opening after => ∀ other, opening = .through (some other) → Reserved other before after) := by
  simp [gateFailed]

theorem openGate_reserved :
    (openGate deployment invocation).Returns before
      (fun opening after => ∀ other, opening = .through (some other) → Reserved other before after) := by
  simp only [openGate, yields_ite, yields_bind, yields_call]
  refine ⟨fun _ => ⟨fun canonical _ => ?_, fun _ _ => trivial⟩, by simp⟩
  simp only [enterGate, yields_bind, yields_modify, yields_read]
  split
  · exact gateFailed_not_reserved
  case h_2 asked =>
    simp only [yields_ite, yields_bind, yields_pure]
    refine ⟨by simp, fun _ => ?_⟩
    split
    · exact gateFailed_not_reserved
    · refine resolveRow_reserved (.of_take fun acquired => ?_)
      exact acquireLock_free (of_decide_eq_true acquired ▸ asked)

variable (deployment invocation) in
inductive Concluded :
    Except Raised Envelope → EffectStatus → Json → Prop where
  | failed {envelope : Envelope} (error : envelope.status = .error) :
      Concluded (.ok envelope) .failed .null
  | violated {text : String} :
      Concluded (.error (.contractViolation text)) .failed .null
  | recorded {returned data : PyEntries} {resolved : ResolvedOutcome} {payload : Json}
      (handled : invocation.ended = none)
      (resolves : resolveOutcome deployment.reprRoom returned = .ok (data, resolved))
      (accepted : resolved.status ≠ .error)
      (kept : recordedPayload deployment data resolved = .ok payload) :
      Concluded (.ok (resultEnvelope invocation data resolved))
        resolved.ledgerStatus payload

def Invocation.reached (invocation : Invocation) (world : World) : World :=
  match invocation.ended with
  | some _ => world
  | none => world.handle invocation.seconds

def EndsFrom (deployment : Deployment) (invocation : Invocation) (gate : Gate) (world : World)
    (outcome : Except Raised Envelope × World) : Prop :=
  ∃ status payload, Concluded deployment invocation outcome.1 status payload ∧
    outcome.2 = (world.complete gate.actionId status payload).leave gate

theorem EndsFrom.failed (error : envelope.status = .error) :
    EndsFrom deployment invocation gate world
      (.ok envelope, (world.complete gate.actionId .failed .null).leave gate) :=
  ⟨_, _, .failed error, rfl⟩

theorem EndsFrom.violated {text : String} :
    EndsFrom deployment invocation gate world
      (.error (.contractViolation text), (world.complete gate.actionId .failed .null).leave gate) :=
  ⟨_, _, .violated, rfl⟩

theorem recordedPayload_isOk :
    (∃ payload, recordedPayload deployment data resolved = .ok payload) ↔
      PyObject.dumps deployment.dumpsRoom (gatePayload data resolved) ≠ .error .nesting := by
  simp only [recordedPayload]
  split <;> simp_all

theorem failed_terminal : EffectStatus.failed.terminal = true := rfl

theorem ledgerStatus_terminal {status : EnvelopeStatus} : status.ledgerStatus.terminal = true := by
  cases status <;> rfl

theorem Concluded.terminal
    (concluded : Concluded deployment invocation result status payload) : status ≠ .pending := by
  cases concluded with
  | failed | violated => simp
  | @recorded _ _ resolved =>
    intro pending
    have terminal := @ledgerStatus_terminal resolved.status
    rw [ResolvedOutcome.ledgerStatus] at pending
    simp [pending, EffectStatus.terminal] at terminal

theorem Concluded.reports (concluded : Concluded deployment invocation (.ok envelope) status payload) :
    status = envelope.status.ledgerStatus := by
  cases concluded with
  | failed error => simp [error, EnvelopeStatus.ledgerStatus]
  | recorded => rfl

section Writes

variable (writes : invocation.completeCall = .ok ())

include writes

theorem completeEffectRecord_run (terminal : status.terminal = true) :
    (completeEffectRecord invocation key status payload).run world =
      (.ok (), world.complete key status payload) := by
  simp [completeEffectRecord, checkTerminal, terminal, writes, Except.mapError]

theorem finish_run (terminal : status.terminal = true) :
    (finish invocation (some gate) status).run world =
      (.ok (), (world.complete gate.actionId status .null).leave gate) := by
  simp [finish, completeEffectRecord_run writes terminal]

theorem record_run (kept : recordedPayload deployment data resolved = .ok payload) :
    (record deployment invocation (some gate) data resolved).run world =
      (.ok (), (world.complete gate.actionId resolved.ledgerStatus payload).leave gate) := by
  simp [record, kept, Except.mapError, completeEffectRecord_run writes ledgerStatus_terminal,
    ResolvedOutcome.ledgerStatus]

/-- A dictionary the dispatcher can account for is recorded, or refused and
recorded as `failed`. -/
theorem conclude_ends (handled : invocation.ended = none)
    (concludes : Concludes deployment invocation returned) :
    EndsFrom deployment invocation gate world
      ((conclude deployment invocation (some gate) returned).run world) := by
  obtain ⟨⟨data, resolved⟩, resolves⟩ := resolveOutcome_isOk.mpr concludes.claim
  have coherent := (resolveOutcome_arises resolves).coherent
  cases refusal : resolved.refusal with
  | some =>
    have error : resolved.status = .error := by
      by_contra accepted
      simp [coherent.mpr accepted] at refusal
    have failed : resolved.ledgerStatus = .failed := by
      simp [ResolvedOutcome.ledgerStatus, error, EnvelopeStatus.ledgerStatus]
    simp only [conclude, resolves, refusal, failed, Except.mapError, run_bind, run_call,
      finish_run writes failed_terminal]
    exact .failed rfl
  | none =>
    obtain ⟨errors, checked⟩ := concludes.schema data resolved resolves refusal
    by_cases rejected : errors ≠ [] ∧ invocation.entry.stable = true
    · simp only [conclude, resolves, refusal, checked, if_pos rejected, Except.mapError, run_bind,
        run_call, finish_run writes failed_terminal]
      exact .failed rfl
    · have fits := concludes.dump data resolved errors resolves refusal checked rejected
      obtain ⟨_, kept⟩ := recordedPayload_isOk.mpr fits
      simp only [conclude, resolves, refusal, checked, if_neg rejected, Except.mapError, run_bind,
        run_call, record_run writes kept]
      exact ⟨_, _, .recorded handled resolves (coherent.mp refusal) kept, rfl⟩

theorem afterGate_ends (contained : Contained deployment invocation) :
    EndsFrom deployment invocation gate (invocation.reached world)
      ((afterGate deployment invocation (some gate)).run world) := by
  cases ended : invocation.ended with
  | some =>
    simp only [afterGate, ended, refuseEnded, run_bind, Invocation.reached, finish_run writes failed_terminal]
    split <;> exact .failed rfl
  | none =>
    have handled := contained ended
    simp only [afterGate, ended, runHandler, run_bind, run_modify, Invocation.reached]
    cases exits : invocation.handler with
    | raised raised =>
      cases raised with
      | interrupt => simp [exits] at handled
      | circuitOpen | exception | contractViolation =>
        simp only [handlerFailed, run_bind, finish_run writes failed_terminal]
        exact .failed rfl
    | unobserved =>
      simp only [exits] at handled
      exact conclude_ends writes ended handled
    | returned value =>
      cases value with
      | dict =>
        simp only [exits] at handled
        exact conclude_ends writes ended handled
      | _ =>
        simp only [rejectValue, run_bind, finish_run writes failed_terminal]
        exact .violated

end Writes

def EscapesFrom (world : World) (outcome : Except Raised Envelope × World) : Prop :=
  ∃ raised, outcome = (.error raised, world)

theorem conclude_escapes (escapes : ¬Concludes deployment invocation returned) :
    EscapesFrom world ((conclude deployment invocation (some gate) returned).run world) := by
  cases resolves : resolveOutcome deployment.reprRoom returned with
  | error =>
    simp only [conclude, resolves, run_bind, run_call]
    exact ⟨_, rfl⟩
  | ok result =>
    obtain ⟨data, resolved⟩ := result
    cases refusal : resolved.refusal with
    | some => refine absurd ⟨resolveOutcome_isOk.mp ⟨_, resolves⟩, ?_, ?_⟩ escapes <;> grind
    | none =>
      cases checked : outputErrors deployment invocation data resolved with
      | error =>
        simp only [conclude, resolves, refusal, checked, Except.mapError, run_bind, run_call]
        exact ⟨_, rfl⟩
      | ok errors =>
        by_cases rejected : errors ≠ [] ∧ invocation.entry.stable = true
        · refine absurd ⟨resolveOutcome_isOk.mp ⟨_, resolves⟩, ?_, ?_⟩ escapes <;> grind
        · have deep : PyObject.dumps deployment.dumpsRoom (gatePayload data resolved) =
              .error .nesting := by
            by_contra fits
            refine absurd ⟨resolveOutcome_isOk.mp ⟨_, resolves⟩, ?_, ?_⟩ escapes <;> grind
          simp only [conclude, resolves, refusal, checked, if_neg rejected, record,
            recordedPayload, deep, Except.mapError, run_bind, run_call]
          exact ⟨_, rfl⟩

theorem afterGate_escapes (escapes : ¬Contained deployment invocation) :
    EscapesFrom (invocation.reached world)
      ((afterGate deployment invocation (some gate)).run world) := by
  cases ended : invocation.ended with
  | some => exact absurd (fun none => by simp [ended] at none) escapes
  | none =>
    simp only [afterGate, ended, runHandler, run_bind, run_modify, Invocation.reached]
    simp only [Contained, ended, forall_const] at escapes
    cases exits : invocation.handler with
    | raised raised =>
      cases raised with
      | interrupt => exact ⟨_, rfl⟩
      | circuitOpen | exception | contractViolation => simp [exits] at escapes
    | unobserved =>
      simp only [exits] at escapes
      exact conclude_escapes escapes
    | returned value =>
      cases value with
      | dict =>
        simp only [exits] at escapes
        exact conclude_escapes escapes
      | _ => simp [exits] at escapes

def SettlesRow (deployment : Deployment) (invocation : Invocation) (key : String) (before : World) : Prop :=
  (dispatch deployment invocation).Yields before
    (fun envelope after => Settles key before after (some envelope.status.ledgerStatus))
    (fun _ after => Settles key before after none)

/-- A dispatch that concludes passes the handlers around it unchanged. -/
theorem EndsFrom.rescued {program : Action Envelope}
    (ends : EndsFrom deployment invocation gate world (program.run start)) :
    EndsFrom deployment invocation gate world
      ((Program.attempt program (rescue deployment invocation)).run start) := by
  generalize ran : program.run start = outcome at ends
  obtain ⟨result, after⟩ := outcome
  obtain ⟨_, _, concluded, left⟩ := ends
  rw [run_attempt, ran]
  cases concluded with
  | failed error => exact ⟨_, _, .failed error, left⟩
  | violated => exact ⟨_, _, .violated, left⟩
  | recorded handled resolves accepted kept => exact ⟨_, _, .recorded handled resolves accepted kept, left⟩

theorem EndsFrom.settles {program : Action Envelope} {start : World} (reserved : Reserved gate before world)
    (ends : EndsFrom deployment invocation gate world (program.run start)) :
    program.Yields start
      (fun envelope after => Settles gate.actionId before after (some envelope.status.ledgerStatus))
      (fun _ after => Settles gate.actionId before after none) := by
  rw [Program.Yields]
  generalize program.run start = outcome at ends
  obtain ⟨result, after⟩ := outcome
  obtain ⟨_, _, concluded, left⟩ := ends
  obtain rfl : after = _ := left
  cases result with
  | error => exact reserved.settles concluded.terminal (by simp)
  | ok =>
    refine reserved.settles concluded.terminal fun other same => ?_
    cases same
    exact concluded.reports

theorem Reserved.reached (reserved : Reserved gate before world) :
    Reserved gate before (invocation.reached world) := by
  simp only [Invocation.reached]
  split
  · exact reserved
  · exact reserved.handle

/-- Past the gate a dispatch runs on from the world the gate left. -/
theorem dispatch_run
    (through : (openGate deployment invocation).run before = (.ok (.through opened), reserved)) :
    (dispatch deployment invocation).run before =
      (Program.attempt (afterGate deployment invocation opened) (rescue deployment invocation)).run
        reserved := by
  simp [dispatch, dispatchInner, through]

section

variable (opened : (openGate deployment invocation).run before = (.ok (.through (some gate)), reserved))
include opened

theorem dispatch_ends (writes : invocation.completeCall = .ok ()) (contained : Contained deployment invocation) :
    EndsFrom deployment invocation gate (invocation.reached reserved)
      ((dispatch deployment invocation).run before) := by
  rw [dispatch_run opened]
  exact (afterGate_ends writes contained).rescued

omit opened in
theorem rescue_run {raised : Raised} : ((rescue deployment invocation raised).run world).2 = world := by
  cases raised <;> rfl

theorem dispatch_escapes (escapes : ¬Contained deployment invocation) :
    ((dispatch deployment invocation).run before).2 = invocation.reached reserved := by
  obtain ⟨_, ran⟩ := @afterGate_escapes deployment invocation gate reserved escapes
  simp [dispatch_run opened, ran, rescue_run]

end

/-- Every gated dispatch settles its row exactly when the handler's exit can be
accounted for. -/
theorem gated_dispatch_settles_iff {reserved : World}
    (opened : (openGate deployment invocation).run before = (.ok (.through (some gate)), reserved))
    (writes : invocation.completeCall = .ok ()) :
    SettlesRow deployment invocation gate.actionId before ↔ Contained deployment invocation := by
  have stands : Reserved gate before (invocation.reached reserved) :=
    (openGate_reserved.returned opened gate rfl).reached
  constructor
  · intro settles
    by_contra escapes
    have left := dispatch_escapes opened escapes
    have somehow : (dispatch deployment invocation).Yields before
        (fun _ after => ∃ reported, Settles gate.actionId before after reported)
        (fun _ after => ∃ reported, Settles gate.actionId before after reported) :=
      settles.mono (fun _ _ row => ⟨_, row⟩) (fun _ _ row => ⟨_, row⟩)
    obtain ⟨_, settled⟩ := somehow.left_state
    exact stands.not_settles (left ▸ settled)
  · intro contained
    exact (dispatch_ends opened writes contained).settles stands

def mailDeployment : Deployment where
  postgresql := true
  idempotency := true
  strict := false
  digest _ := "a1"
  scopeEngages _ := true
  substringClass _ := none
  reprRoom := 20
  dumpsRoom := 20

def mailInvocation (guarantee : Guarantee) (handler : HandlerExit) : Invocation where
  name := "sys.v1.mail.send"
  version := "v1"
  entry := ⟨guarantee, [], true, false, none, none⟩
  payload := []
  userId := "u1"
  traceId := "t1"
  executionUnitId := "run_1"
  originalUnitId := "run_1"
  ambientTenant := none
  ambientSession := none
  linkedExecutionId := none
  durable := false
  ended := none
  handler := handler
  seconds := 1
  lockCall := .ok ()
  resolveCall := .ok ()
  completeCall := .ok ()

def emptyWorld : World := ⟨0, fun _ => none, fun _ => false, 0, 0⟩

def mailSent : Invocation := mailInvocation .atMostOnce (.returned (.dict [("sent", .bool true)]))

def mailMisreported : Invocation :=
  mailInvocation .atMostOnce (.returned (.dict [(outcomeKey, .dict [("status", .list [])])]))

theorem mailSent_contained : Contained mailDeployment mailSent := by
  refine fun _ => ⟨?_, ?_, ?_⟩
  · intro claim found
    cases found
  · intro data resolved resolves _
    exact ⟨[], rfl⟩
  · intro data resolved errors resolves _ _ _ deep
    cases resolves
    cases deep

theorem gated_dispatch_settles_of_result : SettlesRow mailDeployment mailSent "a1" emptyWorld :=
  (gated_dispatch_settles_iff (rfl : (openGate mailDeployment mailSent).run emptyWorld =
      (.ok (.through (some ⟨"a1", true⟩)), _)) rfl).mpr mailSent_contained

/-- The lookup of the claimed status raises: the caller gets an error envelope
while the row stays `pending`, the lock held and the session open. -/
theorem gated_dispatch_leaves_pending :
    ∃ reserved envelope after,
      (openGate mailDeployment mailMisreported).run emptyWorld =
        (.ok (.through (some ⟨"a1", true⟩)), reserved) ∧
      mailMisreported.completeCall = .ok () ∧
      (dispatch mailDeployment mailMisreported).run emptyWorld = (.ok envelope, after) ∧
      envelope.status = .error ∧ envelope.error = some "unhashable type: 'list'" ∧
      (after.table "a1").map (·.status) = some .pending ∧
      after.locks "a1" = true ∧ after.sessions = 1 :=
  ⟨_, _, _, rfl, rfl, rfl, rfl, rfl, rfl, rfl, rfl⟩

end AindyRuntime.Syscall
