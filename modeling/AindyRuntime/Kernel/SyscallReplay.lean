import AindyRuntime.Kernel.SyscallSettlement

namespace AindyRuntime.Syscall

open EffectLedger List Option
open PyObject (DumpError)

variable (deployment : Deployment) (key : String)

structure Keyed (invocation : Invocation) : Prop where
  engages : invocation.engages deployment = true
  key : invocation.computeActionId deployment = .ok key
  lock : invocation.lockCall = .ok ()
  resolve : invocation.resolveCall = .ok ()
  complete : invocation.completeCall = .ok ()

structure Dispatched where
  invocation : Invocation
  ran : Bool
  result : Except Raised Envelope
  row : Option EffectRecord

def Dispatched.status (dispatched : Dispatched) : Option EffectStatus :=
  dispatched.row.map (·.status)

def dispatched (world : World) (invocation : Invocation) : Dispatched :=
  let ended := (dispatch deployment invocation).run world
  ⟨invocation, decide (world.handlerRuns < ended.2.handlerRuns), ended.1, ended.2.table key⟩

def dispatchAll : World → List (Nat × Invocation) → List Dispatched
  | _, [] => []
  | world, (seconds, invocation) :: rest =>
    dispatched deployment key (world.later seconds) invocation ::
      dispatchAll ((dispatch deployment invocation).run (world.later seconds)).2 rest

def Dispatched.Recorded (dispatched : Dispatched) (record : EffectRecord) : Prop :=
  dispatched.row = some record ∧ ∃ data resolved,
    dispatched.result = .ok (resultEnvelope dispatched.invocation data resolved) ∧
      record.status = resolved.ledgerStatus ∧
      recordedPayload deployment data resolved = .ok record.resultPayload

structure Replays (earlier : List Dispatched) (last : Dispatched) :
    Prop where
  runs : last.invocation.ended = none →
    (last.ran = true ↔ ∀ past ∈ earlier, past.ran = true → past.status = some .failed)
  success : ∀ past ∈ earlier, past.ran = true → past.status = some .success →
    last.ran = false ∧ ∃ record, past.Recorded deployment record ∧
      last.result = .ok (replayEnvelope last.invocation record.resultPayload)
  held : ∀ past ∈ earlier, past.ran = true →
    past.status = some .partialEffect ∨ past.status = some .unknown →
    last.ran = false ∧ ∃ record envelope, past.Recorded deployment record ∧
      heldEnvelope last.invocation (heldOutcomeFromRecord record.status record.resultPayload) =
        .ok envelope ∧
      last.result = .ok envelope

variable {deployment : Deployment} {invocation : Invocation} {key : String} {gate : Gate}
variable {before world : World} {record : EffectRecord}

theorem World.take_leave (free : before.locks gate.actionId = false) :
    (before.openSession.take gate).leave gate = before := by
  cases locked : gate.locked with
  | false => simp [World.take, World.leave, locked, World.openSession, World.closeSession]
  | true =>
    have same : (fun other => if other = gate.actionId then false
        else if other = gate.actionId then true else before.locks other) = before.locks := by
      funext other
      by_cases hit : other = gate.actionId <;> simp [hit, free]
    simp only [World.take, World.leave, locked, World.openSession, World.closeSession,
      World.setLock, same, if_true, Nat.add_sub_cancel]

def Invocation.asksLock (deployment : Deployment) (invocation : Invocation) : Bool :=
  (deployment.strict || invocation.atMostOnce) && deployment.postgresql

variable (asks held) in
inductive LockState.Arises : LockState → Prop where
  | without {state : LockState} (unasked : asks = false) (inTime : state ≠ .timeout)
      (free : state ≠ .acquired) : LockState.Arises state
  | acquired (asked : asks = true) (free : held = false) : LockState.Arises .acquired
  | timeout (asked : asks = true) (taken : held = true) : LockState.Arises .timeout

theorem acquireLock_arises (asked : invocation.lockCall = .ok ()) :
    ∃ state, acquireLock deployment invocation key world = .ok state ∧
      LockState.Arises (invocation.asksLock deployment) (world.locks key) state := by
  simp only [acquireLock, asked, Invocation.asksLock]
  cases deployment.strict || invocation.atMostOnce with
  | false => exact ⟨.notAsked, rfl, .without rfl (by simp) (by simp)⟩
  | true =>
    cases deployment.postgresql with
    | false => exact ⟨.unsupported, rfl, .without rfl (by simp) (by simp)⟩
    | true =>
      cases world.locks key with
      | false => exact ⟨.acquired, rfl, .acquired rfl rfl⟩
      | true => exact ⟨.timeout, rfl, .timeout rfl rfl⟩

theorem Keyed.enters (keyed : Keyed deployment key invocation) :
    ∃ canonical, invocation.canonical deployment = .ok canonical ∧
      (openGate deployment invocation).run before =
        (enterGate deployment invocation key
          (invocation.request deployment (canonical.get "input"))).run before := by
  have computed := keyed.key
  simp only [Invocation.computeActionId] at computed
  cases dumped : invocation.canonical deployment with
  | error => simp [dumped, Except.map] at computed
  | ok canonical =>
    have digested : deployment.digest canonical = key := by
      simpa [dumped, Except.map] using computed
    refine ⟨canonical, rfl, ?_⟩
    simp [openGate, keyed.engages, dumped, Except.mapError, digested]

theorem openGate_run (keyed : Keyed deployment key invocation) (free : before.locks key = false) :
    ∃ locked request, (openGate deployment invocation).run before =
      (resolveRow deployment invocation ⟨key, locked⟩ request).run
        (before.openSession.take ⟨key, locked⟩) := by
  obtain ⟨canonical, _, entered⟩ := @Keyed.enters deployment invocation key before keyed
  obtain ⟨state, acquired, arises⟩ :=
    @acquireLock_arises deployment invocation key before.openSession keyed.lock
  have inTime : ¬state = .timeout := by
    cases arises with
    | without _ inTime => exact inTime
    | acquired => simp
    | timeout _ taken => exact absurd (taken.symm.trans free) (by simp)
  refine ⟨decide (state = .acquired), invocation.request deployment (canonical.get "input"), ?_⟩
  simp [entered, enterGate, acquired, inTime, keyed.resolve]

def Reclaimable (key : String) (world : World) : Prop :=
  ∀ record, world.table key = some record → record.status = .failed

variable {request : Request}

theorem resolveRow_reclaimable (reclaimable : Reclaimable gate.actionId world) :
    ∃ record, (resolveRow deployment invocation gate request).run world =
      (.ok (.through (some gate)), world.store gate.actionId record) := by
  cases present : world.table gate.actionId with
  | none =>
    simp [resolveRow, present]
  | some record =>
    simp [resolveRow, present, resolveExistingRow, reclaimable record present]

theorem resolveRow_success (present : world.table gate.actionId = some record)
    (status : record.status = .success) :
    (resolveRow deployment invocation gate request).run world =
      (.ok (.answered (replayEnvelope invocation record.resultPayload)), world.leave gate) := by
  simp [resolveRow, present, resolveExistingRow, status]

theorem resolveRow_held (present : world.table gate.actionId = some record)
    (status : record.status = .partialEffect ∨ record.status = .unknown)
    (reads : heldEnvelope invocation (heldOutcomeFromRecord record.status record.resultPayload) = .ok envelope) :
    (resolveRow deployment invocation gate request).run world =
      (.ok (.answered envelope), world.leave gate) := by
  rcases status with status | status <;> rw [status] at reads <;>
    simp [resolveRow, present, resolveExistingRow, status, reads, Except.mapError]

theorem dumps_dict {entries : PyEntries}
    (dumped : PyObject.dumps room (.dict entries) = .ok payload) : ∃ fields, payload = .obj fields := by
  cases room with
  | zero => simp [PyObject.dumps] at dumped
  | succ =>
    simp only [PyObject.dumps, bind, Except.bind] at dumped
    split at dumped <;> cases dumped
    exact ⟨_, rfl⟩

theorem dumps_pair (dumped : PyObject.dumps room (.dict [(first, one), (second, other)]) = .ok payload) :
    ∃ inner a b, PyObject.dumps inner one = .ok a ∧ payload = .obj [(first, a), (second, b)] := by
  cases room with
  | zero => simp [PyObject.dumps] at dumped
  | succ room =>
    simp only [PyObject.dumps, PyObject.dumpsEntries, bind, Except.bind] at dumped
    cases ofOne : PyObject.dumps room one with
    | error => simp [ofOne] at dumped
    | ok a =>
      cases ofOther : PyObject.dumps room other with
      | error => simp [ofOne, ofOther] at dumped
      | ok b =>
        simp only [ofOne, ofOther, pure, Except.pure, Except.ok.injEq] at dumped
        exact ⟨room, a, b, ofOne, dumped.symm⟩

theorem envelopeOutcome_isOk (mapping : held.outcome = .null ∨ ∃ fields, held.outcome = .obj fields) :
    ∃ outcome, envelopeOutcome held = .ok outcome := by
  simp only [envelopeOutcome, Json.orElse]
  rcases mapping with null | ⟨fields, mapping⟩
  · simp [null, Json.truthy]
  · cases fields <;> simp [mapping, Json.truthy]

def Readable (record : EffectRecord) : Prop :=
  ∃ outcome, envelopeOutcome (heldOutcomeFromRecord record.status record.resultPayload) = .ok outcome

theorem Readable.envelope (readable : Readable record) :
    ∃ envelope, heldEnvelope invocation
      (heldOutcomeFromRecord record.status record.resultPayload) = .ok envelope := by
  obtain ⟨_, reads⟩ := readable
  simp [heldEnvelope, reads, bind, Except.bind, pure, Except.pure]

/-- What is recorded is a dictionary or nothing, and the row keeps it whole. -/
theorem recordedPayload_kept (recorded : recordedPayload deployment data resolved = .ok payload) :
    (if payload.isDict then payload else .null) = payload := by
  simp only [recordedPayload] at recorded
  split at recorded <;> cases recorded
  case h_1 dumped =>
    obtain ⟨fields, rfl⟩ : ∃ fields, payload = .obj fields := by
      simp only [gatePayload] at dumped
      split at dumped <;> exact dumps_dict dumped
    rfl
  · rfl

theorem recordedPayload_readable
    (resolves : resolveOutcome deployment.reprRoom returned = .ok (data, resolved))
    (held : record.status = .partialEffect ∨ record.status = .unknown)
    (status : record.status = resolved.ledgerStatus)
    (recorded : recordedPayload deployment data resolved = .ok record.resultPayload) : Readable record := by
  rw [status] at held
  apply envelopeOutcome_isOk
  simp only [recordedPayload, gatePayload, if_pos held, heldRecordPayload] at recorded
  split at recorded
  case h_1 dumped =>
    cases recorded
    obtain ⟨_, mapping⟩ := (resolveOutcome_arises resolves).outcome
    rw [mapping] at dumped
    obtain ⟨_, _, _, dumpedOutcome, whole⟩ := dumps_pair dumped
    obtain ⟨stored, rfl⟩ := dumps_dict dumpedOutcome
    rw [whole]
    cases stored with
    | nil => exact Or.inl rfl
    | cons => exact Or.inr ⟨_, rfl⟩
  · cases recorded
  · rw [← Except.ok.inj recorded]
    exact Or.inl rfl

theorem Invocation.reached_handlerRuns :
    (invocation.reached world).handlerRuns =
      world.handlerRuns + if invocation.ended = none then 1 else 0 := by
  simp only [Invocation.reached]
  cases invocation.ended <;> simp [World.handle]

section

variable (keyed : Keyed deployment key invocation)
include keyed

section

variable (free : before.locks key = false)
include free

theorem openGate_reclaimable (reclaimable : Reclaimable key before) :
    ∃ locked reserved, (openGate deployment invocation).run before =
      (.ok (.through (some ⟨key, locked⟩)), (before.openSession.take ⟨key, locked⟩).store key reserved) := by
  obtain ⟨locked, request, gated⟩ := openGate_run keyed free
  obtain ⟨reserved, through⟩ := @resolveRow_reclaimable deployment invocation ⟨key, locked⟩
    (before.openSession.take ⟨key, locked⟩) request
    (by rw [Reclaimable, World.take_table]; exact reclaimable)
  exact ⟨locked, reserved, gated.trans through⟩

/-- On a reclaimable row the dispatch runs the handler, unless its run has
ended. -/
theorem dispatch_handles (reclaimable : Reclaimable key before) :
    ((dispatch deployment invocation).run before).2.handlerRuns =
      before.handlerRuns + if invocation.ended = none then 1 else 0 := by
  obtain ⟨locked, reserved, opened⟩ := openGate_reclaimable keyed free reclaimable
  have stored : ((before.openSession.take ⟨key, locked⟩).store key reserved).handlerRuns =
      before.handlerRuns := World.take_handlerRuns
  by_cases contained : Contained deployment invocation
  · obtain ⟨_, _, _, left⟩ := dispatch_ends opened keyed.complete contained
    rw [left, World.leave_handlerRuns, World.complete_handlerRuns, Invocation.reached_handlerRuns, stored]
  · rw [dispatch_escapes opened contained, Invocation.reached_handlerRuns, stored]

omit free in
/-- The row of a dispatch that can be accounted for says how it went. -/
theorem dispatch_reclaimable (contained : Contained deployment invocation) (free : before.locks key = false)
    (reclaimable : Reclaimable key before) :
    ∃ status payload record,
      Concluded deployment invocation ((dispatch deployment invocation).run before).1 status payload ∧
      ((dispatch deployment invocation).run before).2.table key = some record ∧
      record.status = status ∧
      record.resultPayload = (if payload.isDict then payload else .null) ∧
      ((dispatch deployment invocation).run before).2.locks key = false := by
  obtain ⟨locked, reserved, opened⟩ := openGate_reclaimable keyed free reclaimable
  have stands : Reserved ⟨key, locked⟩ before
      (invocation.reached ((before.openSession.take ⟨key, locked⟩).store key reserved)) :=
    (openGate_reserved.returned opened _ rfl).reached
  obtain ⟨status, payload, concluded, left⟩ := dispatch_ends opened keyed.complete contained
  obtain ⟨record, present, _⟩ := stands.pending
  refine ⟨status, payload, record.completed (invocation.reached
    ((before.openSession.take ⟨key, locked⟩).store key reserved)).now status payload, concluded, ?_, rfl, rfl, ?_⟩
  · rw [left, World.leave_table, World.complete_table present]
  · have settles := @Reserved.settles ⟨key, locked⟩ before _ stands status payload
      concluded.terminal none (by simp)
    rw [left]
    exact settles.lock.trans free

/-- A dispatch that the gate answers leaves the world as it was. -/
theorem dispatch_answered
    (answers : ∀ locked request, (resolveRow deployment invocation ⟨key, locked⟩ request).run
      (before.openSession.take ⟨key, locked⟩) =
        (.ok (.answered envelope), (before.openSession.take ⟨key, locked⟩).leave ⟨key, locked⟩)) :
    (dispatch deployment invocation).run before = (.ok envelope, before) := by
  obtain ⟨locked, _, gated⟩ := openGate_run keyed free
  rw [answers, @World.take_leave ⟨key, locked⟩ before free] at gated
  simp [dispatch, dispatchInner, gated]

theorem dispatch_success (present : before.table key = some record) (status : record.status = .success) :
    (dispatch deployment invocation).run before =
      (.ok (replayEnvelope invocation record.resultPayload), before) :=
  dispatch_answered keyed free fun locked _ =>
    @resolveRow_success deployment invocation ⟨key, locked⟩ _ record _
      (by rw [World.take_table]; exact present) status

theorem dispatch_held (present : before.table key = some record)
    (status : record.status = .partialEffect ∨ record.status = .unknown)
    (reads : heldEnvelope invocation (heldOutcomeFromRecord record.status record.resultPayload) = .ok envelope) :
    (dispatch deployment invocation).run before = (.ok envelope, before) :=
  dispatch_answered keyed free fun locked _ =>
    @resolveRow_held deployment invocation ⟨key, locked⟩ _ record _ envelope
      (by rw [World.take_table]; exact present) status reads

end

end

variable (deployment : Deployment) (key : String) (past : List Dispatched) (world : World) in
inductive Standing : Prop where
  | reclaimable (free : world.locks key = false) (row : Reclaimable key world)
      (failed : ∀ one ∈ past, one.ran = true → one.status = some .failed) :
      Standing
  | settled (record : EffectRecord) (free : world.locks key = false)
      (row : world.table key = some record) (settled : record.status.settled = true)
      (readable : record.status = .partialEffect ∨ record.status = .unknown → Readable record)
      (source : ∃ one ∈ past, one.ran = true ∧ one.row = some record)
      (others : ∀ one ∈ past, one.ran = true → one.status = some .failed ∨ one.Recorded deployment record) :
      Standing

theorem Standing.later (standing : Standing deployment key past world) :
    Standing deployment key past (world.later seconds) := by
  cases standing with
  | reclaimable free row failed => exact .reclaimable free row failed
  | settled record free row settled readable source others =>
    exact .settled record free row settled readable source others

section

variable (keyed : Keyed deployment key invocation)
include keyed

/-- The handler's first run that did not fail settles the row; until then the
row stays reclaimable. -/
theorem step_reclaimable
    (contained : Contained deployment invocation) (free : before.locks key = false) (row : Reclaimable key before)
    (failed : ∀ one ∈ past, one.ran = true → one.status = some .failed) :
    Standing deployment key (past ++ [dispatched deployment key before invocation])
      ((dispatch deployment invocation).run before).2 := by
  obtain ⟨status, _, record, concluded, present, recorded, kept, released⟩ :=
    dispatch_reclaimable keyed contained free row
  have ofRow : (dispatched deployment key before invocation).row = some record := present
  have recordedFailed (isFailed : record.status = .failed) :
      Standing deployment key (past ++ [dispatched deployment key before invocation])
        ((dispatch deployment invocation).run before).2 := by
    refine .reclaimable released ?_ (forall_mem_append.mpr ⟨failed, ?_⟩)
    · intro other found
      rwa [← Option.some.inj (present.symm.trans found)]
    · refine forall_mem_singleton.mpr fun _ => ?_
      rw [Dispatched.status, ofRow, map_some, isFailed]
  generalize result : ((dispatch deployment invocation).run before).1 = reported at concluded
  cases concluded with
  | failed | violated => exact recordedFailed recorded
  | @recorded returned data resolved _ handled resolves accepted wrote =>
    have whole : recordedPayload deployment data resolved = .ok record.resultPayload := by
      rw [kept, recordedPayload_kept wrote, wrote]
    refine .settled record released present ?_ ?_ ?_ (forall_mem_append.mpr ⟨?_, ?_⟩)
    · cases status : resolved.status <;>
        simp_all [ResolvedOutcome.ledgerStatus, EnvelopeStatus.ledgerStatus, EffectStatus.settled]
    · intro held
      exact recordedPayload_readable resolves held recorded whole
    · refine ⟨dispatched deployment key before invocation, by simp, ?_, ofRow⟩
      simp [dispatched, dispatch_handles keyed free row, handled]
    · exact fun one member ran => Or.inl (failed one member ran)
    · exact forall_mem_singleton.mpr fun _ =>
        Or.inr ⟨ofRow, data, resolved, result, recorded, whole⟩

theorem dispatch_settled (free : before.locks key = false)
    (row : before.table key = some record) (settled : record.status.settled = true)
    (readable : record.status = .partialEffect ∨ record.status = .unknown → Readable record) :
    ∃ envelope, (dispatch deployment invocation).run before = (.ok envelope, before) ∧
      (record.status = .success → envelope = replayEnvelope invocation record.resultPayload) ∧
      (record.status = .partialEffect ∨ record.status = .unknown →
        heldEnvelope invocation (heldOutcomeFromRecord record.status record.resultPayload) = .ok envelope) := by
  by_cases status : record.status = .success
  · exact ⟨_, dispatch_success keyed free row status, fun _ => rfl, by simp [status]⟩
  · have held : record.status = .partialEffect ∨ record.status = .unknown := by
      cases ofRow : record.status <;> simp_all [EffectStatus.settled]
    obtain ⟨envelope, reads⟩ := @Readable.envelope invocation record (readable held)
    exact ⟨envelope, dispatch_held keyed free row held reads, fun success => absurd success status, fun _ => reads⟩

theorem step_replays (standing : Standing deployment key past before) :
    Replays deployment past (dispatched deployment key before invocation) := by
  cases standing with
  | reclaimable free row failed =>
    refine ⟨?_, ?_, ?_⟩
    · intro live
      have handled : invocation.ended = none := live
      have ran : (dispatched deployment key before invocation).ran = true := by
        simp [dispatched, dispatch_handles keyed free row, handled]
      simpa [ran] using failed
    · intro one member ran success
      simp [failed one member ran] at success
    · intro one member ran held
      simp [failed one member ran] at held
  | settled record free row settled readable source others =>
    obtain ⟨envelope, answered, replays, reports⟩ := dispatch_settled keyed free row settled readable
    have idle : (dispatched deployment key before invocation).ran = false := by
      simp [dispatched, answered]
    have result : (dispatched deployment key before invocation).result = .ok envelope := by
      simp [dispatched, answered]
    refine ⟨?_, ?_, ?_⟩
    · intro _
      simp only [idle, Bool.false_eq_true, false_iff]
      intro failed
      obtain ⟨one, member, ran, ofRow⟩ := source
      have status := failed one member ran
      rw [Dispatched.status, ofRow, map_some, Option.some.injEq] at status
      simp [status, EffectStatus.settled] at settled
    · intro one member ran success
      have recorded := (others one member ran).resolve_left (by simp [success])
      rw [Dispatched.status, recorded.1, map_some, Option.some.injEq] at success
      exact ⟨idle, record, recorded, by rw [result, replays success]; rfl⟩
    · intro one member ran held
      have recorded := (others one member ran).resolve_left
        (by rcases held with held | held <;> simp [held])
      simp only [Dispatched.status, recorded.1, map_some, Option.some.injEq] at held
      exact ⟨idle, record, envelope, recorded, reports held, result⟩

theorem step_standing
    (contained : (dispatched deployment key before invocation).ran = true → Contained deployment invocation)
    (standing : Standing deployment key past before) :
    Standing deployment key (past ++ [dispatched deployment key before invocation])
      ((dispatch deployment invocation).run before).2 := by
  cases standing with
  | reclaimable free row failed =>
    have accounted : Contained deployment invocation := by
      intro handled
      exact contained (by simp [dispatched, dispatch_handles keyed free row, handled]) handled
    exact step_reclaimable keyed accounted free row failed
  | settled record free row settled readable source others =>
    obtain ⟨_, answered, _⟩ := dispatch_settled keyed free row settled readable
    rw [answered]
    refine .settled record free row settled readable ?_ (forall_mem_append.mpr ⟨others, ?_⟩)
    · obtain ⟨one, member, ran, ofRow⟩ := source
      exact ⟨one, mem_append_left _ member, ran, ofRow⟩
    · refine forall_mem_singleton.mpr fun ran => ?_
      simp [dispatched, answered] at ran

end

theorem run_replays (standing : Standing deployment key past world)
    (keyed : ∀ call ∈ calls, Keyed deployment key call.2)
    (trace : dispatchAll deployment key world calls = earlier ++ last :: later)
    (contained : ∀ one ∈ earlier, one.ran = true → Contained deployment one.invocation) :
    Replays deployment (past ++ earlier) last := by
  induction calls generalizing world past earlier with
  | nil => simp [dispatchAll] at trace
  | cons call rest ih =>
    obtain ⟨seconds, _⟩ := call
    have now := keyed _ mem_cons_self
    have waited : Standing deployment key past (world.later seconds) := standing.later
    cases earlier with
    | nil =>
      obtain ⟨rfl, _⟩ := List.cons.inj trace
      simpa using step_replays now waited
    | cons =>
      obtain ⟨rfl, traceRest⟩ := List.cons.inj trace
      have stands := step_standing now (contained _ mem_cons_self) waited
      have replays := ih stands (fun other member => keyed other (mem_cons_of_mem _ member))
        traceRest (fun other member => contained other (mem_cons_of_mem _ member))
      simpa using replays

/-- From an absent row, in every sequence of dispatches under one key, a dispatch
runs the handler exactly while every earlier run of it failed, and answers from the
row after the first run that did not; provided that the earlier runs' exits can be
accounted for. -/
theorem replay_of_gated_syscall {calls : List (Nat × Invocation)} {earlier later : List Dispatched}
    {last : Dispatched} (absent : world.table key = none) (free : world.locks key = false)
    (keyed : ∀ call ∈ calls, Keyed deployment key call.2)
    (trace : dispatchAll deployment key world calls = earlier ++ last :: later)
    (contained : ∀ one ∈ earlier, one.ran = true → Contained deployment one.invocation) :
    Replays deployment earlier last := by
  have start : Standing deployment key [] world :=
    .reclaimable free (by simp [Reclaimable, absent]) (by simp)
  exact run_replays start keyed trace contained

def mailHistory : List (Nat × Invocation) :=
  [(0, mailInvocation .exactlyOnce (.raised (.exception ⟨.other, "timed out"⟩))), (60, mailSent), (60, mailSent)]

theorem replay_after_failure_and_success :
    ∃ failed succeeded replayed,
      dispatchAll mailDeployment "a1" emptyWorld mailHistory = [failed, succeeded, replayed] ∧
      failed.ran = true ∧ succeeded.ran = true ∧ replayed.ran = false ∧
      Replays mailDeployment [failed, succeeded] replayed := by
  refine ⟨_, _, _, rfl, rfl, rfl, rfl, ?_⟩
  refine @replay_of_gated_syscall mailDeployment "a1" emptyWorld mailHistory _ [] _ rfl rfl ?_ rfl ?_
  · intro call member
    simp only [mailHistory, mem_cons, not_mem_nil, or_false] at member
    rcases member with rfl | rfl | rfl <;> exact ⟨rfl, rfl, rfl, rfl, rfl⟩
  · intro one member _
    simp only [mem_cons, not_mem_nil, or_false] at member
    rcases member with rfl | rfl
    · exact fun _ => trivial
    · exact mailSent_contained

def nested : Nat → PyObject
  | 0 => .null
  | depth + 1 => .list [nested depth]

def deepReport : Invocation :=
  mailInvocation .exactlyOnce (.returned (.dict [("report", nested 20)]))

/-- The handler succeeds with a result that `json.dumps` can not encode for its
depth: the row stays `pending`, and the next dispatch runs the handler again. -/
theorem replay_runs_again :
    ∃ first second,
      dispatchAll mailDeployment "a1" emptyWorld [(0, deepReport), (60, deepReport)] =
        [first, second] ∧
      first.ran = true ∧ first.status = some .pending ∧ second.ran = true :=
  ⟨_, _, rfl, rfl, rfl, rfl⟩

end AindyRuntime.Syscall
