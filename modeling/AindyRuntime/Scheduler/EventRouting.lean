import AindyRuntime.FlowEngine.Engine
import AindyRuntime.Kernel.SyscallVersioning
import AindyRuntime.Scheduler.Rehydration
import AindyRuntime.Scheduler.WakeAgreement

/-! # Events for one run

`route_event` with a run id, and what becomes of the event: the notification of
the instance that routes it, the message on the bus and its reception by the
others, and the buffers that hold an event until the instance has rehydrated.
-/

namespace AindyRuntime.Scheduler.EventRouting

open List
open FlowEngine (FlowRun State pendingRequestKey)
open Program (read modify call)

structure FlowRow where
  run : FlowRun
  traceId : Option String

structure Message where
  eventType : String
  (correlationId runId : Option String)
  sourceInstanceId : String
deriving DecidableEq, Repr

structure World (waits : String → WaitEntry) where
  cluster : Cluster waits
  flows : Dict String FlowRow
  /-- The messages under way, with the instance each is for. -/
  messages : List (String × Message)
  /-- The buffer of each instance's event bus. -/
  busBuffer : String → List Notification

structure Setting where
  subscribers : List String
  room : Nat

structure Calls where
  reach : Reach
  (published flushed committed : Bool)

def maxBufferSize : Nat := 1000

def Notification.message (notification : Notification) (source : String) : Message :=
  ⟨notification.eventType, notification.correlationId, notification.runId, source⟩

/-- `notify_event`, and behind it the broadcast; an instance that has not
rehydrated buffers the event and broadcasts nothing. -/
def World.publishEvent (setting : Setting) (world : World waits) (instanceId : String) (calls : Calls)
    (notification : Notification) : World waits :=
  { world with
    cluster := world.cluster.notifyEvent instanceId calls.reach notification
    messages :=
      if (world.cluster.instances instanceId).rehydrationComplete && calls.published then
        world.messages ++ setting.subscribers.map fun subscriber =>
          (subscriber, Notification.message notification instanceId)
      else world.messages }

def Message.notification (message : Message) : Notification :=
  ⟨message.eventType, given message.correlationId, given message.runId⟩

def World.handleMessage (world : World waits) (instanceId : String) (reach : Reach) (message : Message) :
    World waits :=
  if message.sourceInstanceId = instanceId ∨ message.eventType = "" then world
  else if (world.cluster.instances instanceId).rehydrationComplete then
    { world with cluster := world.cluster.notifyEvent instanceId reach message.notification }
  else if (world.busBuffer instanceId).length < maxBufferSize then
    { world with
      busBuffer := Function.update world.busBuffer instanceId
        (world.busBuffer instanceId ++ [message.notification]) }
  else world

inductive ResumeOutcome where
  | accepted
  | untyped
deriving DecidableEq, Repr

inductive RouteError where
  | rejected (runId eventType : String) (errors : List String)
  | raised (error : PyError)

def pendingSchema (state : State) : List (String × Json) :=
  match state.get? pendingRequestKey with
  | some (.obj record) =>
    match Dict.Entries.find? "schema" record with
    | some (.obj schema) => schema
    | _ => []
  | _ => []

def checkResumePayload (room : Nat) (state : State) (payload : Option State) (runId eventType : String) :
    Except RouteError ResumeOutcome :=
  let schema := pendingSchema state
  if schema.isEmpty then .ok .untyped
  else
    match Syscall.validatePayload room (PyObject.ofEntries schema)
        (PyObject.ofEntries (payload.getD ∅).entries) with
    | .error error => .error (.raised error)
    | .ok [] => .ok .accepted
    | .ok errors => .error (.rejected runId eventType errors)

def correlationOf (payload : Option State) : Option String :=
  match (payload.getD ∅).get? "correlation_id" with
  | some (.str correlation) => given (some correlation)
  | _ => none

structure Delivery where
  runId : String
  (payloadInjected woken : Bool)
deriving DecidableEq, Repr

def FlowRow.inject (payload : Option State) (row : FlowRow) : FlowRow :=
  { row with
    run :=
      { row.run with
        state := row.run.state.set "event" ((payload.map fun entries => Json.obj entries.entries).getD .null) } }

abbrev RouteM (waits : String → WaitEntry) := Program RouteError (World waits)

def publishing (setting : Setting) (instanceId : String) (calls : Calls) (notification : Notification) :
    RouteM waits Bool := do
  let before ← read
  modify fun world => world.publishEvent setting instanceId calls notification
  let after ← read
  return decide (before.cluster.wakes.length < after.cluster.wakes.length)

def injecting (calls : Calls) (runId : String) (row : FlowRow) (payload : Option State) : RouteM waits Unit :=
  if calls.flushed && calls.committed then
    modify fun world => { world with flows := world.flows.set runId (row.inject payload) }
  else return ()

def routeEvent (setting : Setting) (instanceId : String) (calls : Calls) (eventType : String)
    (payload : Option State) (runId : String) : RouteM waits (List Delivery) := do
  let world ← read
  match (world.flows.get? runId).filter fun row => row.run.status = .waiting with
  | none =>
    let _ ← publishing setting instanceId calls ⟨eventType, correlationOf payload, some runId⟩
    return []
  | some row =>
    let _ ← call (checkResumePayload setting.room row.run.state payload runId eventType)
    injecting calls runId row payload
    let correlation := (correlationOf payload).getD ((given row.traceId).getD runId)
    let woken ← publishing setting instanceId calls ⟨eventType, some correlation, some runId⟩
    return if calls.flushed then [⟨runId, true, woken⟩] else []

inductive Action where
  | route (instanceId : String) (calls : Calls) (eventType : String) (payload : Option State)
  | publish (instanceId : String) (calls : Calls) (eventType : String) (correlationId : Option String)
  | receive (instanceId : String) (reach : Reach) (message : Message)
  | rehydrated (instanceId : String)
  | replay (instanceId : String) (reach : Reach)
  /-- An event of `drain_buffered_events`. -/
  | drain (instanceId : String) (reach : Reach)

def scopedWakes (setting : Setting) (runId : String) : StepSystem (World waits) Action where
  step world
    | .route instanceId calls eventType payload =>
      some ((routeEvent setting instanceId calls eventType payload runId).run world).2
    | .publish instanceId calls eventType correlationId =>
      some (world.publishEvent setting instanceId calls ⟨eventType, correlationId, some runId⟩)
    | .receive instanceId reach message =>
      if (instanceId, message) ∈ world.messages then
        some (World.handleMessage { world with messages := world.messages.erase (instanceId, message) }
          instanceId reach message)
      else none
    | .rehydrated instanceId => some { world with cluster := world.cluster.markRehydrationComplete instanceId }
    | .replay instanceId reach =>
      match (world.cluster.instances instanceId).replaying with
      | [] => none
      | notification :: rest =>
        some { world with cluster := world.cluster.replay instanceId reach notification rest }
    | .drain instanceId reach =>
      match world.busBuffer instanceId with
      | [] => none
      | notification :: rest =>
        some
          { world with
            cluster := world.cluster.notifyEvent instanceId reach notification
            busBuffer := Function.update world.busBuffer instanceId rest }

open Cluster

variable {cluster before after : Cluster waits} {instanceId runId : String} {reach : Reach}
variable {notification : Notification}

section

variable (scope : notification.runId = some runId)
include scope

theorem inScope_iff : notification.inScope other = true ↔ other = runId := by
  simp only [Notification.inScope, scope, decide_eq_true_eq]
  exact eq_comm

/-- Only the run itself is woken from the instance's own table. -/
theorem toResume_scope
    (member : other ∈ (cluster.toResume instanceId notification).map Prod.fst) : other = runId := by
  obtain ⟨_, chosen, rfl⟩ := mem_map.mp member
  have woken := (mem_filter.mp chosen).2
  exact (inScope_iff scope).mp (Notification.wakes_iff.mp woken).1.1

theorem crossResumeSpec_scope (different : found.1 ≠ runId) :
    crossResumeSpec instanceId reach notification skipRunIds cluster found = cluster := by
  have out : notification.inScope found.1 = false := by
    rw [Bool.eq_false_iff]
    exact fun inScope => different ((inScope_iff scope).mp inScope)
  simp only [crossResumeSpec]
  split
  · rfl
  · split
    · rfl
    · rw [if_neg (by simp [Notification.wakesRow, out])]

theorem crossInstanceResume_sameAt (different : other ≠ runId) :
    SameAt other cluster (cluster.crossInstanceResume instanceId reach notification skipRunIds) := by
  have turns {specs : List (String × ResumeSpec)} {cluster : Cluster waits} :
      SameAt other cluster (specs.foldl (crossResumeSpec instanceId reach notification skipRunIds) cluster) := by
    induction specs generalizing cluster with
    | nil => exact .refl
    | cons found rest ih =>
      refine SameAt.trans ?_ ih
      by_cases same : found.1 = other
      · rw [crossResumeSpec_scope scope (same ▸ different)]
        exact .refl
      · exact crossResumeSpec_sameAt same
  simp only [crossInstanceResume]
  split
  · exact turns
  · exact .refl

theorem deliver_sameAt (different : other ≠ runId) :
    SameAt other cluster (cluster.deliver instanceId reach notification) :=
  (wakeAll_sameAt fun member => different (toResume_scope scope member)).trans
    (crossInstanceResume_sameAt scope different)

theorem deliver_wakes (member : wake ∈ (cluster.deliver instanceId reach notification).wakes) :
    wake ∈ cluster.wakes ∨ wake.runId = runId := by
  rcases mem_crossInstanceResume_wakes.mp member with earlier | ⟨woken, -, ⟨-, spec, -, foreign⟩, rfl⟩
  · rcases mem_wakeAll_wakes.mp earlier with logged | ⟨wait, chosen, rfl⟩
    · exact .inl logged
    · exact .inr (toResume_scope scope (mem_map_of_mem chosen))
  · obtain ⟨_, -, wanted⟩ := foreign.row
    simp only [Notification.wakesRow, Bool.and_eq_true] at wanted
    exact .inr ((inScope_iff scope).mp wanted.1.1)

end

def SameBuffers (before after : Cluster waits) : Prop :=
  ∀ instanceId, (after.instances instanceId).preRehydrationBuffer = (before.instances instanceId).preRehydrationBuffer ∧
    (after.instances instanceId).replaying = (before.instances instanceId).replaying

theorem SameBuffers.of_onlyWaits (only : before.OnlyWaits after) : SameBuffers before after := fun instanceId =>
  (only.fields instanceId).2

structure Kept (cluster : Cluster waits) (runId : String) : Prop where
  buffered : ∀ instanceId, ∀ notification ∈ (cluster.instances instanceId).preRehydrationBuffer,
    notification.runId = some runId
  replaying : ∀ instanceId, ∀ notification ∈ (cluster.instances instanceId).replaying,
    notification.runId = some runId

theorem Kept.sameBuffers (kept : Kept before runId) (same : SameBuffers before after) : Kept after runId := by
  constructor
  · intro name notification member
    rw [(same name).1] at member
    exact kept.buffered name notification member
  · intro name notification member
    rw [(same name).2] at member
    exact kept.replaying name notification member

theorem Kept.update (kept : Kept before runId)
    (instances : after.instances = Function.update before.instances instanceId changed)
    (buffered : ∀ notification ∈ changed.preRehydrationBuffer, notification.runId = some runId)
    (replaying : ∀ notification ∈ changed.replaying, notification.runId = some runId) : Kept after runId := by
  constructor
  · rw [instances]
    exact (Function.forall_update_iff before.instances fun _ there =>
      ∀ notification ∈ there.preRehydrationBuffer, notification.runId = some runId).mpr
        ⟨buffered, fun name _ => kept.buffered name⟩
  · rw [instances]
    exact (Function.forall_update_iff before.instances fun _ there =>
      ∀ notification ∈ there.replaying, notification.runId = some runId).mpr
        ⟨replaying, fun name _ => kept.replaying name⟩

structure OnlyFor (runId : String) (before after : Cluster waits) : Prop where
  others : ∀ other, other ≠ runId → SameAt other before after
  wakes : ∀ wake ∈ after.wakes, wake ∈ before.wakes ∨ wake.runId = runId

theorem OnlyFor.refl : OnlyFor runId cluster cluster := ⟨fun _ _ => .refl, fun _ member => .inl member⟩

theorem OnlyFor.trans (first : OnlyFor runId before middle)
    (second : OnlyFor runId middle after) : OnlyFor runId before after := by
  refine ⟨fun other different => (first.others other different).trans (second.others other different),
    fun wake member => ?_⟩
  rcases second.wakes wake member with earlier | same
  · exact first.wakes wake earlier
  · exact .inr same

/-- A change of one instance that neither wakes anything nor touches its table. -/
theorem OnlyFor.update (redis : after.redis = before.redis)
    (backups : after.backups = before.backups) (wakes : after.wakes = before.wakes)
    (instances : after.instances = Function.update before.instances instanceId changed)
    (waiting : changed.waiting = (before.instances instanceId).waiting) : OnlyFor runId before after := by
  refine ⟨fun other _ => sameAt_of_update redis backups instances (by rw [waiting]), fun wake member => .inl ?_⟩
  rw [← wakes]
  exact member

theorem notifyEvent_onlyFor (scope : notification.runId = some runId) (kept : Kept cluster runId) :
    OnlyFor runId cluster (cluster.notifyEvent instanceId reach notification) ∧
      Kept (cluster.notifyEvent instanceId reach notification) runId := by
  simp only [notifyEvent]
  split
  · exact ⟨⟨fun other different => deliver_sameAt scope different, fun wake member => deliver_wakes scope member⟩,
      kept.sameBuffers (.of_onlyWaits deliver_onlyWaits)⟩
  · simp only [bufferEvent]
    split
    · exact ⟨.refl, kept⟩
    · refine ⟨.update rfl rfl rfl rfl rfl, kept.update rfl (fun added member => ?_) (kept.replaying instanceId)⟩
      rcases mem_append.mp member with earlier | new
      · exact kept.buffered instanceId added earlier
      · rw [mem_singleton.mp new]
        exact scope

theorem markRehydrationComplete_onlyFor (kept : Kept cluster runId) :
    OnlyFor runId cluster (cluster.markRehydrationComplete instanceId) ∧
      Kept (cluster.markRehydrationComplete instanceId) runId := by
  refine ⟨.update rfl rfl rfl rfl rfl, kept.update rfl (fun _ member => ?_) (fun notification member => ?_)⟩
  · cases member
  · rcases mem_append.mp member with earlier | buffered
    · exact kept.replaying instanceId notification earlier
    · exact kept.buffered instanceId notification buffered

theorem replay_onlyFor (kept : Kept cluster runId)
    (pending : (cluster.instances instanceId).replaying = notification :: rest) :
    OnlyFor runId cluster (cluster.replay instanceId reach notification rest) ∧
      Kept (cluster.replay instanceId reach notification rest) runId := by
  have within := kept.replaying instanceId
  rw [pending] at within
  let taken : Cluster waits :=
    cluster.withInstance instanceId { cluster.instances instanceId with replaying := rest } cluster.registered
  have quiet : OnlyFor runId cluster taken := .update rfl rfl rfl rfl rfl
  have still : Kept taken runId :=
    kept.update rfl (kept.buffered instanceId) fun added member => within added (mem_cons_of_mem _ member)
  obtain ⟨only, left⟩ := @notifyEvent_onlyFor _ _ instanceId _ reach _ (within notification mem_cons_self) still
  exact ⟨quiet.trans only, left⟩

variable {setting : Setting} {world next : World waits}

structure World.Scoped (world : World waits) (runId : String) : Prop where
  kept : Kept world.cluster runId
  messages : ∀ entry ∈ world.messages, entry.2.runId = some runId
  busBuffer : ∀ instanceId, ∀ notification ∈ world.busBuffer instanceId, notification.runId = some runId

/-- No run but this one is enqueued, and no other has its row, its state or a registration changed. -/
structure Untouched (runId : String) (before after : World waits) : Prop where
  cluster : OnlyFor runId before.cluster after.cluster
  flows : ∀ other, other ≠ runId → after.flows.get? other = before.flows.get? other

theorem Untouched.refl : Untouched runId world world := ⟨.refl, fun _ _ => rfl⟩

theorem Untouched.trans (first : Untouched runId world middle)
    (second : Untouched runId middle next) : Untouched runId world next :=
  ⟨first.cluster.trans second.cluster, fun other different =>
    (second.flows other different).trans (first.flows other different)⟩

variable {start : World waits}

theorem publishEvent_untouched (scope : notification.runId = some runId) (within : world.Scoped runId) :
    Untouched runId world (world.publishEvent setting instanceId calls notification) ∧
      (world.publishEvent setting instanceId calls notification).Scoped runId := by
  obtain ⟨only, kept⟩ := @notifyEvent_onlyFor _ _ instanceId _ calls.reach _ scope within.kept
  refine ⟨⟨only, fun _ _ => rfl⟩, kept, fun entry member => ?_, within.busBuffer⟩
  simp only [World.publishEvent] at member
  split at member
  · rcases mem_append.mp member with earlier | sent
    · exact within.messages entry earlier
    · obtain ⟨_, -, rfl⟩ := mem_map.mp sent
      exact scope
  · exact within.messages entry member

theorem World.Scoped.bus {buffer : List Notification} (within : world.Scoped runId)
    (buffered : ∀ notification ∈ buffer, notification.runId = some runId) :
    ∀ name, ∀ notification ∈ Function.update world.busBuffer instanceId buffer name,
      notification.runId = some runId :=
  (Function.forall_update_iff world.busBuffer fun _ there =>
    ∀ notification ∈ there, notification.runId = some runId).mpr
      ⟨buffered, fun name _ => within.busBuffer name⟩

theorem handleMessage_untouched (scope : message.notification.runId = some runId)
    (within : world.Scoped runId) :
    Untouched runId world (world.handleMessage instanceId reach message) ∧
      (world.handleMessage instanceId reach message).Scoped runId := by
  simp only [World.handleMessage]
  split
  · exact ⟨.refl, within⟩
  · split
    · obtain ⟨only, kept⟩ := @notifyEvent_onlyFor _ _ instanceId _ reach _ scope within.kept
      exact ⟨⟨only, fun _ _ => rfl⟩, kept, within.messages, within.busBuffer⟩
    · split
      · refine ⟨⟨.refl, fun _ _ => rfl⟩, within.kept, within.messages, within.bus fun notification member => ?_⟩
        rcases mem_append.mp member with earlier | new
        · exact within.busBuffer instanceId notification earlier
        · rw [mem_singleton.mp new]
          exact scope
      · exact ⟨.refl, within⟩

/-- A payload that the check does not let pass leaves everything as it was. -/
theorem routeEvent_refused (stored : world.flows.get? runId = some row) (parked : row.run.status = .waiting)
    (refused : checkResumePayload setting.room row.run.state payload runId eventType = .error error) :
    (routeEvent setting instanceId calls eventType payload runId).run world = (.error error, world) := by
  have target : (world.flows.get? runId).filter (fun row => row.run.status = .waiting) = some row := by
    simp [stored, parked]
  simp [routeEvent, target, refused]

structure Confined (runId : String) (start world : World waits) : Prop where
  untouched : Untouched runId start world
  within : world.Scoped runId

theorem publishing_keeps (scope : notification.runId = some runId) :
    (publishing setting instanceId calls notification).Keeps (Confined runId start) := by
  refine .bind .read fun before => .bind (.modify fun world held => ?_) fun _ => .bind .read fun after => .pure
  obtain ⟨untouched, within⟩ := publishEvent_untouched scope held.within
  exact ⟨held.untouched.trans untouched, within⟩

theorem injecting_keeps : (injecting calls runId row payload).Keeps (Confined runId start) := by
  refine .ite (.modify fun world held => ⟨⟨held.untouched.cluster, fun other different => ?_⟩, ?_⟩) .pure
  · rw [Dict.get?_set, if_neg (Ne.symm different)]
    exact held.untouched.flows other different
  · exact ⟨held.within.kept, held.within.messages, held.within.busBuffer⟩

theorem routeEvent_keeps :
    (routeEvent setting instanceId calls eventType payload runId).Keeps (Confined runId start) := by
  refine .bind .read fun world => ?_
  split
  · exact .bind (publishing_keeps rfl) fun _ => .pure
  · exact .bind .call fun _ => .bind injecting_keeps fun _ => .bind (publishing_keeps rfl) fun _ => .pure

theorem step_confined (named : runId ≠ "")
    (held : Confined runId start world) (stepped : (scopedWakes setting runId).step world action = some next) :
    Confined runId start next := by
  obtain ⟨untouched, within⟩ := id held
  cases action with
  | route =>
    cases stepped
    exact routeEvent_keeps.at_end held rfl
  | publish instanceId calls eventType correlationId =>
    cases stepped
    obtain ⟨only, left⟩ := @publishEvent_untouched _ instanceId _ ⟨eventType, correlationId, some runId⟩ setting
      _ calls rfl within
    exact ⟨untouched.trans only, left⟩
  | receive instanceId reach message =>
    simp only [scopedWakes] at stepped
    split at stepped
    case isTrue member =>
      cases stepped
      have sent : message.runId = some runId := within.messages _ member
      have scope : message.notification.runId = some runId := by
        simp only [Message.notification, sent, given, Option.filter_some, if_pos (decide_eq_true named)]
      have left : World.Scoped { world with messages := world.messages.erase (instanceId, message) } runId :=
        ⟨within.kept, fun entry kept => within.messages entry (mem_of_mem_erase kept), within.busBuffer⟩
      obtain ⟨only, after⟩ := @handleMessage_untouched _ instanceId _ reach _ _ scope left
      exact ⟨untouched.trans ⟨only.cluster, only.flows⟩, after⟩
    · cases stepped
  | rehydrated instanceId =>
    cases stepped
    obtain ⟨only, kept⟩ := @markRehydrationComplete_onlyFor _ _ instanceId _ within.kept
    exact ⟨untouched.trans ⟨only, fun _ _ => rfl⟩, kept, within.messages, within.busBuffer⟩
  | replay instanceId reach =>
    simp only [scopedWakes] at stepped
    split at stepped <;> cases stepped
    case h_2 pending =>
      obtain ⟨only, kept⟩ := @replay_onlyFor _ _ instanceId _ reach _ _ within.kept pending
      exact ⟨untouched.trans ⟨only, fun _ _ => rfl⟩, kept, within.messages, within.busBuffer⟩
  | drain instanceId reach =>
    simp only [scopedWakes] at stepped
    split at stepped <;> cases stepped
    case h_2 notification rest pending =>
      have buffered := within.busBuffer instanceId
      rw [pending] at buffered
      obtain ⟨only, kept⟩ := @notifyEvent_onlyFor _ _ instanceId _ reach _
        (buffered notification mem_cons_self) within.kept
      exact ⟨untouched.trans ⟨only, fun _ _ => rfl⟩, kept, within.messages,
        within.bus fun added member => buffered added (mem_cons_of_mem _ member)⟩

/-- An event for the run `runId`, on whatever paths it takes, touches that run
only (a run id is the text of a uuid, so not empty); and a payload that the run's schema rejects changes nothing. -/
theorem run_scoped_wake (setting : Setting) (runId : String) (named : runId ≠ "") :
    (∀ (start final : World waits) (actions : List Action), start.Scoped runId →
      (scopedWakes setting runId).run start actions = some final → Untouched runId start final) ∧
    ∀ (world : World waits) (row : FlowRow) (instanceId : String) (calls : Calls) (eventType : String)
        (payload : Option State) (errors : List String),
      world.flows.get? runId = some row → row.run.status = .waiting →
        checkResumePayload setting.room row.run.state payload runId eventType
            = .error (.rejected runId eventType errors) →
          (routeEvent setting instanceId calls eventType payload runId).run world
            = (.error (.rejected runId eventType errors), world) := by
  constructor
  · intro start final actions within ran
    have held : Confined runId start final := StepSystem.invariant_run (step_confined named) ⟨.refl, within⟩ ran
    exact held.untouched
  · intro world row instanceId calls eventType payload errors stored parked rejected
    exact routeEvent_refused stored parked rejected

def twoInstances : Setting := ⟨["a", "b"], 100⟩

def allWell : Calls := ⟨everything, true, true, true⟩

def reviewSchema : Json := .obj [("required", .arr [.str "reviewer"])]

def parkedRow : FlowRow :=
  ⟨⟨.waiting, .ofList [(pendingRequestKey, .obj [("schema", reviewSchema)])], "review", some "approval.granted",
    .null, .null, none⟩, none⟩

def twoWaiting : World fun _ => approvalWait where
  cluster := ((idleWith fun _ => approvalWait).registerWait "b" everything "first" (some none)).registerWait "b"
    everything "second" (some none)
  flows := .ofList [("first", parkedRow), ("second", parkedRow)]
  messages := []
  busBuffer := fun _ => []

def reviewed : Option State := some (.ofList [("reviewer", .str "r")])

theorem twoWaiting_scoped : twoWaiting.Scoped runId := by
  have idle : Kept (idleWith fun _ => approvalWait) runId :=
    ⟨fun _ _ member => absurd member not_mem_nil, fun _ _ member => absurd member not_mem_nil⟩
  have registered : SameBuffers (idleWith fun _ => approvalWait) twoWaiting.cluster :=
    .of_onlyWaits ((onlyWaits_of_update registerWait_instances).trans (onlyWaits_of_update registerWait_instances))
  exact ⟨idle.sameBuffers registered, fun _ member => absurd member not_mem_nil,
    fun _ _ member => absurd member not_mem_nil⟩

def routedForFirst : List Action :=
  [.route "a" allWell "approval.granted" reviewed,
    .receive "b" everything ⟨"approval.granted", some "first", some "first", "a"⟩]

/-- The event wakes the first flow on both instances; without a reviewer it is rejected. -/
theorem run_scoped_wake_of_first :
    (∃ final, (scopedWakes twoInstances "first").run twoWaiting routedForFirst = some final ∧
      final.cluster.wakes.map (·.runId) = ["first", "first"] ∧ Untouched "first" twoWaiting final) ∧
    (routeEvent twoInstances "a" allWell "approval.granted" none "first").run twoWaiting
      = (.error (.rejected "first" "approval.granted" ["Missing required field: 'reviewer'"]), twoWaiting) := by
  obtain ⟨confined, rejected⟩ := @run_scoped_wake (fun _ => approvalWait) twoInstances "first" (by decide)
  exact ⟨⟨_, rfl, by decide, confined _ _ routedForFirst twoWaiting_scoped rfl⟩,
    rejected _ parkedRow _ _ _ _ _ rfl rfl rfl⟩

end AindyRuntime.Scheduler.EventRouting
