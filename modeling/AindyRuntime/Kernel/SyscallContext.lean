import AindyRuntime.Kernel.SyscallReplay

/-! # The context of a dispatch

`dispatch` resolves the caller's context against the ambient trace and execution
unit before the gate reads its scope.
-/

namespace AindyRuntime.Syscall

open EffectLedger
open PyObject (DumpError)

structure SyscallContext where
  (executionUnitId userId : String)
  capabilities : List String
  traceId : String
  memoryContext : List PyObject
  metadata : PyEntries

structure Ambient where
  (traceId executionUnitId : String)
  syscallsOnly : Bool
deriving DecidableEq, Repr

structure Fresh where
  (traceId executionUnitId : String)

structure Binding where
  executionUnitId : String
  traceId : Option String
  syscallsOnly : Bool

def orText (value other : String) : String := if value = "" then other else value

def bindExecutionUnit (binding : Binding) (ambient : Ambient) : Ambient :=
  if binding.executionUnitId = "" then ambient
  else
    { traceId := orText (binding.traceId.getD "") binding.executionUnitId
      executionUnitId := binding.executionUnitId
      syscallsOnly := binding.syscallsOnly }

def resolveTraceContext (fresh : Fresh) (ambient : Ambient) (context : SyscallContext) :
    SyscallContext × Ambient :=
  if ambient.traceId ≠ "" then
    if context.traceId ≠ ambient.traceId ∨ context.executionUnitId ≠ ambient.executionUnitId then
      ({ context with
          executionUnitId := orText ambient.executionUnitId context.executionUnitId
          traceId := ambient.traceId }, ambient)
    else (context, ambient)
  else
    let resolved :=
      if context.traceId = "" ∨ context.executionUnitId = "" then
        { context with
          executionUnitId := orText context.executionUnitId fresh.executionUnitId
          traceId := orText context.traceId fresh.traceId }
      else context
    (resolved, { ambient with traceId := resolved.traceId, executionUnitId := resolved.executionUnitId })

/-- A dispatch with all that surrounds it.  What the context decides of the
invocation is read from the context, the rest from `invocation`. -/
structure Call where
  invocation : Invocation
  context : SyscallContext
  ambient : Ambient
  fresh : Fresh

namespace Call

variable (call : Call)

def resolved : SyscallContext :=
  (resolveTraceContext call.fresh call.ambient call.context).1

def chargedUnit : String := call.resolved.executionUnitId

def invoked : Invocation :=
  { call.invocation with
    userId := call.resolved.userId
    traceId := call.resolved.traceId
    executionUnitId := call.resolved.executionUnitId
    originalUnitId := call.context.executionUnitId }

def within (binding : Binding) : Call :=
  { call with ambient := bindExecutionUnit binding call.ambient }

def gateKey (deployment : Deployment) (call : Call) : Option (Except DumpError String) :=
  if call.invoked.engages deployment then some (call.invoked.computeActionId deployment) else none

end Call

/-- Two dispatches of one syscall with one payload.  The callers' contexts may
differ, but either both name a unit or neither does. -/
structure SameSyscall (first second : Call) : Prop where
  name : second.invocation.name = first.invocation.name
  entry : second.invocation.entry = first.invocation.entry
  payload : second.invocation.payload = first.invocation.payload
  durable : second.invocation.durable = first.invocation.durable
  named : second.context.executionUnitId = "" ↔ first.context.executionUnitId = ""

def Deployment.SeparatesScopes (deployment : Deployment) : Prop :=
  ∀ (left right : Json) (scope other : String), left.get "scope" = .str scope →
    right.get "scope" = .str other → deployment.digest left = deployment.digest right → scope = other

variable {deployment : Deployment} {first second call : Call} {invocation other : Invocation}

/-- The bound unit is charged, and without one that of the ambient trace, the caller's or a fresh one. -/
theorem chargedUnit_within : (call.within binding).chargedUnit =
    if binding.executionUnitId ≠ "" then binding.executionUnitId
    else if call.ambient.traceId ≠ "" then orText call.ambient.executionUnitId call.context.executionUnitId
    else orText call.context.executionUnitId call.fresh.executionUnitId := by
  simp only [Call.chargedUnit, Call.resolved, Call.within, bindExecutionUnit, resolveTraceContext]
  have named : binding.executionUnitId ≠ "" → orText (binding.traceId.getD "") binding.executionUnitId ≠ "" := by
    unfold orText
    split <;> simp_all
  split_ifs <;> simp_all [orText]

theorem dumps_canonical :
    PyObject.dumps room (.dict [("action_type", .str name), ("input", input), ("scope", .str unit)]) = .ok dumped ↔
      ∃ depth encoded, room = depth + 1 ∧ PyObject.dumps depth input = .ok encoded ∧
        dumped = .obj [("action_type", .str name), ("input", encoded), ("scope", .str unit)] := by
  cases room with
  | zero => simp [PyObject.dumps]
  | succ depth =>
    simp only [PyObject.dumps, PyObject.dumpsEntries]
    constructor
    · intro whole
      cases part : PyObject.dumps depth input with
      | error => rw [part] at whole; cases whole
      | ok encoded =>
        rw [part] at whole
        exact ⟨depth, encoded, rfl, part, (Except.ok.inj whole).symm⟩
    · rintro ⟨_, encoded, ⟨⟩, part, rfl⟩
      rw [part]
      rfl

theorem canonical_scope (encoded : invocation.canonical deployment = .ok dumped) :
    dumped.get "scope" = .str invocation.executionUnitId := by
  obtain ⟨_, _, _, _, rfl⟩ := dumps_canonical.mp encoded
  rfl

/-- Whether a request can be encoded does not depend on its scope. -/
theorem canonical_of_same (payload : other.payload = invocation.payload)
    (encoded : invocation.canonical deployment = .ok dumped) :
    ∃ redumped, other.canonical deployment = .ok redumped := by
  obtain ⟨depth, input, room, part, _⟩ := dumps_canonical.mp encoded
  exact ⟨_, dumps_canonical.mpr ⟨depth, input, room, by rw [payload]; exact part, rfl⟩⟩

theorem computeActionId_eq_ok :
    invocation.computeActionId deployment = .ok key ↔
      ∃ dumped, invocation.canonical deployment = .ok dumped ∧ deployment.digest dumped = key := by
  simp only [Invocation.computeActionId]
  cases invocation.canonical deployment <;> simp [Except.map]

theorem gateKey_eq_ok :
    call.gateKey deployment = some (.ok key) ↔
      call.invoked.engages deployment = true ∧ call.invoked.computeActionId deployment = .ok key := by
  simp only [Call.gateKey]
  by_cases engages : call.invoked.engages deployment = true <;> simp [engages]

theorem computeActionId_of_unit (same : SameSyscall first second) (unit : second.chargedUnit = first.chargedUnit) :
    second.invoked.computeActionId deployment = first.invoked.computeActionId deployment := by
  have charged : second.resolved.executionUnitId = first.resolved.executionUnitId := unit
  simp [Invocation.computeActionId, Invocation.canonical, Call.invoked, same.name, same.payload, charged]

theorem engages_congr (entry : other.entry = invocation.entry) (durable : other.durable = invocation.durable)
    (named : other.originalUnitId = "" ↔ invocation.originalUnitId = "")
    (unit : other.executionUnitId = invocation.executionUnitId) :
    other.engages deployment = invocation.engages deployment := by
  have owned : decide (other.originalUnitId ≠ "") = decide (invocation.originalUnitId ≠ "") :=
    decide_eq_decide.mpr (not_congr named)
  simp [Invocation.engages, Invocation.atMostOnce, entry, durable, unit, owned]

theorem gateKey_of_unit (same : SameSyscall first second) (unit : second.chargedUnit = first.chargedUnit) :
    second.gateKey deployment = first.gateKey deployment := by
  have engages : second.invoked.engages deployment = first.invoked.engages deployment :=
    engages_congr same.entry same.durable same.named unit
  simp [Call.gateKey, engages, computeActionId_of_unit same unit]

theorem unit_of_key (separates : deployment.SeparatesScopes)
    (keyed : first.invoked.computeActionId deployment = .ok key)
    (rekeyed : second.invoked.computeActionId deployment = .ok key) : second.chargedUnit = first.chargedUnit := by
  obtain ⟨dumped, encoded, digested⟩ := computeActionId_eq_ok.mp keyed
  obtain ⟨redumped, reencoded, redigested⟩ := computeActionId_eq_ok.mp rekeyed
  exact separates redumped dumped _ _ (canonical_scope reencoded) (canonical_scope encoded)
    (redigested.trans digested.symm)

theorem gateKey_iff_unit (separates : deployment.SeparatesScopes) (same : SameSyscall first second)
    (keyed : first.gateKey deployment = some (.ok key)) :
    second.gateKey deployment = some (.ok key) ↔ second.chargedUnit = first.chargedUnit := by
  constructor
  · intro rekeyed
    exact unit_of_key separates (gateKey_eq_ok.mp keyed).2 (gateKey_eq_ok.mp rekeyed).2
  · intro unit
    rw [gateKey_of_unit same unit, keyed]

theorem conclude_open (world : World) :
    (conclude deployment invocation none returned).Yields world (fun _ => (· = world))
      (fun _ => (· = world)) := by
  simp only [conclude, Program.yields_bind, Program.yields_call]
  refine ⟨?_, by simp⟩
  rintro ⟨data, resolved⟩ _
  cases resolved.refusal with
  | some => simp [finish]
  | none => simp [finish, record]

/-- Past a gate that did not engage, only the handler touches the world. -/
theorem afterGate_open (live : invocation.ended = none) :
    ((afterGate deployment invocation none).run world).2 = world.handle invocation.seconds := by
  have handled : (afterGate deployment invocation none).Yields world
      (fun _ => (· = world.handle invocation.seconds))
      (fun _ => (· = world.handle invocation.seconds)) := by
    simp only [afterGate, live, runHandler, Program.yields_bind, Program.yields_modify]
    cases invocation.handler with
    | raised raised => cases raised <;> simp [handlerFailed, finish]
    | unobserved => exact conclude_open _
    | returned value => cases value <;> first | exact conclude_open _ | simp [rejectValue, finish]
  exact handled.left_state

theorem dispatch_ungated (live : invocation.ended = none) (ungated : invocation.engages deployment = false) :
    ((dispatch deployment invocation).run world).2.handlerRuns = world.handlerRuns + 1 := by
  have opened : (openGate deployment invocation).run world = (.ok (.through none), world) := by
    simp [openGate, ungated]
  have handled := @afterGate_open deployment invocation world live
  have ran : ((dispatch deployment invocation).run world).2 = world.handle invocation.seconds := by
    rw [dispatch_run opened, Program.run_attempt]
    generalize (afterGate deployment invocation none).run world = ended at handled
    obtain ⟨_ | _, _⟩ := ended
    · exact rescue_run.trans handled
    · exact handled
  rw [ran]
  rfl

structure Call.Served (call : Call) : Prop where
  live : call.invocation.ended = none
  lock : call.invocation.lockCall = .ok ()
  resolve : call.invocation.resolveCall = .ok ()
  complete : call.invocation.completeCall = .ok ()

structure RecordedOnly (key : String) (world : World) : Prop where
  recorded : ∃ record, world.table key = some record ∧ record.status = .success
  others : ∀ other, other ≠ key → Reclaimable other world
  free : ∀ other, world.locks other = false

theorem Call.Served.keyed (served : call.Served)
    (keyed : call.gateKey deployment = some (.ok key)) : Keyed deployment key call.invoked :=
  ⟨(gateKey_eq_ok.mp keyed).1, (gateKey_eq_ok.mp keyed).2, served.lock, served.resolve, served.complete⟩

theorem dispatch_recorded (served : call.Served) (recorded : RecordedOnly key world)
    (keyed : call.gateKey deployment = some (.ok key)) :
    ((dispatch deployment call.invoked).run world).2.handlerRuns = world.handlerRuns := by
  obtain ⟨_, present, status⟩ := recorded.recorded
  rw [dispatch_success (served.keyed keyed) (recorded.free key) present status]

/-- A call that the gate does not know under `key` runs the handler. -/
theorem dispatch_unrecorded (served : call.Served) (recorded : RecordedOnly key world)
    (encodes : ∃ dumped, call.invoked.canonical deployment = .ok dumped)
    (unkeyed : call.gateKey deployment ≠ some (.ok key)) :
    ((dispatch deployment call.invoked).run world).2.handlerRuns = world.handlerRuns + 1 := by
  have live : call.invoked.ended = none := served.live
  cases engages : call.invoked.engages deployment with
  | false => exact dispatch_ungated live engages
  | true =>
    obtain ⟨dumped, encoded⟩ := encodes
    have rekeyed : call.gateKey deployment = some (.ok (deployment.digest dumped)) :=
      gateKey_eq_ok.mpr ⟨engages, computeActionId_eq_ok.mpr ⟨dumped, encoded, rfl⟩⟩
    have differs : deployment.digest dumped ≠ key := by
      rintro rfl
      exact unkeyed rekeyed
    rw [dispatch_handles (served.keyed rekeyed) (recorded.free _) (recorded.others _ differs), live, if_pos rfl]

/-- Two dispatches of one syscall and payload, by one caller under two bindings or
by two callers, use one key exactly if they are charged to one unit; then the second
replays the effect that the first recorded, and otherwise it runs again. -/
theorem effect_key_follows_charged_unit {binding rebinding : Binding}
    (separates : deployment.SeparatesScopes) (same : SameSyscall first second)
    (keyed : (first.within binding).gateKey deployment = some (.ok key)) :
    ((second.within rebinding).gateKey deployment = some (.ok key) ↔
      (second.within rebinding).chargedUnit = (first.within binding).chargedUnit) ∧
    ∀ world, second.Served → RecordedOnly key world →
      (((dispatch deployment (second.within rebinding).invoked).run world).2.handlerRuns = world.handlerRuns ↔
      (second.within rebinding).chargedUnit = (first.within binding).chargedUnit) := by
  have bound : SameSyscall (first.within binding) (second.within rebinding) :=
    ⟨same.name, same.entry, same.payload, same.durable, same.named⟩
  have shares := gateKey_iff_unit separates bound keyed
  refine ⟨shares, ?_⟩
  intro world served recorded
  have served : (second.within rebinding).Served :=
    ⟨served.live, served.lock, served.resolve, served.complete⟩
  constructor
  · intro idle
    by_contra apart
    obtain ⟨dumped, encoded, _⟩ := computeActionId_eq_ok.mp (gateKey_eq_ok.mp keyed).2
    have ran := dispatch_unrecorded served recorded
      (@canonical_of_same deployment (first.within binding).invoked (second.within rebinding).invoked
        dumped bound.payload encoded) fun rekeyed => apart (shares.mp rekeyed)
    omega
  · intro unit
    exact dispatch_recorded served recorded (shares.mpr unit)

def scopedDeployment : Deployment :=
  { mailDeployment with
    digest := fun dumped => match dumped.get "scope" with | .str scope => scope | _ => "" }

def mailCaller (unit : String) : Call where
  invocation := mailInvocation .exactlyOnce (.returned (.dict [("sent", .bool true)]))
  context := ⟨unit, "u1", ["mail.send"], "t1", [], []⟩
  ambient := ⟨"", "", false⟩
  fresh := ⟨"t2", "b59e5f1c-0d86-4a3b-9a7e-8f1f6d0c2b11"⟩

def ownUnit : String := "0d4e6a52-51c5-4f38-8b0f-5f8f3a6d9e01"

def otherUnit : String := "7c1b2f90-2f64-4c7d-9d3a-1e5b7a8c4d02"

def chargedTo (unit : String) : Binding := ⟨unit, none, true⟩

theorem scopedDeployment_separates : scopedDeployment.SeparatesScopes := by
  intro left right scope other ofLeft ofRight digested
  simpa [scopedDeployment, ofLeft, ofRight] using digested

def sentWorld : World :=
  emptyWorld.store ownUnit ((reservedRow 0 ⟨"sys.v1.mail.send", "h1", none, none, none⟩).completed 1
    .success (.obj [("sent", .bool true)]))

theorem sentWorld_recorded : RecordedOnly ownUnit sentWorld := by
  refine ⟨⟨_, rfl, rfl⟩, ?_, fun _ => rfl⟩
  intro other differs record present
  simp [sentWorld, World.store, differs, emptyWorld] at present

/-- Charged to its own unit, the caller finds what it recorded without a
binding. -/
theorem effect_key_of_own_unit :
    ((mailCaller ownUnit).within (chargedTo ownUnit)).gateKey scopedDeployment =
        some (.ok ownUnit) ∧
      ((dispatch scopedDeployment ((mailCaller ownUnit).within (chargedTo ownUnit)).invoked).run
        sentWorld).2.handlerRuns = 0 := by
  have follows := @effect_key_follows_charged_unit scopedDeployment (mailCaller ownUnit)
    (mailCaller ownUnit) ownUnit ⟨"", none, false⟩ (chargedTo ownUnit) scopedDeployment_separates
    ⟨rfl, rfl, rfl, rfl, Iff.rfl⟩ rfl
  exact ⟨follows.1.mpr rfl, (follows.2 sentWorld ⟨rfl, rfl, rfl, rfl⟩ sentWorld_recorded).mpr rfl⟩

/-- One caller dispatches twice, charged to two units: the recorded effect runs
again.  Two callers dispatch, charged to one unit: the second gets what the
first recorded, and its own effect does not run. -/
theorem effect_key_depends_on_binding :
    ((mailCaller ownUnit).within (chargedTo ownUnit)).gateKey scopedDeployment =
        some (.ok ownUnit) ∧
      ((mailCaller ownUnit).within (chargedTo otherUnit)).gateKey scopedDeployment =
        some (.ok otherUnit) ∧
      (((dispatch scopedDeployment ((mailCaller ownUnit).within (chargedTo otherUnit)).invoked).run
        ((dispatch scopedDeployment ((mailCaller ownUnit).within (chargedTo ownUnit)).invoked).run
          emptyWorld).2).2.handlerRuns = 2) ∧
      ((mailCaller otherUnit).within (chargedTo ownUnit)).gateKey scopedDeployment =
        some (.ok ownUnit) ∧
      ((dispatch scopedDeployment ((mailCaller otherUnit).within (chargedTo ownUnit)).invoked).run
        ((dispatch scopedDeployment ((mailCaller ownUnit).within (chargedTo ownUnit)).invoked).run
          emptyWorld).2).2.handlerRuns = 1 :=
  ⟨rfl, rfl, rfl, rfl, rfl⟩

end AindyRuntime.Syscall
