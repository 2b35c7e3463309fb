import AindyRuntime.Data.PyObject
import AindyRuntime.Kernel.EffectLedger

/-! # Outcome claims

`kernel/syscall_outcome.py`: a handler claims a `partial` or `unknown` outcome
under a reserved key of the dictionary it returns; a malformed claim is refused.
-/

namespace AindyRuntime.Syscall

open EffectLedger (EffectStatus HeldOutcome heldKey)

def outcomeKey : String := "_outcome"

inductive EnvelopeStatus where
  | success
  | partialEffect
  | unknown
  | error
deriving DecidableEq, Repr

def EnvelopeStatus.ledgerStatus : EnvelopeStatus → EffectStatus
  | .success => .success
  | .partialEffect => .partialEffect
  | .unknown => .unknown
  | .error => .failed

structure ResolvedOutcome where
  status : EnvelopeStatus
  outcome : PyObject
  refusal : Option String

def ResolvedOutcome.ledgerStatus (resolved : ResolvedOutcome) : EffectStatus :=
  resolved.status.ledgerStatus

def refuse (reason : String) : ResolvedOutcome := ⟨.error, .null, some reason⟩

def unknownClaim (detail : PyObject) (units : List PyObject) : PyObject :=
  .dict [("status", .str "unknown"), ("units", .list units), ("detail", detail)]

def claimedStatus : PyObject → Option EnvelopeStatus
  | .str text =>
    if text = "partial" then some .partialEffect
    else if text = "unknown" then some .unknown
    else none
  | _ => none

def claimedUnits : PyObject → Option (List PyObject)
  | .null => some []
  | .list items => some items
  | _ => none

def namesNoUnits : String :=
  "a 'partial' outcome must name the per-unit results in .units; a partial that "
    ++ "cannot say which units landed is strictly worse than 'failed'"

def checkClaim (status : EnvelopeStatus) (units detail : PyObject) : ResolvedOutcome :=
  match claimedUnits units with
  | none => refuse (outcomeKey ++ ".units must be a list, got " ++ units.typeName)
  | some items =>
    if status = .partialEffect ∧ items = [] then refuse namesNoUnits
    else
      match detail with
      | .null | .str _ => ⟨status, .dict [("units", .list items), ("detail", detail)], none⟩
      | detail => refuse (outcomeKey ++ ".detail must be a string, got " ++ detail.typeName)

/-- The lookup in the frozen set hashes the status before anything is known
about it. -/
def readClaim (room : Nat) (claim : PyEntries) : Except PyError ResolvedOutcome := do
  let status := claim.get "status"
  status.requireHashable
  match claimedStatus status with
  | none =>
    return refuse (outcomeKey ++ ".status must be one of ['partial', 'unknown'], got " ++ (← status.repr room))
  | some status => return checkClaim status (claim.get "units") (claim.get "detail")

def resolveOutcome (room : Nat) (data : PyEntries) : Except PyError (PyEntries × ResolvedOutcome) :=
  match Dict.Entries.find? outcomeKey data with
  | none => .ok (data, ⟨.success, .null, none⟩)
  | some claim =>
    let payload := data.filter fun entry => entry.1 ≠ outcomeKey
    match claim with
    | .dict entries => (readClaim room entries).map fun resolved => (payload, resolved)
    | claim => .ok (payload, refuse (outcomeKey ++ " must be a dict, got " ++ claim.typeName))

def heldRecordPayload (data : PyEntries) (outcome : PyObject) : PyObject :=
  .dict [(heldKey, outcome.orElse (.dict [])), ("data", .dict data)]

def reconcileRequired (held : HeldOutcome) : Bool := decide (held.status = .unknown)

def envelopeOutcome (held : HeldOutcome) : Except PyError PyObject :=
  match held.outcome.orElse (.obj []) with
  | .obj entries =>
    .ok (.dict (Dict.Entries.assign "reconcile_required" (.bool (reconcileRequired held))
      (Dict.Entries.assign "held" (.bool true) (PyObject.ofEntries entries))))
  | outcome => .error ⟨.other, quote outcome.typeName ++ " object is not a mapping"⟩

/-- The claim of a returned dictionary can be read: its status can be hashed,
and printed where it is refused. -/
def ClaimReadable (room : Nat) (data : PyEntries) : Prop :=
  ∀ claim, Dict.Entries.find? outcomeKey data = some (.dict claim) →
    (PyEntries.get claim "status").unhashable? = none ∧
      (claimedStatus (PyEntries.get claim "status") = none →
        ∃ text, (PyEntries.get claim "status").repr room = .ok text)

def ResolvedOutcome.Coherent (resolved : ResolvedOutcome) : Prop :=
  resolved.refusal = none ↔ resolved.status ≠ .error

theorem refuse_coherent : (refuse reason).Coherent := by
  simp [ResolvedOutcome.Coherent, refuse]

variable {resolved : ResolvedOutcome}

theorem claimedStatus_ne_error (claimed : claimedStatus value = some status) : status ≠ .error := by
  simp only [claimedStatus] at claimed
  split at claimed
  · split at claimed
    · cases claimed
      simp
    · split at claimed <;> cases claimed
      simp
  · cases claimed

theorem checkClaim_coherent (claimed : status ≠ .error) : (checkClaim status units detail).Coherent := by
  simp only [checkClaim]
  split
  · exact refuse_coherent
  · split
    · exact refuse_coherent
    · split
      · simpa [ResolvedOutcome.Coherent] using claimed
      · simpa [ResolvedOutcome.Coherent] using claimed
      · exact refuse_coherent

inductive ResolvedOutcome.Arises : ResolvedOutcome → Prop where
  | unclaimed : Arises ⟨.success, .null, none⟩
  | refused (reason : String) : Arises (refuse reason)
  | claimed {status : EnvelopeStatus} (units detail : PyObject) (named : status ≠ .error) :
      Arises (checkClaim status units detail)

theorem readClaim_arises (read : readClaim room claim = .ok resolved) : resolved.Arises := by
  simp only [readClaim, bind, Except.bind] at read
  split at read
  · cases read
  · split at read
    · split at read <;> cases read
      exact .refused _
    case h_2 claimed =>
      cases read
      exact .claimed _ _ (claimedStatus_ne_error claimed)

theorem resolveOutcome_arises
    (resolves : resolveOutcome room returned = .ok (data, resolved)) : resolved.Arises := by
  simp only [resolveOutcome] at resolves
  split at resolves
  · cases resolves
    exact .unclaimed
  · split at resolves
    case h_1 entries _ =>
      cases read : readClaim room entries with
      | error => simp [read, Except.map] at resolves
      | ok =>
        simp only [read, Except.map, Except.ok.injEq, Prod.mk.injEq] at resolves
        exact resolves.2 ▸ readClaim_arises read
    · cases resolves
      exact .refused _

theorem ResolvedOutcome.Arises.coherent (arises : resolved.Arises) : resolved.Coherent := by
  cases arises with
  | unclaimed => simp [ResolvedOutcome.Coherent]
  | refused => exact refuse_coherent
  | claimed units detail named => exact checkClaim_coherent named

theorem checkClaim_outcome :
    ∃ fields, (checkClaim status units detail).outcome.orElse (.dict []) = .dict fields := by
  simp only [checkClaim]
  split
  · exact ⟨_, rfl⟩
  · split
    · exact ⟨_, rfl⟩
    · split <;> exact ⟨_, rfl⟩

theorem ResolvedOutcome.Arises.outcome (arises : resolved.Arises) :
    ∃ fields, resolved.outcome.orElse (.dict []) = .dict fields := by
  cases arises with
  | unclaimed | refused => exact ⟨_, rfl⟩
  | claimed => exact checkClaim_outcome

theorem requireHashable_eq_ok {value : PyObject} : value.requireHashable = .ok () ↔ value.unhashable? = none := by
  simp only [PyObject.requireHashable]
  split <;> simp_all

theorem readClaim_isOk :
    (∃ resolved, readClaim room claim = .ok resolved) ↔
      (claim.get "status").unhashable? = none ∧
        (claimedStatus (claim.get "status") = none → ∃ text, (claim.get "status").repr room = .ok text) := by
  simp only [readClaim, ← requireHashable_eq_ok, bind, Except.bind]
  cases hashed : (claim.get "status").requireHashable with
  | error => simp
  | ok =>
    cases claimed : claimedStatus (claim.get "status") with
    | some => simp [pure, Except.pure]
    | none => cases (claim.get "status").repr room <;> simp [pure, Except.pure]

/-- Reading a claim raises exactly when its status can not be hashed or not be
printed. -/
theorem resolveOutcome_isOk :
    (∃ resolved, resolveOutcome room data = .ok resolved) ↔ ClaimReadable room data := by
  simp only [resolveOutcome, ClaimReadable]
  split
  case h_1 absent => simp [absent]
  case h_2 claim present =>
    cases claim with
    | dict entries =>
      simp only [present, Option.some.injEq, PyObject.dict.injEq, forall_eq', ← readClaim_isOk]
      cases readClaim room entries <;> simp [Except.map]
    | _ => simp [present]

end AindyRuntime.Syscall
