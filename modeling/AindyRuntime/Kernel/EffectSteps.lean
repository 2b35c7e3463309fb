import AindyRuntime.Kernel.EffectGate

namespace AindyRuntime.EffectGate

open EffectLedger StepSystem

/-- A caller between its admission and its completion. -/
def Phase.inFlight : Phase → Bool
  | .admitted _ | .handling _ | .ran _ _ _ | .completing _ _ _ => true
  | _ => false

variable {deployment : Deployment} {ledger next : Ledger} {action : Action} {caller : Nat}

variable (deployment ledger) in
/-- What each action does to the ledger, under the guard that enables it. -/
inductive Transition : Action → Ledger → Prop where
  | ticked (seconds : Nat) :
      Transition (.tick seconds) { ledger with now := ledger.now + seconds }
  | left {action : Action} (caller : Nat) (reply : Reply) :
      Transition action (ledger.leave caller reply)
  | locked {caller : Nat} (free : ledger.lock = none) :
      Transition (.enter caller) { ledger.goto caller .entered with lock := some caller }
  | unlocked {caller : Nat} (without : ((deployment.caller caller).locks && deployment.postgresql) = false) :
      Transition (.enter caller) (ledger.goto caller .entered)
  | outwaited {caller : Nat} (mayRepeat : (deployment.caller caller).atMostOnce = false) :
      Transition (.lockTimeout caller) (ledger.goto caller .entered)
  | opened {caller : Nat} (entered : ledger.phases caller = .entered) :
      Transition (.select caller) (ledger.goto caller (.selected ledger.row))
  | reread {caller : Nat} (record : EffectRecord) (conflict : ledger.phases caller = .conflicted)
      (present : ledger.row = some record) :
      Transition (.select caller) (ledger.goto caller (.selected (some record)))
  | vanished {caller : Nat} (conflict : ledger.phases caller = .conflicted) (absent : ledger.row = none)
      (mayRepeat : (deployment.caller caller).atMostOnce = false) :
      Transition (.select caller) ((ledger.goto caller (.admitted false)).release caller)
  | unguarded {caller : Nat} (mayRepeat : (deployment.caller caller).atMostOnce = false) :
      Transition (.gateFails caller) ((ledger.goto caller (.admitted false)).release caller)
  | reserved {caller : Nat} (selected : ledger.phases caller = .selected none) (absent : ledger.row = none) :
      Transition (.insert caller)
        ((ledger.store (reservedRow ledger.now (deployment.caller caller).request)).goto caller (.admitted true))
  | raced {caller : Nat} (selected : ledger.phases caller = .selected none) (present : ledger.row ≠ none) :
      Transition (.insert caller) (ledger.goto caller .conflicted)
  | degraded {caller : Nat} (loaded : EffectRecord) (selected : ledger.phases caller = .selected (some loaded))
      (resolution : resolveExistingRow ledger.now (deployment.caller caller).request loaded = .degraded)
      (mayRepeat : (deployment.caller caller).atMostOnce = false) :
      Transition (.resolve caller) (ledger.goto caller (.admitted true))
  | reclaimed {caller : Nat} (loaded assigned current : EffectRecord)
      (selected : ledger.phases caller = .selected (some loaded))
      (resolution : resolveExistingRow ledger.now (deployment.caller caller).request loaded = .reclaim assigned)
      (present : ledger.row = some current) :
      Transition (.resolve caller)
        ((ledger.store (loaded.commit assigned current)).goto caller (.admitted true))
  | refused {caller : Nat} (admitted : ledger.phases caller = .admitted true) :
      Transition (.refuseEnded caller) (ledger.goto caller (.ran true .failed .null))
  | started {caller : Nat} (gated : Bool) (admitted : ledger.phases caller = .admitted gated) :
      Transition (.startHandler caller)
        { ledger.goto caller (.handling gated) with handlerRuns := caller :: ledger.handlerRuns }
  | finished {caller : Nat} {status : EffectStatus} {payload : Json} (gated : Bool)
      (handling : ledger.phases caller = .handling gated) :
      Transition (.finishHandler caller status payload)
        (ledger.goto caller (.ran gated status payload))
  | loaded {caller : Nat} (status : EffectStatus) (payload : Json) (record : EffectRecord)
      (ran : ledger.phases caller = .ran true status payload) (present : ledger.row = some record) :
      Transition (.completeSelect caller)
        (ledger.goto caller (.completing status payload record))
  | completed {caller : Nat} (status : EffectStatus) (payload : Json) (loaded current : EffectRecord)
      (completing : ledger.phases caller = .completing status payload loaded)
      (present : ledger.row = some current) :
      Transition (.completeCommit caller)
        ((ledger.store (loaded.commit (loaded.completed ledger.now status payload) current)).leave caller .finished)
  | examined {operator : Nat} {status : EffectStatus} (record : EffectRecord)
      (unknown : record.status = .unknown) :
      Transition (.reconcileSelect operator status)
        (ledger.goto operator (.reconciling status record))
  | reconciled {operator : Nat} (status : EffectStatus) (loaded current : EffectRecord)
      (reconciling : ledger.phases operator = .reconciling status loaded)
      (present : ledger.row = some current) :
      Transition (.reconcileCommit operator)
        ((ledger.store (loaded.commit (loaded.reconciled ledger.now status) current)).leave operator .finished)

theorem enter_transition : Leads (Transition deployment ledger (.enter caller)) (enter deployment ledger caller) := by
  unfold enter
  split
  · split
    case isTrue =>
      split
      case isTrue free => exact .locked free
      · trivial
    case isFalse without => exact .unlocked (by simpa using without)
  · trivial

theorem select_transition :
    Leads (Transition deployment ledger (.select caller)) (select deployment ledger caller) := by
  unfold select
  split
  case h_1 entered => exact .opened entered
  case h_2 conflict =>
    split
    case h_1 record present => exact .reread record conflict present
    case h_2 absent =>
      rw [degrade]
      split
      · exact .left caller _
      case isFalse mayRepeat => exact .vanished conflict absent (by simpa using mayRepeat)
  · trivial

theorem gateFails_transition :
    Leads (Transition deployment ledger (.gateFails caller)) (gateFails deployment ledger caller) := by
  have degraded : Transition deployment ledger (.gateFails caller) (degrade deployment ledger caller) := by
    rw [degrade]
    split
    · exact .left caller _
    case isFalse mayRepeat => exact .unguarded (by simpa using mayRepeat)
  unfold gateFails
  split <;> first | exact degraded | trivial

theorem resolve_transition :
    Leads (Transition deployment ledger (.resolve caller)) (resolve deployment ledger caller) := by
  unfold resolve
  split
  case h_1 loaded selected =>
    split
    · exact .left caller _
    · exact .left caller _
    case h_3 resolution =>
      split
      · exact .left caller _
      case isFalse mayRepeat => exact .degraded loaded selected resolution (by simpa using mayRepeat)
    case h_4 assigned resolution =>
      exact .map fun current present => .reclaimed loaded assigned current selected resolution present
  · trivial

theorem completeSelect_transition :
    Leads (Transition deployment ledger (.completeSelect caller)) (completeSelect deployment ledger caller) := by
  unfold completeSelect
  split
  case h_1 status payload ran =>
    split
    · exact .left caller _
    · split
      case h_1 record present => exact .loaded status payload record ran present
      · exact .left caller _
  · exact .left caller _
  · trivial

theorem step_transition : Leads (Transition deployment ledger action) (step deployment ledger action) := by
  cases action with
  | tick seconds => exact .ticked seconds
  | enter => exact enter_transition
  | lockTimeout caller =>
    simp only [step, lockTimeout]
    split
    · split
      case isTrue =>
        split
        · exact .left caller _
        case isFalse mayRepeat => exact .outwaited (by simpa using mayRepeat)
      · trivial
    · trivial
  | gateFails => exact gateFails_transition
  | select => exact select_transition
  | insert =>
    simp only [step, insert]
    split
    case h_1 selected =>
      split
      case h_1 absent => exact .reserved selected absent
      case h_2 present => exact .raced selected (by simp [present])
    · trivial
  | resolve => exact resolve_transition
  | refuseEnded caller =>
    simp only [step, refuseEnded]
    split
    case h_1 admitted => exact .refused admitted
    · exact .left caller _
    · trivial
  | startHandler =>
    simp only [step, startHandler]
    split
    case h_1 gated admitted => exact .started gated admitted
    · trivial
  | finishHandler =>
    simp only [step, finishHandler]
    split
    case h_1 gated handling => exact .finished gated handling
    · trivial
  | completeSelect => exact completeSelect_transition
  | completeCommit =>
    simp only [step, completeCommit]
    split
    case h_1 status payload loaded completing =>
      exact .map fun current present => .completed status payload loaded current completing present
    · trivial
  | crash caller => exact .left caller _
  | reconcileSelect =>
    simp only [step, reconcileSelect]
    split
    case h_1 =>
      split
      case isTrue => exact .examined _ (by simp_all)
      · trivial
    · trivial
  | reconcileCommit =>
    simp only [step, reconcileCommit]
    split
    case h_1 status loaded reconciling =>
      exact .map fun current present => .reconciled status loaded current reconciling present
    · trivial

end AindyRuntime.EffectGate
