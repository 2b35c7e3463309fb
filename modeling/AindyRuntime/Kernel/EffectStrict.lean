import AindyRuntime.Kernel.EffectFinality

/-! # Serialized callers

Where every caller takes the advisory lock, on a database that has one, the
lock covers the stretch from the opening query to the completion, and a settled
effect is final in every interleaving.
-/

namespace AindyRuntime.EffectGate

open EffectLedger

variable {ledger next : Ledger}

/-- Every caller takes the advisory lock, and the database has one. -/
def Deployment.Serializes (deployment : Deployment) : Prop :=
  deployment.postgresql = true ∧ ∀ caller, (deployment.caller caller).locks = true

def Phase.guarded : Phase → Bool
  | .entered | .selected _ | .conflicted | .admitted _ | .handling _ | .ran _ _ _
  | .completing _ _ _ => true
  | .idle | .reconciling _ _ | .left _ => false

/-- The actions that keep to the lock: no caller goes on after its wait ran
out or a call of the gate failed, and no operator writes the row. -/
def Action.underLock (deployment : Deployment) : Action → Bool
  | .lockTimeout caller | .gateFails caller => (deployment.caller caller).atMostOnce
  | .reconcileSelect _ _ | .reconcileCommit _ => false
  | _ => true

/-- Every caller past the lock holds it. -/
def Owned (ledger : Ledger) : Prop :=
  ∀ caller, (ledger.phases caller).guarded = true → ledger.lock = some caller

namespace Owned

theorem single (owned : Owned ledger)
    (first : (ledger.phases one).guarded = true) (second : (ledger.phases other).guarded = true) : one = other :=
  Option.some.inj ((owned one first).symm.trans (owned other second))

theorem of_moved (owned : Owned ledger) (lock : next.lock = ledger.lock)
    (phases : next.phases = (ledger.goto caller phase).phases)
    (guarded : phase.guarded = true → (ledger.phases caller).guarded = true) : Owned next := by
  intro other inside
  rw [lock]
  rw [phases, Ledger.goto_phases] at inside
  split at inside
  case isTrue same => exact same ▸ owned caller (guarded inside)
  · exact owned other inside

theorem of_left (owned : Owned ledger) (lock : next.lock = (ledger.leave caller reply).lock)
    (phases : next.phases = (ledger.leave caller reply).phases) : Owned next := by
  intro other inside
  rw [phases, Ledger.leave_phases] at inside
  split at inside
  · cases inside
  case isFalse differ => simp [lock, owned other inside, differ]

theorem of_entered (owned : Owned ledger) (free : ledger.lock = none) (lock : next.lock = some caller)
    (phases : next.phases = (ledger.goto caller .entered).phases) : Owned next := by
  intro other inside
  rw [phases, Ledger.goto_phases] at inside
  split at inside
  case isTrue same => rw [lock, same]
  · exact absurd (owned other inside) (by simp [free])

end Owned

/-- Callers past the lock hold it, what they read is the row as it is, and the row
of a caller in flight is pending. -/
structure Serialized (ledger : Ledger) : Prop where
  owner : ∀ {caller}, (ledger.phases caller).guarded = true → ledger.lock = some caller
  current : ∀ {caller found}, ledger.phases caller = .selected found → ledger.row = found
  unrivalled : ∀ {caller}, ledger.phases caller ≠ .conflicted
  holds : ∀ {caller}, (ledger.phases caller).inFlight = true →
    ∃ record, ledger.row = some record ∧ record.status = .pending

theorem Serialized.of_quiet (quiet : ledger.Quiet) : Serialized ledger where
  owner inside := by simp [quiet _, Phase.guarded] at inside
  current selected := by simp [quiet _] at selected
  unrivalled := by simp [quiet _]
  holds inside := by simp [quiet _, Phase.inFlight] at inside

theorem Phase.guarded_of_inFlight {phase : Phase} (inside : phase.inFlight = true) : phase.guarded = true := by
  cases phase <;> first | rfl | cases inside

namespace Serialized

theorem owned (serialized : Serialized ledger) : Owned ledger := fun _ => serialized.owner

section

variable (serialized : Serialized ledger)
include serialized

/-- One caller moves while the row stays, and is in flight only if it was. -/
theorem of_phase (owned : Owned next) (row : next.row = ledger.row)
    (phases : ∀ other, next.phases other = if other = caller then phase else ledger.phases other)
    (read : ∀ found, phase = .selected found → ledger.row = found) (unrivalled : phase ≠ .conflicted)
    (admitted : phase.inFlight = true → (ledger.phases caller).inFlight = true) : Serialized next := by
  refine ⟨owned _, fun {other found} selected => ?_, fun {other} conflicted => ?_, fun {other} inside => ?_⟩
  · rw [phases] at selected
    split at selected
    · exact row.trans (read found selected)
    · exact row.trans (serialized.current selected)
  · rw [phases] at conflicted
    split at conflicted
    · exact unrivalled conflicted
    · exact serialized.unrivalled conflicted
  · rw [phases] at inside
    rw [row]
    split at inside
    · exact serialized.holds (admitted inside)
    · exact serialized.holds inside

theorem of_owner (inside : (ledger.phases caller).guarded = true)
    (lock : next.lock = ledger.lock) (phases : next.phases = (ledger.goto caller phase).phases)
    (row : next.row = ledger.row) (read : ∀ found, phase = .selected found → ledger.row = found)
    (unrivalled : phase ≠ .conflicted)
    (admitted : phase.inFlight = true → (ledger.phases caller).inFlight = true) : Serialized next := by
  have owned : Owned next := serialized.owned.of_moved lock phases (fun _ => inside)
  exact serialized.of_phase owned row (congrFun phases) read unrivalled admitted

/-- The owner writes the row, after which nobody else has read it or is in flight. -/
theorem of_write (owned : Owned next) (inside : (ledger.phases caller).guarded = true)
    (phases : ∀ other, next.phases other = if other = caller then phase else ledger.phases other)
    (read : ∀ found, phase ≠ .selected found) (unrivalled : phase ≠ .conflicted)
    (pending : phase.inFlight = true → ∃ record, next.row = some record ∧ record.status = .pending) :
    Serialized next := by
  have only {other : Nat} (guarded : (ledger.phases other).guarded = true) : other = caller :=
    serialized.owned.single guarded inside
  refine ⟨owned _, fun {other found} selected => ?_, fun {other} conflicted => ?_, fun {other} flying => ?_⟩
  · rw [phases] at selected
    split at selected
    · exact absurd selected (read found)
    case isFalse differ => exact absurd (only (by simp [selected, Phase.guarded])) differ
  · rw [phases] at conflicted
    split at conflicted
    · exact unrivalled conflicted
    · exact serialized.unrivalled conflicted
  · rw [phases] at flying
    split at flying
    · exact pending flying
    case isFalse differ => exact absurd (only (Phase.guarded_of_inFlight flying)) differ

theorem of_admission (inside : (ledger.phases caller).guarded = true) (lock : next.lock = ledger.lock)
    (phases : next.phases = (ledger.goto caller (.admitted true)).phases)
    (row : next.row = some record) (pending : record.status = .pending) : Serialized next := by
  have owned : Owned next := serialized.owned.of_moved lock phases (fun _ => inside)
  exact serialized.of_write owned inside (congrFun phases) nofun nofun fun _ => ⟨record, row, pending⟩

/-- On a settled row nobody contends: who read it read it settled, and whoever is
in flight would have it pending. -/
theorem uncontended (settled : ledger.Settled) (caller : Nat) :
    (ledger.phases caller).contends = false := by
  obtain ⟨record, present, status⟩ := settled
  have landed : (ledger.phases caller).inFlight = false := by
    by_contra inside
    obtain ⟨other, found, pending⟩ := serialized.holds (by simpa using inside)
    obtain rfl : record = other := Option.some.inj (present.symm.trans found)
    simp [pending, EffectStatus.settled] at status
  cases phase : ledger.phases caller with
  | selected found =>
      obtain rfl : some record = found := present.symm.trans (serialized.current phase)
      simp [Phase.contends, status]
  | admitted | handling | ran | completing => simp [phase, Phase.inFlight] at landed
  | idle | entered | conflicted | reconciling | left => rfl

end

end Serialized

theorem step_serialized (serializes : deployment.Serializes) (underLock : action.underLock deployment = true)
    (serialized : Serialized ledger) (stepped : step deployment ledger action = some next) : Serialized next := by
  cases step_transition.of_step stepped with
  | ticked => exact ⟨serialized.owner, serialized.current, serialized.unrivalled, serialized.holds⟩
  | left =>
      exact serialized.of_phase (serialized.owned.of_left rfl rfl) rfl (fun _ => rfl) nofun nofun nofun
  | locked free =>
      exact serialized.of_phase (serialized.owned.of_entered free rfl rfl) rfl (fun _ => rfl) nofun nofun nofun
  | unlocked without => simp [serializes.1, serializes.2] at without
  | outwaited mayRepeat | unguarded mayRepeat => simp [Action.underLock, mayRepeat] at underLock
  | opened entered =>
      refine serialized.of_owner (by simp [entered, Phase.guarded]) rfl rfl rfl ?_ nofun nofun
      intro _ first
      cases first
      rfl
  | reread _ conflict | vanished conflict => exact absurd conflict serialized.unrivalled
  | raced selected present => exact absurd (serialized.current selected) present
  | reserved selected => exact serialized.of_admission (by simp [selected, Phase.guarded]) rfl rfl rfl rfl
  | degraded loaded selected resolution =>
      exact serialized.of_admission (by simp [selected, Phase.guarded]) rfl rfl (serialized.current selected)
        (resolveExistingRow_degraded resolution)
  | reclaimed loaded assigned current selected resolution present =>
      obtain rfl : loaded = current :=
        Option.some.inj ((serialized.current selected).symm.trans present)
      refine serialized.of_admission (by simp [selected, Phase.guarded]) rfl rfl rfl ?_
      rw [EffectRecord.commit_fresh, resolveExistingRow_reclaim resolution]
      rfl
  | refused inside | started _ inside | finished _ inside | loaded _ _ _ inside =>
      exact serialized.of_owner (by simp [inside, Phase.guarded]) rfl rfl rfl nofun nofun
        (by simp [inside, Phase.inFlight])
  | completed _ _ _ _ completing =>
      exact serialized.of_write (serialized.owned.of_left rfl rfl) (by simp [completing, Phase.guarded])
        (fun _ => rfl) nofun nofun nofun
  | examined | reconciled => cases underLock

/-- Under the lock a settled effect is final, with no condition on the interleaving. -/
theorem serialized_effect_final (serializes : deployment.Serializes) (quiet : initial.Quiet)
    (underLock : ∀ action ∈ earlier ++ later, action.underLock deployment = true)
    (reached : (system deployment).run initial earlier = some settled) (isSettled : settled.Settled)
    (continued : (system deployment).run settled later = some final) :
    final.row = settled.row ∧ final.handlerRuns = settled.handlerRuns := by
  have met : (system deployment).Meets (fun _ action => action.underLock deployment = true) initial earlier :=
    .of_mem fun _ member _ => underLock _ (List.mem_append_left _ member)
  have serialized : Serialized settled :=
    StepSystem.invariant (step_serialized serializes) met (.of_quiet quiet) reached
  refine run_final ⟨isSettled, serialized.uncontended isSettled⟩ (fun action member => ?_) continued
  have kept := underLock action (List.mem_append_right _ member)
  cases action <;> first | rfl | exact kept

def strictDeployment : Deployment :=
  ⟨"a1", true, fun _ => ⟨⟨"sys.v1.mail.send", "d1", none, none, none⟩, true, false⟩⟩

def sentLedger : Ledger :=
  ⟨0, some ((reservedRow 0 (strictDeployment.caller 0).request).completed 0 .success .null), none, fun _ => .idle, []⟩

theorem serialized_effect_final_of_replay :
    ∃ final, (system strictDeployment).run sentLedger [.enter 1, .select 1, .resolve 1] = some final ∧
      final.phases 1 = .left (.replayed .null) ∧ final.row = sentLedger.row ∧ final.handlerRuns = [] :=
  ⟨_, rfl, rfl, @serialized_effect_final [] [.enter 1, .select 1, .resolve 1] strictDeployment sentLedger _ _
    ⟨rfl, fun _ => rfl⟩ (fun _ => rfl) (by decide) rfl ⟨_, rfl, rfl⟩ rfl⟩

end AindyRuntime.EffectGate
