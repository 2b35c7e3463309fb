import AindyRuntime.Kernel.EffectSteps

/-! # Finality of settled effects

Once the row of an `action_id` is `success`, `partial` or `unknown`, callers
leave it alone, provided that at that moment nobody is between reading an
unsettled row and its completion.
-/

namespace AindyRuntime.EffectGate

open EffectLedger

variable {ledger next : Ledger}

def Ledger.status (ledger : Ledger) : Option EffectStatus := ledger.row.map (·.status)

def Ledger.Settled (ledger : Ledger) : Prop :=
  ∃ record, ledger.row = some record ∧ record.status.settled = true

/-- The gate lets a caller through on the row it read. -/
def admits (deployment : Deployment) (now caller : Nat) (loaded : EffectRecord) : Bool :=
  match resolveExistingRow now (deployment.caller caller).request loaded with
  | .degraded => !(deployment.caller caller).atMostOnce
  | .reclaim _ => true
  | _ => false

/-- Nobody has reached the gate yet. -/
def Ledger.Quiet (ledger : Ledger) : Prop := ∀ caller, ledger.phases caller = .idle

/-- A caller that has read an unsettled row, or was admitted without one, and may
still start the handler or complete the row. -/
def Phase.contends : Phase → Bool
  | .selected (some loaded) => !loaded.status.settled
  | .admitted _ | .handling true | .ran true _ _ | .completing _ _ _ => true
  | _ => false

/-- The row is settled and nobody contends for it. -/
structure Final (ledger : Ledger) : Prop where
  settled : ledger.Settled
  uncontended : ∀ caller, (ledger.phases caller).contends = false

/-- A step of a caller whose gate calls return; reconciliation is the operator's. -/
def Action.returns (deployment : Deployment) : Action → Bool
  | .gateFails caller => (deployment.caller caller).atMostOnce
  | .reconcileCommit _ => false
  | _ => true

namespace Final

theorem of_goto (final : Final ledger) (row : next.row = ledger.row)
    (phases : next.phases = (ledger.goto caller phase).phases) (outside : phase.contends = false) :
    Final next := by
  obtain ⟨⟨record, present, status⟩, uncontended⟩ := final
  refine ⟨⟨record, row.trans present, status⟩, fun other => ?_⟩
  rw [phases, Ledger.goto_phases]
  split
  · exact outside
  · exact uncontended other

theorem not_contends (final : Final ledger) (stands : ledger.phases caller = phase) :
    phase.contends = false :=
  stands ▸ final.uncontended caller

end Final

/-- On a settled row that nobody contends for, a caller's step changes neither the
row nor the handler's log, and nobody contends after it. -/
theorem step_final (final : Final ledger) (returns : action.returns deployment = true)
    (stepped : step deployment ledger action = some next) :
    Final next ∧ next.row = ledger.row ∧ next.handlerRuns = ledger.handlerRuns := by
  obtain ⟨record, present, status⟩ := final.settled
  cases step_transition.of_step stepped with
  | ticked => exact ⟨⟨final.settled, final.uncontended⟩, rfl, rfl⟩
  | left | locked | unlocked | outwaited | raced | examined =>
      exact ⟨final.of_goto rfl rfl rfl, rfl, rfl⟩
  | opened => exact ⟨final.of_goto rfl rfl (by simp [present, Phase.contends, status]), rfl, rfl⟩
  | reread loaded _ found =>
      obtain rfl : record = loaded := Option.some.inj (present.symm.trans found)
      exact ⟨final.of_goto rfl rfl (by simp [Phase.contends, status]), rfl, rfl⟩
  | vanished _ absent | reserved _ absent => simp [absent] at present
  | unguarded mayRepeat => simp [Action.returns, mayRepeat] at returns
  | degraded loaded selected resolution =>
      have unsettled := final.not_contends selected
      simp [Phase.contends, resolveExistingRow_degraded resolution, EffectStatus.settled] at unsettled
  | @reclaimed caller loaded assigned _ selected resolution =>
      have answered := @resolveExistingRow_answered loaded ledger.now (deployment.caller caller).request
      have settled := final.not_contends selected
      simp [Phase.contends] at settled
      simp [resolution, settled, Resolution.answered] at answered
  | refused admitted | started _ admitted => cases final.not_contends admitted
  | finished gated handling =>
      cases gated with
      | false => exact ⟨final.of_goto rfl rfl rfl, rfl, rfl⟩
      | true => cases final.not_contends handling
  | loaded _ _ _ ran => cases final.not_contends ran
  | completed _ _ _ _ completing => cases final.not_contends completing
  | reconciled => cases returns

theorem run_final (final : Final ledger) (returns : ∀ action ∈ later, action.returns deployment = true)
    (ran : (system deployment).run ledger later = some after) :
    after.row = ledger.row ∧ after.handlerRuns = ledger.handlerRuns := by
  induction later generalizing ledger with
  | nil =>
      cases ran
      exact ⟨rfl, rfl⟩
  | cons action rest ih =>
      obtain ⟨next, stepped, ranRest⟩ := StepSystem.run_cons.mp ran
      obtain ⟨finalNext, row, runs⟩ := step_final final (returns action List.mem_cons_self) stepped
      obtain ⟨rowRest, runsRest⟩ := ih finalNext
        (fun other member => returns other (List.mem_cons_of_mem _ member)) ranRest
      exact ⟨rowRest.trans row, runsRest.trans runs⟩

/-- However the callers came to where they stand, once the row is settled while
nobody is between reading an unsettled row and its completion, no sequence of
callers' steps changes the row or starts the handler. -/
theorem settled_effect_final {settled final : Ledger} {later : List Action} (isSettled : settled.Settled)
    (uncontended : ∀ caller, (settled.phases caller).contends = false)
    (returns : ∀ action ∈ later, action.returns deployment = true)
    (continued : (system deployment).run settled later = some final) :
    final.row = settled.row ∧ final.status = settled.status ∧
      final.handlerRuns = settled.handlerRuns := by
  obtain ⟨row, runs⟩ := run_final ⟨isSettled, uncontended⟩ returns continued
  exact ⟨row, by rw [Ledger.status, Ledger.status, row], runs⟩

def exactlyOnceDeployment : Deployment where
  actionId := "a1"
  postgresql := true
  caller _ := ⟨⟨"sys.v1.mail.send", "d1", some "u1", none, none⟩, false, false⟩

def emptyLedger : Ledger := ⟨0, none, none, fun _ => .idle, []⟩

/-- Two dispatches overlap, both end before the row is read again, and a third one
replays what the second recorded. -/
theorem settled_effect_final_of_replay :
    ∃ settled final,
      (system exactlyOnceDeployment).run emptyLedger
        [.enter 0, .select 0, .insert 0, .startHandler 0, .enter 1, .select 1, .resolve 1,
          .startHandler 1, .finishHandler 0 .success (.obj []), .completeSelect 0, .completeCommit 0,
          .finishHandler 1 .success (.obj []), .completeSelect 1, .completeCommit 1] = some settled ∧
      (system exactlyOnceDeployment).run settled [.enter 2, .select 2, .resolve 2] = some final ∧
      settled.status = some .success ∧
      final.row = settled.row ∧ final.status = settled.status ∧
        final.handlerRuns = settled.handlerRuns := by
  refine ⟨_, _, rfl, rfl, rfl, ?_⟩
  refine @settled_effect_final exactlyOnceDeployment _ _ [.enter 2, .select 2, .resolve 2]
    ⟨_, rfl, rfl⟩ (fun caller => ?_) (by decide) rfl
  by_cases second : caller = 1
  · simp [second, Ledger.leave, Ledger.goto, Ledger.release, Phase.contends]
  · by_cases first : caller = 0
    · simp [first, Ledger.leave, Ledger.goto, Ledger.release, Ledger.store, Phase.contends]
    · simp [first, second, Ledger.leave, Ledger.goto, Ledger.release, Ledger.store, emptyLedger,
        Phase.contends]

/-- Two dispatches overlap: the second degrades on the first one's live row and
records `failed` over its `success`, after which a third one reclaims the row
and runs the handler again. -/
theorem settled_effect_not_final :
    ∃ settled final,
      (system exactlyOnceDeployment).run emptyLedger
        [.enter 0, .select 0, .insert 0, .startHandler 0, .enter 1, .select 1, .resolve 1,
          .startHandler 1, .finishHandler 0 .success (.obj []), .completeSelect 0,
          .completeCommit 0] = some settled ∧
      (system exactlyOnceDeployment).run settled
        [.finishHandler 1 .failed .null, .completeSelect 1, .completeCommit 1, .enter 2, .select 2,
          .resolve 2, .startHandler 2] = some final ∧
      settled.status = some .success ∧ settled.handlerRuns = [1, 0] ∧
      final.status = some .pending ∧ final.handlerRuns = [2, 1, 0] :=
  ⟨_, _, rfl, rfl, rfl, rfl, rfl, rfl⟩

end AindyRuntime.EffectGate
