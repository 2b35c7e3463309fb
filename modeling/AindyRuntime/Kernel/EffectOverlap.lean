import AindyRuntime.Kernel.EffectStrict

namespace AindyRuntime.EffectGate

open EffectLedger Phase

def Phase.engaged : Phase → Bool
  | .admitted _ | .handling _ => true
  | _ => false

def Ledger.insideHandler (ledger : Ledger) (caller : Nat) : Bool :=
  match ledger.phases caller with
  | .handling _ => true
  | _ => false

/-- Without advisory locks, a caller takes an existing row over only while no
caller is on its way to the handler or inside it. -/
def TakesOverAlone (deployment : Deployment) (ledger : Ledger) : Action → Prop
  | .resolve caller => deployment.postgresql = true ∨
      ∀ loaded, ledger.phases caller = .selected (some loaded) →
        admits deployment ledger.now caller loaded = true →
          ∀ other, (ledger.phases other).engaged = false
  | _ => True

variable (deployment : Deployment) (ledger next : Ledger) in
inductive Move : Action → Prop where
  | waited {action : Action} (present : ledger.row ≠ none → next.row ≠ none)
      (lock : next.lock = ledger.lock) (phases : next.phases = ledger.phases) :
      Move action
  | entered {action : Action} (caller : Nat) (present : ledger.row ≠ none → next.row ≠ none)
      (locked : deployment.postgresql = true → ledger.lock = none ∧ next.lock = some caller)
      (phases : next.phases = (ledger.goto caller .entered).phases) :
      Move action
  | moved {action : Action} (caller : Nat) (phase : Phase)
      (present : ledger.row ≠ none → next.row ≠ none) (lock : next.lock = ledger.lock)
      (phases : next.phases = (ledger.goto caller phase).phases)
      (guarded : phase.guarded = true → (ledger.phases caller).guarded = true)
      (engaged : phase.engaged = true → (ledger.phases caller).engaged = true) :
      Move action
  | left {action : Action} (caller : Nat) (reply : Reply)
      (present : ledger.row ≠ none → next.row ≠ none)
      (lock : next.lock = (ledger.leave caller reply).lock)
      (phases : next.phases = (ledger.leave caller reply).phases) :
      Move action
  | reserved {caller : Nat} (inside : (ledger.phases caller).guarded = true)
      (absent : ledger.row = none) (present : next.row ≠ none) (lock : next.lock = ledger.lock)
      (phases : next.phases = (ledger.goto caller (.admitted true)).phases) :
      Move (.insert caller)
  | tookOver {caller : Nat} (loaded : EffectRecord)
      (selected : ledger.phases caller = .selected (some loaded))
      (admitted : admits deployment ledger.now caller loaded = true)
      (present : next.row ≠ none) (lock : next.lock = ledger.lock)
      (phases : next.phases = (ledger.goto caller (.admitted true)).phases) :
      Move (.resolve caller)

variable {deployment : Deployment} {ledger next : Ledger}

theorem step_move (atMostOnce : ∀ caller, (deployment.caller caller).atMostOnce = true)
    (stepped : step deployment ledger action = some next) : Move deployment ledger next action := by
  cases step_transition.of_step stepped with
  | ticked => exact .waited id rfl rfl
  | left caller reply => exact .left caller reply id rfl rfl
  | locked free => exact .entered _ id (fun _ => ⟨free, rfl⟩) rfl
  | unlocked without =>
    simp only [Caller.locks, atMostOnce, Bool.or_true, Bool.true_and] at without
    exact .entered _ id (fun has => absurd has (by simp [without])) rfl
  | outwaited mayRepeat | vanished _ _ mayRepeat | unguarded mayRepeat | degraded _ _ _ mayRepeat =>
      simp [atMostOnce] at mayRepeat
  | opened inside | reread _ inside | raced inside | refused inside | finished _ inside | loaded _ _ _ inside =>
    exact .moved _ _ id rfl rfl (by simp [inside, guarded]) (by simp [engaged])
  | reserved selected absent => exact .reserved (by simp [selected, guarded]) absent (by simp) rfl rfl
  | reclaimed loaded assigned current selected resolution =>
    exact .tookOver loaded selected (by simp [admits, resolution]) (by simp) rfl rfl
  | started gated admitted =>
    exact .moved _ (.handling gated) id rfl rfl (by simp [admitted, guarded])
      (by simp [admitted, engaged])
  | completed | reconciled => exact .left _ .finished (by simp) rfl rfl
  | examined => exact .moved _ _ id rfl rfl (by simp [guarded]) (by simp [engaged])

theorem step_owned (locks : deployment.postgresql = true)
    (owned : Owned ledger) (moved : Move deployment ledger next action) : Owned next := by
  cases moved with
  | waited _ lock phases =>
    intro other inside
    rw [lock]
    exact owned other (phases ▸ inside)
  | entered caller _ locked phases =>
    obtain ⟨free, taken⟩ := locked locks
    exact owned.of_entered free taken phases
  | moved caller phase _ lock phases guarded => exact owned.of_moved lock phases guarded
  | left caller reply _ lock phases => exact owned.of_left lock phases
  | reserved inside _ _ lock phases => exact owned.of_moved lock phases (fun _ => inside)
  | tookOver loaded selected _ _ lock phases =>
    exact owned.of_moved lock phases (fun _ => by simp [selected, guarded])

structure Solo (ledger : Ledger) : Prop where
  single : ∀ {one other}, (ledger.phases one).engaged = true →
    (ledger.phases other).engaged = true → one = other
  present : ∀ {caller}, (ledger.phases caller).engaged = true → ledger.row ≠ none

namespace Solo

theorem of_quiet (quiet : ledger.Quiet) : Solo ledger where
  single inside := by simp [quiet _, engaged] at inside
  present inside := by simp [quiet _, engaged] at inside

theorem of_fewer (solo : Solo ledger) (present : ledger.row ≠ none → next.row ≠ none)
    (before : ∀ {caller}, (next.phases caller).engaged = true →
      (ledger.phases caller).engaged = true) : Solo next where
  single one other := solo.single (before one) (before other)
  present inside := present (solo.present (before inside))

theorem of_moved (solo : Solo ledger) (present : ledger.row ≠ none → next.row ≠ none)
    (phases : next.phases = (ledger.goto caller phase).phases)
    (engaged : phase.engaged = true → (ledger.phases caller).engaged = true) : Solo next := by
  refine solo.of_fewer present fun {other} inside => ?_
  rw [phases, Ledger.goto_phases] at inside
  split at inside
  case isTrue same => exact same ▸ engaged inside
  · exact inside

theorem of_admitted (present : next.row ≠ none)
    (phases : next.phases = (ledger.goto caller (.admitted true)).phases)
    (nobody : ∀ other, (ledger.phases other).engaged = false) : Solo next := by
  have only {other : Nat} (inside : (next.phases other).engaged = true) : other = caller := by
    by_contra differ
    simp [phases, differ, nobody other] at inside
  exact ⟨fun one other => (only one).trans (only other).symm, fun _ => present⟩

theorem nobody (solo : Solo ledger) (absent : ledger.row = none) (caller : Nat) :
    (ledger.phases caller).engaged = false := by
  by_contra inside
  exact solo.present (by simpa using inside) absent

end Solo

theorem step_solo (without : deployment.postgresql = false) (alone : TakesOverAlone deployment ledger action)
    (solo : Solo ledger) (moved : Move deployment ledger next action) : Solo next := by
  cases moved with
  | waited present _ phases => exact solo.of_fewer present (fun inside => phases ▸ inside)
  | entered caller present _ phases | left caller reply present _ phases =>
    exact solo.of_moved present phases (by simp [engaged])
  | moved caller phase present _ phases _ engaged => exact solo.of_moved present phases engaged
  | reserved _ absent present _ phases => exact .of_admitted present phases (solo.nobody absent)
  | tookOver loaded selected admitted present _ phases =>
    refine .of_admitted present phases ?_
    rcases alone with locks | alone
    · simp [without] at locks
    · exact alone loaded selected admitted

theorem Phase.guarded_of_engaged {phase : Phase} (engaged : phase.engaged = true) : phase.guarded = true := by
  cases phase <;> first | rfl | cases engaged

theorem Ledger.engaged_of_insideHandler (inside : ledger.insideHandler caller = true) :
    (ledger.phases caller).engaged = true := by
  simp only [Ledger.insideHandler] at inside
  split at inside
  case h_1 handling => simp [handling, engaged]
  · cases inside

/-- From any row with nobody at the gate, in every interleaving in which a row is
taken over under the lock or with nobody engaged, at most one caller is inside the
handler. -/
theorem at_most_once_exclusive {initial : Ledger} {actions : List Action}
    (atMostOnce : ∀ caller, (deployment.caller caller).atMostOnce = true) (quiet : initial.Quiet)
    (met : (system deployment).Meets (TakesOverAlone deployment) initial actions)
    (reached : (system deployment).run initial actions = some ledger)
    {one other : Nat} (first : ledger.insideHandler one = true)
    (second : ledger.insideHandler other = true) : one = other := by
  have engagedOne := Ledger.engaged_of_insideHandler first
  have engagedOther := Ledger.engaged_of_insideHandler second
  by_cases locks : deployment.postgresql = true
  · have owned : Owned ledger :=
      StepSystem.invariant (fun _ owned stepped => step_owned locks owned (step_move atMostOnce stepped))
        met (fun caller inside => by simp [quiet caller, guarded] at inside) reached
    exact owned.single (guarded_of_engaged engagedOne) (guarded_of_engaged engagedOther)
  · have without : deployment.postgresql = false := by simpa using locks
    have solo : Solo ledger :=
      StepSystem.invariant
        (fun alone solo stepped => step_solo without alone solo (step_move atMostOnce stepped))
        met (.of_quiet quiet) reached
    exact solo.single engagedOne engagedOther

def atMostOnceDeployment : Deployment where
  actionId := "a1"
  postgresql := false
  caller _ := ⟨⟨"sys.v1.mail.send", "d1", some "u1", none, none⟩, false, true⟩

def failedLedger : Ledger where
  now := 0
  row := some (reservedRow 0 ⟨"sys.v1.mail.send", "d1", some "u1", none, none⟩
    |>.completed 0 .failed .null)
  lock := none
  phases _ := .idle
  handlerRuns := []

/-- The first caller takes the failed row over; the second one then finds it
live and is refused, so whoever is inside the handler is the first. -/
theorem at_most_once_exclusive_after_takeover :
    ∃ ledger,
      (system atMostOnceDeployment).run failedLedger
        [.enter 0, .select 0, .resolve 0, .startHandler 0, .enter 1, .select 1, .resolve 1]
          = some ledger ∧
      ledger.phases 1 = .left .refused ∧
      ∀ other, ledger.insideHandler other = true → other = 0 := by
  refine ⟨_, rfl, rfl, fun other inside => ?_⟩
  refine at_most_once_exclusive (fun _ => rfl) (fun _ => rfl) ?_
    (rfl : (system atMostOnceDeployment).run failedLedger
      [.enter 0, .select 0, .resolve 0, .startHandler 0, .enter 1, .select 1, .resolve 1] = some _)
    inside rfl
  refine .cons trivial rfl (.cons trivial rfl (.cons ?_ rfl (.cons trivial rfl
    (.cons trivial rfl (.cons trivial rfl (.cons ?_ rfl trivial))))))
  · exact Or.inr fun _ _ _ other => by
      by_cases first : other = 0 <;> simp [first, failedLedger, engaged]
  · refine Or.inr fun loaded selected admitted => ?_
    cases selected
    cases admitted

/-- Without advisory locks two callers read the same failed row, both take it
over and both are inside the handler. -/
theorem at_most_once_overlap :
    ∃ ledger,
      (system atMostOnceDeployment).run failedLedger
        [.enter 0, .enter 1, .select 0, .select 1, .resolve 0, .startHandler 0, .resolve 1,
          .startHandler 1] = some ledger ∧
      ledger.insideHandler 0 = true ∧ ledger.insideHandler 1 = true :=
  ⟨_, rfl, rfl, rfl⟩

end AindyRuntime.EffectGate
