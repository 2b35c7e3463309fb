import AindyRuntime.Agent.Recovery
import AindyRuntime.Continuation.FlowRun
import AindyRuntime.Lib.Claims

/-! # Racing to continue a stranded run

Any number of `try_continue_flow_run` calls on one flow run, and of callbacks
with `claim_status` `executing` on one agent run, each on its own instance.
-/

namespace AindyRuntime.Continuation

open FlowEngine StepSystem

variable {Call : Type}

inductive Phase where
  | called
  | assessed (attempts : Int)
  | exhausted (attempts : Int)
  | claimed (stranding : Nat) (attempts : Int)
  | loaded (stranding : Nat) (attempts : Int) (state : State)
  | counted (stranding : Nat)
  | done
deriving DecidableEq

structure World (Call : Type) where
  row : Option FlowRun
  history : List FlowHistory
  deadLetterReason : Option String
  strandings : Nat
  phase : Call → Phase
  /-- The claims that found the row, and the resumes dispatched, with the
  stranding of the claim; latest first. -/
  claims : List (Nat × Call)
  dispatched : List (Nat × Call)

variable (world : World Call)

def World.active : Bool := (claimStranded world.row).isSome

def World.asClaims : Claims Call where
  free := world.active
  round := world.strandings
  won := world.claims

inductive Action (Call : Type) where
  | find (call : Call)
  | deadLetter (call : Call) (commits : Bool)
  | claim (call : Call) (commits : Bool)
  | load (call : Call) (commits : Bool)
  | count (call : Call) (commits : Bool)
  | dispatch (call : Call) (starts : Bool)
  | write (row : Option FlowRun)
  /-- The runner dies and leaves the row stranded. -/
  | strand

/-- A claim on a stranding that has been won already finds the row outside
`running` and `executing`. -/
def MovedOn : Action Call → Prop
  | .claim _ _ => (∃ other, (world.strandings, other) ∈ world.claims) →
      ∀ run, world.row = some run → run.status ∉ activeStatuses
  | _ => True

def Phase.stranding? : Phase → Option Nat
  | .claimed stranding _ | .loaded stranding _ _ | .counted stranding => some stranding
  | _ => none

structure Tracked : Prop where
  exclusive : world.asClaims.Exclusive
  holders : ∀ {call stranding}, (world.phase call).stranding? = some stranding →
    (stranding, call) ∈ world.claims
  dispatched : ∀ {entry}, entry ∈ world.dispatched → entry ∈ world.claims

variable {world : World Call}

theorem Tracked.write (tracked : Tracked world) : Tracked { world with row, deadLetterReason := reason } :=
  ⟨⟨tracked.exclusive.reached, tracked.exclusive.unique⟩, tracked.holders, tracked.dispatched⟩

variable [DecidableEq Call]

def World.moveTo (world : World Call) (call : Call) (phase : Phase) : World Call :=
  { world with phase := fun other => if other = call then phase else world.phase other }

def continuationRace (instances : Call → Instance) (flow : Stranded) : StepSystem (World Call) (Action Call) where
  step world
    | .find call =>
      match world.phase call, world.row with
      | .called, some run =>
        if run.status ∈ activeStatuses then
          match assess (instances call) flow run.state with
          | .ok (.claims attempts) => some (world.moveTo call (.assessed attempts))
          | .ok (.exhausted attempts) => some (world.moveTo call (.exhausted attempts))
          | .ok .ineligible | .error _ => some (world.moveTo call .done)
        else none
      | _, _ => none
    | .deadLetter call commits =>
      match world.phase call with
      | .exhausted attempts =>
        if commits then
          some
            { world.moveTo call .done with
              row := world.row.map deadLettered
              deadLetterReason := some (deadLetterReason attempts) }
        else some (world.moveTo call .done)
      | _ => none
    | .claim call commits =>
      match world.phase call with
      | .assessed attempts =>
        match claimStranded world.row, commits with
        | some run, true =>
          some
            { world.moveTo call (.claimed world.strandings attempts) with
              row := some run
              claims := (world.strandings, call) :: world.claims }
        | _, _ => some (world.moveTo call .done)
      | _ => none
    | .load call commits =>
      match world.phase call, world.row with
      | .claimed stranding attempts, some run =>
        match rebuilt? (instances call) world.history run.state with
        | none => some (world.moveTo call (.loaded stranding attempts run.state))
        | some state =>
          if commits then
            some
              { world.moveTo call (.loaded stranding attempts state) with
                row := some { run with state } }
          else some (world.moveTo call .done)
      | .claimed _ _, none => some (world.moveTo call .done)
      | _, _ => none
    | .count call commits =>
      match world.phase call with
      | .loaded stranding attempts state =>
        if commits then
          some
            { world.moveTo call (.counted stranding) with
              row := world.row.map fun run => { run with state := Continuation.counted attempts state } }
        else some (world.moveTo call .done)
      | _ => none
    | .dispatch call starts =>
      match world.phase call with
      | .counted stranding =>
        if starts then
          some
            { world.moveTo call .done with
              dispatched := (stranding, call) :: world.dispatched }
        else some (world.moveTo call .done)
      | _ => none
    | .write row => some { world with row }
    | .strand => if world.active then some { world with strandings := world.strandings + 1 } else none

def World.stranded (run : FlowRun) (history : List FlowHistory) : World Call where
  row := some run
  history
  deadLetterReason := none
  strandings := 0
  phase _ := .called
  claims := []
  dispatched := []

variable {instances : Call → Instance} {flow : Stranded} {next : World Call} {call : Call}
variable {action : Action Call} {run : FlowRun}

def alone (call : Call) : List (Action Call) :=
  [.find call, .claim call true, .load call true, .count call true, .dispatch call true]

theorem World.moveTo_self {phase : Phase} : (world.moveTo call phase).phase call = phase := if_pos rfl

theorem find_assesses (called : world.phase call = .called)
    (row : world.row = some run) (active : run.status ∈ activeStatuses)
    (assessed : assess (instances call) flow run.state = .ok (.claims attempts)) :
    (continuationRace instances flow).step world (.find call) =
      some (world.moveTo call (.assessed attempts)) := by
  simp only [continuationRace, called, row, active, assessed, if_true]

theorem claim_claims (assessed : world.phase call = .assessed attempts)
    (claimed : claimStranded world.row = some run) :
    (continuationRace instances flow).step world (.claim call true) =
      some
        { world.moveTo call (.claimed world.strandings attempts) with
          row := some run
          claims := (world.strandings, call) :: world.claims } := by
  simp only [continuationRace, assessed, claimed]

theorem load_loads (claimed : world.phase call = .claimed stranding attempts) (row : world.row = some run)
    (repaired : (rebuilt? (instances call) world.history run.state).getD run.state = state) :
    (continuationRace instances flow).step world (.load call true) =
      some
        { world.moveTo call (.loaded stranding attempts state) with
          row := some { run with state } } := by
  subst repaired
  simp only [continuationRace, claimed, row]
  cases rebuilt? (instances call) world.history run.state with
  | none =>
    simp [World.moveTo, row]
  | some => rfl

theorem count_counts (loaded : world.phase call = .loaded stranding attempts state) :
    (continuationRace instances flow).step world (.count call true) =
      some
        { world.moveTo call (.counted stranding) with
          row := world.row.map fun run => { run with state := Continuation.counted attempts state } } := by
  simp only [continuationRace, loaded, if_true]

theorem dispatch_starts (counted : world.phase call = .counted stranding) :
    (continuationRace instances flow).step world (.dispatch call true) =
      some
        { world.moveTo call .done with
          dispatched := (stranding, call) :: world.dispatched } := by
  simp only [continuationRace, counted, if_true]

theorem alone_dispatches (row : world.row = some run)
    (active : run.status ∈ activeStatuses) (called : world.phase call = .called)
    (assessed : assess (instances call) flow run.state = .ok (.claims attempts)) :
    ∃ final, (continuationRace instances flow).run world (alone call) = some final ∧
      final.row = some (continued (instances call) world.history attempts run) ∧
      final.history = world.history ∧ final.deadLetterReason = world.deadLetterReason ∧
      final.dispatched = (world.strandings, call) :: world.dispatched := by
  have claims : claimStranded world.row = some { run with status := .executing } := by
    rw [row]
    exact if_pos active
  refine ⟨_, run_cons.mpr ⟨_, find_assesses called row active assessed,
    run_cons.mpr ⟨_, claim_claims World.moveTo_self claims,
    run_cons.mpr ⟨_, load_loads World.moveTo_self rfl rfl,
    run_cons.mpr ⟨_, count_counts World.moveTo_self,
    run_cons.mpr ⟨_, dispatch_starts World.moveTo_self, rfl⟩⟩⟩⟩⟩, ?_⟩
  exact ⟨rfl, rfl, rfl, rfl⟩

theorem alone_tryContinueFlowRun (row : world.row = some run)
    (active : run.status ∈ activeStatuses) (called : world.phase call = .called)
    (assessed : assess (instances call) flow run.state = .ok (.claims attempts)) :
    ∃ final, (continuationRace instances flow).run world (alone call) = some final ∧
      (tryContinueFlowRun (instances call) flow run .quiet).run
          ⟨world.row, world.history, world.deadLetterReason, world.dispatched.length⟩
        = (.ok true, ⟨final.row, final.history, final.deadLetterReason, final.dispatched.length⟩) := by
  obtain ⟨final, ran, left, history, reason, dispatched⟩ := alone_dispatches row active called assessed
  refine ⟨final, ran, ?_⟩
  rw [tryContinueFlowRun_claims row active assessed, left, history, reason, dispatched]
  rfl

theorem Tracked.moveTo (tracked : Tracked world)
    (kept : ∀ stranding, phase.stranding? = some stranding → (stranding, call) ∈ world.claims) :
    Tracked (world.moveTo call phase) := by
  refine ⟨tracked.exclusive, fun {other stranding} won => ?_, tracked.dispatched⟩
  by_cases same : other = call
  · subst same
    exact kept stranding (by simpa [World.moveTo] using won)
  · exact tracked.holders (by simpa [World.moveTo, same] using won)

theorem claimStranded_active (claimed : claimStranded row = some run) :
    ∃ before, row = some before ∧ before.status ∈ activeStatuses ∧ run.status ∈ activeStatuses := by
  simp only [claimStranded] at claimed
  split at claimed
  case h_1 before =>
    split at claimed <;> cases claimed
    case isTrue active => exact ⟨before, rfl, active, by simp [activeStatuses]⟩
  · cases claimed

theorem claim_open (claimed : claimStranded row = some run) : (claimStranded (some run)).isSome = true := by
  obtain ⟨_, _, _, active⟩ := claimStranded_active claimed
  simp [claimStranded, active]

theorem Tracked.claim (tracked : Tracked world)
    (movedOn : MovedOn world (.claim call true)) (claimed : claimStranded world.row = some run) :
    Tracked
      { world.moveTo call (.claimed world.strandings attempts) with
        row := some run
        claims := (world.strandings, call) :: world.claims } := by
  have unclaimed : world.asClaims.Unclaimed := by
    intro other won
    obtain ⟨before, row, active, _⟩ := claimStranded_active claimed
    exact movedOn ⟨other, won⟩ before row active
  refine ⟨?_, fun {other stranding} won => ?_, fun member => List.mem_cons_of_mem _ (tracked.dispatched member)⟩
  · refine Claims.Follows.exclusive (.inr ⟨.claim call false, unclaimed, ?_⟩) tracked.exclusive
    simp [Claims.system, World.asClaims, World.active, World.moveTo, claimed, claim_open claimed]
  · by_cases same : other = call
    · subst same
      simp only [World.moveTo, if_true, Phase.stranding?, Option.some.injEq] at won
      rw [← won]
      exact List.mem_cons_self
    · exact List.mem_cons_of_mem _ (tracked.holders (by simpa [World.moveTo, same] using won))

theorem step_tracked (movedOn : MovedOn world action) (tracked : Tracked world) :
    Leads Tracked ((continuationRace instances flow).step world action) := by
  have ended {call : Call} : Tracked (world.moveTo call .done) := tracked.moveTo (by simp [Phase.stranding?])
  cases action <;> simp only [continuationRace]
  case find =>
    split
    · split
      · split
        all_goals exact tracked.moveTo (by simp [Phase.stranding?])
      · trivial
    · trivial
  case deadLetter =>
    split
    · split
      · exact ended.write
      · exact ended
    · trivial
  case claim =>
    split
    · split
      case h_1 claimed => exact tracked.claim movedOn claimed
      · exact ended
    · trivial
  case load call commits =>
    split
    case h_1 stranding attempts run claimed row =>
      have won : (stranding, call) ∈ world.claims := tracked.holders (by simp [claimed, Phase.stranding?])
      have kept {state : State} : Tracked (world.moveTo call (.loaded stranding attempts state)) :=
        tracked.moveTo fun _ same => Option.some.inj same ▸ won
      split
      · exact kept
      · split
        · exact kept.write
        · exact ended
    · exact ended
    · trivial
  case count call commits =>
    split
    case h_1 stranding attempts state loaded =>
      have won : (stranding, call) ∈ world.claims := tracked.holders (by simp [loaded, Phase.stranding?])
      have kept : Tracked (world.moveTo call (.counted stranding)) :=
        tracked.moveTo fun _ same => Option.some.inj same ▸ won
      split
      · exact kept.write
      · exact ended
    · trivial
  case dispatch call starts =>
    split
    case h_1 stranding counted =>
      have won : (stranding, call) ∈ world.claims := tracked.holders (by simp [counted, Phase.stranding?])
      split
      · refine ⟨tracked.exclusive, (@ended call).holders, fun member => ?_⟩
        rcases List.mem_cons.mp member with rfl | earlier
        · exact won
        · exact tracked.dispatched earlier
      · exact ended
    · trivial
  case write => exact tracked.write
  case strand =>
    split
    case isTrue active =>
      refine ⟨Claims.Follows.exclusive (.inr ⟨.offer, trivial, ?_⟩) tracked.exclusive, tracked.holders,
        tracked.dispatched⟩
      simp only [Claims.system, World.asClaims, Option.some.injEq, Claims.mk.injEq, and_true]
      exact active.symm
    · trivial

def DispatchedOnce (world : World Call) : Prop :=
  ∀ stranding one other, (stranding, one) ∈ world.dispatched → (stranding, other) ∈ world.dispatched →
    one = other

theorem run_dispatchedOnce
    (met : (continuationRace instances flow).Meets MovedOn (.stranded run history) actions)
    (ran : (continuationRace instances flow).run (.stranded run history) actions = some final) :
    DispatchedOnce final := by
  have start : Tracked (World.stranded run history : World Call) :=
    ⟨.of_empty rfl, by simp [World.stranded, Phase.stranding?], by simp [World.stranded]⟩
  have tracked : Tracked final := invariant_leads step_tracked met start ran
  intro stranding one other first second
  exact tracked.exclusive.unique (tracked.dispatched first) (tracked.dispatched second)

namespace Callbacks

open Agent (AgentRun AgentStatus)

structure World (Callback : Type) where
  rows : Agent.World
  strandings : Nat
  called : Callback → Bool
  proceeded : List (Nat × Callback)

inductive Action (Callback : Type) where
  | claim (callback : Callback) (commits : Bool)
  | write (run : Option AgentRun)
  | strand

variable {Callback : Type} {world next : World Callback} {action : Action Callback}

def World.crashed (world : World Callback) : Bool := (world.rows.claim .executing).isSome

def World.asClaims (world : World Callback) : Claims Callback where
  free := world.crashed
  round := world.strandings
  won := world.proceeded

/-- A claim on a stranding that has been won already finds the run outside
`executing`. -/
def MovedOn (world : World Callback) : Action Callback → Prop
  | .claim _ _ => (∃ other, (world.strandings, other) ∈ world.proceeded) →
      ∀ run, world.rows.run = some run → run.status ≠ .executing
  | _ => True

def ProceededOnce (world : World Callback) : Prop :=
  ∀ stranding one other, (stranding, one) ∈ world.proceeded → (stranding, other) ∈ world.proceeded →
    one = other

def World.crashedRun (rows : Agent.World) : World Callback := ⟨rows, 0, fun _ => false, []⟩

theorem claim_executing {rows : Agent.World} (won : rows.claim .executing = some claimed) :
    (∃ run, rows.run = some run ∧ run.status = .executing) ∧ (claimed.claim .executing).isSome = true := by
  simp only [Agent.World.claim] at won
  split at won
  case h_1 run row =>
    split at won <;> cases won
    case isTrue status => exact ⟨⟨run, row, status⟩, by simp [Agent.World.claim]⟩
  · cases won

variable [DecidableEq Callback]

def race : StepSystem (World Callback) (Action Callback) where
  step world
    | .claim callback commits =>
      if world.called callback then none
      else
        let called := fun other => decide (other = callback) || world.called other
        match world.rows.claim .executing, commits with
        | some rows, true =>
          some { world with rows, called, proceeded := (world.strandings, callback) :: world.proceeded }
        | _, _ => some { world with called }
    | .write run => some { world with rows := { world.rows with run } }
    | .strand => if world.crashed then some { world with strandings := world.strandings + 1 } else none

theorem step_exclusive (movedOn : MovedOn world action) (exclusive : world.asClaims.Exclusive) :
    Leads (fun next => next.asClaims.Exclusive) (race.step world action) := by
  cases action <;> simp only [race]
  case claim callback commits =>
    split
    · trivial
    · split
      case h_1 won =>
        obtain ⟨⟨run, row, status⟩, opens⟩ := claim_executing won
        have unclaimed : world.asClaims.Unclaimed := by
          intro other earlier
          exact movedOn ⟨other, earlier⟩ run row status
        refine Claims.Follows.exclusive (.inr ⟨.claim callback false, unclaimed, ?_⟩) exclusive
        simp [Claims.system, World.asClaims, World.crashed, won, opens]
      · exact exclusive
  case write => exact ⟨exclusive.reached, exclusive.unique⟩
  case strand =>
    split
    case isTrue crashed =>
      refine Claims.Follows.exclusive (.inr ⟨.offer, trivial, ?_⟩) exclusive
      simp only [Claims.system, World.asClaims, Option.some.injEq, Claims.mk.injEq, and_true]
      exact crashed.symm
    · trivial

theorem run_proceededOnce {final : World Callback} (met : race.Meets MovedOn (.crashedRun rows) actions)
    (ran : race.run (.crashedRun rows) actions = some final) : ProceededOnce final := by
  have start : (World.crashedRun rows : World Callback).asClaims.Exclusive := .of_empty rfl
  have exclusive : final.asClaims.Exclusive :=
    @invariant_leads _ _ race _ _ _ _ (fun world => world.asClaims.Exclusive) step_exclusive met start ran
  intro stranding one other first second
  exact exclusive.unique first second

end Callbacks

/-- A stranded run is continued once, whatever the interleaving, if whoever
claims it next finds it moved on. -/
theorem continuation_claimed_once {Callback : Type} [DecidableEq Callback]
    {history : List FlowHistory} {rows : Agent.World} :
    (∀ (actions : List (Action Call)) (final : World Call),
      (continuationRace instances flow).Meets MovedOn (.stranded run history) actions →
      (continuationRace instances flow).run (.stranded run history) actions = some final → DispatchedOnce final) ∧
    (∀ (actions : List (Callbacks.Action Callback)) (final : Callbacks.World Callback),
      Callbacks.race.Meets Callbacks.MovedOn (.crashedRun rows) actions →
      Callbacks.race.run (.crashedRun rows) actions = some final → Callbacks.ProceededOnce final) :=
  ⟨fun _ _ met ran => run_dispatchedOnce met ran, fun _ _ met ran => Callbacks.run_proceededOnce met ran⟩

def continuesAll : Instance := ⟨true, 3, true, false, ["flow"], [], [], .ascii⟩

def anyFlow : Stranded := ⟨"flow", "flow"⟩

def leftRunning : FlowRun := ⟨.running, ∅, "work", none, .null, .null, none⟩

/-- The second call and the second callback claim when the first has finished. -/
theorem continuation_claimed_once_of_finished :
    (∃ final, (continuationRace (fun _ : Nat => continuesAll) anyFlow).run (.stranded leftRunning [])
        (.find 1 :: alone 0 ++ [.write (some { leftRunning with status := .success }), .claim 1 true])
          = some final ∧ final.dispatched = [(0, 0)] ∧ DispatchedOnce final) ∧
    ∃ final, Callbacks.race.run (.crashedRun (.started .null) : Callbacks.World Nat)
        [.claim 0 true, .write none, .claim 1 true] = some final ∧
      final.proceeded = [(0, 0)] ∧ Callbacks.ProceededOnce final := by
  have once := @continuation_claimed_once Nat _ (fun _ => continuesAll) anyFlow leftRunning Nat _ []
    (.started .null)
  refine ⟨⟨_, rfl, rfl, once.1 (.find 1 :: alone 0
      ++ [.write (some { leftRunning with status := .success }), .claim 1 true]) _ ?_ rfl⟩,
    ⟨_, rfl, rfl, once.2 [.claim 0 true, .write none, .claim 1 true] _ ?_ rfl⟩⟩
  · refine .cons trivial rfl (.cons trivial rfl (.cons ?_ rfl (.cons trivial rfl (.cons trivial rfl
      (.cons trivial rfl (.cons trivial rfl (.cons ?_ rfl trivial)))))))
    · intro held
      obtain ⟨_, won⟩ := held
      cases won
    · intro _ run row
      cases row
      decide
  · refine .cons ?_ rfl (.cons trivial rfl (.cons ?_ rfl trivial))
    · intro held
      obtain ⟨_, won⟩ := held
      cases won
    · intro _ run row
      cases row

/-- Two calls find the run and both claim it; so do two callbacks. -/
theorem continuation_claimed_twice :
    (∃ final, (continuationRace (fun _ : Nat => continuesAll) anyFlow).run (.stranded leftRunning [])
        [.find 0, .find 1, .claim 0 true, .claim 1 true, .load 0 true, .count 0 true, .dispatch 0 true,
          .load 1 true, .count 1 true, .dispatch 1 true] = some final ∧
      final.dispatched = [(0, 1), (0, 0)] ∧ ¬DispatchedOnce final) ∧
    ∃ final, Callbacks.race.run (.crashedRun (.started .null) : Callbacks.World Nat)
        [.claim 0 true, .claim 1 true] = some final ∧
      final.proceeded = [(0, 1), (0, 0)] ∧ ¬Callbacks.ProceededOnce final := by
  refine ⟨⟨_, rfl, rfl, fun once => ?_⟩, ⟨_, rfl, rfl, fun once => ?_⟩⟩
  · have same := once 0 1 0 (by decide) (by decide)
    cases same
  · have same := once 0 1 0 (by decide) (by decide)
    cases same

end AindyRuntime.Continuation
