import Mathlib.Data.List.Sort
import AindyRuntime.Kernel.EffectLedger
import AindyRuntime.Lib.StepSystem

/-! # Compensating undo

`core/effect_compensation.py`: a call of `undo_run_effects` reads the run's
effects, reads once which of them are reversed, goes through them newest first
and commits its rows of the reversal log at the end.  A query, a commit and the
turn of the loop for one effect are one step each.
-/

namespace AindyRuntime.EffectUndo

open EffectLedger List

structure Effect where
  id : Nat
  actionType : String
  executionId : Option String
  status : EffectStatus
  createdAt : Nat
deriving DecidableEq, Repr

inductive ReversalStatus where
  | reversed
  | irreversible
  | failed
deriving DecidableEq, Repr

structure Reversal where
  call : Option Nat
  effectId : Nat
  (runId executionId actionType : String)
  status : ReversalStatus
  detail : Option String
  receipt : Option Json
deriving DecidableEq, Repr

inductive CompensatorEnd where
  | returned (receipt : Option Json)
  /-- It returned a dictionary that the column can not hold. -/
  | unstorable
  /-- It returned, and the savepoint around it could not be released. -/
  | unreleased (error : String)
  | raised (error : String)
  /-- A `BaseException` that is no `Exception`. -/
  | interrupted
deriving DecidableEq, Repr

structure Target where
  runId : String
  executionUnit : Option String
  effects : List Effect
  compensates : String → Bool
  reportOnly : Nat → Bool

def undoSyscall : String := "sys.v1.agent.undo"

def Effect.Newer (left right : Effect) : Prop :=
  right.createdAt < left.createdAt ∨ left.createdAt = right.createdAt ∧ right.id ≤ left.id

instance : DecidableRel Effect.Newer := fun left right =>
  inferInstanceAs (Decidable (right.createdAt < left.createdAt ∨
    left.createdAt = right.createdAt ∧ right.id ≤ left.id))

variable (target : Target)

def Target.records (unit : String) : List Effect :=
  (target.effects.filter fun effect => decide (effect.executionId = some unit) &&
    decide (effect.status = .success) && decide (effect.actionType ≠ undoSyscall)).insertionSort
    Effect.Newer

/-- Where a call stands in its loop: what it read, what it attempted, the rows
it has added to its session and the effects to come. -/
structure Progress where
  unit : String
  already : List Nat
  attempted : List Effect
  written : List Reversal
  left : List Effect
deriving DecidableEq, Repr

inductive Phase where
  | idle
  | fetched (unit : String) (records : List Effect)
  | undoing (progress : Progress)
  | finished (attempted : List Effect)
  /-- The call raised; its session is rolled back. -/
  | lost (attempted : List Effect)
deriving DecidableEq, Repr

structure World where
  log : List Reversal
  returns : Nat → Nat
  phases : Nat → Phase

namespace World

def goto (world : World) (call : Nat) (phase : Phase) : World :=
  { world with phases := fun other => if other = call then phase else world.phases other }

def countReturn (world : World) (effect : Nat) : World :=
  { world with returns := fun other => world.returns other + if other = effect then 1 else 0 }

end World

def Reversed (rows : List Reversal) (effect : Nat) : Prop :=
  ∃ row ∈ rows, row.effectId = effect ∧ row.status = .reversed

def alreadyReversed (log : List Reversal) (records : List Effect) : List Nat :=
  (records.filter fun effect => log.any fun row =>
    decide (row.effectId = effect.id) && decide (row.status = .reversed)).map (·.id)

namespace Progress

variable (target : Target) (call : Nat) (progress : Progress)

def reversal (effect : Effect) (status : ReversalStatus) (detail : Option String)
    (receipt : Option Json) : Reversal where
  call := some call
  effectId := effect.id
  runId := target.runId
  executionId := progress.unit
  actionType := effect.actionType
  status := status
  detail := detail
  receipt := receipt

def attempt (effect : Effect) (left : List Effect) (status : ReversalStatus) (detail : Option String)
    (receipt : Option Json) : Progress :=
  { progress with
    attempted := progress.attempted ++ [effect]
    written := progress.written ++ [progress.reversal target call effect status detail receipt]
    left := left }

end Progress

variable (world : World) (call : Nat)

def compensated (progress : Progress) (effect : Effect) (left : List Effect) : CompensatorEnd → World
  | .returned receipt => (world.countReturn effect.id).goto call
      (.undoing (progress.attempt target call effect left .reversed none receipt))
  | .unstorable => (world.countReturn effect.id).goto call (.lost (progress.attempted ++ [effect]))
  | .unreleased error => (world.countReturn effect.id).goto call
      (.undoing (progress.attempt target call effect left .failed (some error) none))
  | .raised error => world.goto call
      (.undoing (progress.attempt target call effect left .failed (some error) none))
  | .interrupted => world.goto call (.lost (progress.attempted ++ [effect]))

inductive Action where
  | fetch (call : Nat)
  | read (call : Nat)
  | next (call : Nat) (ended : CompensatorEnd)
  | commit (call : Nat)
  /-- The commit raises. -/
  | commitFails (call : Nat)
deriving DecidableEq, Repr

def fetch : Option World :=
  match world.phases call with
  | .idle =>
    match target.executionUnit with
    | none => some (world.goto call (.finished []))
    | some unit => some (world.goto call (.fetched unit (target.records unit)))
  | _ => none

def read : Option World :=
  match world.phases call with
  | .fetched unit records =>
    some (world.goto call (.undoing ⟨unit, alreadyReversed world.log records, [], [], records⟩))
  | _ => none

def next (ended : CompensatorEnd) : Option World :=
  match world.phases call with
  | .undoing progress =>
    match progress.left with
    | [] => none
    | effect :: left =>
      if effect.id ∈ progress.already ∨ target.reportOnly call = true then
        some (world.goto call (.undoing { progress with left := left }))
      else if target.compensates effect.actionType then
        some (compensated target world call progress effect left ended)
      else
        some (world.goto call (.undoing (progress.attempt target call effect left .irreversible
          (some ("no compensator declared for '" ++ effect.actionType ++ "'")) none)))
  | _ => none

def commit : Option World :=
  match world.phases call with
  | .undoing progress =>
    if progress.left = [] then
      some ({ world with log := world.log ++ progress.written }.goto call (.finished progress.attempted))
    else none
  | _ => none

def commitFails : Option World :=
  match world.phases call with
  | .undoing progress => if progress.left = [] then some (world.goto call (.lost progress.attempted)) else none
  | _ => none

def undoCalls : StepSystem World Action where
  step world
    | .fetch call => fetch target world call
    | .read call => read world call
    | .next call ended => next target world call ended
    | .commit call => commit world call
    | .commitFails call => commitFails world call

variable {target : Target} {world next : World} {call : Nat} {ended : CompensatorEnd}
variable {phase : Phase} {progress : Progress}

@[simp] theorem World.goto_log : (world.goto call phase).log = world.log := rfl

@[simp] theorem World.goto_self : (world.goto call phase).phases call = phase := if_pos rfl

theorem World.goto_other (apart : other ≠ call) :
    (world.goto call phase).phases other = world.phases other := if_neg apart

/-- Where a call stands after a move is where it was moved to, or where it
stood. -/
theorem World.goto_found (stands : (world.goto call phase).phases other = found) :
    (other = call ∧ phase = found) ∨ (other ≠ call ∧ world.phases other = found) := by
  by_cases same : other = call
  · subst same
    rw [World.goto_self] at stands
    exact .inl ⟨rfl, stands⟩
  · rw [World.goto_other same] at stands
    exact .inr ⟨same, stands⟩

instance : Std.Total Effect.Newer where
  total left right := by
    simp only [Effect.Newer]
    omega

instance : IsTrans Effect Effect.Newer where
  trans first second third := by
    simp only [Effect.Newer]
    omega

theorem records_newest_first (unit : String) : (target.records unit).Pairwise Effect.Newer :=
  pairwise_insertionSort _ _

theorem records_nodup (distinct : (target.effects.map (·.id)).Nodup) (unit : String) :
    ((target.records unit).map (·.id)).Nodup := by
  have sorted : ((target.records unit).map (·.id)).Perm
      ((target.effects.filter fun effect => decide (effect.executionId = some unit) &&
        decide (effect.status = .success) && decide (effect.actionType ≠ undoSyscall)).map (·.id)) :=
    (perm_insertionSort _ _).map _
  rw [sorted.nodup_iff]
  exact distinct.sublist (filter_sublist.map _)

variable (target world call) in
inductive Turn : CompensatorEnd → World → Prop where
  | passed {ended : CompensatorEnd} (progress : Progress) (effect : Effect) (left : List Effect)
      (inside : world.phases call = .undoing progress) (turn : progress.left = effect :: left) :
      Turn ended (world.goto call (.undoing { progress with left := left }))
  | recorded {ended : CompensatorEnd} (progress : Progress) (effect : Effect) (left : List Effect)
      (status : ReversalStatus) (detail : Option String) (receipt : Option Json) (counted : Bool)
      (inside : world.phases call = .undoing progress) (turn : progress.left = effect :: left)
      (fresh : effect.id ∉ progress.already)
      (reversed : counted = true → status = .reversed ∨ ∃ error, ended = .unreleased error) :
      Turn ended ((if counted then world.countReturn effect.id else world).goto call
        (.undoing (progress.attempt target call effect left status detail receipt)))
  | broken {ended : CompensatorEnd} (progress : Progress) (effect : Effect) (left : List Effect)
      (counted : Bool) (inside : world.phases call = .undoing progress)
      (turn : progress.left = effect :: left) (cause : ended = .unstorable ∨ ended = .interrupted) :
      Turn ended ((if counted then world.countReturn effect.id else world).goto call
        (.lost (progress.attempted ++ [effect])))

variable {effect : Effect}

theorem compensated_turn
    (inside : world.phases call = .undoing progress) (turn : progress.left = effect :: left)
    (fresh : effect.id ∉ progress.already) :
    Turn target world call ended (compensated target world call progress effect left ended) := by
  cases ended with
  | returned receipt =>
    exact .recorded progress effect left .reversed none receipt true inside turn fresh (by simp)
  | unstorable => exact .broken progress effect left true inside turn (by simp)
  | unreleased error =>
    exact .recorded progress effect left .failed (some error) none true inside turn fresh (by simp)
  | raised error =>
    exact .recorded progress effect left .failed (some error) none false inside turn fresh (by simp)
  | interrupted => exact .broken progress effect left false inside turn (by simp)

theorem next_turn (stepped : EffectUndo.next target world call ended = some next) :
    Turn target world call ended next := by
  simp only [EffectUndo.next] at stepped
  split at stepped
  case h_1 progress inside =>
    split at stepped
    case h_1 => cases stepped
    case h_2 effect left turn =>
      split at stepped
      case isTrue =>
        cases stepped
        exact .passed progress effect left inside turn
      case isFalse untouched =>
        have fresh : effect.id ∉ progress.already := fun known => untouched (Or.inl known)
        split at stepped <;> cases stepped
        · exact compensated_turn inside turn fresh
        · exact .recorded progress effect left .irreversible _ none false inside turn fresh (by simp)
  · cases stepped

def rowsOf (log : List Reversal) (call : Nat) : List Reversal :=
  log.filter fun row => decide (row.call = some call)

structure Underway (target : Target) (call : Nat) (progress : Progress) : Prop where
  rows : progress.written.map (·.effectId) = progress.attempted.map (·.id)
  tagged : ∀ row ∈ progress.written, row.call = some call
  order : (progress.attempted ++ progress.left).Sublist (target.records progress.unit)

def Accounted (target : Target) (call : Nat) (rows : List Reversal) : Phase → Prop
  | .idle => rows = []
  | .fetched unit records => rows = [] ∧ records = target.records unit
  | .undoing progress => rows = [] ∧ Underway target call progress
  | .finished attempted => rows.map (·.effectId) = attempted.map (·.id) ∧
      ∃ unit, attempted.Sublist (target.records unit)
  | .lost attempted => rows = [] ∧ ∃ unit, attempted.Sublist (target.records unit)

def Accounts (target : Target) (world : World) : Prop :=
  ∀ call, Accounted target call (rowsOf world.log call) (world.phases call)

section

variable (accounts : Accounts target world)
include accounts

theorem Accounts.found (found : world.phases call = phase) : Accounted target call (rowsOf world.log call) phase :=
  found ▸ accounts call

theorem Accounts.goto (log : next.log = world.log) (phases : next.phases = (world.goto call phase).phases)
    (moved : Accounted target call (rowsOf world.log call) phase) : Accounts target next := by
  intro other
  rw [log, phases]
  by_cases same : other = call
  · subst same
    rwa [World.goto_self]
  · rw [World.goto_other same]
    exact accounts other

omit accounts in
theorem Underway.attempt {left : List Effect} {status : ReversalStatus}
    {detail : Option String} {receipt : Option Json} (underway : Underway target call progress)
    (turn : progress.left = effect :: left) :
    Underway target call (progress.attempt target call effect left status detail receipt) := by
  refine ⟨?_, ?_, ?_⟩
  · simp [Progress.attempt, Progress.reversal, underway.rows]
  · intro row member
    rcases mem_append.mp member with earlier | new
    · exact underway.tagged row earlier
    · rw [mem_singleton.mp new]
      rfl
  · simpa [Progress.attempt, turn] using underway.order

theorem turn_accounts (turned : Turn target world call ended next) : Accounts target next := by
  cases turned with
  | passed progress effect left inside turn =>
    obtain ⟨unwritten, underway⟩ := accounts.found inside
    refine accounts.goto rfl rfl ⟨unwritten, underway.rows, underway.tagged, ?_⟩
    refine List.Sublist.trans ?_ underway.order
    rw [turn]
    exact (sublist_cons_self effect left).append_left _
  | recorded progress effect left status detail receipt counted inside turn =>
    obtain ⟨unwritten, underway⟩ := accounts.found inside
    have moved : Accounted target call (rowsOf world.log call)
        (.undoing (progress.attempt target call effect left status detail receipt)) :=
      ⟨unwritten, underway.attempt turn⟩
    cases counted <;> exact accounts.goto rfl rfl moved
  | broken progress effect left counted inside turn =>
    obtain ⟨unwritten, underway⟩ := accounts.found inside
    have begun : (progress.attempted ++ [effect]).Sublist (target.records progress.unit) := by
      refine List.Sublist.trans ?_ underway.order
      rw [turn]
      simp
    have moved : Accounted target call (rowsOf world.log call)
        (.lost (progress.attempted ++ [effect])) := ⟨unwritten, progress.unit, begun⟩
    cases counted <;> exact accounts.goto rfl rfl moved

theorem commit_accounts (stepped : commit world call = some next) : Accounts target next := by
  simp only [commit] at stepped
  split at stepped
  case h_1 progress inside =>
    obtain ⟨unwritten, underway⟩ := accounts.found inside
    split at stepped <;> cases stepped
    case isTrue exhausted =>
    intro other
    have added : rowsOf (world.log ++ progress.written) other =
        rowsOf world.log other ++ rowsOf progress.written other := filter_append ..
    by_cases same : other = call
    · subst same
      rw [World.goto_self, World.goto_log, added, unwritten]
      have all : rowsOf progress.written other = progress.written := by
        rw [rowsOf, filter_eq_self]
        intro row member
        simpa using underway.tagged row member
      rw [all]
      refine ⟨underway.rows, progress.unit, ?_⟩
      simpa [exhausted] using underway.order
    · rw [World.goto_other same, World.goto_log, added]
      have none : rowsOf progress.written other = [] := by
        rw [rowsOf, filter_eq_nil_iff]
        intro row member tagged
        have mine := underway.tagged row member
        rw [decide_eq_true_eq, mine, Option.some.injEq] at tagged
        exact same tagged.symm
      rw [none, append_nil]
      exact accounts other
  · cases stepped

theorem step_accounts (stepped : (undoCalls target).step world action = some next) : Accounts target next := by
  cases action with
  | fetch call =>
    simp only [undoCalls, fetch] at stepped
    split at stepped
    case h_1 waiting =>
      have none : rowsOf world.log call = [] := accounts.found waiting
      split at stepped <;> cases stepped
      · refine accounts.goto rfl rfl ⟨?_, "", nil_sublist _⟩
        rw [none]
        rfl
      · exact accounts.goto rfl rfl ⟨none, rfl⟩
    · cases stepped
  | read =>
    simp only [undoCalls, EffectUndo.read] at stepped
    split at stepped <;> cases stepped
    case h_1 fetched =>
      obtain ⟨unwritten, listed⟩ := accounts.found fetched
      refine accounts.goto rfl rfl ⟨unwritten, rfl, by simp, ?_⟩
      rw [listed]
      exact List.Sublist.refl _
  | next => exact turn_accounts accounts (next_turn stepped)
  | commit => exact commit_accounts accounts stepped
  | commitFails =>
    simp only [undoCalls, commitFails] at stepped
    split at stepped
    case h_1 progress inside =>
      obtain ⟨unwritten, underway⟩ := accounts.found inside
      split at stepped <;> cases stepped
      refine accounts.goto rfl rfl ⟨unwritten, progress.unit, ?_⟩
      exact List.Sublist.trans (sublist_append_left _ _) underway.order
    · cases stepped

end

def Phase.inLoop : Phase → Bool
  | .undoing _ => true
  | _ => false

/-- The calls do not overlap between reading the reversal log and committing to
it, and each call comes to its commit. -/
def Orderly (world : World) : Action → Prop
  | .read _ => ∀ other, (world.phases other).inLoop = false
  | .next _ ended => (∃ receipt, ended = .returned receipt) ∨ ∃ error, ended = .raised error
  | .commitFails _ => False
  | .fetch _ | .commit _ => True

structure Tidy (target : Target) (world : World) : Prop where
  once : ∀ effect, world.returns effect ≤ 1
  source : ∀ effect, world.returns effect ≠ 0 → Reversed world.log effect ∨
    ∃ call progress, world.phases call = .undoing progress ∧ Reversed progress.written effect
  alone : ∀ call other progress others, world.phases call = .undoing progress →
    world.phases other = .undoing others → call = other
  known : ∀ call progress, world.phases call = .undoing progress →
    ∀ effect ∈ target.records progress.unit, Reversed world.log effect.id → effect.id ∈ progress.already
  kept : ∀ call attempted, world.phases call ≠ .lost attempted

theorem mem_alreadyReversed
    (member : effect ∈ records) (reversed : Reversed log effect.id) : effect.id ∈ alreadyReversed log records := by
  obtain ⟨row, listed, same, status⟩ := reversed
  refine mem_map.mpr ⟨effect, mem_filter.mpr ⟨member, ?_⟩, rfl⟩
  exact any_eq_true.mpr ⟨row, listed, by simp [same, status]⟩

theorem Reversed.mono {effect : Nat} (reversed : Reversed rows effect)
    (sub : rows ⊆ more) : Reversed more effect := by
  obtain ⟨row, member, rest⟩ := reversed
  exact ⟨row, sub member, rest⟩

section

variable (tidy : Tidy target world)
include tidy

theorem Tidy.goto_kept (kept : ∀ attempted, phase ≠ .lost attempted) :
    ∀ other attempted, (world.goto call phase).phases other ≠ .lost attempted := by
  intro other attempted lost
  rcases World.goto_found lost with ⟨_, moved⟩ | ⟨_, stood⟩
  · exact kept attempted moved
  · exact tidy.kept other attempted stood

theorem Tidy.only (inside : world.phases call = .undoing progress)
    (found : world.phases other = .undoing others) : call = other ∧ progress = others := by
  obtain rfl := tidy.alone call other progress others inside found
  rw [inside] at found
  exact ⟨rfl, Phase.undoing.inj found⟩

theorem Tidy.goto (outside : (world.phases call).inLoop = false)
    (phase_outside : phase.inLoop = false) (kept : ∀ attempted, phase ≠ .lost attempted) :
    Tidy target (world.goto call phase) := by
  have unmoved : ∀ {other progress}, (world.goto call phase).phases other = .undoing progress →
      world.phases other = .undoing progress := by
    intro other progress inside
    rcases World.goto_found inside with ⟨_, moved⟩ | ⟨_, stood⟩
    · simp [moved, Phase.inLoop] at phase_outside
    · exact stood
  refine ⟨tidy.once, ?_, ?_, ?_, tidy.goto_kept kept⟩
  · intro effect returned
    refine (tidy.source effect returned).imp_right ?_
    rintro ⟨other, progress, inside, reversed⟩
    refine ⟨other, progress, ?_, reversed⟩
    rw [World.goto_other, inside]
    rintro rfl
    simp [inside, Phase.inLoop] at outside
  · intro one other progress others first second
    exact tidy.alone one other progress others (unmoved first) (unmoved second)
  · intro other progress inside
    exact tidy.known other progress (unmoved inside)

theorem read_tidy (accounts : Accounts target world) (exclusive : ∀ other, (world.phases other).inLoop = false)
    (stepped : EffectUndo.read world call = some next) : Tidy target next := by
  simp only [EffectUndo.read] at stepped
  split at stepped
  case h_1 unit records fetched =>
    obtain ⟨_, listed⟩ := accounts.found fetched
    cases stepped
    have outside : ∀ {other progress}, world.phases other ≠ .undoing progress := by
      intro other progress inside
      simpa [inside, Phase.inLoop] using exclusive other
    have entered : ∀ {other progress}, (world.goto call (.undoing ⟨unit, alreadyReversed world.log records,
        [], [], records⟩)).phases other = .undoing progress →
        other = call ∧ progress = ⟨unit, alreadyReversed world.log records, [], [], records⟩ := by
      intro other progress inside
      rcases World.goto_found inside with ⟨same, moved⟩ | ⟨_, stood⟩
      · exact ⟨same, (Phase.undoing.inj moved).symm⟩
      · exact absurd stood outside
    refine ⟨tidy.once, ?_, ?_, ?_, tidy.goto_kept (by simp)⟩
    · intro effect returned
      refine (tidy.source effect returned).imp_right ?_
      rintro ⟨other, progress, inside, _⟩
      exact absurd inside outside
    · intro one other progress others first second
      rw [(entered first).1, (entered second).1]
    · intro other progress inside effect member reversed
      obtain ⟨_, rfl⟩ := entered inside
      exact mem_alreadyReversed (listed ▸ member) reversed
  · cases stepped

/-- Inside the loop a call goes on from what it read, and takes no row back. -/
theorem Tidy.advance (inside : world.phases call = .undoing progress) (unit : moved.unit = progress.unit)
    (already : moved.already = progress.already) (keeps : progress.written ⊆ moved.written) :
    Tidy target (world.goto call (.undoing moved)) := by
  have only : ∀ {other others}, (world.goto call (.undoing moved)).phases other = .undoing others →
      other = call ∧ others = moved := by
    intro other others found
    rcases World.goto_found found with ⟨same, stands⟩ | ⟨apart, stood⟩
    · exact ⟨same, (Phase.undoing.inj stands).symm⟩
    · exact absurd (tidy.only inside stood).1.symm apart
  refine ⟨tidy.once, ?_, ?_, ?_, tidy.goto_kept (by simp)⟩
  · intro effect returned
    refine (tidy.source effect returned).imp_right ?_
    rintro ⟨other, others, found, reversed⟩
    obtain ⟨rfl, rfl⟩ := tidy.only inside found
    exact ⟨call, moved, World.goto_self, reversed.mono keeps⟩
  · intro one other progress others first second
    rw [(only first).1, (only second).1]
  · intro other others found
    obtain ⟨_, rfl⟩ := only found
    rw [unit, already]
    exact tidy.known call progress inside

theorem Tidy.countReturn {effect : Nat} (first : world.returns effect = 0)
    (inside : world.phases call = .undoing progress) (reversed : Reversed progress.written effect) :
    Tidy target (world.countReturn effect) := by
  refine ⟨?_, ?_, tidy.alone, tidy.known, tidy.kept⟩
  · intro other
    have before := tidy.once other
    simp only [World.countReturn]
    split
    case isTrue same => rw [same, first]
    case isFalse => exact before
  · intro other returned
    by_cases same : other = effect
    · rw [same]
      exact Or.inr ⟨call, progress, inside, reversed⟩
    · refine tidy.source other ?_
      simpa [World.countReturn, same] using returned

/-- An effect that is still to come in the loop, and was not read as reversed,
has no compensator that returned. -/
theorem Tidy.unreturned (accounts : Accounts target world) (distinct : (target.effects.map (·.id)).Nodup)
    (inside : world.phases call = .undoing progress) (turn : progress.left = effect :: left)
    (fresh : effect.id ∉ progress.already) : world.returns effect.id = 0 := by
  obtain ⟨_, underway⟩ := accounts.found inside
  by_contra returned
  rcases tidy.source effect.id returned with logged | ⟨other, others, found, reversed⟩
  · have listed : effect ∈ target.records progress.unit :=
      underway.order.subset (by simp [turn])
    exact fresh (tidy.known call progress inside effect listed logged)
  · obtain ⟨rfl, rfl⟩ := tidy.only inside found
    obtain ⟨_, written, sameEffect, _⟩ := reversed
    have attempted : effect.id ∈ progress.attempted.map (·.id) := by
      rw [← underway.rows, ← sameEffect]
      exact mem_map_of_mem written
    have apart := (records_nodup distinct progress.unit).sublist (underway.order.map (·.id))
    rw [turn, map_append] at apart
    exact (nodup_append.mp apart).2.2 effect.id attempted effect.id mem_cons_self rfl

theorem turn_tidy (accounts : Accounts target world) (distinct : (target.effects.map (·.id)).Nodup)
    (clean : (∃ receipt, ended = .returned receipt) ∨ ∃ error, ended = .raised error)
    (turned : Turn target world call ended next) : Tidy target next := by
  cases turned with
  | passed progress effect left inside => exact tidy.advance inside rfl rfl (List.Subset.refl _)
  | recorded progress effect left status detail receipt counted inside turn fresh reversed =>
    have advanced : Tidy target (world.goto call
        (.undoing (progress.attempt target call effect left status detail receipt))) :=
      tidy.advance inside rfl rfl (subset_append_left _ _)
    cases counted with
    | false => exact advanced
    | true =>
      have first := tidy.unreturned accounts distinct inside turn fresh
      refine advanced.countReturn first World.goto_self ?_
      rcases reversed rfl with status_reversed | ⟨error, unreleased⟩
      · exact ⟨_, mem_append_right _ mem_cons_self, rfl, status_reversed⟩
      · rcases clean with ⟨_, returned⟩ | ⟨_, raised⟩
        · rw [unreleased] at returned
          cases returned
        · rw [unreleased] at raised
          cases raised
  | broken progress effect left counted inside turn cause =>
    rcases clean with ⟨_, rfl⟩ | ⟨_, rfl⟩ <;> simp at cause

theorem commit_tidy (stepped : commit world call = some next) : Tidy target next := by
  simp only [commit] at stepped
  split at stepped
  case h_1 progress inside =>
    split at stepped <;> cases stepped
    have none : ∀ {other others}, (world.goto call (.finished progress.attempted)).phases other ≠
        .undoing others := by
      intro other others found
      rcases World.goto_found found with ⟨_, moved⟩ | ⟨apart, stood⟩
      · cases moved
      · exact apart (tidy.only inside stood).1.symm
    refine ⟨tidy.once, ?_, ?_, ?_, tidy.goto_kept (by simp)⟩
    · intro effect returned
      refine Or.inl ?_
      rcases tidy.source effect returned with logged | ⟨other, others, found, reversed⟩
      · exact logged.mono (subset_append_left _ _)
      · obtain ⟨rfl, rfl⟩ := tidy.only inside found
        exact reversed.mono (subset_append_right _ _)
    · intro one other _ _ first
      exact absurd first none
    · intro other others found
      exact absurd found none
  · cases stepped

end

structure Undoes (target : Target) (world : World) : Prop where
  accounts : Accounts target world
  tidy : Tidy target world

theorem step_undoes (distinct : (target.effects.map (·.id)).Nodup) (orderly : Orderly world action)
    (undoes : Undoes target world) (stepped : (undoCalls target).step world action = some next) :
    Undoes target next := by
  refine ⟨step_accounts undoes.accounts stepped, ?_⟩
  cases action with
  | fetch call =>
    simp only [undoCalls, fetch] at stepped
    split at stepped
    case h_1 waiting =>
      have outside : (world.phases call).inLoop = false := by rw [waiting]; rfl
      split at stepped <;> cases stepped
      · exact undoes.tidy.goto outside rfl (by simp)
      · exact undoes.tidy.goto outside rfl (by simp)
    · cases stepped
  | read => exact read_tidy undoes.tidy undoes.accounts orderly stepped
  | next => exact turn_tidy undoes.tidy undoes.accounts distinct orderly (next_turn stepped)
  | commit => exact commit_tidy undoes.tidy stepped
  | commitFails => exact orderly.elim

structure World.Initial (world : World) : Prop where
  idle : ∀ call, world.phases call = .idle
  unreturned : ∀ effect, world.returns effect = 0
  earlier : ∀ row ∈ world.log, row.call = none

theorem World.Initial.accounts (initial : world.Initial) : Accounts target world := by
  intro call
  rw [initial.idle]
  simp only [Accounted, rowsOf, filter_eq_nil_iff]
  intro row member
  simp [initial.earlier row member]

theorem World.Initial.undoes (initial : world.Initial) : Undoes target world := by
  refine ⟨initial.accounts, ?_, ?_, ?_, ?_, ?_⟩
  · simp [initial.unreturned]
  · simp [initial.unreturned]
  · simp [initial.idle]
  · simp [initial.idle]
  · simp [initial.idle]

def Phase.attempted : Phase → List Effect
  | .idle | .fetched _ _ => []
  | .undoing progress => progress.attempted
  | .finished attempted | .lost attempted => attempted

theorem Accounts.newest_first (accounts : Accounts target world) :
    (world.phases call).attempted.Pairwise Effect.Newer := by
  have accounted := accounts call
  cases phase : world.phases call with
  | idle | fetched unit records => exact .nil
  | undoing progress =>
    rw [phase] at accounted
    exact (records_newest_first progress.unit).sublist
      ((sublist_append_left _ _).trans accounted.2.order)
  | finished attempted | lost attempted =>
    rw [phase] at accounted
    obtain ⟨_, unit, order⟩ := accounted
    exact (records_newest_first unit).sublist order

/-- If no call reads the reversal log between another's reading and its commit, and
every call comes to its commit, the compensator of an effect returns at most once in
all calls, a call attempts its effects newest first, and a call that is over has left
one row for each attempt. -/
theorem undo_at_most_once {start : World} {actions : List Action}
    (distinct : (target.effects.map (·.id)).Nodup) (initial : start.Initial)
    (orderly : (undoCalls target).Meets Orderly start actions)
    (ran : (undoCalls target).run start actions = some world) : (∀ effect, world.returns effect ≤ 1) ∧
    (∀ call, (world.phases call).attempted.Pairwise Effect.Newer) ∧
    (∀ call attempted, world.phases call = .finished attempted →
      (rowsOf world.log call).map (·.effectId) = attempted.map (·.id)) ∧
    ∀ call attempted, world.phases call ≠ .lost attempted := by
  have undoes : Undoes target world :=
    StepSystem.invariant (step_undoes distinct) orderly initial.undoes ran
  refine ⟨undoes.tidy.once, fun call => undoes.accounts.newest_first, ?_, undoes.tidy.kept⟩
  intro call attempted finished
  have accounted := undoes.accounts call
  rw [finished] at accounted
  exact accounted.1

def invoiceEffect : Effect := ⟨1, "sys.v1.billing.invoice", some "u1", .success, 10⟩

def invoiceRun : Target where
  runId := "r1"
  executionUnit := some "u1"
  effects := [invoiceEffect]
  compensates _ := true
  reportOnly _ := false

def untouched : World := ⟨[], fun _ => 0, fun _ => .idle⟩

def voided : CompensatorEnd := .returned (some (.obj [("voided", .int 1)]))

def oneAfterOther : List Action :=
  [.fetch 0, .read 0, .next 0 voided, .commit 0, .fetch 1, .read 1, .next 1 voided, .commit 1]

theorem oneAfterOther_orderly : (undoCalls invoiceRun).Meets Orderly untouched oneAfterOther := by
  refine .cons trivial rfl (.cons ?_ rfl (.cons (Or.inl ⟨_, rfl⟩) rfl (.cons trivial rfl
    (.cons trivial rfl (.cons ?_ rfl (.cons (Or.inl ⟨_, rfl⟩) rfl (.cons trivial rfl trivial)))))))
  · rintro (_ | other) <;> rfl
  · rintro (_ | _ | other) <;> rfl

theorem undo_once_in_turn :
    ∃ world, (undoCalls invoiceRun).run untouched oneAfterOther = some world ∧
      world.returns 1 ≤ 1 ∧ (rowsOf world.log 0).map (·.effectId) = [1] := by
  refine ⟨_, rfl, ?_⟩
  have once := @undo_at_most_once invoiceRun _ untouched oneAfterOther (by decide)
    ⟨fun _ => rfl, fun _ => rfl, by simp [untouched]⟩
    oneAfterOther_orderly rfl
  exact ⟨once.1 1, once.2.2.1 0 [invoiceEffect] rfl⟩

/-- Both calls read the log before either commits: the compensator returns
twice, and there are two `reversed` rows for the effect.  Without any overlap, a
receipt that the log can not hold takes all rows of its call with it, and the
next call runs the compensator again. -/
theorem undo_twice :
    (∃ world, (undoCalls invoiceRun).run untouched
        [.fetch 0, .fetch 1, .read 0, .read 1, .next 0 voided, .commit 0, .next 1 voided, .commit 1] = some world ∧
      world.returns 1 = 2 ∧ world.log.map (fun row => (row.effectId, row.status)) =
        [(1, .reversed), (1, .reversed)]) ∧
    ∃ world, (undoCalls invoiceRun).run untouched
        [.fetch 0, .read 0, .next 0 .unstorable, .fetch 1, .read 1, .next 1 voided, .commit 1] =
          some world ∧
      world.returns 1 = 2 ∧ rowsOf world.log 0 = [] :=
  ⟨⟨_, rfl, rfl, rfl⟩, ⟨_, rfl, rfl, rfl⟩⟩

end AindyRuntime.EffectUndo
