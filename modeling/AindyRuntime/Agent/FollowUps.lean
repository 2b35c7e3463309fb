import AindyRuntime.Lib.StepSystem
import Mathlib.Data.List.Chain

/-! # Chains of follow-up runs

`maybe_act_on_next_action` counts the links above a completing run. The follow-up
job commits the new run first, and its link to the parent afterwards.
-/

namespace AindyRuntime.FollowUps

open List Function

structure ActingSettings where
  acting : Bool
  nextActionMaxChain : Int
  nextActionMaxActive : Int

def ActingSettings.maxChain (settings : ActingSettings) : Nat := (max 1 settings.nextActionMaxChain).toNat

def ActingSettings.maxActive (settings : ActingSettings) : Nat := (max 0 settings.nextActionMaxActive).toNat

structure NextAction where
  action : String
  source : String
  /-- The text of `args["objective"]`, stripped. -/
  objective : String

structure DispatchCalls where
  /-- The walk over the parents does not raise. -/
  walks : Bool
  /-- `count_active_executions`. -/
  active : Option Nat
  submits : Bool

/-- `parent_run_id`, of the runs that exist. -/
abbrev Rows (Run : Type) := Run → Option (Option Run)

structure RunTable (Run : Type) where
  rows : Rows Run
  /-- The parents that the submitted jobs name. -/
  jobs : List Run
  /-- What a job has created and not linked yet, with its parent. -/
  unlinked : List (Run × Run)
  linked : List Run

variable {Run : Type} [DecidableEq Run]

/-- The loop of `_completing_run_depth`, with room for that many hops. -/
def parentHops (rows : Rows Run) : Nat → List Run → Option Run → Nat
  | room + 1, seen, some parent =>
    if parent ∈ seen then 0
    else match rows parent with
      | some above => parentHops rows room (parent :: seen) above + 1
      | none => 1
  | _, _, _ => 0

def completingRunDepth (rows : Rows Run) (run : Run) (cap : Nat) : Nat := parentHops rows (cap + 1) [] (rows run).join

def maybeActOnNextAction (settings : ActingSettings) (rows : Rows Run) (run : Run) (calls : DispatchCalls) :
    Option NextAction → Bool
  | none => false
  | some next =>
    settings.acting && next.action = "trigger_execution" && next.source ≠ "runtime_default" &&
      next.objective ≠ "" && calls.walks &&
      completingRunDepth rows run settings.maxChain < settings.maxChain &&
      calls.active.any (fun active => settings.maxActive = 0 ∨ active < settings.maxActive) && calls.submits

inductive ChainAction (Run : Type) where
  /-- A run of a user, or a delegated one, which is inserted with its parent. -/
  | spawn (run : Run) (parent : Option Run)
  | complete (run : Run) (calls : DispatchCalls) (next : Option NextAction)
  | create (run parent : Run)
  | link (run parent : Run) (commits : Bool)

def followUps (settings : ActingSettings) : StepSystem (RunTable Run) (ChainAction Run) where
  step table
    | .spawn run parent =>
      if table.rows run = none ∧ ∀ above ∈ parent, table.rows above ≠ none then
        some { table with rows := update table.rows run (some parent) }
      else none
    | .complete run calls next =>
      if table.rows run ≠ none then
        some (if maybeActOnNextAction settings table.rows run calls next then
          { table with jobs := run :: table.jobs } else table)
      else none
    | .create run parent =>
      if table.rows run = none ∧ parent ∈ table.jobs then
        some { table with
          rows := update table.rows run (some none)
          unlinked := (run, parent) :: table.unlinked }
      else none
    | .link run parent commits =>
      if (run, parent) ∈ table.unlinked then
        let unlinked := table.unlinked.erase (run, parent)
        some (if commits = true ∧ table.rows run = some none then
          { table with rows := update table.rows run (some (some parent)), unlinked, linked := run :: table.linked }
        else { table with unlinked })
      else none

/-- A run neither completes nor delegates before the link to its parent is written. -/
def actsLinked (table : RunTable Run) : ChainAction Run → Bool
  | .complete run _ _ | .spawn _ (some run) => run ∉ table.unlinked.map Prod.fst
  | _ => true

/-- The number of links above each run. -/
structure Ranked (rows : Rows Run) (rank : Run → Nat) : Prop where
  root : ∀ run, rows run = some none → rank run = 0
  link : ∀ run parent, rows run = some (some parent) → rows parent ≠ none ∧ rank run = rank parent + 1

variable {rows : Rows Run} {rank : Run → Nat} {run : Run} {above : Option Run} {table next : RunTable Run}

/-- What was seen is further from the root, so the walk never comes back to it. -/
theorem Ranked.parentHops_eq (ranked : Ranked rows rank) (row : rows run = some above)
    (below : ∀ one ∈ seen, rank run ≤ rank one) : parentHops rows room seen above = min (rank run) room := by
  induction room generalizing run above seen with
  | zero => simp [parentHops]
  | succ room ih =>
    cases above with
    | none => simp [parentHops, ranked.root run row]
    | some parent =>
      obtain ⟨present, higher⟩ := ranked.link run parent row
      obtain ⟨above, parentRow⟩ := Option.ne_none_iff_exists'.mp present
      have new : parent ∉ seen := by
        intro member
        have further := below parent member
        omega
      have rest : parentHops rows room (parent :: seen) above = min (rank parent) room := by
        refine ih parentRow (forall_mem_cons.mpr ⟨Nat.le_refl _, fun one member => ?_⟩)
        have further := below one member
        omega
      simp only [parentHops, new, if_false, parentRow, rest]
      omega

theorem Ranked.lt_of_acts (ranked : Ranked rows rank) (present : rows run ≠ none)
    (acts : maybeActOnNextAction settings rows run calls action = true) : rank run < settings.maxChain := by
  obtain ⟨above, row⟩ := Option.ne_none_iff_exists'.mp present
  have walked : completingRunDepth rows run settings.maxChain = min (rank run) (settings.maxChain + 1) := by
    rw [completingRunDepth, row]
    exact ranked.parentHops_eq row (by simp)
  cases action with
  | none => cases acts
  | some action =>
    simp only [maybeActOnNextAction, Bool.and_eq_true, decide_eq_true_eq, walked] at acts
    omega

omit [DecidableEq Run] in
theorem Ranked.length_le (ranked : Ranked rows rank)
    (chain : (run :: parents).IsChain fun child parent => rows child = some (some parent)) :
    parents.length ≤ rank run := by
  induction parents generalizing run with
  | nil => exact Nat.zero_le _
  | cons parent parents ih =>
    obtain ⟨row, chain⟩ := isChain_cons_cons.mp chain
    have shorter := ih chain
    have higher := (ranked.link run parent row).2
    rw [length_cons]
    omega

/-- Neither a link nor a job leads to the run. -/
def Unnamed (rows : Rows Run) (jobs : List Run) (run : Run) : Prop :=
  run ∉ jobs ∧ ∀ other, rows other ≠ some (some run)

structure Bounded (limit : Nat) (rank : Run → Nat) (rows : Rows Run) (jobs : List Run) (unlinked : List (Run × Run))
    (linked : List Run) : Prop where
  ranked : Ranked rows rank
  asked : ∀ run ∈ jobs, rows run ≠ none ∧ rank run < limit
  created : ∀ pair ∈ unlinked, pair.2 ∈ jobs ∧ Unnamed rows jobs pair.1
  linked : ∀ run ∈ linked, ∃ parent ∈ jobs, rows run = some (some parent)

def RunTable.Chained (limit : Nat) (table : RunTable Run) : Prop :=
  ∃ rank, Bounded limit rank table.rows table.jobs table.unlinked table.linked

variable {jobs linked : List Run} {unlinked : List (Run × Run)}

omit [DecidableEq Run] in
theorem Bounded.absent (bounded : Bounded limit rank rows jobs unlinked linked) (absent : rows run = none) :
    Unnamed rows jobs run :=
  ⟨fun asked => (bounded.asked run asked).1 absent, fun other row => (bounded.ranked.link other run row).1 absent⟩

theorem Unnamed.update (unnamed : Unnamed rows jobs child) (apart : above ≠ some child) :
    Unnamed (update rows run (some above)) jobs child := by
  refine ⟨unnamed.1, fun other row => ?_⟩
  by_cases same : other = run
  · rw [same, update_self] at row
    exact apart (Option.some.inj row)
  · rw [update_of_ne same] at row
    exact unnamed.2 other row

/-- A row that nothing leads to may change, if it then leads to a run that is linked. -/
theorem Bounded.change (above : Option Run) (bounded : Bounded limit rank rows jobs unlinked linked)
    (unnamed : Unnamed rows jobs run) (root : ∀ parent, rows run ≠ some (some parent))
    (present : ∀ parent ∈ above, parent ≠ run ∧ rows parent ≠ none ∧ parent ∉ unlinked.map Prod.fst) :
    Bounded limit (update rank run (above.elim 0 (rank · + 1))) (update rows run (some above)) jobs unlinked
      linked := by
  refine ⟨⟨fun other row => ?_, fun other parent row => ?_⟩, fun parent member => ?_, fun pair member => ?_,
    fun child member => ?_⟩
  · by_cases same : other = run
    · subst same
      rw [update_self] at row ⊢
      cases row
      rfl
    · rw [update_of_ne same] at row ⊢
      exact bounded.ranked.root other row
  · by_cases same : other = run
    · subst same
      rw [update_self] at row
      cases row
      obtain ⟨apart, row, _⟩ := present parent rfl
      rw [update_self, update_of_ne apart, update_of_ne apart]
      exact ⟨row, rfl⟩
    · rw [update_of_ne same] at row
      have apart : parent ≠ run := fun same => unnamed.2 other (same ▸ row)
      rw [update_of_ne same, update_of_ne apart, update_of_ne apart]
      exact bounded.ranked.link other parent row
  · have apart : parent ≠ run := fun same => unnamed.1 (same ▸ member)
    rw [update_of_ne apart, update_of_ne apart]
    exact bounded.asked parent member
  · obtain ⟨asked, free⟩ := bounded.created pair member
    exact ⟨asked, free.update fun same => (present _ same).2.2 (mem_map_of_mem member)⟩
  · obtain ⟨parent, asked, row⟩ := bounded.linked child member
    have apart : child ≠ run := fun same => root parent (same ▸ row)
    exact ⟨parent, asked, by rw [update_of_ne apart, row]⟩

theorem step_chained (acts : actsLinked table action = true) (chained : table.Chained settings.maxChain)
    (stepped : (followUps settings).step table action = some next) : next.Chained settings.maxChain := by
  obtain ⟨rank, bounded⟩ := chained
  cases action with
  | spawn run above =>
    obtain ⟨⟨absent, present⟩, ended⟩ := Option.ite_none_right_eq_some.mp stepped
    cases ended
    refine ⟨_, bounded.change above (bounded.absent absent) (by simp [absent]) fun parent named => ?_⟩
    have row := present parent named
    cases named
    exact ⟨fun same => row (same ▸ absent), row, of_decide_eq_true acts⟩
  | complete run calls action =>
    obtain ⟨present, ended⟩ := Option.ite_none_right_eq_some.mp stepped
    cases ended
    split
    case isTrue dispatched =>
      have written : run ∉ table.unlinked.map Prod.fst := of_decide_eq_true acts
      have shallow := bounded.ranked.lt_of_acts present dispatched
      refine ⟨rank, bounded.ranked, forall_mem_cons.mpr ⟨⟨present, shallow⟩, bounded.asked⟩, fun pair member => ?_,
        fun child member => ?_⟩
      · obtain ⟨asked, unasked, free⟩ := bounded.created pair member
        have apart : pair.1 ≠ run := fun same => written (same ▸ mem_map_of_mem member)
        exact ⟨mem_cons_of_mem _ asked, not_mem_cons_of_ne_of_not_mem apart unasked, free⟩
      · obtain ⟨parent, asked, row⟩ := bounded.linked child member
        exact ⟨parent, mem_cons_of_mem _ asked, row⟩
    case isFalse => exact ⟨rank, bounded⟩
  | create run parent =>
    obtain ⟨⟨absent, asked⟩, ended⟩ := Option.ite_none_right_eq_some.mp stepped
    cases ended
    have unnamed := bounded.absent absent
    have kept := bounded.change none unnamed (by simp [absent]) nofun
    exact ⟨_, kept.ranked, kept.asked, forall_mem_cons.mpr ⟨⟨asked, unnamed.update nofun⟩, kept.created⟩, kept.linked⟩
  | link run parent commits =>
    obtain ⟨member, ended⟩ := Option.ite_none_right_eq_some.mp stepped
    cases ended
    obtain ⟨asked, unnamed⟩ := bounded.created _ member
    split
    case isTrue writes =>
      have kept := bounded.change (some parent) unnamed (by simp [writes.2]) fun named same => by
        cases same
        refine ⟨fun same => unnamed.1 (same ▸ asked), (bounded.asked parent asked).1, fun unwritten => ?_⟩
        obtain ⟨pair, created, rfl⟩ := mem_map.mp unwritten
        exact (bounded.created pair created).2.1 asked
      exact ⟨_, kept.ranked, kept.asked, fun pair member => kept.created pair (mem_of_mem_erase member),
        forall_mem_cons.mpr ⟨⟨parent, asked, update_self ..⟩, kept.linked⟩⟩
    case isFalse =>
      exact ⟨rank, bounded.ranked, bounded.asked, fun pair member => bounded.created pair (mem_of_mem_erase member),
        bounded.linked⟩

def noRuns : RunTable Run := ⟨fun _ => none, [], [], []⟩

/-- The chain of links from a follow-up run upwards is no longer than the limit, if
no run acts before its own link is written. -/
theorem follow_up_chains_bounded (acts : (followUps settings).Meets (actsLinked · · = true) noRuns actions)
    (ran : (followUps settings).run noRuns actions = some table) (member : run ∈ table.linked)
    (chain : (run :: parents).IsChain fun child parent => table.rows child = some (some parent)) :
    parents.length ≤ settings.maxChain := by
  have empty : (noRuns : RunTable Run).Chained settings.maxChain :=
    ⟨fun _ => 0, ⟨nofun, nofun⟩, by simp [noRuns], by simp [noRuns], by simp [noRuns]⟩
  obtain ⟨rank, bounded⟩ : table.Chained settings.maxChain := StepSystem.invariant step_chained acts empty ran
  obtain ⟨parent, asked, row⟩ := bounded.linked run member
  have shallow := (bounded.asked parent asked).2
  have deeper := (bounded.ranked.link run parent row).2
  have length := bounded.ranked.length_le chain
  omega

def oneHop : ActingSettings := ⟨true, 1, 0⟩

def completes (run : Nat) : ChainAction Nat :=
  .complete run ⟨true, some 0, true⟩ (some ⟨"trigger_execution", "app", "go on"⟩)

def oneFollowUp : List (ChainAction Nat) := [.spawn 0 none, completes 0, .create 1 0, .link 1 0 true, completes 1]

theorem follow_up_bounded : ∃ table, (followUps oneHop).run noRuns oneFollowUp = some table ∧
    table.rows 1 = some (some 0) ∧ [0].length ≤ oneHop.maxChain := by
  have acts : (followUps oneHop).Meets (actsLinked · · = true) noRuns oneFollowUp := by decide
  exact ⟨_, rfl, rfl, follow_up_chains_bounded acts rfl mem_cons_self (isChain_pair.mpr rfl)⟩

/-- The first follow-up is approved and completes before the job links it, so that
it counts as a root. -/
theorem follow_up_too_deep : ∃ table, (followUps oneHop).run noRuns
      [.spawn 0 none, completes 0, .create 1 0, completes 1, .link 1 0 true, .create 2 1, .link 2 1 true] = some table ∧
    2 ∈ table.linked ∧ table.rows 2 = some (some 1) ∧ table.rows 1 = some (some 0) ∧ oneHop.maxChain = 1 :=
  ⟨_, rfl, mem_cons_self, rfl, rfl, rfl⟩

end AindyRuntime.FollowUps
