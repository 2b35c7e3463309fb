import AindyRuntime.Scheduler.Waits

namespace AindyRuntime.Scheduler

open List

variable {cluster after last : Cluster waits}

def Wake.Lawful (waits : String → WaitEntry) (wake : Wake) : Prop :=
  (waits wake.runId).awaitsEvent = true →
    ∃ notification, wake.cause = .notified notification ∧
      notification.eventType = (waits wake.runId).eventName ∧
      notification.inScope wake.runId = true ∧
      notification.admits (waits wake.runId).correlationId = true

namespace Cluster

structure SameAt (runId : String) (before after : Cluster waits) : Prop where
  redis : after.redis.get? runId = before.redis.get? runId
  backups : after.backups.get? runId = before.backups.get? runId
  waiting : ∀ instanceId, (after.instances instanceId).waiting.get? runId
    = (before.instances instanceId).waiting.get? runId

theorem SameAt.refl : SameAt runId cluster cluster := ⟨rfl, rfl, fun _ => rfl⟩

theorem SameAt.trans (first : SameAt runId before middle)
    (second : SameAt runId middle after) : SameAt runId before after where
  redis := second.redis.trans first.redis
  backups := second.backups.trans first.backups
  waiting at_ := (second.waiting at_).trans (first.waiting at_)

theorem sameAt_of_update (redis : after.redis = before.redis) (backups : after.backups = before.backups)
    (instances : after.instances = Function.update before.instances instanceId changed)
    (same : changed.waiting.get? runId = (before.instances instanceId).waiting.get? runId) :
    SameAt runId before after where
  redis := by rw [redis]
  backups := by rw [backups]
  waiting name := by
    rw [instances]
    by_cases here : name = instanceId
    · subst here
      rw [Function.update_self, same]
    · rw [Function.update_of_ne here]

theorem enqueueResume_sameAt : SameAt other cluster (cluster.enqueueResume instanceId item runId cause) :=
  sameAt_of_update rfl rfl rfl rfl

theorem forget_sameAt (different : runId ≠ other) : SameAt other cluster (cluster.forget instanceId runId) :=
  sameAt_of_update rfl rfl rfl (by rw [Dict.get?_erase, if_neg different])

theorem unregisterRedisWait_sameAt (different : runId ≠ other) :
    SameAt other cluster (cluster.unregisterRedisWait reach runId) := by
  simp only [unregisterRedisWait]
  split
  · exact ⟨by rw [Dict.get?_erase, if_neg different], rfl, fun _ => rfl⟩
  · exact .refl

theorem deleteWaitBackup_sameAt (different : runId ≠ other) :
    SameAt other cluster (cluster.deleteWaitBackup reach runId) := by
  simp only [deleteWaitBackup]
  split
  · exact ⟨rfl, by rw [Dict.get?_erase, if_neg different], fun _ => rfl⟩
  · exact .refl

theorem enqueueResume_wakes :
    (cluster.enqueueResume instanceId item runId cause).wakes = cluster.wakes ++ [⟨instanceId, runId, cause⟩] := rfl

theorem unregisterRedisWait_wakes : (cluster.unregisterRedisWait reach runId).wakes = cluster.wakes := by
  simp only [unregisterRedisWait]
  split <;> rfl

theorem deleteWaitBackup_wakes : (cluster.deleteWaitBackup reach runId).wakes = cluster.wakes := by
  simp only [deleteWaitBackup]
  split <;> rfl

variable {list : List (String × WaitEntry)}

theorem wakeLocal_sameAt (different : wait.1 ≠ other) :
    SameAt other cluster (wakeLocal instanceId reach cause cluster wait) :=
  (((forget_sameAt different).trans (unregisterRedisWait_sameAt different)).trans enqueueResume_sameAt).trans
    (deleteWaitBackup_sameAt different)

theorem wakeLocal_wakes :
    (wakeLocal instanceId reach cause cluster wait).wakes = cluster.wakes ++ [⟨instanceId, wait.1, cause⟩] := by
  rw [wakeLocal, deleteWaitBackup_wakes, enqueueResume_wakes, unregisterRedisWait_wakes]
  rfl

structure Foreign (cluster : Cluster waits) (instanceId : String) (reach : Reach)
    (wants : WaitingFlowRun → Bool) (runId : String) (spec : ResumeSpec) : Prop where
  elsewhere : (cluster.instances instanceId).waiting.get? runId = none
  row : ∃ row, cluster.loadWaitEntry reach runId = some row ∧ wants row = true
  builds : spec.builds = true
  spec : (cluster.redis.get? runId).isSome = true

theorem SameAt.foreign_iff (same : SameAt runId before after) :
    after.Foreign instanceId reach wants runId spec ↔ before.Foreign instanceId reach wants runId spec := by
  have row : after.loadWaitEntry reach runId = before.loadWaitEntry reach runId := by
    simp [loadWaitEntry, same.backups]
  constructor
  · intro foreign
    exact ⟨same.waiting instanceId ▸ foreign.elsewhere, row ▸ foreign.row, foreign.builds, same.redis ▸ foreign.spec⟩
  · intro foreign
    exact ⟨(same.waiting instanceId).symm ▸ foreign.elsewhere, row.symm ▸ foreign.row, foreign.builds,
      same.redis.symm ▸ foreign.spec⟩

/-- The loops over the waits: the turn of a run changes nothing for the others,
so what each turn does can be read off the state before the loop. -/
theorem mem_foldl_wakes {Found : Type} (one : Cluster waits → String × Found → Cluster waits)
    (Selected : Cluster waits → String × Found → Prop)
    (frame : ∀ {cluster found runId}, found.1 ≠ runId → SameAt runId cluster (one cluster found))
    (selected : ∀ {before after found}, SameAt found.1 before after → (Selected after found ↔ Selected before found))
    (woken : ∀ {cluster found wake}, wake ∈ (one cluster found).wakes ↔
      wake ∈ cluster.wakes ∨ Selected cluster found ∧ wake = ⟨instanceId, found.1, cause⟩)
    {list : List (String × Found)} (distinct : (list.map Prod.fst).Nodup) :
    wake ∈ (list.foldl one cluster).wakes ↔
      wake ∈ cluster.wakes ∨ ∃ found ∈ list, Selected cluster found ∧ wake = ⟨instanceId, found.1, cause⟩ := by
  induction list generalizing cluster with
  | nil => simp
  | cons first rest ih =>
    simp only [map_cons, nodup_cons] at distinct
    have unchanged {found : String × Found} (member : found ∈ rest) :
        Selected (one cluster first) found ↔ Selected cluster found := by
      refine selected (frame ?_)
      intro same
      exact distinct.1 (same ▸ mem_map_of_mem member)
    rw [foldl_cons, ih distinct.2, woken, or_assoc]
    refine or_congr_right ?_
    rw [exists_mem_cons_iff]
    refine or_congr_right ?_
    constructor
    · rintro ⟨found, member, chosen, same⟩
      exact ⟨found, member, (unchanged member).mp chosen, same⟩
    · rintro ⟨found, member, chosen, same⟩
      exact ⟨found, member, (unchanged member).mpr chosen, same⟩

theorem foldl_sameAt {Found : Type} {one : Cluster waits → String × Found → Cluster waits}
    (frame : ∀ {cluster found runId}, found.1 ≠ runId → SameAt runId cluster (one cluster found))
    {list : List (String × Found)} (absent : runId ∉ list.map Prod.fst) :
    SameAt runId cluster (list.foldl one cluster) := by
  induction list generalizing cluster with
  | nil => exact .refl
  | cons first rest ih =>
    rw [map_cons, mem_cons, not_or] at absent
    exact (frame (Ne.symm absent.1)).trans (ih absent.2)

theorem crossResumeSpec_sameAt (different : found.1 ≠ other) :
    SameAt other cluster (crossResumeSpec instanceId reach notification skipRunIds cluster found) := by
  simp only [crossResumeSpec]
  split
  · exact .refl
  · split
    · exact .refl
    · split
      · exact (unregisterRedisWait_sameAt different).trans enqueueResume_sameAt
      · exact .refl

theorem crossTickSpec_sameAt (different : found.1 ≠ other) :
    SameAt other cluster (crossTickSpec instanceId reach now cluster found) := by
  simp only [crossTickSpec]
  split
  · exact .refl
  · split
    · exact .refl
    · split
      · split
        · exact ((unregisterRedisWait_sameAt different).trans enqueueResume_sameAt).trans
            (deleteWaitBackup_sameAt different)
        · exact unregisterRedisWait_sameAt different
      · exact .refl

theorem contains_eq_false {Value : Type} {dict : Dict String Value} :
    ¬ dict.contains key = true ↔ dict.get? key = none := by
  simp [Dict.contains]

namespace Foreign

variable {spec : ResumeSpec}

section

variable (foreign : cluster.Foreign instanceId reach wants runId spec)
include foreign

theorem not_here : ¬(cluster.instances instanceId).waiting.contains runId = true :=
  contains_eq_false.mpr foreign.elsewhere

theorem loads : cluster.loadWaitEntry reach runId ≠ none := by
  obtain ⟨_, loaded, -⟩ := foreign.row
  simp [loaded]

theorem wanted {row : WaitingFlowRun}
    (loaded : cluster.loadWaitEntry reach runId = some row) : wants row = true := by
  obtain ⟨_, again, wanted⟩ := foreign.row
  rw [loaded] at again
  cases again
  exact wanted

end

end Foreign

/-- A step of the loop that wakes nobody agrees with a condition that fails. -/
theorem mem_wakes_of_not {Woken : Prop} {other : Wake} (idle : ¬Woken) :
    wake ∈ cluster.wakes ↔ wake ∈ cluster.wakes ∨ Woken ∧ wake = other :=
  (or_iff_left fun held => idle held.1).symm

theorem mem_crossResumeSpec_wakes :
    wake ∈ (crossResumeSpec instanceId reach notification skipRunIds cluster found).wakes ↔
      wake ∈ cluster.wakes ∨
        (found.1 ∉ skipRunIds ∧ cluster.Foreign instanceId reach (notification.wakesRow found.1) found.1 found.2) ∧
        wake = ⟨instanceId, found.1, .notified notification⟩ := by
  simp only [crossResumeSpec]
  split
  case isTrue passed =>
    refine mem_wakes_of_not fun held => ?_
    rcases passed with skipped | here
    · exact held.1 skipped
    · exact held.2.not_here here
  case isFalse considered =>
    obtain ⟨unskipped, elsewhere⟩ := not_or.mp considered
    split
    case h_1 missing => exact mem_wakes_of_not fun held => held.2.loads missing
    case h_2 row loaded =>
      split
      case isTrue chosen =>
        simp only [Bool.and_eq_true] at chosen
        have foreign : cluster.Foreign instanceId reach (notification.wakesRow found.1) found.1 found.2 :=
          ⟨contains_eq_false.mp elsewhere, ⟨row, loaded, chosen.1.1⟩, chosen.1.2, chosen.2⟩
        rw [enqueueResume_wakes, unregisterRedisWait_wakes, mem_append, mem_singleton]
        simp [unskipped, foreign]
      case isFalse refused =>
        refine mem_wakes_of_not fun held => refused ?_
        simp [held.2.wanted loaded, held.2.builds, Dict.contains, held.2.spec]

theorem mem_crossTickSpec_wakes :
    wake ∈ (crossTickSpec instanceId reach now cluster found).wakes ↔
      wake ∈ cluster.wakes ∨
        cluster.Foreign instanceId reach (·.due now) found.1 found.2 ∧ wake = ⟨instanceId, found.1, .ticked now⟩ := by
  simp only [crossTickSpec]
  split
  case isTrue here => exact mem_wakes_of_not fun foreign => foreign.not_here here
  case isFalse elsewhere =>
    split
    case h_1 missing => exact mem_wakes_of_not fun foreign => foreign.loads missing
    case h_2 row loaded =>
      split
      case isTrue chosen =>
        simp only [Bool.and_eq_true] at chosen
        split
        case isTrue builds =>
          have foreign : cluster.Foreign instanceId reach (·.due now) found.1 found.2 :=
            ⟨contains_eq_false.mp elsewhere, ⟨row, loaded, chosen.1⟩, builds, chosen.2⟩
          rw [deleteWaitBackup_wakes, enqueueResume_wakes, unregisterRedisWait_wakes, mem_append,
            mem_singleton]
          simp [foreign]
        case isFalse unbuilt =>
          rw [unregisterRedisWait_wakes]
          exact mem_wakes_of_not fun foreign => unbuilt foreign.builds
      case isFalse early =>
        refine mem_wakes_of_not fun foreign => early ?_
        simp [foreign.wanted loaded, Dict.contains, foreign.spec]

def CrossDue (cluster : Cluster waits) (instanceId : String) (reach : Reach) (now : Int) (runId : String) : Prop :=
  reach.redis = true ∧
    ∃ spec, cluster.redis.get? runId = some spec ∧ cluster.Foreign instanceId reach (·.due now) runId spec

def CrossMatched (cluster : Cluster waits) (instanceId : String) (reach : Reach) (notification : Notification)
    (runId : String) : Prop :=
  reach.redis = true ∧
    ∃ spec, cluster.redis.get? runId = some spec ∧
      cluster.Foreign instanceId reach (notification.wakesRow runId) runId spec

theorem mem_crossInstanceTick_wakes :
    wake ∈ (cluster.crossInstanceTick instanceId reach now).wakes ↔
      wake ∈ cluster.wakes ∨
        ∃ runId, cluster.CrossDue instanceId reach now runId ∧ wake = ⟨instanceId, runId, .ticked now⟩ := by
  simp only [crossInstanceTick]
  split
  case isTrue reached =>
    rw [mem_foldl_wakes (crossTickSpec instanceId reach now)
      (fun cluster found => cluster.Foreign instanceId reach (·.due now) found.1 found.2)
      crossTickSpec_sameAt SameAt.foreign_iff mem_crossTickSpec_wakes cluster.redis.distinct]
    refine or_congr_right ?_
    constructor
    · rintro ⟨⟨runId, spec⟩, member, foreign, same⟩
      exact ⟨runId, ⟨reached, spec, Dict.get?_eq_some.mpr member, foreign⟩, same⟩
    · rintro ⟨runId, ⟨-, spec, found, foreign⟩, same⟩
      exact ⟨(runId, spec), Dict.get?_eq_some.mp found, foreign, same⟩
  case isFalse unreached =>
    refine (or_iff_left ?_).symm
    rintro ⟨runId, ⟨reached, -⟩, -⟩
    exact unreached reached

theorem mem_crossInstanceResume_wakes :
    wake ∈ (cluster.crossInstanceResume instanceId reach notification skipRunIds).wakes ↔
      wake ∈ cluster.wakes ∨
        ∃ runId, runId ∉ skipRunIds ∧ cluster.CrossMatched instanceId reach notification runId ∧
          wake = ⟨instanceId, runId, .notified notification⟩ := by
  simp only [crossInstanceResume]
  split
  case isTrue reached =>
    rw [mem_foldl_wakes (crossResumeSpec instanceId reach notification skipRunIds)
      (fun cluster found => found.1 ∉ skipRunIds ∧
        cluster.Foreign instanceId reach (notification.wakesRow found.1) found.1 found.2)
      crossResumeSpec_sameAt (fun same => and_congr_right fun _ => same.foreign_iff)
      mem_crossResumeSpec_wakes cluster.redis.distinct]
    refine or_congr_right ?_
    constructor
    · rintro ⟨⟨runId, spec⟩, member, ⟨unskipped, foreign⟩, same⟩
      exact ⟨runId, unskipped, ⟨reached, spec, Dict.get?_eq_some.mpr member, foreign⟩, same⟩
    · rintro ⟨runId, unskipped, ⟨-, spec, found, foreign⟩, same⟩
      exact ⟨(runId, spec), Dict.get?_eq_some.mp found, ⟨unskipped, foreign⟩, same⟩
  case isFalse unreached =>
    refine (or_iff_left ?_).symm
    rintro ⟨runId, -, ⟨reached, -⟩, -⟩
    exact unreached reached

theorem wakeAll_wakes :
    (list.foldl (wakeLocal instanceId reach cause) cluster).wakes
      = cluster.wakes ++ list.map fun wait => ⟨instanceId, wait.1, cause⟩ := by
  induction list generalizing cluster with
  | nil => simp
  | cons wait rest ih => rw [foldl_cons, ih, wakeLocal_wakes, map_cons, append_assoc, singleton_append]

theorem mem_wakeAll_wakes :
    wake ∈ (list.foldl (wakeLocal instanceId reach cause) cluster).wakes ↔
      wake ∈ cluster.wakes ∨ ∃ wait ∈ list, wake = ⟨instanceId, wait.1, cause⟩ := by
  simp [wakeAll_wakes, eq_comm]

theorem wakeAll_sameAt (absent : runId ∉ list.map Prod.fst) :
    SameAt runId cluster (list.foldl (wakeLocal instanceId reach cause) cluster) :=
  foldl_sameAt wakeLocal_sameAt absent

theorem held_eq (member : wait ∈ (cluster.instances instanceId).waiting.entries) : wait.2 = waits wait.1 :=
  cluster.registered (Dict.get?_eq_some.mpr member)

theorem SameAt.crossDue_iff (same : SameAt runId before after) :
    after.CrossDue instanceId reach now runId ↔ before.CrossDue instanceId reach now runId := by
  simp [CrossDue, same.redis, same.foreign_iff]

theorem SameAt.crossMatched_iff (same : SameAt runId before after) :
    after.CrossMatched instanceId reach notification runId
      ↔ before.CrossMatched instanceId reach notification runId := by
  simp [CrossMatched, same.redis, same.foreign_iff]

/-- The wait of a run with an event wait is no time wait of any instance. -/
theorem not_mem_toFire (awaits : (waits runId).awaitsEvent = true) :
    runId ∉ (cluster.toFire instanceId now).map Prod.fst := by
  intro member
  obtain ⟨_, fired, rfl⟩ := mem_map.mp member
  obtain ⟨held, due⟩ := mem_filter.mp fired
  rw [← held_eq held] at awaits
  simp only [WaitEntry.due, Bool.and_eq_true, decide_eq_true_eq] at due
  simp [WaitEntry.awaitsEvent, due.1] at awaits

theorem not_mem_toResume (elsewhere : (cluster.instances instanceId).waiting.get? runId = none) :
    runId ∉ (cluster.toResume instanceId notification).map Prod.fst := by
  intro member
  obtain ⟨_, woken, rfl⟩ := mem_map.mp member
  obtain ⟨held, -⟩ := mem_filter.mp woken
  rw [Dict.get?_eq_some.mpr held] at elsewhere
  cases elsewhere

end Cluster

open Cluster

theorem toResume_lawful (member : wait ∈ cluster.toResume instanceId notification) :
    Wake.Lawful waits ⟨instanceId, wait.1, .notified notification⟩ := by
  obtain ⟨held, woken⟩ := mem_filter.mp member
  rw [held_eq held] at woken
  simp only [Notification.wakes, Bool.and_eq_true] at woken
  obtain ⟨⟨⟨inScope, -⟩, named⟩, admitted⟩ := woken
  intro awaits
  refine ⟨notification, rfl, ?_, inScope, admitted⟩
  simp only [WaitEntry.eventName]
  cases name : given (waits wait.1).waitCondition.eventName with
  | none =>
    rw [name] at named
    exact (of_decide_eq_true named).symm
  | some =>
    simp only [name, Bool.and_eq_true, decide_eq_true_eq] at named
    exact named.2.symm

theorem ticked_lawful_iff :
    Wake.Lawful waits ⟨instanceId, runId, .ticked now⟩ ↔ (waits runId).awaitsEvent = false := by
  simp [Wake.Lawful]

theorem toFire_lawful (member : wait ∈ cluster.toFire instanceId now) :
    Wake.Lawful waits ⟨instanceId, wait.1, .ticked now⟩ := by
  rw [ticked_lawful_iff, Bool.eq_false_iff]
  intro awaits
  exact not_mem_toFire awaits (mem_map_of_mem member)

theorem crossMatched_row (matched : cluster.CrossMatched instanceId reach notification runId) :
    ∃ waitDeadline, notification.wakesRow runId ((waits runId).waitingFlowRun waitDeadline) = true := by
  obtain ⟨-, _, -, foreign⟩ := matched
  obtain ⟨row, loaded, wanted⟩ := foreign.row
  have stored : cluster.backups.get? runId = some row := by
    simp only [loadWaitEntry] at loaded
    split at loaded
    · exact loaded
    · cases loaded
  obtain ⟨waitDeadline, rfl⟩ := cluster.backedUp stored
  exact ⟨waitDeadline, wanted⟩

/-- A row stands for its wait, except where the wait has no name. -/
theorem crossMatched_lawful_iff (matched : cluster.CrossMatched instanceId reach notification runId) :
    Wake.Lawful waits ⟨instanceId, runId, .notified notification⟩
      ↔ ((waits runId).awaitsEvent = true → (waits runId).eventName ≠ "") := by
  obtain ⟨_, wanted⟩ := crossMatched_row matched
  simp only [Notification.wakesRow, Bool.and_eq_true, decide_eq_true_eq] at wanted
  obtain ⟨⟨inScope, event⟩, admitted⟩ := wanted
  have named : (given (some (waits runId).eventName)).getD timeWait = notification.eventType := event
  refine imp_congr_right fun awaits => ?_
  constructor
  · rintro ⟨other, same, awaited, -⟩ nameless
    cases same
    rw [awaited, nameless] at named
    exact absurd named (by decide)
  · intro name
    refine ⟨notification, rfl, ?_, inScope, admitted⟩
    rw [← named, given, Option.filter_some, if_pos (decide_eq_true name), Option.getD_some]

def AllLawful (cluster : Cluster waits) : Prop := ∀ wake ∈ cluster.wakes, wake.Lawful waits

theorem crossInstanceTick_lawful_iff :
    AllLawful (cluster.crossInstanceTick instanceId reach now) ↔
      AllLawful cluster ∧ ∀ runId, cluster.CrossDue instanceId reach now runId → (waits runId).awaitsEvent = false := by
  simp only [AllLawful, mem_crossInstanceTick_wakes]
  constructor
  · intro lawful
    refine ⟨fun wake member => lawful wake (.inl member), fun runId due => ?_⟩
    exact ticked_lawful_iff.mp (lawful _ (.inr ⟨runId, due, rfl⟩))
  · rintro ⟨lawful, quiet⟩ wake (member | ⟨runId, due, rfl⟩)
    · exact lawful wake member
    · exact ticked_lawful_iff.mpr (quiet runId due)

theorem tickTimeWaits_lawful_iff :
    AllLawful (cluster.tickTimeWaits instanceId reach now) ↔
      AllLawful cluster ∧ ∀ runId, cluster.CrossDue instanceId reach now runId → (waits runId).awaitsEvent = false := by
  rw [tickTimeWaits, crossInstanceTick_lawful_iff]
  refine and_congr ?_ (forall_congr' fun runId => ?_)
  · constructor
    · intro lawful wake member
      exact lawful wake (mem_wakeAll_wakes.mpr (.inl member))
    · intro lawful wake member
      rcases mem_wakeAll_wakes.mp member with member | ⟨wait, fired, rfl⟩
      · exact lawful wake member
      · exact toFire_lawful fired
  · cases awaits : (waits runId).awaitsEvent with
    | false => simp
    | true => rw [(wakeAll_sameAt (not_mem_toFire awaits)).crossDue_iff]

theorem deliver_lawful_iff :
    AllLawful (cluster.deliver instanceId reach notification) ↔
      AllLawful cluster ∧ ∀ runId, cluster.CrossMatched instanceId reach notification runId →
        (waits runId).awaitsEvent = true → (waits runId).eventName ≠ "" := by
  simp only [AllLawful, deliver, mem_crossInstanceResume_wakes, mem_wakeAll_wakes]
  constructor
  · intro lawful
    refine ⟨fun wake member => lawful wake (.inl (.inl member)), fun runId matched => ?_⟩
    obtain ⟨-, _, -, foreign⟩ := id matched
    have absent : runId ∉ (cluster.toResume instanceId notification).map Prod.fst :=
      not_mem_toResume foreign.elsewhere
    apply (crossMatched_lawful_iff matched).mp
    exact lawful _ (.inr ⟨runId, absent, (wakeAll_sameAt absent).crossMatched_iff.mpr matched, rfl⟩)
  · rintro ⟨lawful, named⟩ wake ((member | ⟨wait, woken, rfl⟩) | ⟨runId, absent, matched, rfl⟩)
    · exact lawful wake member
    · exact toResume_lawful woken
    · have before := (wakeAll_sameAt absent).crossMatched_iff.mp matched
      exact (crossMatched_lawful_iff before).mpr (named runId before)

/-- A condition on a call and on the state before it.  A tick finds no due row
of an event wait that the instance does not hold; a notification finds no row
of an event wait without a name. -/
def Quiet (cluster : Cluster waits) : WaitAction → Prop
  | .tick instanceId reach now | .crossTick instanceId reach now =>
    ∀ runId, cluster.CrossDue instanceId reach now runId → (waits runId).awaitsEvent = false
  | .notify instanceId reach notification =>
    (cluster.instances instanceId).rehydrationComplete = true →
      ∀ runId, cluster.CrossMatched instanceId reach notification runId →
        (waits runId).awaitsEvent = true → (waits runId).eventName ≠ ""
  | .replay instanceId reach =>
    (cluster.instances instanceId).rehydrationComplete = true →
      ∀ notification ∈ (cluster.instances instanceId).replaying.head?,
        ∀ runId, cluster.CrossMatched instanceId reach notification runId →
          (waits runId).awaitsEvent = true → (waits runId).eventName ≠ ""
  | .register .. | .rehydrated _ => True

theorem notifyEvent_lawful_iff :
    AllLawful (cluster.notifyEvent instanceId reach notification) ↔
      AllLawful cluster ∧ Quiet cluster (.notify instanceId reach notification) := by
  simp only [notifyEvent, Quiet]
  split
  case isTrue complete => simp [deliver_lawful_iff, complete]
  case isFalse incomplete =>
    have kept : (cluster.bufferEvent instanceId notification).wakes = cluster.wakes := by
      simp only [bufferEvent]
      split <;> rfl
    rw [AllLawful, kept]
    exact (and_iff_left fun complete => absurd complete incomplete).symm

theorem replay_lawful_iff (pending : (cluster.instances instanceId).replaying = notification :: rest) :
    AllLawful (cluster.replay instanceId reach notification rest) ↔
      AllLawful cluster ∧ Quiet cluster (.replay instanceId reach) := by
  have same {runId : String} : SameAt runId cluster (cluster.withInstance instanceId
      { cluster.instances instanceId with replaying := rest } cluster.registered) :=
    sameAt_of_update rfl rfl rfl rfl
  rw [replay, notifyEvent_lawful_iff]
  simp only [Quiet, pending, head?_cons, Option.mem_some_iff, forall_eq', same.crossMatched_iff]
  simp [AllLawful, withInstance]

theorem registerWait_wakes : (cluster.registerWait instanceId reach runId flowRun).wakes = cluster.wakes := by
  have kept {cluster : Cluster waits} : (cluster.persistWaitBackup reach runId flowRun).wakes = cluster.wakes := by
    simp only [persistWaitBackup]
    split
    · split <;> rfl
    · rfl
  simp only [registerWait, kept]
  split <;> rfl

theorem step_lawful_iff (stepped : (waitLife waits).step before action = some after) :
    AllLawful after ↔ AllLawful before ∧ Quiet before action := by
  cases action with
  | register =>
    cases stepped
    simp [AllLawful, registerWait_wakes, Quiet]
  | notify =>
    cases stepped
    exact notifyEvent_lawful_iff
  | tick =>
    cases stepped
    exact tickTimeWaits_lawful_iff
  | crossTick =>
    cases stepped
    exact crossInstanceTick_lawful_iff
  | rehydrated =>
    cases stepped
    exact (and_iff_left trivial).symm
  | replay =>
    simp only [waitLife] at stepped
    split at stepped <;> cases stepped
    case h_2 pending => exact replay_lawful_iff pending

/-- From any registered waits and specs: the runs in which an event wait is
woken by its event only are those in which every call is `Quiet`. -/
theorem event_waits_woken_by_event_iff (waits : String → WaitEntry) {start last : Cluster waits}
    {actions : List WaitAction} (unwoken : start.wakes = [])
    (ran : (waitLife waits).run start actions = some last) :
    (∀ wake ∈ last.wakes, wake.Lawful waits) ↔ (waitLife waits).Meets Quiet start actions := by
  have lawful : AllLawful start := by
    intro wake member
    rw [unwoken] at member
    cases member
  rw [← and_iff_right lawful (b := (waitLife waits).Meets Quiet start actions)]
  exact StepSystem.invariant_iff step_lawful_iff ran

def approvalWait : WaitEntry where
  waitFor := "approval.granted"
  tenantId := "tenant"
  euId := "unit"
  priority := .normal
  correlationId := none
  euType := "flow"
  waitCondition := .forEvent "approval.granted"

def idleScheduler : SchedulerEngine := .fresh

def idleWith (waits : String → WaitEntry) : Cluster waits where
  instances := fun _ => ⟨idleScheduler, .empty, true, [], []⟩
  redis := .empty
  backups := .empty
  wakes := []
  registered := by simp
  backedUp := by simp

/-- The flow parks on instance `a` with a deadline of 5, and instance `b` ticks at 10. -/
theorem tick_wakes_event_wait :
    ∃ last, (waitLife fun _ => approvalWait).run (idleWith _)
        [.register "a" ⟨true, true⟩ "flow" (some (some 5)), .tick "b" ⟨true, true⟩ 10] = some last ∧
      ∃ wake ∈ last.wakes, ¬ wake.Lawful fun _ => approvalWait := by
  refine ⟨_, rfl, ⟨"b", "flow", .ticked 10⟩, mem_singleton.mpr rfl, ?_⟩
  rw [ticked_lawful_iff]
  decide

def approvedElsewhere : List WaitAction :=
  [.register "a" ⟨true, true⟩ "flow" (some (some 5)), .notify "b" ⟨true, true⟩ ⟨"approval.granted", none, none⟩]

theorem event_wait_woken_by_event_elsewhere :
    ∃ last, (waitLife fun _ => approvalWait).run (idleWith _) approvedElsewhere = some last ∧
      ⟨"b", "flow", .notified ⟨"approval.granted", none, none⟩⟩ ∈ last.wakes ∧
      ∀ wake ∈ last.wakes, wake.Lawful fun _ => approvalWait := by
  have quiet : (waitLife fun _ => approvalWait).Meets Quiet (idleWith _) approvedElsewhere := by
    refine .cons trivial rfl (.cons ?_ rfl trivial)
    intro _ runId _ _
    exact (by decide : approvalWait.eventName ≠ "")
  obtain ⟨last, ran, woken⟩ : ∃ last, (waitLife fun _ => approvalWait).run (idleWith _) approvedElsewhere = some last ∧
      ⟨"b", "flow", .notified ⟨"approval.granted", none, none⟩⟩ ∈ last.wakes :=
    ⟨_, rfl, mem_singleton.mpr rfl⟩
  exact ⟨last, ran, woken, (event_waits_woken_by_event_iff _ rfl ran).mpr quiet⟩

end AindyRuntime.Scheduler
