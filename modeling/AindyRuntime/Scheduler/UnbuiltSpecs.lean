import AindyRuntime.Scheduler.WakeFailures

/-! # Specs without a callback

The loops of `cross_instance.py` at a spec whose callback can not be built on this instance.
-/

namespace AindyRuntime.Scheduler.WakeFailures

open Program Engine

variable (setting : Setting) (reach : Reach) (timeoutAt : String → Option Int)

/-- One spec of the loop in `_cross_instance_tick`, and whether it is fired; `timeoutAt` is that
column of the rows.  The spec is claimed before its callback is built. -/
def crossTickSpec (now : Int) (found : String × ResumeSpec) : WakeM Bool := do
  let engine ← Program.read
  if engine.waiting.contains found.1 then pure false
  else
    match if reach.database then engine.backups.get? found.1 else none with
    | none => pure false
    | some row =>
      if (timeoutAt found.1).any (· ≤ now) ∧ engine.redis.contains found.1 then do
        Program.modify (unregisterRedisWait reach [found.1])
        if found.2.builds then do
          enqueueResume setting
            ⟨found.1, (given row.euId).getD found.1, (given (some found.2.tenantId)).getD "system",
              (given found.2.euType).getD "flow", row.priority⟩
          Program.modify (deleteWaitBackup reach found.1)
          pure true
        else pure false
      else pure false

def crossTickAll (now : Int) : List (String × ResumeSpec) → WakeM Nat
  | [] => pure 0
  | found :: rest => do
    let fired ← crossTickSpec setting reach timeoutAt now found
    let more ← crossTickAll now rest
    pure (more + fired.toNat)

def crossInstanceTick (now : Int) : WakeM Nat := do
  let engine ← Program.read
  if reach.redis then attempt (crossTickAll setting reach timeoutAt now engine.redis.entries) fun _ => pure 0
  else pure 0

/-- The spec and the backup row of the run are what they were, and so is the table. -/
def Kept (runId : String) (before after : Engine) : Prop :=
  after.redis.get? runId = before.redis.get? runId ∧ after.backups.get? runId = before.backups.get? runId ∧
    after.waiting = before.waiting

/-- The tick claims the spec of the run. -/
def Due (now : Int) (runId : String) (engine : Engine) : Prop :=
  reach.redis = true ∧ reach.database = true ∧ engine.waiting.contains runId = false ∧
    (engine.backups.get? runId).isSome = true ∧ (timeoutAt runId).any (· ≤ now) = true

variable {setting : Setting} {reach : Reach} {notification : Notification} {engine : Engine}
variable {runId : String} {skipRunIds : List String} {timeoutAt : String → Option Int}
variable {found : String × ResumeSpec}

theorem Kept.refl : Kept runId engine engine := ⟨rfl, rfl, rfl⟩

theorem Kept.trans (first : Kept runId engine middle) (second : Kept runId middle after) : Kept runId engine after :=
  ⟨second.1.trans first.1, second.2.1.trans first.2.1, second.2.2.trans first.2.2⟩

theorem Kept.due_iff (kept : Kept runId engine after) :
    Due reach timeoutAt now runId after ↔ Due reach timeoutAt now runId engine := by
  simp only [Due, kept.2.1, kept.2.2]

theorem unregisterRedisWait_kept (different : found.1 ≠ runId) :
    Kept runId engine (unregisterRedisWait reach [found.1] engine) := by
  simp only [unregisterRedisWait]
  split
  · exact ⟨by rw [Dict.get?_eraseAll, if_neg (by simp [different.symm])], rfl, rfl⟩
  · exact .refl

theorem deleteWaitBackup_kept (different : found.1 ≠ runId) :
    Kept runId engine (deleteWaitBackup reach found.1 engine) := by
  simp only [deleteWaitBackup]
  split
  · exact ⟨rfl, by rw [Dict.get?_erase, if_neg different], rfl⟩
  · exact .refl

theorem enqueueResume_kept :
    (enqueueResume setting resume).Yields engine (fun _ => Kept runId engine) (fun _ => Kept runId engine) := by
  simp only [enqueueResume, yields_bind, yields_call, yields_ite]
  refine ⟨fun item _ => ⟨fun _ => ?_, fun _ => .refl⟩, fun _ _ => .refl⟩
  simp only [dispatchItemNow]
  cases setting.dispatch item with
  | returned | refused | raised => exact .refl

/-- The turn of a spec that does not build changes nothing. -/
theorem crossResumeSpec_kept (unbuilt : found.1 = runId → found.2.builds = false) :
    (crossResumeSpec setting reach notification skipRunIds found).Yields engine
      (fun _ => Kept runId engine) (fun _ => Kept runId engine) := by
  simp only [crossResumeSpec, yields_bind, yields_ite, yields_pure]
  refine ⟨fun _ => .refl, fun _ => ?_⟩
  split
  · exact .refl
  simp only [yields_ite, yields_bind, yields_pure]
  refine ⟨fun chosen => ?_, fun _ => .refl⟩
  have different : found.1 ≠ runId := fun same => by simp [unbuilt same] at chosen
  have claimed := @unregisterRedisWait_kept reach engine _ _ different
  exact enqueueResume_kept.mono (fun _ _ => claimed.trans) fun _ _ => claimed.trans

theorem crossTickSpec_kept (reached : reach.redis = true)
    (idle : found.1 = runId → ¬Due reach timeoutAt now runId engine) :
    (crossTickSpec setting reach timeoutAt now found).Yields engine
      (fun _ => Kept runId engine) (fun _ => Kept runId engine) := by
  simp only [crossTickSpec, yields_bind, yields_ite, yields_pure]
  refine ⟨fun _ => .refl, fun absent => ?_⟩
  split
  · exact .refl
  case h_2 row present =>
    simp only [yields_ite, yields_bind, yields_pure]
    refine ⟨fun chosen => ?_, fun _ => .refl⟩
    have different : found.1 ≠ runId := by
      rintro rfl
      obtain ⟨reads, row⟩ := Option.ite_none_right_eq_some.mp present
      exact idle rfl ⟨reached, reads, by simpa using absent, by rw [row]; rfl, chosen.1⟩
    have claimed := @unregisterRedisWait_kept reach engine _ _ different
    refine ⟨fun _ => ?_, fun _ => claimed⟩
    exact enqueueResume_kept.mono (fun _ _ kept => (claimed.trans kept).trans (deleteWaitBackup_kept different))
      fun _ _ => claimed.trans

theorem crossResumeAll_kept (unbuilt : ∀ found ∈ specs, found.1 = runId → found.2.builds = false) :
    (crossResumeAll setting reach notification skipRunIds specs).Yields engine
      (fun _ => Kept runId engine) (fun _ => Kept runId engine) := by
  induction specs generalizing engine with
  | nil => exact .refl
  | cons found rest ih =>
    rw [List.forall_mem_cons] at unbuilt
    simp only [crossResumeAll, yields_bind]
    refine (crossResumeSpec_kept unbuilt.1).mono (fun _ middle first => ?_) fun _ _ ended => ended
    exact (ih unbuilt.2).mono (fun _ _ => first.trans) fun _ _ => first.trans

theorem crossTickAll_kept (reached : reach.redis = true)
    (idle : ∀ found ∈ specs, found.1 = runId → ¬Due reach timeoutAt now runId engine) :
    (crossTickAll setting reach timeoutAt now specs).Yields engine
      (fun _ => Kept runId engine) (fun _ => Kept runId engine) := by
  induction specs generalizing engine with
  | nil => exact .refl
  | cons found rest ih =>
      rw [List.forall_mem_cons] at idle
      simp only [crossTickAll, yields_bind]
      refine (crossTickSpec_kept reached idle.1).mono (fun _ middle first => ?_) fun _ _ ended => ended
      refine (ih fun other member same => ?_).mono (fun _ _ => first.trans) fun _ _ => first.trans
      rw [first.due_iff]
      exact idle.2 other member same

/-- A loop that comes to its end has claimed the spec. -/
theorem crossTickAll_claims (distinct : (specs.map Prod.fst).Nodup) (member : (runId, spec) ∈ specs)
    (unbuilt : spec.builds = false) (registered : engine.redis.get? runId = some spec)
    (due : Due reach timeoutAt now runId engine) :
    (crossTickAll setting reach timeoutAt now specs).Returns engine fun _ after => after.redis.get? runId = none := by
  induction specs generalizing engine with
  | nil => cases member
  | cons found rest ih =>
      obtain ⟨fresh, distinct⟩ := List.nodup_cons.mp distinct
      simp only [crossTickAll, yields_bind]
      rcases List.mem_cons.mp member with rfl | member
      · obtain ⟨redis, database, absent, present, late⟩ := due
        obtain ⟨row, present⟩ := Option.isSome_iff_exists.mp present
        have turn : (crossTickSpec setting reach timeoutAt now (runId, spec)).Returns engine
            fun _ after => after.redis.get? runId = none := by
          have held : engine.redis.contains runId = true := by rw [Dict.contains, registered]; rfl
          simp [crossTickSpec, absent, database, present, late, unbuilt, held, unregisterRedisWait, redis,
            Dict.get?_eraseAll]
        refine turn.mono (fun _ middle claimed => ?_) fun _ _ _ => trivial
        refine (crossTickAll_kept redis fun found among same => ?_).mono (fun _ _ kept => kept.1.trans claimed)
          fun _ _ _ => trivial
        exact absurd (List.mem_map_of_mem (f := Prod.fst) among) (same ▸ fresh)
      · have different : found.1 ≠ runId := fun same => fresh (same ▸ List.mem_map_of_mem member)
        refine (crossTickSpec_kept due.1 fun same => absurd same different).mono ?_ fun _ _ _ => trivial
        exact fun _ middle kept => ih distinct member (kept.1.trans registered) (kept.due_iff.mpr due)

/-- A spec that can not be built is still registered behind a notification, and behind a tick
that does not claim it; a tick for which it is due keeps it only if the loop ends in an exception. -/
theorem unbuilt_spec_kept {spec : ResumeSpec} (registered : engine.redis.get? runId = some spec)
    (unbuilt : spec.builds = false) :
    Kept runId engine ((crossInstanceResume setting reach notification skipRunIds).run engine).2 ∧
      (¬Due reach timeoutAt now runId engine →
        Kept runId engine ((crossInstanceTick setting reach timeoutAt now).run engine).2) ∧
      (Due reach timeoutAt now runId engine →
        Kept runId engine ((crossInstanceTick setting reach timeoutAt now).run engine).2 →
          ∃ error, ((crossTickAll setting reach timeoutAt now engine.redis.entries).run engine).1 = .error error) := by
  refine ⟨?_, fun idle => ?_, fun due kept => ?_⟩
  · apply Yields.left_state
    simp only [crossInstanceResume, yields_bind, yields_ite, yields_attempt, yields_pure]
    refine ⟨fun _ => crossResumeAll_kept fun found member same => ?_, fun _ => .refl⟩
    have own : engine.redis.get? found.1 = some found.2 := Dict.get?_eq_some.mpr member
    rw [same, registered, Option.some.injEq] at own
    exact own ▸ unbuilt
  · apply Yields.left_state
    simp only [crossInstanceTick, yields_bind, yields_ite, yields_attempt, yields_pure]
    exact ⟨fun reached => crossTickAll_kept reached fun _ _ _ => idle, fun _ => .refl⟩
  · have member : (runId, spec) ∈ engine.redis.entries := Dict.get?_eq_some.mp registered
    have claims := @crossTickAll_claims setting _ _ _ _ _ _ _ engine.redis.distinct member unbuilt registered due
    generalize ran : (crossTickAll setting reach timeoutAt now engine.redis.entries).run engine = ended at claims ⊢
    obtain ⟨error | fired, after⟩ := ended
    · exact ⟨error, rfl⟩
    · have same : ((crossInstanceTick setting reach timeoutAt now).run engine).2 = after := by
        simp [crossInstanceTick, due.1, ran]
      have gone := claims.returned ran
      rw [same, Kept, gone, registered] at kept
      cases kept.1

def pluginWait : Engine :=
  { ready with
    redis := Dict.empty.set "run" ⟨"plugin.resume", "eu", "tenant", "run", none⟩
    backups := Dict.empty.set "run" ⟨timeWait, none, none, "normal"⟩ }

theorem unbuilt_spec_kept_early :
    (((crossInstanceTick ⟨false, fun _ => .returned⟩ ⟨true, true⟩ (fun _ => some 9) 5).run pluginWait).2.redis.get?
      "run").isSome = true := by
  have kept := (@unbuilt_spec_kept ⟨false, fun _ => .returned⟩ ⟨true, true⟩ ⟨"event", none, none⟩ pluginWait "run" []
    (fun _ => some 9) 5 ⟨"plugin.resume", "eu", "tenant", "run", none⟩ rfl rfl).2.1
    fun due => absurd due.2.2.2.2 (by decide)
  rw [kept.1]
  rfl

/-- The tick claims the spec, can not build it, and leaves no spec to resume the run by. -/
theorem tick_unregisters_unbuilt_spec :
    let after := ((crossInstanceTick ⟨false, fun _ => .returned⟩ ⟨true, true⟩ (fun _ => some 3) 5).run pluginWait).2
    after.redis.get? "run" = none ∧ (after.backups.get? "run").isSome = true ∧ after.resumes "run" = 0 :=
  ⟨rfl, rfl, rfl⟩

end AindyRuntime.Scheduler.WakeFailures
