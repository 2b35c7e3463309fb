import AindyRuntime.Queue.RedisQueue

namespace AindyRuntime.DistributedQueue

variable {Client : Type} [DecidableEq Client] {setting : Setting}
variable {world next : World Client}

structure Numbered (inflight : Dict String InflightEntry) (deliveries : Nat) (requeued : List Requeue) : Prop where
  issued : ∀ jobId entry, inflight.get? jobId = some entry → entry.delivery < deliveries
  distinct : ∀ one other entry otherEntry, inflight.get? one = some entry → inflight.get? other = some otherEntry →
    entry.delivery = otherEntry.delivery → one = other
  gone : ∀ requeue ∈ requeued, requeue.removed.delivery < deliveries ∧
    ∀ jobId entry, inflight.get? jobId = some entry → entry.delivery ≠ requeue.removed.delivery
  once : (requeued.map fun requeue => requeue.removed.delivery).Nodup

variable {inflight : Dict String InflightEntry}

theorem get?_of_get?_erase
    (present : (inflight.erase jobId).get? other = some entry) : other ≠ jobId ∧ inflight.get? other = some entry := by
  rw [Dict.get?_erase] at present
  by_cases same : jobId = other
  · simp [same] at present
  · rw [if_neg same] at present
    exact ⟨Ne.symm same, present⟩

section

variable (numbered : Numbered inflight deliveries requeued)
include numbered

theorem Numbered.erase : Numbered (inflight.erase jobId) deliveries requeued where
  issued other entry present := numbered.issued other entry (get?_of_get?_erase present).2
  distinct one other entry otherEntry present otherPresent :=
    numbered.distinct one other entry otherEntry (get?_of_get?_erase present).2 (get?_of_get?_erase otherPresent).2
  gone requeue member :=
    (numbered.gone requeue member).imp_right fun absent other entry present =>
      absent other entry (get?_of_get?_erase present).2
  once := numbered.once

theorem Numbered.reclaim (present : inflight.get? jobId = some requeue.removed) :
    Numbered (inflight.erase jobId) deliveries (requeue :: requeued) where
  issued := numbered.erase.issued
  distinct := numbered.erase.distinct
  gone other member := by
    cases member with
    | head =>
      refine ⟨numbered.issued jobId requeue.removed present, fun holder entry held same => ?_⟩
      obtain ⟨different, before⟩ := get?_of_get?_erase held
      exact different (numbered.distinct holder jobId entry requeue.removed before present same)
    | tail _ member => exact numbered.erase.gone other member
  once := by
    rw [List.map_cons, List.nodup_cons, List.mem_map]
    refine ⟨fun earlier => ?_, numbered.once⟩
    obtain ⟨other, member, same⟩ := earlier
    exact (numbered.gone other member).2 jobId requeue.removed present same.symm

theorem Numbered.record
    (number : entry.delivery = deliveries) : Numbered (inflight.set jobId entry) (deliveries + 1) requeued := by
  have cases_ : ∀ other held, (inflight.set jobId entry).get? other = some held →
      other = jobId ∧ held = entry ∨ inflight.get? other = some held := by
    intro other held present
    rw [Dict.get?_set] at present
    by_cases same : jobId = other
    · simp only [same, if_true, Option.some.injEq] at present
      exact .inl ⟨same.symm, present.symm⟩
    · rw [if_neg same] at present
      exact .inr present
  refine ⟨fun other held present => ?_, fun one other held otherHeld present otherPresent same => ?_,
    fun requeue member => ⟨?_, fun other held present => ?_⟩, numbered.once⟩
  · obtain ⟨_, rfl⟩ | before := cases_ other held present
    · omega
    · have := numbered.issued other held before
      omega
  · obtain ⟨isOne, rfl⟩ | before := cases_ one held present
    · obtain ⟨isOther, _⟩ | otherBefore := cases_ other otherHeld otherPresent
      · rw [isOne, isOther]
      · have := numbered.issued other otherHeld otherBefore
        omega
    · obtain ⟨_, rfl⟩ | otherBefore := cases_ other otherHeld otherPresent
      · have := numbered.issued one held before
        omega
      · exact numbered.distinct one other held otherHeld before otherBefore same
  · have := (numbered.gone requeue member).1
    omega
  · obtain ⟨_, rfl⟩ | before := cases_ other held present
    · have := (numbered.gone requeue member).1
      omega
    · exact (numbered.gone requeue member).2 other held before

end

def Phase.now? : Phase → Option Int
  | .started _ now | .scanning _ now _ | .requeueing _ now _ _ _ => some now
  | _ => none

structure Counted (world : World Client) : Prop where
  numbered : Numbered world.redis.inflight world.deliveries world.requeued
  read : ∀ client now, (world.phase client).now? = some now → now ≤ world.clock

omit [DecidableEq Client] in
theorem Counted.fresh {clock : Int} : Counted (World.fresh clock : World Client) where
  numbered := ⟨fun _ _ present => (by cases present), fun _ _ _ _ present => (by cases present),
    fun _ member => (by cases member), List.nodup_nil⟩
  read _ _ reads := by cases reads

section

variable {client : Client} (counted : Counted world)
  (numbered : Numbered next.redis.inflight next.deliveries next.requeued) (clock : next.clock = world.clock)
  (phases : next.phase = Function.update world.phase client phase)
include counted numbered clock phases

theorem Counted.enter (read : ∀ now, phase.now? = some now → now ≤ world.clock) : Counted next := by
  refine ⟨numbered, fun other now reads => ?_⟩
  rw [phases] at reads
  rw [clock]
  by_cases same : other = client
  · subst same
    rw [Function.update_self] at reads
    exact read now reads
  · rw [Function.update_of_ne same] at reads
    exact counted.read other now reads

/-- A scan goes on with the reading of the clock that it began with. -/
theorem Counted.scan (reading : phase.now? = (world.phase client).now? ∨ phase.now? = none) : Counted next := by
  refine counted.enter numbered clock phases fun now reads => ?_
  cases reading with
  | inl same => exact counted.read client now (same ▸ reads)
  | inr none =>
    rw [none] at reads
    cases reads

end

theorem Counted.step (counted : Counted world) (stepped : (queue setting).step world action = some next) :
    Counted next := by
  cases queue_stepped stepped with
  | ticked later =>
    exact ⟨counted.numbered, fun client now reads => Int.le_trans (counted.read client now reads) later⟩
  | enqueued | enqueuedDelayed | dropped last unparsed => exact ⟨counted.numbered, counted.read⟩
  | saturated | saturatedDelayed | idled => exact counted
  | promoted =>
    refine ⟨?_, counted.read⟩
    simp only [(Redis.processDelayed_frame _ _).1]
    exact counted.numbered
  | popped | stamped | failed | buried | finished => exact counted.scan counted.numbered rfl rfl (.inr rfl)
  | recorded => exact counted.scan (counted.numbered.record rfl) rfl rfl (.inr rfl)
  | acked => exact ⟨counted.numbered.erase, counted.read⟩
  | removed => exact counted.scan counted.numbered.erase rfl rfl (.inr rfl)
  | started =>
    refine counted.enter counted.numbered rfl rfl fun now reads => ?_
    cases reads
    exact Int.le_refl _
  | listed started => exact counted.scan counted.numbered rfl rfl (.inl (by rw [started]; rfl))
  | skipped scanning => exact counted.scan counted.numbered rfl rfl (.inl (by rw [scanning]; rfl))
  | reclaimed scanning stale present =>
    exact counted.scan (counted.numbered.reclaim present) rfl rfl (.inl (by rw [scanning]; rfl))
  | requeued requeueing => exact counted.scan counted.numbered rfl rfl (.inl (by rw [requeueing]; rfl))

/-- A stale entry that a scan is about to delete is the one that it has listed, if there is one. -/
def undisturbed (inflight : Dict String InflightEntry) : Phase → Bool
  | .scanning timeoutSeconds now ((jobId, entry) :: _) =>
    now - entry.dequeuedAt ≤ timeoutSeconds || (inflight.get? jobId).all fun recorded => recorded = entry
  | _ => true

def Undisturbed (world : World Client) : Action Client → Prop
  | .reclaim client => undisturbed world.redis.inflight (world.phase client) = true
  | _ => True

instance (world : World Client) : ∀ action, Decidable (Undisturbed world action)
  | .reclaim _ => inferInstanceAs (Decidable (_ = true))
  | .tick _ | .enqueue _ | .enqueueDelayed _ _ | .processDelayed _ | .pop _ | .stamp _ | .record _ | .ack _
  | .fail _ _ _ | .remove _ | .bury _ | .scan _ _ | .snapshot _ | .requeue _ => isTrue trivial

structure Exact (world : World Client) : Prop where
  counted : Counted world
  exact : ∀ requeue ∈ world.requeued, requeue.removed = requeue.scanned ∧
    requeue.timeoutSeconds < requeue.time - requeue.removed.dequeuedAt

theorem requeued_step (stepped : (queue setting).step world action = some next) : next.requeued = world.requeued ∨
    ∃ client timeoutSeconds now jobId entry removed rest, action = .reclaim client ∧
      world.phase client = .scanning timeoutSeconds now ((jobId, entry) :: rest) ∧
      timeoutSeconds < now - entry.dequeuedAt ∧ world.redis.inflight.get? jobId = some removed ∧
      next.requeued = ⟨jobId, entry, removed, timeoutSeconds, world.clock⟩ :: world.requeued := by
  cases queue_stepped stepped with
  | @reclaimed client timeoutSeconds now jobId entry removed rest scanning stale present =>
    exact .inr ⟨client, timeoutSeconds, now, jobId, entry, removed, rest, rfl, scanning, stale, present, rfl⟩
  | _ => exact .inl rfl

theorem Exact.step (calm : Undisturbed world action) (exact : Exact world)
    (stepped : (queue setting).step world action = some next) : Exact next := by
  refine ⟨exact.counted.step stepped, fun requeue member => ?_⟩
  obtain same | ⟨client, timeoutSeconds, now, jobId, entry, removed, rest, reclaims, scanning, stale, present, added⟩ :=
    requeued_step stepped
  · rw [same] at member
    exact exact.exact requeue member
  · rw [added] at member
    cases member with
    | tail _ member => exact exact.exact requeue member
    | head =>
      subst reclaims
      have young : ¬now - entry.dequeuedAt ≤ timeoutSeconds := Int.not_le.mpr stale
      simp only [Undisturbed, undisturbed, scanning, young, present, decide_false, Bool.false_or, Option.all_some,
        decide_eq_true_eq] at calm
      subst calm
      have read := exact.counted.read client now (by rw [scanning]; rfl)
      refine ⟨rfl, ?_⟩
      simp only
      omega

/-- Where no stale entry is replaced between the listing of a scan and its deletion, a scan
puts a job back only if the delivery in flight is older than the timeout, and no delivery is
put back twice. -/
theorem stale_redelivery_once {clock : Int} (ran : (queue setting).run (.fresh clock) actions = some world)
    (met : (queue setting).Meets Undisturbed (.fresh clock) actions) :
    (∀ requeue ∈ world.requeued, requeue.removed = requeue.scanned ∧
      requeue.timeoutSeconds < requeue.time - requeue.removed.dequeuedAt) ∧
    (world.requeued.map fun requeue => requeue.scanned.delivery).Nodup := by
  have exact : Exact world :=
    StepSystem.invariant Exact.step met ⟨.fresh, fun _ member => by cases member⟩ ran
  refine ⟨exact.exact, ?_⟩
  have same : (world.requeued.map fun requeue => requeue.scanned.delivery) =
      world.requeued.map fun requeue => requeue.removed.delivery := by
    apply List.map_congr_left
    intro requeue member
    rw [(exact.exact requeue member).1]
  rw [same]
  exact exact.counted.numbered.once

def untilStale : List (Action Nat) := [.enqueue "job", .pop 0, .stamp 0, .record 0, .tick 301]

theorem stale_redelivery_once_of_scan :
    ∃ world, (queue plainSetting).run (.fresh 0)
        (untilStale ++ [.scan 1 300, .snapshot 1, .reclaim 1, .requeue 1, .reclaim 1]) = some world ∧
      world.redis.jobs = ["job"] ∧ world.requeued.length = 1 ∧
      (∀ requeue ∈ world.requeued, requeue.removed = requeue.scanned ∧
        requeue.timeoutSeconds < requeue.time - requeue.removed.dequeuedAt) ∧
      (world.requeued.map fun requeue => requeue.scanned.delivery).Nodup :=
  ⟨_, rfl, rfl, rfl, @stale_redelivery_once Nat _ plainSetting _
    (untilStale ++ [.scan 1 300, .snapshot 1, .reclaim 1, .requeue 1, .reclaim 1]) 0 rfl (by decide)⟩

/-- Two scans have listed the stale delivery.  One puts the job back and the worker `3` takes it;
the other deletes the new entry and puts the job back while the worker holds it. -/
theorem fresh_delivery_reclaimed :
    ∃ world, (queue plainSetting).run (.fresh 0)
        (untilStale ++ [.scan 1 300, .scan 2 300, .snapshot 1, .snapshot 2, .reclaim 2, .requeue 2,
          .pop 3, .stamp 3, .record 3, .reclaim 1, .requeue 1]) = some world ∧
      world.clock = 301 ∧ world.redis.jobs = ["job"] ∧
      world.requeued =
        [⟨"job", ⟨"job", 0, 0⟩, ⟨"job", 301, 1⟩, 300, 301⟩, ⟨"job", ⟨"job", 0, 0⟩, ⟨"job", 0, 0⟩, 300, 301⟩] :=
  ⟨_, rfl, rfl, rfl, rfl⟩

end AindyRuntime.DistributedQueue
