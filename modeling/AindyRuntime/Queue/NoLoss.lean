import AindyRuntime.Queue.RedisQueue

namespace AindyRuntime.DistributedQueue

open List

variable {Client : Type} [DecidableEq Client] {setting : Setting} {redis : Redis} {jobId : String}

def Redis.Holds (setting : Setting) (redis : Redis) (jobId : String) : Prop :=
  (∃ raw ∈ redis.jobs, setting.fromJson raw = some jobId) ∨
  (∃ member ∈ redis.delayed, setting.fromJson member.1 = some jobId) ∨
  (∃ entry, redis.inflight.get? jobId = some entry) ∨
  ∃ letter ∈ redis.dead, letter.jobId = jobId

namespace Redis.Holds

variable {raw : String}

section

variable (holds : redis.Holds setting jobId)
include holds

theorem lpush : (redis.lpush raw).Holds setting jobId :=
  holds.imp_left fun listed => listed.imp fun _ held => ⟨mem_cons_of_mem raw held.1, held.2⟩

omit holds in
theorem of_lpush (parsed : setting.fromJson raw = some jobId) : (redis.lpush raw).Holds setting jobId :=
  .inl ⟨raw, mem_cons_self, parsed⟩

omit holds in
theorem of_zadd {score : Int} (parsed : setting.fromJson raw = some jobId) :
    (redis.zadd raw score).Holds setting jobId :=
  .inr (.inl ⟨(raw, score), (mem_orderedInsert Redis.before).mpr (.inl rfl), parsed⟩)

theorem zadd : (redis.zadd raw score).Holds setting jobId := by
  obtain listed | ⟨member, present, parsed⟩ | elsewhere := holds
  · exact .inl listed
  · by_cases same : member.1 = raw
    · rw [same] at parsed
      exact .of_zadd parsed
    · have kept : member ∈ redis.delayed.filter fun member => member.1 ≠ raw :=
        mem_filter.mpr ⟨present, decide_eq_true same⟩
      exact .inr (.inl ⟨member, (mem_orderedInsert Redis.before).mpr (.inr kept), parsed⟩)
  · exact .inr (.inr elsewhere)

theorem promote :
    Redis.Holds setting
      { redis with
        jobs := raw :: redis.jobs
        delayed := redis.delayed.filter fun member => member.1 ≠ raw } jobId := by
  obtain ⟨other, listed, parsed⟩ | ⟨member, present, parsed⟩ | elsewhere := holds
  · exact .inl ⟨other, mem_cons_of_mem raw listed, parsed⟩
  · by_cases same : member.1 = raw
    · rw [same] at parsed
      exact .inl ⟨raw, mem_cons_self, parsed⟩
    · exact .inr (.inl ⟨member, mem_filter.mpr ⟨present, decide_eq_true same⟩, parsed⟩)
  · exact .inr (.inr elsewhere)

theorem processDelayed : (redis.processDelayed now).Holds setting jobId := by
  unfold Redis.processDelayed
  generalize redis.ready now = ready
  induction ready generalizing redis with
  | nil => exact holds
  | cons raw rest ih => exact ih holds.promote

/-- The popped payload is the only one that leaves the list. -/
theorem pop (last : redis.jobs.getLast? = some raw) :
    Redis.Holds setting { redis with jobs := redis.jobs.dropLast } jobId ∨ setting.fromJson raw = some jobId := by
  obtain ⟨other, listed, parsed⟩ | elsewhere := holds
  · rw [← dropLast_append_getLast? raw last, mem_append, mem_singleton] at listed
    cases listed with
    | inl listed => exact .inl (.inl ⟨other, listed, parsed⟩)
    | inr same =>
      rw [same] at parsed
      exact .inr parsed
  · exact .inl (.inr elsewhere)

omit holds in
theorem of_hset {entry : InflightEntry} : (redis.hset jobId entry).Holds setting jobId := by
  refine .inr (.inr (.inl ⟨entry, ?_⟩))
  simp [Redis.hset]

theorem hset : (redis.hset other entry).Holds setting jobId := by
  by_cases same : other = jobId
  · subst same
    exact .of_hset
  · obtain listed | delayed | ⟨present, found⟩ | dead := holds
    · exact .inl listed
    · exact .inr (.inl delayed)
    · refine .inr (.inr (.inl ⟨present, ?_⟩))
      simp [Redis.hset, same, found]
    · exact .inr (.inr (.inr dead))

theorem hdel : (redis.hdel other).Holds setting jobId ∨ other = jobId := by
  by_cases same : other = jobId
  · exact .inr same
  · obtain listed | delayed | ⟨present, found⟩ | dead := holds
    · exact .inl (.inl listed)
    · exact .inl (.inr (.inl delayed))
    · refine .inl (.inr (.inr (.inl ⟨present, ?_⟩)))
      simp [Redis.hdel, same, found]
    · exact .inl (.inr (.inr (.inr dead)))

omit holds in
theorem of_bury {letter : DeadLetter} (same : letter.jobId = jobId) :
    Redis.Holds setting { redis with dead := letter :: redis.dead } jobId :=
  .inr (.inr (.inr ⟨letter, mem_cons_self, same⟩))

theorem bury : Redis.Holds setting { redis with dead := letter :: redis.dead } jobId := by
  obtain listed | delayed | inflight | ⟨other, buried, same⟩ := holds
  · exact .inl listed
  · exact .inr (.inl delayed)
  · exact .inr (.inr (.inl inflight))
  · exact .inr (.inr (.inr ⟨other, mem_cons_of_mem letter buried, same⟩))

end

end Redis.Holds

/-- The job that a client has taken out with one command and is to put back with the next. -/
def Phase.carried? : Phase → Option String
  | .popped jobId _ | .stamped jobId _ _ | .burying jobId _ _ | .requeueing _ _ jobId _ _ => some jobId
  | _ => none

def Kept (setting : Setting) (world : World Client) (jobId : String) : Prop :=
  world.redis.Holds setting jobId ∨ ∃ client, (world.phase client).carried? = some jobId

def Phase.Parsed (setting : Setting) : Phase → Prop
  | .popped jobId raw | .stamped jobId raw _ => setting.fromJson raw = some jobId
  | .scanning _ _ rest => ∀ scanned ∈ rest, setting.fromJson scanned.2.payload = some scanned.1
  | .requeueing _ _ jobId entry rest => setting.fromJson entry.payload = some jobId ∧
      ∀ scanned ∈ rest, setting.fromJson scanned.2.payload = some scanned.1
  | _ => True

structure Parsed (setting : Setting) (world : World Client) : Prop where
  inflight : ∀ jobId entry, world.redis.inflight.get? jobId = some entry → setting.fromJson entry.payload = some jobId
  phases : ∀ client, (world.phase client).Parsed setting

variable {world next : World Client}

theorem Parsed.enter (parsed : Parsed setting world)
    (inflight : ∀ jobId entry, next.redis.inflight.get? jobId = some entry →
      setting.fromJson entry.payload = some jobId)
    (phases : next.phase = Function.update world.phase client phase) (entered : phase.Parsed setting) :
    Parsed setting next := by
  refine ⟨inflight, fun other => ?_⟩
  rw [phases]
  by_cases same : other = client
  · subst same
    rw [Function.update_self]
    exact entered
  · rw [Function.update_of_ne same]
    exact parsed.phases other

omit [DecidableEq Client] in
theorem Parsed.hdel {other : String} (parsed : Parsed setting world) (jobId : String) (entry : InflightEntry)
    (present : (world.redis.hdel other).inflight.get? jobId = some entry) :
    setting.fromJson entry.payload = some jobId := by
  simp only [Redis.hdel, Dict.get?_erase] at present
  by_cases same : other = jobId
  · simp [same] at present
  · rw [if_neg same] at present
    exact parsed.inflight jobId entry present

theorem Parsed.step (parsed : Parsed setting world) (stepped : (queue setting).step world action = some next) :
    Parsed setting next := by
  cases queue_stepped stepped with
  | ticked later | enqueued | enqueuedDelayed | dropped last unparsed => exact ⟨parsed.inflight, parsed.phases⟩
  | saturated | saturatedDelayed | idled => exact parsed
  | @promoted now =>
    refine ⟨fun jobId entry present => ?_, parsed.phases⟩
    simp only [(Redis.processDelayed_frame _ _).1] at present
    exact parsed.inflight jobId entry present
  | popped idle last parses => exact parsed.enter parsed.inflight rfl parses
  | @stamped client jobId raw popped =>
    have phase := parsed.phases client
    rw [popped] at phase
    exact parsed.enter parsed.inflight rfl phase
  | @recorded client jobId raw dequeuedAt stamped =>
    have phase := parsed.phases client
    rw [stamped] at phase
    refine parsed.enter (fun other entry present => ?_) rfl trivial
    simp only [World.record, World.enter, Redis.hset, Dict.get?_set] at present
    by_cases same : jobId = other
    · simp only [same, if_true, Option.some.injEq] at present
      subst present
      exact same ▸ phase
    · rw [if_neg same] at present
      exact parsed.inflight other entry present
  | acked => exact ⟨parsed.hdel, parsed.phases⟩
  | failed | buried | started | finished => exact parsed.enter parsed.inflight rfl trivial
  | removed => exact parsed.enter parsed.hdel rfl trivial
  | listed =>
    refine parsed.enter parsed.inflight rfl fun scanned member => ?_
    exact parsed.inflight scanned.1 scanned.2 (Dict.get?_eq_some.mpr member)
  | @skipped client timeoutSeconds now scanned rest scanning =>
    have phase := parsed.phases client
    rw [scanning] at phase
    exact parsed.enter parsed.inflight rfl fun other member => phase other (mem_cons_of_mem scanned member)
  | @reclaimed client timeoutSeconds now jobId entry removed rest scanning stale present =>
    have phase := parsed.phases client
    rw [scanning] at phase
    refine parsed.enter parsed.hdel rfl ⟨phase (jobId, entry) mem_cons_self, fun other member => ?_⟩
    exact phase other (mem_cons_of_mem (jobId, entry) member)
  | @requeued client timeoutSeconds now jobId entry rest requeueing =>
    have phase := parsed.phases client
    rw [requeueing] at phase
    exact parsed.enter parsed.inflight rfl phase.2

/-- A client moves on, and the job stays under a key or passes into or out of its hands. -/
theorem Kept.enter (kept : Kept setting world jobId)
    (phases : next.phase = Function.update world.phase client phase)
    (holds : world.redis.Holds setting jobId → next.redis.Holds setting jobId ∨ phase.carried? = some jobId)
    (carried : (world.phase client).carried? = some jobId →
      next.redis.Holds setting jobId ∨ phase.carried? = some jobId) : Kept setting next jobId := by
  have own : next.redis.Holds setting jobId ∨ phase.carried? = some jobId → Kept setting next jobId := by
    intro reached
    refine reached.imp_right fun carries => ⟨client, ?_⟩
    rw [phases, Function.update_self]
    exact carries
  cases kept with
  | inl held => exact own (holds held)
  | inr carrier =>
    obtain ⟨other, carries⟩ := carrier
    by_cases same : other = client
    · subst same
      exact own (carried carries)
    · refine .inr ⟨other, ?_⟩
      rw [phases, Function.update_of_ne same]
      exact carries

omit [DecidableEq Client] in
theorem Kept.mono (kept : Kept setting world jobId) (phases : next.phase = world.phase)
    (holds : world.redis.Holds setting jobId → next.redis.Holds setting jobId) : Kept setting next jobId := by
  refine kept.imp holds fun carrier => ?_
  rw [phases]
  exact carrier

theorem Kept.step (parsed : Parsed setting world) (kept : Kept setting world jobId)
    (unacked : action ≠ .ack jobId) (stepped : (queue setting).step world action = some next) :
    Kept setting next jobId := by
  cases queue_stepped stepped with
  | ticked => exact kept.mono rfl id
  | enqueued => exact kept.mono rfl .lpush
  | enqueuedDelayed => exact kept.mono rfl (·.zadd)
  | saturated | saturatedDelayed => exact kept
  | promoted => exact kept.mono rfl (·.processDelayed)
  | idled => exact kept
  | dropped last unparsed =>
    refine kept.mono rfl fun held => (held.pop last).resolve_right fun parses => ?_
    rw [unparsed] at parses
    cases parses
  | popped idle last parses =>
    refine kept.enter rfl (fun held => ?_) (fun carries => ?_)
    · refine (held.pop last).imp_right fun same => ?_
      rw [parses] at same
      exact same
    · rw [idle] at carries
      cases carries
  | @stamped client popper raw popped =>
    refine kept.enter rfl .inl (fun carries => .inr ?_)
    rw [popped] at carries
    exact carries
  | @recorded client recorder raw dequeuedAt stamped =>
    refine kept.enter rfl (fun held => .inl held.hset) (fun carries => .inl ?_)
    rw [stamped] at carries
    cases carries
    exact .of_hset
  | @acked other =>
    refine kept.mono rfl fun held => held.hdel.resolve_right fun same => ?_
    subst same
    exact unacked rfl
  | failed idle | started idle =>
    refine kept.enter rfl .inl (fun carries => ?_)
    rw [idle] at carries
    cases carries
  | @removed client other error payloadRaw failing =>
    refine kept.enter rfl (fun held => held.hdel.imp_right fun same => ?_) (fun carries => ?_)
    · rw [same]
      rfl
    · rw [failing] at carries
      cases carries
  | @buried client other error payloadRaw burying =>
    refine kept.enter rfl (fun held => .inl held.bury) (fun carries => .inl ?_)
    rw [burying] at carries
    exact .of_bury (Option.some.inj carries)
  | listed started =>
    refine kept.enter rfl .inl (fun carries => ?_)
    rw [started] at carries
    cases carries
  | finished scanning | skipped scanning =>
    refine kept.enter rfl .inl (fun carries => ?_)
    rw [scanning] at carries
    cases carries
  | @reclaimed client timeoutSeconds now other entry removed rest scanning stale present =>
    refine kept.enter rfl (fun held => held.hdel.imp_right fun same => ?_) (fun carries => ?_)
    · rw [same]
      rfl
    · rw [scanning] at carries
      cases carries
  | @requeued client timeoutSeconds now other entry rest requeueing =>
    have phase := parsed.phases client
    rw [requeueing] at phase
    refine kept.enter rfl (fun held => .inl held.lpush) (fun carries => .inl ?_)
    rw [requeueing] at carries
    cases carries
    exact .of_lpush phase.1

structure AllKept (setting : Setting) (world : World Client) : Prop where
  parsed : Parsed setting world
  kept : ∀ raw ∈ world.accepted, ∀ jobId, setting.fromJson raw = some jobId → jobId ∉ world.acked →
    Kept setting world jobId

/-- Only an ack adds to the acked jobs, and a payload that is accepted is under a key. -/
theorem accepted_cases (stepped : (queue setting).step world action = some next) :
    world.acked ⊆ next.acked ∧ (∀ jobId, action = .ack jobId → jobId ∈ next.acked) ∧
    ∀ raw ∈ next.accepted, raw ∈ world.accepted ∨
      ∀ jobId, setting.fromJson raw = some jobId → next.redis.Holds setting jobId := by
  have same : ∀ {acked accepted : List String}, acked = world.acked → accepted = world.accepted →
      (∀ jobId, action ≠ .ack jobId) → world.acked ⊆ acked ∧ (∀ jobId, action = .ack jobId → jobId ∈ acked) ∧
      ∀ raw ∈ accepted, raw ∈ world.accepted ∨
        ∀ jobId, setting.fromJson raw = some jobId → next.redis.Holds setting jobId := by
    intro acked accepted ackedSame acceptedSame unacked
    rw [ackedSame, acceptedSame]
    exact ⟨List.Subset.refl _, fun jobId acks => absurd acks (unacked jobId), fun _ member => .inl member⟩
  cases queue_stepped stepped with
  | enqueued =>
    refine ⟨List.Subset.refl _, fun _ acks => (by cases acks), fun other member => ?_⟩
    cases member with
    | head => exact .inr fun jobId parsed => .of_lpush parsed
    | tail _ member => exact .inl member
  | enqueuedDelayed =>
    refine ⟨List.Subset.refl _, fun _ acks => (by cases acks), fun other member => ?_⟩
    cases member with
    | head => exact .inr fun jobId parsed => .of_zadd parsed
    | tail _ member => exact .inl member
  | acked =>
    refine ⟨subset_cons_self _ _, fun other acks => ?_, fun _ member => .inl member⟩
    cases acks
    exact mem_cons_self
  | _ => exact same rfl rfl (fun _ acks => by cases acks)

omit [DecidableEq Client] in
theorem AllKept.fresh {clock : Int} : AllKept setting (World.fresh clock : World Client) where
  parsed := ⟨fun _ _ present => (by cases present), fun _ => trivial⟩
  kept _ member := by cases member

theorem AllKept.step (all : AllKept setting world) (stepped : (queue setting).step world action = some next) :
    AllKept setting next := by
  obtain ⟨more, acks, accepts⟩ := accepted_cases stepped
  refine ⟨all.parsed.step stepped, fun raw member jobId parsed unacked => ?_⟩
  cases accepts raw member with
  | inl before =>
    have kept := all.kept raw before jobId parsed fun acked => unacked (more acked)
    exact kept.step all.parsed (fun acking => unacked (acks jobId acking)) stepped
  | inr held => exact .inl (held jobId parsed)

/-- A job that was accepted and not acked is under one of the four keys, unless a client has
taken it out with one command and not put it back with the next. -/
theorem accepted_job_held {raw : String} {clock : Int} (ran : (queue setting).run (.fresh clock) actions = some world)
    (accepted : raw ∈ world.accepted) (parsed : setting.fromJson raw = some jobId) (unacked : jobId ∉ world.acked)
    (uncarried : ∀ client, (world.phase client).carried? ≠ some jobId) : world.redis.Holds setting jobId := by
  have all : AllKept setting world := StepSystem.invariant_run AllKept.step .fresh ran
  refine (all.kept raw accepted jobId parsed unacked).resolve_right fun carrier => ?_
  obtain ⟨client, carries⟩ := carrier
  exact uncarried client carries

def handedOut : List (Action Unit) :=
  [.enqueue "job", .enqueueDelayed "later" 9, .pop (), .tick 3, .stamp (), .record (), .processDelayed 9]

theorem accepted_job_held_of_handedOut :
    ∃ world, (queue plainSetting).run (.fresh 0) handedOut = some world ∧ world.redis.jobs = ["later"] ∧
      world.redis.Holds plainSetting "job" :=
  ⟨_, rfl, rfl, @accepted_job_held Unit _ plainSetting "job" _ handedOut "job" 0 rfl (by decide) rfl (by decide)
      (fun client => by cases client; decide)⟩

/-- A client that stops after the pop of `dequeue` takes the job with it. -/
theorem popped_job_vanishes :
    ∃ world, (queue plainSetting).run (.fresh 0) [.enqueue "job", .pop ()] = some world ∧
      "job" ∈ world.accepted ∧ plainSetting.fromJson "job" = some "job" ∧ "job" ∉ world.acked ∧
      ¬world.redis.Holds plainSetting "job" := by
  refine ⟨_, rfl, by decide, rfl, by decide, ?_⟩
  intro held
  obtain ⟨_, member, _⟩ | ⟨_, member, _⟩ | ⟨_, present⟩ | ⟨_, member, _⟩ := held
  · cases member
  · cases member
  · cases present
  · cases member

end AindyRuntime.DistributedQueue
