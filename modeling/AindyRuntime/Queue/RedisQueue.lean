import Mathlib.Data.List.Sort
import AindyRuntime.Lib.Dict
import AindyRuntime.Lib.StepSystem

/-! # The Redis queue of jobs

`RedisQueueBackend` with any number of clients.  Every Redis command is a step, and
so is every reading of the clock; a Lua script is one command.  A client that stops
for good simply takes no further step.
-/

namespace AindyRuntime.DistributedQueue

/-- An entry of the hash of jobs in flight.  The number of the delivery is not in the
entry; it tells one delivery of a job from another. -/
structure InflightEntry where
  payload : String
  dequeuedAt : Int
  delivery : Nat
deriving DecidableEq, Repr

structure DeadLetter where
  (jobId payloadRaw error : String)
  failedAt : Int
deriving DecidableEq, Repr

/-- The keys of one queue; the left end of a list comes first, and the sorted set is
in the order of the scores and, for equal scores, of the members. -/
structure Redis where
  jobs : List String
  delayed : List (String × Int)
  inflight : Dict String InflightEntry
  dead : List DeadLetter

namespace Redis

def empty : Redis := ⟨[], [], ∅, []⟩

variable (redis : Redis) (raw : String)

def lpush : Redis := { redis with jobs := raw :: redis.jobs }

def before (one other : String × Int) : Prop := one.2 < other.2 ∨ one.2 = other.2 ∧ one.1 ≤ other.1

instance : DecidableRel before := fun _ _ => inferInstanceAs (Decidable (_ ∨ _ ∧ _))

def zadd (score : Int) : Redis :=
  { redis with delayed := (redis.delayed.filter fun member => member.1 ≠ raw).orderedInsert before (raw, score) }

def total : Nat := redis.jobs.length + redis.delayed.length

/-- `_ENQUEUE_WITH_CAPACITY_LUA`; `none` stands for -1. -/
def enqueueWithCapacity (maxQueueSize : Nat) : Option Redis :=
  if maxQueueSize ≤ redis.total then none else some (redis.lpush raw)

def enqueueDelayedWithCapacity (executeAt : Int) (maxQueueSize : Nat) : Option Redis :=
  if maxQueueSize ≤ redis.total then none else some (redis.zadd raw executeAt)

def ready (now : Int) : List String :=
  ((redis.delayed.filter fun member => member.2 ≤ now).take 100).map Prod.fst

def processDelayed (now : Int) : Redis :=
  (redis.ready now).foldl
    (fun redis raw =>
      { redis with
        jobs := raw :: redis.jobs
        delayed := redis.delayed.filter fun member => member.1 ≠ raw })
    redis

def hset (jobId : String) (entry : InflightEntry) : Redis :=
  { redis with inflight := redis.inflight.set jobId entry }

def hdel (jobId : String) : Redis := { redis with inflight := redis.inflight.erase jobId }

theorem processDelayed_frame (now : Int) :
    (redis.processDelayed now).inflight = redis.inflight ∧ (redis.processDelayed now).dead = redis.dead := by
  unfold processDelayed
  generalize redis.ready now = ready
  induction ready generalizing redis with
  | nil => exact ⟨rfl, rfl⟩
  | cons raw rest ih => exact ih _

end Redis

inductive Phase where
  | idle
  /-- `dequeue`: the job has been popped and its payload parses. -/
  | popped (jobId raw : String)
  | stamped (jobId raw : String) (dequeuedAt : Int)
  /-- `fail`: the entry has been read. -/
  | failing (jobId error payloadRaw : String)
  /-- `fail`: the entry has been deleted. -/
  | burying (jobId error payloadRaw : String)
  /-- `requeue_stale_jobs`: the clock has been read. -/
  | started (timeoutSeconds now : Int)
  | scanning (timeoutSeconds now : Int) (rest : List (String × InflightEntry))
  /-- `requeue_stale_jobs`: the entry has been deleted. -/
  | requeueing (timeoutSeconds now : Int) (jobId : String) (entry : InflightEntry)
      (rest : List (String × InflightEntry))

structure Requeue where
  jobId : String
  (scanned removed : InflightEntry)
  (timeoutSeconds time : Int)
deriving DecidableEq, Repr

structure World (Client : Type) where
  clock : Int
  redis : Redis
  phase : Client → Phase
  /-- The deliveries so far. -/
  deliveries : Nat
  (accepted acked : List String)
  requeued : List Requeue

inductive Action (Client : Type) where
  | tick (instant : Int)
  | enqueue (raw : String)
  | enqueueDelayed (raw : String) (executeAt : Int)
  | processDelayed (now : Int)
  /-- `dequeue`: `RPOP` or `BRPOP`. -/
  | pop (client : Client)
  /-- `dequeue`: the clock. -/
  | stamp (client : Client)
  /-- `dequeue`: `HSET`. -/
  | record (client : Client)
  | ack (jobId : String)
  /-- `fail`: `HGET`. -/
  | fail (client : Client) (jobId error : String)
  /-- `fail`: `HDEL`. -/
  | remove (client : Client)
  /-- `fail`: `LPUSH`. -/
  | bury (client : Client)
  /-- `requeue_stale_jobs`: the clock. -/
  | scan (client : Client) (timeoutSeconds : Int)
  /-- `requeue_stale_jobs`: `HGETALL`. -/
  | snapshot (client : Client)
  /-- `requeue_stale_jobs`: the next entry, with its `HDEL` if it is stale. -/
  | reclaim (client : Client)
  /-- `requeue_stale_jobs`: `LPUSH`. -/
  | requeue (client : Client)

structure Setting where
  /-- `QueueJobPayload.from_json`, down to the `job_id`. -/
  fromJson : String → Option String
  maxQueueSize : Nat

def plainSetting : Setting := ⟨some, 100⟩

variable {Client : Type} [DecidableEq Client]

namespace World

def fresh (clock : Int) : World Client := ⟨clock, .empty, fun _ => .idle, 0, [], [], []⟩

variable (world : World Client) (client : Client)

def enter (phase : Phase) : World Client :=
  { world with phase := Function.update world.phase client phase }

def pop (setting : Setting) (world : World Client) (client : Client) : World Client :=
  match world.redis.jobs.getLast? with
  | none => world
  | some raw =>
    let popped := { world with redis := { world.redis with jobs := world.redis.jobs.dropLast } }
    match setting.fromJson raw with
    | some jobId => popped.enter client (.popped jobId raw)
    | none => popped

def record (jobId raw : String) (dequeuedAt : Int) : World Client :=
  { world with
    redis := world.redis.hset jobId ⟨raw, dequeuedAt, world.deliveries⟩
    deliveries := world.deliveries + 1 }.enter client .idle

def bury (jobId error payloadRaw : String) : World Client :=
  { world with
    redis := { world.redis with dead := ⟨jobId, payloadRaw, error, world.clock⟩ :: world.redis.dead } }.enter
      client .idle

/-- The next entry of a scan.  Its age is taken against the clock as it was at the start. -/
def reclaim (timeoutSeconds now : Int) : List (String × InflightEntry) → World Client
  | [] => world.enter client .idle
  | (jobId, entry) :: rest =>
    if now - entry.dequeuedAt ≤ timeoutSeconds then world.enter client (.scanning timeoutSeconds now rest)
    else
      match world.redis.inflight.get? jobId with
      | none => world.enter client (.scanning timeoutSeconds now rest)
      | some removed =>
        { world with
          redis := world.redis.hdel jobId
          requeued := ⟨jobId, entry, removed, timeoutSeconds, world.clock⟩ :: world.requeued }.enter
            client (.requeueing timeoutSeconds now jobId entry rest)

end World

def queue (setting : Setting) : StepSystem (World Client) (Action Client) where
  step world
    | .tick instant => if world.clock ≤ instant then some { world with clock := instant } else none
    | .enqueue raw =>
      match world.redis.enqueueWithCapacity raw setting.maxQueueSize with
      | some redis => some { world with redis, accepted := raw :: world.accepted }
      | none => some world
    | .enqueueDelayed raw executeAt =>
      match world.redis.enqueueDelayedWithCapacity raw executeAt setting.maxQueueSize with
      | some redis => some { world with redis, accepted := raw :: world.accepted }
      | none => some world
    | .processDelayed now => some { world with redis := world.redis.processDelayed now }
    | .pop client =>
      match world.phase client with
      | .idle => some (world.pop setting client)
      | _ => none
    | .stamp client =>
      match world.phase client with
      | .popped jobId raw => some (world.enter client (.stamped jobId raw world.clock))
      | _ => none
    | .record client =>
      match world.phase client with
      | .stamped jobId raw dequeuedAt => some (world.record client jobId raw dequeuedAt)
      | _ => none
    | .ack jobId => some { world with redis := world.redis.hdel jobId, acked := jobId :: world.acked }
    | .fail client jobId error =>
      match world.phase client with
      | .idle =>
        let payloadRaw := ((world.redis.inflight.get? jobId).map InflightEntry.payload).getD ""
        some (world.enter client (.failing jobId error payloadRaw))
      | _ => none
    | .remove client =>
      match world.phase client with
      | .failing jobId error payloadRaw =>
        some ({ world with redis := world.redis.hdel jobId }.enter client (.burying jobId error payloadRaw))
      | _ => none
    | .bury client =>
      match world.phase client with
      | .burying jobId error payloadRaw => some (world.bury client jobId error payloadRaw)
      | _ => none
    | .scan client timeoutSeconds =>
      match world.phase client with
      | .idle => some (world.enter client (.started timeoutSeconds world.clock))
      | _ => none
    | .snapshot client =>
      match world.phase client with
      | .started timeoutSeconds now =>
        some (world.enter client (.scanning timeoutSeconds now world.redis.inflight.entries))
      | _ => none
    | .reclaim client =>
      match world.phase client with
      | .scanning timeoutSeconds now rest => some (world.reclaim client timeoutSeconds now rest)
      | _ => none
    | .requeue client =>
      match world.phase client with
      | .requeueing timeoutSeconds now _ entry rest =>
        some ({ world with redis := world.redis.lpush entry.payload }.enter client (.scanning timeoutSeconds now rest))
      | _ => none

variable {setting : Setting} {world next : World Client}
variable (setting world) in
inductive Stepped : Action Client → World Client → Prop where
  | ticked {instant : Int} (later : world.clock ≤ instant) :
      Stepped (.tick instant) { world with clock := instant }
  | enqueued {raw : String} :
      Stepped (.enqueue raw)
        { world with redis := world.redis.lpush raw, accepted := raw :: world.accepted }
  | enqueuedDelayed {raw : String} {executeAt : Int} :
      Stepped (.enqueueDelayed raw executeAt)
        { world with redis := world.redis.zadd raw executeAt, accepted := raw :: world.accepted }
  | saturated {raw : String} : Stepped (.enqueue raw) world
  | saturatedDelayed {raw : String} {executeAt : Int} :
      Stepped (.enqueueDelayed raw executeAt) world
  | promoted {now : Int} :
      Stepped (.processDelayed now) { world with redis := world.redis.processDelayed now }
  | idled {client : Client} : Stepped (.pop client) world
  | dropped {client : Client} {raw : String} (last : world.redis.jobs.getLast? = some raw)
      (unparsed : setting.fromJson raw = none) :
      Stepped (.pop client)
        { world with redis := { world.redis with jobs := world.redis.jobs.dropLast } }
  | popped {client : Client} {jobId raw : String} (idle : world.phase client = .idle)
      (last : world.redis.jobs.getLast? = some raw) (parsed : setting.fromJson raw = some jobId) :
      Stepped (.pop client)
        ({ world with redis := { world.redis with jobs := world.redis.jobs.dropLast } }.enter client
          (.popped jobId raw))
  | stamped {client : Client} {jobId raw : String} (popped : world.phase client = .popped jobId raw) :
      Stepped (.stamp client) (world.enter client (.stamped jobId raw world.clock))
  | recorded {client : Client} {jobId raw : String} {dequeuedAt : Int}
      (stamped : world.phase client = .stamped jobId raw dequeuedAt) :
      Stepped (.record client) (world.record client jobId raw dequeuedAt)
  | acked {jobId : String} :
      Stepped (.ack jobId)
        { world with redis := world.redis.hdel jobId, acked := jobId :: world.acked }
  | failed {client : Client} {jobId error payloadRaw : String} (idle : world.phase client = .idle) :
      Stepped (.fail client jobId error) (world.enter client (.failing jobId error payloadRaw))
  | removed {client : Client} {jobId error payloadRaw : String}
      (failing : world.phase client = .failing jobId error payloadRaw) :
      Stepped (.remove client)
        ({ world with redis := world.redis.hdel jobId }.enter client (.burying jobId error payloadRaw))
  | buried {client : Client} {jobId error payloadRaw : String}
      (burying : world.phase client = .burying jobId error payloadRaw) :
      Stepped (.bury client) (world.bury client jobId error payloadRaw)
  | started {client : Client} {timeoutSeconds : Int} (idle : world.phase client = .idle) :
      Stepped (.scan client timeoutSeconds) (world.enter client (.started timeoutSeconds world.clock))
  | listed {client : Client} {timeoutSeconds now : Int} (started : world.phase client = .started timeoutSeconds now) :
      Stepped (.snapshot client)
        (world.enter client (.scanning timeoutSeconds now world.redis.inflight.entries))
  | finished {client : Client} {timeoutSeconds now : Int}
      (scanning : world.phase client = .scanning timeoutSeconds now []) :
      Stepped (.reclaim client) (world.enter client .idle)
  | skipped {client : Client} {timeoutSeconds now : Int} {scanned : String × InflightEntry}
      {rest : List (String × InflightEntry)}
      (scanning : world.phase client = .scanning timeoutSeconds now (scanned :: rest)) :
      Stepped (.reclaim client) (world.enter client (.scanning timeoutSeconds now rest))
  | reclaimed {client : Client} {timeoutSeconds now : Int} {jobId : String} {entry removed : InflightEntry}
      {rest : List (String × InflightEntry)}
      (scanning : world.phase client = .scanning timeoutSeconds now ((jobId, entry) :: rest))
      (stale : timeoutSeconds < now - entry.dequeuedAt)
      (present : world.redis.inflight.get? jobId = some removed) :
      Stepped (.reclaim client)
        ({ world with
          redis := world.redis.hdel jobId
          requeued := ⟨jobId, entry, removed, timeoutSeconds, world.clock⟩ :: world.requeued }.enter
            client (.requeueing timeoutSeconds now jobId entry rest))
  | requeued {client : Client} {timeoutSeconds now : Int} {jobId : String} {entry : InflightEntry}
      {rest : List (String × InflightEntry)}
      (requeueing : world.phase client = .requeueing timeoutSeconds now jobId entry rest) :
      Stepped (.requeue client)
        ({ world with redis := world.redis.lpush entry.payload }.enter client (.scanning timeoutSeconds now rest))

theorem enqueue_stepped (stepped : (queue setting).step world (.enqueue raw) = some next) :
    Stepped setting world (.enqueue raw) next := by
  simp only [queue, Redis.enqueueWithCapacity] at stepped
  by_cases full : setting.maxQueueSize ≤ world.redis.total
  · simp only [full, if_true, Option.some.injEq] at stepped
    subst stepped
    exact .saturated
  · simp only [full, if_false, Option.some.injEq] at stepped
    subst stepped
    exact .enqueued

theorem enqueueDelayed_stepped
    (stepped : (queue setting).step world (.enqueueDelayed raw executeAt) = some next) :
    Stepped setting world (.enqueueDelayed raw executeAt) next := by
  simp only [queue, Redis.enqueueDelayedWithCapacity] at stepped
  by_cases full : setting.maxQueueSize ≤ world.redis.total
  · simp only [full, if_true, Option.some.injEq] at stepped
    subst stepped
    exact .saturatedDelayed
  · simp only [full, if_false, Option.some.injEq] at stepped
    subst stepped
    exact .enqueuedDelayed

theorem pop_stepped (idle : world.phase client = .idle) :
    Stepped setting world (.pop client) (world.pop setting client) := by
  unfold World.pop
  cases last : world.redis.jobs.getLast? with
  | none => exact .idled
  | some raw =>
    cases parsed : setting.fromJson raw with
    | none =>
      simp only [parsed]
      exact .dropped last parsed
    | some =>
      simp only [parsed]
      exact .popped idle last parsed

theorem reclaim_stepped (scanning : world.phase client = .scanning timeoutSeconds now rest) :
    Stepped setting world (.reclaim client) (world.reclaim client timeoutSeconds now rest) := by
  cases rest with
  | nil => exact .finished scanning
  | cons scanned =>
    obtain ⟨jobId, entry⟩ := scanned
    by_cases young : now - entry.dequeuedAt ≤ timeoutSeconds
    · simp only [World.reclaim, young]
      exact .skipped scanning
    · simp only [World.reclaim, young]
      cases present : world.redis.inflight.get? jobId with
      | none => exact .skipped scanning
      | some => exact .reclaimed scanning (Int.not_le.mp young) present

theorem queue_stepped (stepped : (queue setting).step world action = some next) :
    Stepped setting world action next := by
  cases action <;> simp only [queue] at stepped
  case tick instant =>
    by_cases later : world.clock ≤ instant
    · rw [if_pos later] at stepped
      cases stepped
      exact .ticked later
    · rw [if_neg later] at stepped
      cases stepped
  case enqueue => exact enqueue_stepped stepped
  case enqueueDelayed => exact enqueueDelayed_stepped stepped
  case processDelayed =>
    cases stepped
    exact .promoted
  case pop =>
    split at stepped <;> cases stepped
    case h_1 idle => exact pop_stepped idle
  case stamp =>
    split at stepped <;> cases stepped
    case h_1 popped => exact .stamped popped
  case record =>
    split at stepped <;> cases stepped
    case h_1 stamped => exact .recorded stamped
  case ack =>
    cases stepped
    exact .acked
  case fail =>
    split at stepped <;> cases stepped
    case h_1 idle => exact .failed idle
  case remove =>
    split at stepped <;> cases stepped
    case h_1 failing => exact .removed failing
  case bury =>
    split at stepped <;> cases stepped
    case h_1 burying => exact .buried burying
  case scan =>
    split at stepped <;> cases stepped
    case h_1 idle => exact .started idle
  case snapshot =>
    split at stepped <;> cases stepped
    case h_1 started => exact .listed started
  case reclaim =>
    split at stepped <;> cases stepped
    case h_1 scanning => exact reclaim_stepped scanning
  case requeue =>
    split at stepped <;> cases stepped
    case h_1 requeueing => exact .requeued requeueing

end AindyRuntime.DistributedQueue
