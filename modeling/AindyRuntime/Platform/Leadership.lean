import Mathlib.Logic.Function.Basic
import AindyRuntime.Lib.StepSystem

/-! # Leases on background work

`claim_lease` and `release_lease` of any number of processes on PostgreSQL.  A
claim reads the clock, selects the row for update and waits for its lock, and
commits.  What follows the select is one step with the commit: nothing of it is
visible before, and an insert waits for the end of a session that inserts the row.
-/

namespace AindyRuntime.Leadership

open Function List Option

variable {Owner Name Call : Type} [DecidableEq Owner] [DecidableEq Name] [DecidableEq Call]

structure BackgroundTaskLease (Owner : Type) where
  ownerId : Owner
  (acquiredAt heartbeatAt expiresAt fence : Int)
deriving DecidableEq, Repr

structure LeaseHold (Owner : Type) where
  ownerId : Owner
  (fence expiresAt : Int)
deriving DecidableEq, Repr

def BackgroundTaskLease.first (ownerId : Owner) (now expires : Int) : BackgroundTaskLease Owner :=
  ⟨ownerId, now, now, expires, 1⟩

def BackgroundTaskLease.hold (row : BackgroundTaskLease Owner) : LeaseHold Owner :=
  ⟨row.ownerId, row.fence, row.expiresAt⟩

def BackgroundTaskLease.claim (row : BackgroundTaskLease Owner) (ownerId : Owner) (now expires : Int) :
    Option (BackgroundTaskLease Owner) :=
  if row.ownerId = ownerId then some { row with heartbeatAt := now, expiresAt := expires }
  else if row.expiresAt ≤ now then some ⟨ownerId, now, now, expires, row.fence + 1⟩
  else none

inductive Request (Owner Name : Type) where
  | claim (ownerId : Owner) (name : Name) (ttlSeconds : Int)
  | release (ownerId : Owner) (name : Name)

def Request.name : Request Owner Name → Name
  | .claim _ name _ | .release _ name => name

inductive Phase (Owner : Type) where
  | idle
  /-- The clock has been read. -/
  | started (now : Int)
  | missing (now : Int)
  /-- The row is locked. -/
  | found (now : Int) (row : BackgroundTaskLease Owner)
  | releasing (row : BackgroundTaskLease Owner)
  | done (result : Option (LeaseHold Owner))
  | failed
deriving DecidableEq, Repr

structure World (Owner Name Call : Type) where
  clock : Int
  rows : Name → Option (BackgroundTaskLease Owner)
  locks : Name → Option Call
  phase : Call → Phase Owner
  /-- The holds that were returned and not released since. -/
  holds : List (Name × LeaseHold Owner)

inductive Action (Call : Type) where
  | tick (instant : Int)
  | start (call : Call)
  | select (call : Call)
  | commit (call : Call)
  /-- A statement fails or the process stops; the transaction is rolled back. -/
  | abort (call : Call)

namespace World

variable (world : World Owner Name Call) (call : Call)

def enter (phase : Phase Owner) : World Owner Name Call :=
  { world with phase := update world.phase call phase }

variable (name : Name)

def lock (call : Call) : World Owner Name Call :=
  { world with locks := update world.locks name (some call) }

def unlock : World Owner Name Call :=
  { world with locks := update world.locks name none }

def grant (row : BackgroundTaskLease Owner) : World Owner Name Call :=
  { world with
    rows := update world.rows name (some row)
    holds := (name, row.hold) :: world.holds }

variable (ownerId : Owner)

def remove : World Owner Name Call :=
  { world with
    rows := update world.rows name none
    holds := world.holds.filter fun held => ¬(held.1 = name ∧ held.2.ownerId = ownerId) }

def fresh (rows : Name → Option (BackgroundTaskLease Owner)) (clock : Int) : World Owner Name Call :=
  ⟨clock, rows, fun _ => none, fun _ => .idle, []⟩

def selectClaim (now : Int) : Option (World Owner Name Call) :=
  match world.rows name with
  | none => some (world.enter call (.missing now))
  | some row => if world.locks name = none then some ((world.lock name call).enter call (.found now row)) else none

def selectRelease (name : Name) : Option (World Owner Name Call) :=
  match world.rows name with
  | none => some (world.enter call (.done none))
  | some row =>
    if row.ownerId = ownerId then
      if world.locks name = none then some ((world.lock name call).enter call (.releasing row)) else none
    else some (world.enter call (.done none))

def commitInsert (name : Name) (now expires : Int) : World Owner Name Call :=
  match world.rows name with
  | none =>
    let row := BackgroundTaskLease.first ownerId now expires
    (world.grant name row).enter call (.done (some row.hold))
  | some _ => world.enter call (.done none)

def commitClaim (name : Name) (now expires : Int) (row : BackgroundTaskLease Owner) : World Owner Name Call :=
  match row.claim ownerId now expires with
  | some claimed => ((world.grant name claimed).unlock name).enter call (.done (some claimed.hold))
  | none => (world.unlock name).enter call (.done none)

end World

def leases (request : Call → Request Owner Name) : StepSystem (World Owner Name Call) (Action Call) where
  step world
    | .tick instant => if world.clock ≤ instant then some { world with clock := instant } else none
    | .start call =>
      match request call, world.phase call with
      | .claim _ _ _, .idle => some (world.enter call (.started world.clock))
      | _, _ => none
    | .select call =>
      match request call, world.phase call with
      | .claim _ name _, .started now => world.selectClaim call name now
      | .release ownerId name, .idle => world.selectRelease call ownerId name
      | _, _ => none
    | .commit call =>
      match request call, world.phase call with
      | .claim ownerId name ttlSeconds, .missing now =>
        some (world.commitInsert call ownerId name now (now + ttlSeconds))
      | .claim ownerId name ttlSeconds, .found now row =>
        some (world.commitClaim call ownerId name now (now + ttlSeconds) row)
      | .release ownerId name, .releasing _ =>
        some (((world.remove name ownerId).unlock name).enter call (.done none))
      | _, _ => none
    | .abort call =>
      match world.phase call with
      | .started _ | .missing _ => some (world.enter call .failed)
      | .found _ _ | .releasing _ => some ((world.unlock (request call).name).enter call .failed)
      | _ => none

variable {request : Call → Request Owner Name} {world next : World Owner Name Call}
variable {actions : List (Action Call)}

variable (request world) in
/-- What each action does, by the request of its call. -/
inductive Stepped :
    Action Call → World Owner Name Call → Prop where
  | ticked {instant : Int} (later : world.clock ≤ instant) :
      Stepped (.tick instant) { world with clock := instant }
  | started {call : Call} {ownerId : Owner} {name : Name} {ttlSeconds : Int}
      (asked : request call = .claim ownerId name ttlSeconds) (idle : world.phase call = .idle) :
      Stepped (.start call) (world.enter call (.started world.clock))
  | missed {call : Call} {ownerId : Owner} {name : Name} {ttlSeconds now : Int}
      (asked : request call = .claim ownerId name ttlSeconds) (started : world.phase call = .started now) :
      Stepped (.select call) (world.enter call (.missing now))
  | found {call : Call} {ownerId : Owner} {name : Name} {ttlSeconds now : Int} {row : BackgroundTaskLease Owner}
      (asked : request call = .claim ownerId name ttlSeconds) (started : world.phase call = .started now)
      (present : world.rows name = some row) (free : world.locks name = none) :
      Stepped (.select call) ((world.lock name call).enter call (.found now row))
  | unowned {call : Call} {ownerId : Owner} {name : Name}
      (asked : request call = .release ownerId name) (idle : world.phase call = .idle) :
      Stepped (.select call) (world.enter call (.done none))
  | owned {call : Call} {ownerId : Owner} {name : Name} {row : BackgroundTaskLease Owner}
      (asked : request call = .release ownerId name) (idle : world.phase call = .idle)
      (present : world.rows name = some row) (owns : row.ownerId = ownerId) (free : world.locks name = none) :
      Stepped (.select call) ((world.lock name call).enter call (.releasing row))
  | inserted {call : Call} {ownerId : Owner} {name : Name} {ttlSeconds now : Int}
      (asked : request call = .claim ownerId name ttlSeconds) (missing : world.phase call = .missing now)
      (absent : world.rows name = none) :
      Stepped (.commit call)
        ((world.grant name (.first ownerId now (now + ttlSeconds))).enter call
          (.done (some (BackgroundTaskLease.first ownerId now (now + ttlSeconds)).hold)))
  | rejected {call : Call} {ownerId : Owner} {name : Name} {ttlSeconds now : Int}
      (asked : request call = .claim ownerId name ttlSeconds) (missing : world.phase call = .missing now) :
      Stepped (.commit call) (world.enter call (.done none))
  | claimed {call : Call} {ownerId : Owner} {name : Name} {ttlSeconds now : Int}
      {row claimed : BackgroundTaskLease Owner}
      (asked : request call = .claim ownerId name ttlSeconds) (found : world.phase call = .found now row)
      (claims : row.claim ownerId now (now + ttlSeconds) = some claimed) :
      Stepped (.commit call)
        (((world.grant name claimed).unlock name).enter call (.done (some claimed.hold)))
  | refused {call : Call} {ownerId : Owner} {name : Name} {ttlSeconds now : Int} {row : BackgroundTaskLease Owner}
      (asked : request call = .claim ownerId name ttlSeconds) (found : world.phase call = .found now row)
      (refuses : row.claim ownerId now (now + ttlSeconds) = none) :
      Stepped (.commit call) ((world.unlock name).enter call (.done none))
  | released {call : Call} {ownerId : Owner} {name : Name} {row : BackgroundTaskLease Owner}
      (asked : request call = .release ownerId name) (releasing : world.phase call = .releasing row) :
      Stepped (.commit call) (((world.remove name ownerId).unlock name).enter call (.done none))
  | abandoned {call : Call} :
      Stepped (.abort call) (world.enter call .failed)
  | unlocked {call : Call} (locked : (∃ now row, world.phase call = .found now row) ∨
        ∃ row, world.phase call = .releasing row) :
      Stepped (.abort call) ((world.unlock (request call).name).enter call .failed)

variable {call : Call} {ownerId : Owner} {now ttlSeconds : Int} {phase : Phase Owner}
variable {claimed : BackgroundTaskLease Owner}

section

variable {name : Name} (asked : request call = .claim ownerId name ttlSeconds)
include asked

theorem selectClaim_stepped (started : world.phase call = .started now)
    (stepped : world.selectClaim call name now = some next) : Stepped request world (.select call) next := by
  unfold World.selectClaim at stepped
  cases present : world.rows name with
  | none =>
    rw [present] at stepped
    cases stepped
    exact .missed asked started
  | some =>
    simp only [present, ite_none_right_eq_some, some.injEq] at stepped
    obtain ⟨free, rfl⟩ := stepped
    exact .found asked started present free

omit asked in
theorem selectRelease_stepped {name : Name}
    (asked : request call = .release ownerId name) (idle : world.phase call = .idle)
    (stepped : world.selectRelease call ownerId name = some next) : Stepped request world (.select call) next := by
  unfold World.selectRelease at stepped
  cases present : world.rows name with
  | none =>
    rw [present] at stepped
    cases stepped
    exact .unowned asked idle
  | some row =>
    simp only [present] at stepped
    by_cases owns : row.ownerId = ownerId
    · simp only [if_pos owns, ite_none_right_eq_some, some.injEq] at stepped
      obtain ⟨free, rfl⟩ := stepped
      exact .owned asked idle present owns free
    · rw [if_neg owns] at stepped
      cases stepped
      exact .unowned asked idle

theorem commitInsert_stepped (missing : world.phase call = .missing now) :
    Stepped request world (.commit call) (world.commitInsert call ownerId name now (now + ttlSeconds)) := by
  unfold World.commitInsert
  cases present : world.rows name with
  | none => exact .inserted asked missing present
  | some => exact .rejected asked missing

theorem commitClaim_stepped (found : world.phase call = .found now row) :
    Stepped request world (.commit call) (world.commitClaim call ownerId name now (now + ttlSeconds) row) := by
  unfold World.commitClaim
  cases claims : row.claim ownerId now (now + ttlSeconds) with
  | none => exact .refused asked found claims
  | some claimed => exact .claimed asked found claims

end

theorem leases_stepped (stepped : (leases request).step world action = some next) :
    Stepped request world action next := by
  cases action with
  | tick =>
    simp only [leases, ite_none_right_eq_some, some.injEq] at stepped
    obtain ⟨later, rfl⟩ := stepped
    exact .ticked later
  | start =>
    simp only [leases] at stepped
    split at stepped <;> cases stepped
    case h_1 asked idle => exact .started asked idle
  | select =>
    simp only [leases] at stepped
    split at stepped
    case h_1 asked started => exact selectClaim_stepped asked started stepped
    case h_2 asked idle => exact selectRelease_stepped asked idle stepped
    case h_3 => cases stepped
  | commit =>
    simp only [leases] at stepped
    split at stepped <;> cases stepped
    case h_1 asked missing => exact commitInsert_stepped asked missing
    case h_2 asked found => exact commitClaim_stepped asked found
    case h_3 asked releasing => exact .released asked releasing
  | abort =>
    simp only [leases] at stepped
    split at stepped <;> cases stepped
    case h_1 | h_2 => exact .abandoned
    case h_3 now row found => exact .unlocked (.inl ⟨now, row, found⟩)
    case h_4 row releasing => exact .unlocked (.inr ⟨row, releasing⟩)

def Phase.now? : Phase Owner → Option Int
  | .started now | .missing now | .found now _ => some now
  | _ => none

def Phase.row? : Phase Owner → Option (BackgroundTaskLease Owner)
  | .found _ row | .releasing row => some row
  | _ => none

/-- A call with a row in hand holds its lock, and the row is the table's. -/
structure Coherent (request : Call → Request Owner Name) (world : World Owner Name Call) : Prop where
  read : ∀ call now, (world.phase call).now? = some now → now ≤ world.clock
  locked : ∀ call row, (world.phase call).row? = some row →
    world.locks (request call).name = some call ∧ world.rows (request call).name = some row
  owned : ∀ call ownerId name row, request call = .release ownerId name →
    world.phase call = .releasing row → row.ownerId = ownerId

/-- No other call has the row of this name in hand. -/
def Alone (request : Call → Request Owner Name) (world : World Owner Name Call) (call : Call) (name : Name) : Prop :=
  ∀ other row, other ≠ call → (world.phase other).row? = some row → (request other).name ≠ name

section Coherent

omit [DecidableEq Owner] [DecidableEq Name] [DecidableEq Call]

variable {name : Name}

section

variable (coherent : Coherent request world)
include coherent

theorem Coherent.alone_of_locks
    (lock : ∀ other, world.locks name = some other → other = call) : Alone request world call name := by
  intro other row different selected same
  subst same
  exact different (lock other (coherent.locked other row selected).1)

theorem Coherent.alone_of_selected (asked : (request call).name = name)
    (selected : (world.phase call).row? = some row) : Alone request world call name := by
  apply coherent.alone_of_locks
  intro other locked
  subst asked
  rw [(coherent.locked call row selected).1] at locked
  exact (some.inj locked).symm

theorem Coherent.alone_of_absent (absent : world.rows name = none) : Alone request world call name := by
  intro other row different selected same
  subst same
  have present := (coherent.locked other row selected).2
  rw [absent] at present
  cases present

theorem Coherent.selected_row (asked : (request call).name = name)
    (selected : (world.phase call).row? = some row) : world.rows name = some row :=
  asked ▸ (coherent.locked call row selected).2

end

variable [DecidableEq Call]

section

variable (coherent : Coherent request world) (clock : next.clock = world.clock)
  (phases : next.phase = update world.phase call phase)
  (kept : ∀ other row, other ≠ call → (world.phase other).row? = some row →
    next.locks (request other).name = world.locks (request other).name ∧
    next.rows (request other).name = world.rows (request other).name)
  (read : ∀ now, phase.now? = some now → now ≤ world.clock)
include coherent clock phases kept read

/-- A call moves on and leaves the rows that other calls have selected alone. -/
theorem Coherent.moved
    (locked : ∀ row, phase.row? = some row →
      next.locks (request call).name = some call ∧ next.rows (request call).name = some row)
    (owned : ∀ ownerId name row, request call = .release ownerId name → phase = .releasing row →
      row.ownerId = ownerId) : Coherent request next := by
  refine ⟨?_, ?_, ?_⟩ <;> rw [phases]
  · rw [clock]
    exact (forall_update_iff world.phase fun _ phase =>
      ∀ now, phase.now? = some now → now ≤ world.clock).mpr ⟨read, fun other _ => coherent.read other⟩
  · refine (forall_update_iff world.phase fun other phase => ∀ row, phase.row? = some row →
      next.locks (request other).name = some other ∧ next.rows (request other).name = some row).mpr ⟨locked, ?_⟩
    intro other different row selected
    obtain ⟨locks, rows⟩ := kept other row different selected
    rw [locks, rows]
    exact coherent.locked other row selected
  · exact (forall_update_iff world.phase fun other phase => ∀ ownerId name row,
      request other = .release ownerId name → phase = .releasing row → row.ownerId = ownerId).mpr
      ⟨owned, fun other _ => coherent.owned other⟩

theorem Coherent.moved_off (unlocked : phase.row? = none) : Coherent request next := by
  refine coherent.moved clock phases kept read (fun row selected => ?_) (fun _ _ row _ releasing => ?_)
  · rw [unlocked] at selected
    cases selected
  · rw [releasing] at unlocked
    cases unlocked

end

/-- A call ends and writes no row or lock but those of a name that no other call has selected. -/
theorem Coherent.settled (coherent : Coherent request world) (alone : Alone request world call name)
    (clock : next.clock = world.clock) (phases : next.phase = update world.phase call phase)
    (elsewhere : ∀ other, other ≠ name → next.locks other = world.locks other ∧ next.rows other = world.rows other)
    (silent : phase.now? = none) (unlocked : phase.row? = none) : Coherent request next := by
  refine coherent.moved_off clock phases (fun other row different selected => ?_) (fun now reads => ?_) unlocked
  · exact elsewhere _ (alone other row different selected)
  · rw [silent] at reads
    cases reads

theorem Coherent.enter (coherent : Coherent request world)
    (read : ∀ now, phase.now? = some now → now ≤ world.clock) (unlocked : phase.row? = none) :
    Coherent request (world.enter call phase) :=
  coherent.moved_off rfl rfl (fun _ _ _ _ => ⟨rfl, rfl⟩) read unlocked

variable [DecidableEq Name]

theorem Coherent.select (coherent : Coherent request world) (asked : (request call).name = name)
    (present : world.rows name = some row) (free : world.locks name = none)
    (read : ∀ now, phase.now? = some now → now ≤ world.clock) (selects : phase.row? = some row)
    (owned : ∀ ownerId name row, request call = .release ownerId name → phase = .releasing row →
      row.ownerId = ownerId) :
    Coherent request ((world.lock name call).enter call phase) := by
  have alone : Alone request world call name := by
    apply coherent.alone_of_locks
    intro other locked
    rw [free] at locked
    cases locked
  refine coherent.moved rfl rfl (fun other row different selected => ⟨?_, rfl⟩) read (fun found selected => ?_) owned
  · exact update_of_ne (alone other row different selected) _ _
  · rw [selects] at selected
    cases selected
    subst asked
    exact ⟨update_self _ _ _, present⟩

end Coherent

theorem Coherent.step (coherent : Coherent request world)
    (stepped : (leases request).step world action = some next) : Coherent request next := by
  cases leases_stepped stepped with
  | ticked later =>
    exact ⟨fun call now reads => Int.le_trans (coherent.read call now reads) later, coherent.locked, coherent.owned⟩
  | started =>
    apply coherent.enter (fun now reads => ?_) rfl
    cases reads
    exact Int.le_refl _
  | @missed call ownerId name ttlSeconds now asked started =>
    apply coherent.enter (fun _ reads => ?_) rfl
    cases reads
    exact coherent.read call now (by rw [started]; rfl)
  | @found call ownerId name ttlSeconds now row asked started present free =>
    refine coherent.select (by rw [asked]; rfl) present free (fun _ reads => ?_) rfl (fun _ _ _ _ releasing => ?_)
    · cases reads
      exact coherent.read call now (by rw [started]; rfl)
    · cases releasing
  | unowned | rejected | abandoned => exact coherent.enter (fun _ reads => by cases reads) rfl
  | owned asked idle present owns free =>
    refine coherent.select (by rw [asked]; rfl) present free (fun _ reads => by cases reads) rfl ?_
    intro ownerId name row asks releasing
    rw [asked] at asks
    cases asks
    cases releasing
    exact owns
  | inserted asked missing absent =>
    exact coherent.settled (coherent.alone_of_absent absent) rfl rfl
      (fun _ different => ⟨rfl, update_of_ne different _ _⟩) rfl rfl
  | claimed asked found =>
    exact coherent.settled (coherent.alone_of_selected (by rw [asked]; rfl) (by rw [found]; rfl)) rfl rfl
      (fun _ different => ⟨update_of_ne different _ _, update_of_ne different _ _⟩) rfl rfl
  | refused asked found =>
    exact coherent.settled (coherent.alone_of_selected (by rw [asked]; rfl) (by rw [found]; rfl)) rfl rfl
      (fun _ different => ⟨update_of_ne different _ _, rfl⟩) rfl rfl
  | released asked releasing =>
    exact coherent.settled (coherent.alone_of_selected (by rw [asked]; rfl) (by rw [releasing]; rfl)) rfl rfl
      (fun _ different => ⟨update_of_ne different _ _, update_of_ne different _ _⟩) rfl rfl
  | @unlocked call locked =>
    have selected : ∃ row, (world.phase call).row? = some row := by
      rcases locked with ⟨now, row, found⟩ | ⟨row, releasing⟩
      · exact ⟨row, by rw [found]; rfl⟩
      · exact ⟨row, by rw [releasing]; rfl⟩
    obtain ⟨_, selected⟩ := selected
    exact coherent.settled (coherent.alone_of_selected rfl selected) rfl rfl
      (fun _ different => ⟨update_of_ne different _ _, rfl⟩) rfl rfl

/-- The table's row vouches for a hold that has not expired. -/
def World.Covers (world : World Owner Name Call) (name : Name) (hold : LeaseHold Owner) : Prop :=
  world.clock < hold.expiresAt →
    ∃ row, world.rows name = some row ∧ row.ownerId = hold.ownerId ∧ hold.expiresAt ≤ row.expiresAt

section Covers

omit [DecidableEq Owner] [DecidableEq Name] [DecidableEq Call]

variable {name : Name} {row : BackgroundTaskLease Owner}

theorem World.Covers.of_expired (expired : hold.expiresAt ≤ world.clock) : world.Covers name hold :=
  fun unexpired => absurd unexpired (Int.not_lt.mpr expired)

theorem World.Covers.of_row (present : world.rows name = some row) : world.Covers name row.hold :=
  fun _ => ⟨row, present, rfl, Int.le_refl _⟩

theorem World.Covers.frame (covers : world.Covers name hold) (clock : world.clock ≤ next.clock)
    (rows : next.rows name = world.rows name) : next.Covers name hold := by
  intro unexpired
  rw [rows]
  exact covers (Int.lt_of_le_of_lt clock unexpired)

theorem World.Covers.expired_of_absent (covers : world.Covers name hold) (absent : world.rows name = none) :
    hold.expiresAt ≤ world.clock := by
  apply Int.not_lt.mp
  intro unexpired
  obtain ⟨_, present, _⟩ := covers unexpired
  rw [absent] at present
  cases present

theorem World.Covers.expired_of_row (covers : world.Covers name hold) (present : world.rows name = some row)
    (lapsed : row.ownerId ≠ hold.ownerId ∨ row.expiresAt ≤ world.clock) : hold.expiresAt ≤ world.clock := by
  apply Int.not_lt.mp
  intro unexpired
  obtain ⟨_, same, owner, _⟩ := covers unexpired
  rw [present] at same
  cases same
  cases lapsed with
  | inl different => exact different owner
  | inr => omega

/-- Two unexpired holds that are covered are the same owner's. -/
theorem World.Covers.exclusive (oneCovers : world.Covers name one)
    (otherCovers : world.Covers name other) (oneUnexpired : world.clock < one.expiresAt)
    (otherUnexpired : world.clock < other.expiresAt) : one.ownerId = other.ownerId := by
  obtain ⟨_, present, oneOwns, _⟩ := oneCovers oneUnexpired
  obtain ⟨_, same, otherOwns, _⟩ := otherCovers otherUnexpired
  rw [present] at same
  cases same
  exact oneOwns.symm.trans otherOwns

end Covers

variable (request : Call → Request Owner Name) (world : World Owner Name Call) (name : Name) (ownerId : Owner) in
/-- The commits after which the owner's earlier holds on the name no longer count. -/
inductive GivesUp : Action Call → Prop where
  | renews {call : Call} {ttlSeconds now : Int} {row : BackgroundTaskLease Owner}
      (asked : request call = .claim ownerId name ttlSeconds) (found : world.phase call = .found now row)
      (owns : row.ownerId = ownerId) : GivesUp (.commit call)
  | releases {call : Call} (asked : request call = .release ownerId name) :
      GivesUp (.commit call)

omit [DecidableEq Name] [DecidableEq Call] in
/-- The row that a claim writes covers what the old row covered, or the claim renews the owner's own hold. -/
theorem claim_covers {name : Name} {hold : LeaseHold Owner}
    {row : BackgroundTaskLease Owner} (asked : request call = .claim ownerId name ttlSeconds)
    (found : world.phase call = .found now row) (read : now ≤ world.clock) (present : world.rows name = some row)
    (claims : row.claim ownerId now (now + ttlSeconds) = some claimed) (covers : world.Covers name hold)
    (clock : next.clock = world.clock) :
    next.Covers name hold ∨ GivesUp request world name hold.ownerId (.commit call) := by
  by_cases owns : row.ownerId = ownerId
  · by_cases mine : row.ownerId = hold.ownerId
    · subst owns
      exact .inr (.renews (mine ▸ asked) found mine)
    · exact .inl (.of_expired (clock ▸ covers.expired_of_row present (.inl mine)))
  · simp only [BackgroundTaskLease.claim, owns] at claims
    have lapsed : row.expiresAt ≤ now := by
      apply Decidable.byContradiction
      intro live
      rw [if_neg live] at claims
      cases claims
    exact .inl (.of_expired (clock ▸ covers.expired_of_row present (.inr (Int.le_trans lapsed read))))

theorem World.Covers.step {name : Name} {hold : LeaseHold Owner} (coherent : Coherent request world)
    (covers : world.Covers name hold) (stepped : Stepped request world action next) :
    next.Covers name hold ∨ GivesUp request world name hold.ownerId action := by
  cases stepped
  case ticked later => exact .inl (covers.frame later rfl)
  case inserted inserted ttlSeconds now asked missing absent =>
    by_cases same : name = inserted
    · subst same
      exact .inl (.of_expired (covers.expired_of_absent absent))
    · exact .inl (covers.frame (Int.le_refl _) (update_of_ne same _ _))
  case claimed call ownerId written ttlSeconds now row claimed asked found claims =>
    by_cases same : name = written
    · subst same
      have read : now ≤ world.clock := coherent.read call now (by rw [found]; rfl)
      have present : world.rows name = some row := coherent.selected_row (by rw [asked]; rfl) (by rw [found]; rfl)
      exact claim_covers asked found read present claims covers rfl
    · exact .inl (covers.frame (Int.le_refl _) (update_of_ne same _ _))
  case released call ownerId removed row asked releasing =>
    by_cases same : name = removed
    · subst same
      have present : world.rows name = some row := coherent.selected_row (by rw [asked]; rfl) (by rw [releasing]; rfl)
      have owner := coherent.owned call ownerId name row asked releasing
      by_cases mine : row.ownerId = hold.ownerId
      · rw [← mine, owner]
        exact .inr (.releases asked)
      · exact .inl (.of_expired (covers.expired_of_row present (.inl mine)))
    · exact .inl (covers.frame (Int.le_refl _) (update_of_ne same _ _))
  all_goals exact .inl (covers.frame (Int.le_refl _) rfl)

section

variable {row : BackgroundTaskLease Owner} (claims : row.claim ownerId now expires = some claimed)
include claims

theorem claim_cases : (row.ownerId = ownerId ∧ claimed = { row with heartbeatAt := now, expiresAt := expires }) ∨
      claimed = ⟨ownerId, now, now, expires, row.fence + 1⟩ := by
  unfold BackgroundTaskLease.claim at claims
  by_cases owns : row.ownerId = ownerId
  · rw [if_pos owns] at claims
    exact .inl ⟨owns, (some.inj claims).symm⟩
  · by_cases lapsed : row.expiresAt ≤ now
    · rw [if_neg owns, if_pos lapsed] at claims
      exact .inr (some.inj claims).symm
    · rw [if_neg owns, if_neg lapsed] at claims
      cases claims

theorem claim_ownerId : claimed.ownerId = ownerId := by
  rcases claim_cases claims with ⟨owns, rfl⟩ | rfl
  · exact owns
  · rfl

end

theorem holds_cases (stepped : Stepped request world action next) :
    (next.holds = world.holds ∧ ∀ name ownerId, ¬GivesUp request world name ownerId action) ∨
    (∃ call ownerId name ttlSeconds row, action = .commit call ∧ request call = .claim ownerId name ttlSeconds ∧
      row.ownerId = ownerId ∧ next.rows name = some row ∧ next.holds = (name, row.hold) :: world.holds) ∨
    ∃ call ownerId name, action = .commit call ∧ request call = .release ownerId name ∧
      next.holds = world.holds.filter fun held => ¬(held.1 = name ∧ held.2.ownerId = ownerId) := by
  cases stepped
  case inserted call ownerId name ttlSeconds now asked missing absent =>
    exact .inr (.inl ⟨call, ownerId, name, ttlSeconds, _, rfl, asked, rfl, update_self _ _ _, rfl⟩)
  case rejected asked missing =>
    refine .inl ⟨rfl, fun name ownerId givesUp => ?_⟩
    cases givesUp with
    | renews _ found => simp [missing] at found
    | releases releases => simp [asked] at releases
  case claimed call ownerId name ttlSeconds now row claimed asked found claims =>
    exact .inr (.inl ⟨call, ownerId, name, ttlSeconds, claimed, rfl, asked, claim_ownerId claims,
      update_self _ _ _, rfl⟩)
  case refused ownerId name ttlSeconds now row asked found refuses =>
    have foreign : row.ownerId ≠ ownerId := by
      intro owns
      simp [BackgroundTaskLease.claim, owns] at refuses
    refine .inl ⟨rfl, fun name ownerId givesUp => ?_⟩
    cases givesUp with
    | renews asks finds owns =>
      rw [asked] at asks
      cases asks
      rw [found] at finds
      cases finds
      exact foreign owns
    | releases releases => simp [asked] at releases
  case released call ownerId name row asked releasing => exact .inr (.inr ⟨call, ownerId, name, rfl, asked, rfl⟩)
  all_goals exact .inl ⟨rfl, fun _ _ givesUp => by cases givesUp⟩

variable {rows : Name → Option (BackgroundTaskLease Owner)}

omit [DecidableEq Owner] [DecidableEq Name] [DecidableEq Call] in
theorem Coherent.fresh {clock : Int} : Coherent request (World.fresh rows clock) where
  read _ _ reads := by cases reads
  locked _ _ selected := by cases selected
  owned _ _ _ _ _ releasing := by cases releasing

def contenders : Nat → Request String String
  | 0 | 1 => .claim "a" "background_runner" 30
  | 2 => .claim "b" "background_runner" 30
  | _ => .release "a" "background_runner"

def renewing : List (Action Nat) :=
  [.start 0, .select 0, .commit 0, .tick 10, .start 1, .select 1, .commit 1, .start 2, .select 2, .commit 2]

def World.latest (world : World Owner Name Call) (name : Name) (ownerId : Owner) : Option (LeaseHold Owner) :=
  (world.holds.find? fun held => held.1 = name ∧ held.2.ownerId = ownerId).map Prod.snd

/-- The table's rows cover the latest hold of each owner. -/
structure LatestCovered (request : Call → Request Owner Name) (world : World Owner Name Call) : Prop where
  coherent : Coherent request world
  covers : ∀ name ownerId hold, world.latest name ownerId = some hold → world.Covers name hold

omit [DecidableEq Call] in
theorem latest_ownerId {name : Name} {hold : LeaseHold Owner}
    (latest : world.latest name ownerId = some hold) : hold.ownerId = ownerId := by
  obtain ⟨_, found, same⟩ := map_eq_some_iff.mp latest
  have matched := find?_some found
  subst same
  simp only [decide_eq_true_eq] at matched
  exact matched.2

theorem LatestCovered.step (covered : LatestCovered request world)
    (stepped : (leases request).step world action = some next) : LatestCovered request next := by
  refine ⟨covered.coherent.step stepped, fun name ownerId hold latest => ?_⟩
  have stepped := leases_stepped stepped
  have kept : world.latest name ownerId = some hold → ¬GivesUp request world name ownerId action →
      next.Covers name hold := by
    intro before keeps
    rw [← latest_ownerId before] at keeps
    exact ((covered.covers name ownerId hold before).step covered.coherent stepped).resolve_right keeps
  obtain ⟨holds, none⟩ | ⟨call, _, written, _, row, commits, asked, owner, present, holds⟩ |
    ⟨call, remover, removed, commits, asked, holds⟩ := holds_cases stepped
  · simp only [World.latest, holds] at latest
    exact kept latest (none name ownerId)
  · simp only [World.latest, holds, find?_cons] at latest
    by_cases same : written = name ∧ row.hold.ownerId = ownerId
    · simp only [same, and_self, decide_true, map_some, some.injEq] at latest
      subst latest
      rw [same.1] at present
      exact .of_row present
    · simp only [same] at latest
      apply kept latest
      intro givesUp
      subst commits
      cases givesUp with
      | renews renews =>
        rw [asked] at renews
        cases renews
        exact same ⟨rfl, owner⟩
      | releases releases => simp [asked] at releases
  · by_cases same : name = removed ∧ ownerId = remover
    · rw [same.1, same.2] at latest
      obtain ⟨_, found, _⟩ := map_eq_some_iff.mp latest
      have matched := find?_some found
      have remains := mem_of_find?_eq_some found
      rw [holds, mem_filter] at remains
      simp only [decide_eq_true_eq] at matched remains
      exact absurd matched remains.2
    · refine kept ?_ ?_
      · rw [← latest, World.latest, World.latest, holds, find?_filter]
        congr 2
        funext held
        by_cases matched : held.1 = name ∧ held.2.ownerId = ownerId
        · simp [matched, same]
        · simp [matched]
      · intro givesUp
        subst commits
        cases givesUp with
        | renews renews => simp [asked] at renews
        | releases releases =>
          rw [asked] at releases
          cases releases
          exact same ⟨rfl, rfl⟩

/-- However the calls overlap, no two owners have an unexpired and unreleased hold
on one name if for each owner the hold counts that it was given last. -/
theorem latest_hold_exclusion {name : Name}
    (ran : (leases request).run (.fresh rows clock) actions = some world)
    (oneHeld : world.latest name one = some oneHold) (otherHeld : world.latest name other = some otherHold)
    (oneUnexpired : world.clock < oneHold.expiresAt) (otherUnexpired : world.clock < otherHold.expiresAt) :
    one = other := by
  have covered : LatestCovered request world :=
    StepSystem.invariant_run LatestCovered.step ⟨.fresh, fun _ _ _ latest => by cases latest⟩ ran
  rw [← latest_ownerId oneHeld, ← latest_ownerId otherHeld]
  exact (covered.covers name one oneHold oneHeld).exclusive (covered.covers name other otherHold otherHeld)
    oneUnexpired otherUnexpired

theorem latest_hold_exclusion_of_renewing :
    ∃ world hold, (leases contenders).run (.fresh (fun _ => none) 0) renewing = some world ∧
      world.latest "background_runner" "a" = some hold ∧ world.clock < hold.expiresAt ∧
      ∀ other held, world.latest "background_runner" other = some held → world.clock < held.expiresAt → "a" = other :=
  ⟨_, _, rfl, rfl, by decide, fun _ _ latest => latest_hold_exclusion
    (rfl : (leases contenders).run (.fresh (fun _ => none) 0) renewing = some _) rfl latest (by decide)⟩

/-- The claims of one owner on one name do not overlap: one at most is under way. -/
def Sequential (request : Call → Request Owner Name) (world : World Owner Name Call) : Prop :=
  ∀ one other ownerId name oneTtl otherTtl oneNow otherNow,
    request one = .claim ownerId name oneTtl → request other = .claim ownerId name otherTtl →
      (world.phase one).now? = some oneNow → (world.phase other).now? = some otherNow → one = other

/-- Of an owner's holds on a name none ends later than a newer one, nor than the
one that a claim under way asks for. -/
structure Sequenced (request : Call → Request Owner Name) (ttl : Owner → Name → Int)
    (world : World Owner Name Call) : Prop where
  given : ∀ {name hold}, (name, hold) ∈ world.holds → hold.expiresAt ≤ world.clock + ttl hold.ownerId name
  awaited : ∀ {name hold call ttlSeconds now}, (name, hold) ∈ world.holds →
    request call = .claim hold.ownerId name ttlSeconds → (world.phase call).now? = some now →
      hold.expiresAt ≤ now + ttl hold.ownerId name
  ordered : world.holds.Pairwise fun newer older => newer.1 = older.1 → newer.2.ownerId = older.2.ownerId →
    older.2.expiresAt ≤ newer.2.expiresAt

section Sequenced

variable {ttl : Owner → Name → Int} {name : Name} (sequenced : Sequenced request ttl world)

omit [DecidableEq Owner] [DecidableEq Name] in
theorem now?_update (phases : next.phase = update world.phase call phase)
    (kept : ∀ now, phase.now? = some now → (world.phase call).now? = some now) :
    ∀ other now, (next.phase other).now? = some now → (world.phase other).now? = some now := by
  rw [phases]
  exact (forall_update_iff world.phase fun other phase =>
    ∀ now, phase.now? = some now → (world.phase other).now? = some now).mpr ⟨kept, fun _ _ _ reads => reads⟩

include sequenced

omit [DecidableEq Owner] [DecidableEq Name] [DecidableEq Call] in
/-- No call has a new reading and no hold is given. -/
theorem Sequenced.moved (clock : world.clock ≤ next.clock) (holds : next.holds.Sublist world.holds)
    (reads : ∀ other now, (next.phase other).now? = some now → (world.phase other).now? = some now) :
    Sequenced request ttl next where
  given member := Int.le_trans (sequenced.given (holds.subset member)) (Int.add_le_add_right clock _)
  awaited member asked reading := sequenced.awaited (holds.subset member) asked (reads _ _ reading)
  ordered := sequenced.ordered.sublist holds

omit [DecidableEq Owner] [DecidableEq Name] in
theorem Sequenced.started : Sequenced request ttl (world.enter call (.started world.clock)) := by
  refine ⟨sequenced.given, fun {_ _ other _ _} member asked reading => ?_, sequenced.ordered⟩
  by_cases same : other = call
  · simp only [World.enter, same, update_self, Phase.now?, some.injEq] at reading
    exact reading ▸ sequenced.given member
  · exact sequenced.awaited member asked (by simpa only [World.enter, update_of_ne same] using reading)

omit [DecidableEq Owner] [DecidableEq Name] in
theorem Sequenced.granted {row : BackgroundTaskLease Owner} (sequential : Sequential request world)
    (asked : request call = .claim row.ownerId name ttlSeconds) (timed : ttlSeconds = ttl row.ownerId name)
    (reading : (world.phase call).now? = some now) (read : now ≤ world.clock)
    (expires : row.expiresAt = now + ttlSeconds) (clock : next.clock = world.clock)
    (holds : next.holds = (name, row.hold) :: world.holds)
    (phases : next.phase = update world.phase call (.done result)) : Sequenced request ttl next := by
  have reads := now?_update phases (fun _ reading => by cases reading)
  rw [timed] at expires
  refine ⟨fun {_ _} member => ?_, fun {_ _ other _ _} member otherAsked otherReads => ?_, ?_⟩
  · rw [holds] at member
    rw [clock]
    cases member with
    | head => exact Int.le_trans (Int.le_of_eq expires) (Int.add_le_add_right read _)
    | tail _ member => exact sequenced.given member
  · rw [holds] at member
    cases member with
    | head =>
        obtain rfl := sequential call other _ _ _ _ _ _ asked otherAsked reading (reads _ _ otherReads)
        rw [phases, update_self] at otherReads
        cases otherReads
    | tail _ member => exact sequenced.awaited member otherAsked (reads _ _ otherReads)
  · rw [holds, pairwise_cons]
    refine ⟨?_, sequenced.ordered⟩
    rintro ⟨_, hold⟩ member ⟨⟩ (sameOwner : row.ownerId = hold.ownerId)
    rw [sameOwner] at asked expires
    exact Int.le_trans (sequenced.awaited member asked reading) (Int.le_of_eq expires.symm)

omit sequenced in
theorem Sequenced.step
    (timed : ∀ call ownerId name ttlSeconds, request call = .claim ownerId name ttlSeconds →
      ttlSeconds = ttl ownerId name)
    (sequential : Sequential request world) (holds : Coherent request world ∧ Sequenced request ttl world)
    (stepped : (leases request).step world action = some next) :
    Coherent request next ∧ Sequenced request ttl next := by
  obtain ⟨coherent, sequenced⟩ := holds
  refine ⟨coherent.step stepped, ?_⟩
  cases leases_stepped stepped with
  | ticked later => exact sequenced.moved later (.refl _) fun _ _ reads => reads
  | started => exact sequenced.started
  | missed _ started | found _ started =>
      refine sequenced.moved (Int.le_refl _) (.refl _) (now?_update rfl fun _ reads => ?_)
      rwa [started]
  | unowned | owned | rejected | refused | abandoned | unlocked =>
      exact sequenced.moved (Int.le_refl _) (.refl _) (now?_update rfl nofun)
  | released => exact sequenced.moved (Int.le_refl _) filter_sublist (now?_update rfl nofun)
  | @inserted call _ _ _ now asked missing =>
      have reading : (world.phase call).now? = some now := by rw [missing]; rfl
      exact sequenced.granted sequential asked (timed _ _ _ _ asked) reading (coherent.read call now reading)
        rfl rfl rfl rfl
  | @claimed call _ _ _ now _ claimed asked found claims =>
      have reading : (world.phase call).now? = some now := by rw [found]; rfl
      obtain rfl := claim_ownerId claims
      refine sequenced.granted sequential asked (timed _ _ _ _ asked) reading (coherent.read call now reading)
        ?_ rfl rfl rfl
      rcases claim_cases claims with ⟨_, same⟩ | same <;> exact congrArg BackgroundTaskLease.expiresAt same

omit [DecidableEq Call] in
/-- A hold ends no later than the one that its owner was given last. -/
theorem Sequenced.latest {hold : LeaseHold Owner} (member : (name, hold) ∈ world.holds) :
    ∃ latest, world.latest name hold.ownerId = some latest ∧ hold.expiresAt ≤ latest.expiresAt := by
  have ordered := sequenced.ordered
  rw [World.latest]
  generalize world.holds = holds at member ordered
  induction holds with
  | nil => cases member
  | cons newer rest ih =>
      rw [pairwise_cons] at ordered
      by_cases same : newer.1 = name ∧ newer.2.ownerId = hold.ownerId
      · refine ⟨newer.2, by simp [same], ?_⟩
        cases member with
        | head => exact Int.le_refl _
        | tail _ member => exact ordered.1 _ member same.1 same.2
      · rw [find?_cons_of_neg (by simpa using same)]
        refine ih ?_ ordered.2
        cases member with
        | head => exact absurd ⟨rfl, rfl⟩ same
        | tail _ member => exact member

omit sequenced in
/-- Where the claims of one owner on a name follow each other and ask for the same
time, no two owners ever have an unexpired and unreleased hold on one name. -/
theorem lease_exclusion {clock : Int}
    (timed : ∀ call ownerId name ttlSeconds, request call = .claim ownerId name ttlSeconds →
      ttlSeconds = ttl ownerId name)
    (ran : (leases request).run (.fresh rows clock) actions = some world)
    (met : (leases request).Meets (fun world _ => Sequential request world) (.fresh rows clock) actions) :
    ∀ name one other, (name, one) ∈ world.holds → (name, other) ∈ world.holds →
      world.clock < one.expiresAt → world.clock < other.expiresAt → one.ownerId = other.ownerId := by
  intro name one other oneHeld otherHeld oneUnexpired otherUnexpired
  have initial : Sequenced request ttl (World.fresh rows clock) := ⟨nofun, nofun, .nil⟩
  obtain ⟨_, sequenced⟩ := StepSystem.invariant (Sequenced.step timed) met ⟨.fresh, initial⟩ ran
  have covered : LatestCovered request world :=
    StepSystem.invariant_run LatestCovered.step ⟨.fresh, fun _ _ _ latest => by cases latest⟩ ran
  obtain ⟨oneLatest, oneFound, oneWithin⟩ := sequenced.latest oneHeld
  obtain ⟨otherLatest, otherFound, otherWithin⟩ := sequenced.latest otherHeld
  rw [← latest_ownerId oneFound, ← latest_ownerId otherFound]
  exact (covered.covers name _ oneLatest oneFound).exclusive (covered.covers name _ otherLatest otherFound)
    (Int.lt_of_lt_of_le oneUnexpired oneWithin) (Int.lt_of_lt_of_le otherUnexpired otherWithin)

end Sequenced

theorem lease_exclusion_of_renewing :
    ∃ world, (leases contenders).run (.fresh (fun _ => none) 0) renewing = some world ∧
      world.holds.length = 2 ∧ world.phase 2 = .done none ∧
      ∀ name one other, (name, one) ∈ world.holds → (name, other) ∈ world.holds →
        world.clock < one.expiresAt → world.clock < other.expiresAt → one.ownerId = other.ownerId := by
  refine ⟨_, rfl, rfl, rfl, @lease_exclusion String String Nat _ _ _ contenders _ renewing (fun _ => none)
    (fun _ _ => 30) 0 ?_ rfl ?_⟩
  · rintro (_ | _ | _ | call) _ _ _ ⟨⟩ <;> rfl
  · refine .cons ?_ rfl (.cons ?_ rfl (.cons ?_ rfl (.cons ?_ rfl (.cons ?_ rfl (.cons ?_ rfl (.cons ?_ rfl
      (.cons ?_ rfl (.cons ?_ rfl (.cons ?_ rfl trivial)))))))))
    all_goals
      rintro (_ | _ | _ | one) (_ | _ | _ | other) _ _ _ _ _ _ ⟨⟩ otherAsks oneReads otherReads <;>
        first | rfl | (cases oneReads; done) | (cases otherReads)

end AindyRuntime.Leadership
