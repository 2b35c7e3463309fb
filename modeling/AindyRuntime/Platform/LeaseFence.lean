import AindyRuntime.Platform.Leadership

namespace AindyRuntime.Leadership

variable {Owner Name Call : Type} [DecidableEq Owner] [DecidableEq Name] [DecidableEq Call]
variable {request : Call → Request Owner Name} {world next : World Owner Name Call} {action : Action Call}
variable {name : Name} {hold : LeaseHold Owner} {call : Call}

structure LeaseFenceLost where
  held : Int
  row : Option Int
deriving DecidableEq, Repr

def LeaseFenceLost.text (lost : LeaseFenceLost) : String :=
  "lease fence moved: held " ++ toString lost.held ++ ", row "
    ++ (match lost.row with
      | none => "None"
      | some fence => toString fence)

/-- What the check finds in the row that it reads; a process that expects no
fence is not checked. -/
def assertLeaseFence (row : Option (BackgroundTaskLease Owner)) : Option Int → Except LeaseFenceLost Unit
  | none => .ok ()
  | some expected => if row.map (·.fence) = some expected then .ok () else .error ⟨expected, row.map (·.fence)⟩

def keepsRow (request : Call → Request Owner Name) (name : Name) : Action Call → Bool
  | .commit call =>
    match request call with
    | .release _ released => decide (released ≠ name)
    | .claim _ _ _ => true
  | _ => true

def World.Follows (world : World Owner Name Call) (name : Name) (hold : LeaseHold Owner) : Prop :=
  ∃ row, world.rows name = some row ∧ hold.fence ≤ row.fence ∧
    (row.fence = hold.fence → row.ownerId = hold.ownerId)

theorem claim_fence {row : BackgroundTaskLease Owner}
    (claims : row.claim ownerId now expires = some claimed) :
    row.fence ≤ claimed.fence ∧ (claimed.fence = row.fence → claimed.ownerId = row.ownerId) := by
  rcases claim_cases claims with ⟨-, rfl⟩ | rfl
  · exact ⟨Int.le_refl _, fun _ => rfl⟩
  · refine ⟨Int.le_add_one (Int.le_refl _), fun same => ?_⟩
    have moved : row.fence + 1 = row.fence := same
    omega

omit [DecidableEq Owner] [DecidableEq Name] [DecidableEq Call] in
theorem World.Follows.of_row {row : BackgroundTaskLease Owner} (present : world.rows name = some row) :
    world.Follows name row.hold :=
  ⟨row, present, Int.le_refl _, fun _ => rfl⟩

omit [DecidableEq Owner] [DecidableEq Name] [DecidableEq Call] in
theorem World.Follows.frame (follows : world.Follows name hold) (rows : next.rows name = world.rows name) :
    next.Follows name hold := by
  unfold World.Follows
  rw [rows]
  exact follows

theorem World.Follows.step (coherent : Coherent request world) (keeps : keepsRow request name action = true)
    (follows : world.Follows name hold) (stepped : Stepped request world action next) :
    next.Follows name hold := by
  cases stepped
  case inserted inserted ttlSeconds now asked missing absent =>
    by_cases same : name = inserted
    · subst same
      obtain ⟨_, present, _⟩ := follows
      rw [absent] at present
      cases present
    · exact follows.frame (Function.update_of_ne same _ _)
  case claimed written ttlSeconds now row claimed asked found claims =>
    by_cases same : name = written
    · subst same
      have selected : world.rows name = some row := coherent.selected_row (by rw [asked]; rfl) (by rw [found]; rfl)
      obtain ⟨_, present, ahead, owner⟩ := follows
      rw [selected] at present
      cases present
      obtain ⟨moves, keepsOwner⟩ := claim_fence claims
      refine ⟨claimed, Function.update_self _ _ _, Int.le_trans ahead moves, fun unmoved => ?_⟩
      have still : row.fence = hold.fence := by omega
      exact (keepsOwner (unmoved.trans still.symm)).trans (owner still)
    · exact follows.frame (Function.update_of_ne same _ _)
  case released asked releasing =>
    simp only [keepsRow, asked, decide_eq_true_eq] at keeps
    exact follows.frame (Function.update_of_ne (Ne.symm keeps) _ _)
  all_goals exact follows.frame rfl

omit [DecidableEq Owner] [DecidableEq Name] in
theorem enter_new {entered : Call} {phase : Phase Owner} {result : Option (LeaseHold Owner)}
    (given : (world.enter entered phase).phase call = .done result) (new : world.phase call ≠ .done result) :
    call = entered ∧ phase = .done result := by
  by_cases same : call = entered
  · subst same
    exact ⟨rfl, by simpa [World.enter] using given⟩
  · simp only [World.enter, Function.update_of_ne same] at given
    exact absurd given new

/-- A hold is returned by the commit that writes it to the row. -/
theorem given_row (stepped : Stepped request world action next) (given : next.phase call = .done (some hold))
    (new : world.phase call ≠ .done (some hold)) :
    ∃ row, next.rows (request call).name = some row ∧ row.hold = hold := by
  cases stepped
  case ticked => exact absurd given new
  case inserted asked missing absent | claimed asked found claims =>
    obtain ⟨same, result⟩ := enter_new given new
    cases result
    rw [same, asked]
    exact ⟨_, Function.update_self _ _ _, rfl⟩
  all_goals cases (enter_new given new).2

theorem commit_follows (committed : (leases request).step world (.commit call) = some next)
    (given : next.phase call = .done (some hold)) : next.Follows (request call).name hold := by
  have new : world.phase call ≠ .done (some hold) := by
    intro done
    cases asked : request call <;> simp [leases, done] at committed
  obtain ⟨_, present, same⟩ := given_row (leases_stepped committed) given new
  subst same
  exact .of_row present

structure Overtaken (request : Call → Request Owner Name) (name : Name) (hold taken : LeaseHold Owner) (call : Call)
    (world : World Owner Name Call) : Prop where
  coherent : Coherent request world
  follows : world.Follows name hold
  overtaken : world.phase call = .done (some taken) → world.Follows name taken ∧ hold.fence < taken.fence

theorem Overtaken.step (asked : (request call).name = name)
    (different : taken.ownerId ≠ hold.ownerId) (keeps : keepsRow request name action = true)
    (overtaken : Overtaken request name hold taken call world)
    (stepped : (leases request).step world action = some next) : Overtaken request name hold taken call next := by
  have moves := leases_stepped stepped
  have follows := overtaken.follows.step overtaken.coherent keeps moves
  refine ⟨overtaken.coherent.step stepped, follows, fun given => ?_⟩
  by_cases before : world.phase call = .done (some taken)
  · obtain ⟨earlier, ahead⟩ := overtaken.overtaken before
    exact ⟨earlier.step overtaken.coherent keeps moves, ahead⟩
  · obtain ⟨row, present, same⟩ := given_row moves given before
    rw [asked] at present
    subst same
    obtain ⟨_, found, _, owner⟩ := follows
    rw [present] at found
    cases found
    refine ⟨.of_row present, ?_⟩
    have unequal : row.fence ≠ hold.fence := fun same => different (owner same)
    show hold.fence < row.fence
    omega

omit [DecidableEq Owner] [DecidableEq Name] [DecidableEq Call] in
theorem World.Follows.refuses {taken : LeaseHold Owner} (follows : world.Follows name taken)
    (ahead : hold.fence < taken.fence) :
    ∃ current, assertLeaseFence (world.rows name) (some hold.fence) = .error ⟨hold.fence, some current⟩ := by
  obtain ⟨row, present, _⟩ := follows
  have moved : ¬ some row.fence = some hold.fence := by
    intro same
    have equal := Option.some.inj same
    omega
  refine ⟨row.fence, ?_⟩
  simp only [assertLeaseFence, present, Option.map_some]
  exact if_neg moved

/-- Where no release deletes the row between two claims of different owners, the
later hold has the higher fence, and the fence of the earlier one is refused. -/
theorem fence_identifies_tenure {rows : Name → Option (BackgroundTaskLease Owner)} {clock : Int}
    {before after : List (Action Call)} {held : World Owner Name Call} {one other : Call}
    {oneHold otherHold : LeaseHold Owner} (ran : (leases request).run (.fresh rows clock) before = some world)
    (committed : (leases request).step world (.commit one) = some held)
    (oneHeld : held.phase one = .done (some oneHold)) (reached : (leases request).run held after = some final)
    (kept : (leases request).Meets (fun _ action => keepsRow request (request one).name action = true) held after)
    (sameName : (request other).name = (request one).name)
    (later : held.phase other ≠ .done (some otherHold)) (otherHeld : final.phase other = .done (some otherHold))
    (different : otherHold.ownerId ≠ oneHold.ownerId) :
    oneHold.fence < otherHold.fence ∧
      ∃ current, assertLeaseFence (final.rows (request one).name) (some oneHold.fence)
        = .error ⟨oneHold.fence, some current⟩ := by
  have coherent : Coherent request world := StepSystem.invariant_run Coherent.step .fresh ran
  have start : Overtaken request (request one).name oneHold otherHold other held :=
    ⟨coherent.step committed, commit_follows committed oneHeld, fun given => absurd given later⟩
  have overtaken := StepSystem.invariant (fun keeps => Overtaken.step sameName different keeps) kept start reached
  obtain ⟨follows, ahead⟩ := overtaken.overtaken otherHeld
  exact ⟨ahead, follows.refuses ahead⟩

/-- `"a"` claims, and `"b"` takes over what has expired. -/
theorem fence_identifies_tenure_of_takeover :
    ∃ world held final : World String String Nat,
      (leases contenders).run (.fresh (fun _ => none) 0) [.start 0, .select 0] = some world ∧
      (leases contenders).step world (.commit 0) = some held ∧ held.phase 0 = .done (some ⟨"a", 1, 30⟩) ∧
      (leases contenders).run held [.tick 31, .start 2, .select 2, .commit 2] = some final ∧
      final.phase 2 = .done (some ⟨"b", 2, 61⟩) ∧
      ∃ current, assertLeaseFence (final.rows "background_runner") (some 1) = .error ⟨1, some current⟩ := by
  refine ⟨_, _, _, rfl, rfl, rfl, rfl, rfl, ?_⟩
  exact (@fence_identifies_tenure String String Nat _ _ _ contenders _ _ (fun _ => none) 0 [.start 0, .select 0]
    [.tick 31, .start 2, .select 2, .commit 2] _ 0 2 ⟨"a", 1, 30⟩ ⟨"b", 2, 61⟩ rfl rfl rfl rfl (by decide) rfl
    (by decide) rfl (by decide)).2

/-- The fence is deleted with the row: what `"b"` claims after `"a"` has released has the fence of `"a"`. -/
theorem fence_returns_after_release :
    ∃ world, (leases contenders).run (.fresh (fun _ => none) 0)
        [.start 0, .select 0, .commit 0, .select 3, .commit 3, .start 2, .select 2, .commit 2] = some world ∧
      world.phase 0 = .done (some ⟨"a", 1, 30⟩) ∧ world.phase 2 = .done (some ⟨"b", 1, 30⟩) ∧
      assertLeaseFence (world.rows "background_runner") (some 1) = .ok () :=
  ⟨_, rfl, rfl, rfl, rfl⟩

end AindyRuntime.Leadership
