import AindyRuntime.Platform.LeaseFence

/-! # Jobs of the leader

Every process has an elector that claims the lease again and again, and knows
from it whether the process leads and under which fence.
-/

namespace AindyRuntime.Leadership

variable {Owner Name Call : Type} [DecidableEq Owner] [DecidableEq Name] [DecidableEq Call]

structure Elector (Owner : Type) where
  isLeader : Bool
  hold : Option (LeaseHold Owner)
deriving DecidableEq, Repr

namespace Elector

variable {Owner : Type}

def fence (elector : Elector Owner) : Option Int :=
  if elector.isLeader then elector.hold.map (·.fence) else none

def apply (elector : Elector Owner) (acquired : Bool) : Elector Owner :=
  if acquired && !elector.isLeader then { elector with isLeader := true }
  else if !acquired && elector.isLeader then { elector with isLeader := false }
  else elector

end Elector

inductive Tick where
  | claiming
  | returned (acquired : Bool)
  | ended
deriving DecidableEq, Repr

structure Electorate (Owner Name Call : Type) where
  leases : World Owner Name Call
  elector : Owner → Elector Owner
  tick : Call → Tick

inductive ElectionAction (Owner Call : Type) where
  | lease (action : Action Call)
  /-- `_attempt` keeps what the claim has returned. -/
  | keep (call : Call)
  /-- `_apply`, to what `_attempt` has returned, or to `False` where it has raised. -/
  | apply (call : Call)
  /-- The end of `stop`. -/
  | stop (ownerId : Owner)

namespace Electorate

def fresh (rows : Name → Option (BackgroundTaskLease Owner)) (clock : Int) : Electorate Owner Name Call :=
  ⟨.fresh rows clock, fun _ => ⟨false, none⟩, fun _ => .claiming⟩

variable (electorate : Electorate Owner Name Call)

def update (ownerId : Owner) (elector : Elector Owner) : Electorate Owner Name Call :=
  { electorate with elector := Function.update electorate.elector ownerId elector }

def advance (call : Call) (tick : Tick) : Electorate Owner Name Call :=
  { electorate with tick := Function.update electorate.tick call tick }

def backgroundLeaderFence (ownerId : Owner) : Option Int :=
  (electorate.elector ownerId).fence

end Electorate

def elections (request : Call → Request Owner Name) (leaseName : Name) :
    StepSystem (Electorate Owner Name Call) (ElectionAction Owner Call) where
  step electorate
    | .lease action =>
      ((leases request).step electorate.leases action).map fun next => { electorate with leases := next }
    | .keep call =>
      match request call, electorate.leases.phase call, electorate.tick call with
      | .claim ownerId name _, .done result, .claiming =>
        if name = leaseName then
          some ((electorate.update ownerId { electorate.elector ownerId with hold := result }).advance call
            (.returned result.isSome))
        else none
      | _, _, _ => none
    | .apply call =>
      match request call, electorate.leases.phase call, electorate.tick call with
      | .claim ownerId _ _, _, .returned acquired =>
        some ((electorate.update ownerId ((electorate.elector ownerId).apply acquired)).advance call .ended)
      | .claim ownerId name _, .failed, .claiming =>
        if name = leaseName then
          some ((electorate.update ownerId ((electorate.elector ownerId).apply false)).advance call .ended)
        else none
      | _, _, _ => none
    | .stop ownerId => some (electorate.update ownerId { electorate.elector ownerId with isLeader := false })

variable {request : Call → Request Owner Name}

theorem elections_leases (stepped : (elections request leaseName).step electorate action = some next) :
    next.leases = electorate.leases ∨
      ∃ moved, action = .lease moved ∧ (leases request).step electorate.leases moved = some next.leases := by
  cases action with
  | lease moved =>
    obtain ⟨_, moves, same⟩ := Option.map_eq_some_iff.mp stepped
    cases same
    exact .inr ⟨moved, rfl, moves⟩
  | keep =>
    simp only [elections] at stepped
    split at stepped
    · split at stepped <;> cases stepped
      · exact .inl rfl
    · cases stepped
  | apply =>
    simp only [elections] at stepped
    split at stepped
    · cases stepped
      exact .inl rfl
    · split at stepped <;> cases stepped
      · exact .inl rfl
    · cases stepped
  | stop =>
    cases stepped
    exact .inl rfl

def ElectionAction.keepsRow (request : Call → Request Owner Name) (name : Name) : ElectionAction Owner Call → Bool
  | .lease action => Leadership.keepsRow request name action
  | _ => true

theorem Coherent.election (coherent : Coherent request electorate.leases)
    (stepped : (elections request leaseName).step electorate action = some next) :
    Coherent request next.leases := by
  rcases elections_leases stepped with same | ⟨moved, _, moves⟩
  · rw [same]
    exact coherent
  · exact coherent.step moves

theorem follows_election (keeps : action.keepsRow request leaseName = true)
    (held : Coherent request electorate.leases ∧ electorate.leases.Follows leaseName hold)
    (stepped : (elections request leaseName).step electorate action = some next) :
    Coherent request next.leases ∧ next.leases.Follows leaseName hold := by
  rcases elections_leases stepped with same | ⟨moved, names, moves⟩
  · rw [same]
    exact held
  · subst names
    exact ⟨held.1.step moves, held.2.step held.1 keeps (leases_stepped moves)⟩

theorem Overtaken.election (asked : (request call).name = leaseName)
    (different : taken.ownerId ≠ hold.ownerId) (keeps : action.keepsRow request leaseName = true)
    (overtaken : Overtaken request leaseName hold taken call electorate.leases)
    (stepped : (elections request leaseName).step electorate action = some next) :
    Overtaken request leaseName hold taken call next.leases := by
  rcases elections_leases stepped with same | ⟨moved, names, moves⟩
  · rw [same]
    exact overtaken
  · subst names
    exact overtaken.step asked different keeps moves

/-- Once another process has taken over, a job is refused as long as the elector
of its process still leads under the hold from before, and no release has deleted
the row since.  The check reads the row at some later instant than the fence. -/
theorem deposed_write_refused {rows : Name → Option (BackgroundTaskLease Owner)} {clock : Int}
    {before after meanwhile : List (ElectionAction Owner Call)}
    {start held reached final : Electorate Owner Name Call} {mine other : Call} {hold taken : LeaseHold Owner}
    (ran : (elections request leaseName).run (.fresh rows clock) before = some start)
    (elected : (elections request leaseName).step start (.lease (.commit mine)) = some held)
    (mineNamed : (request mine).name = leaseName) (mineHeld : held.leases.phase mine = .done (some hold))
    (since : (elections request leaseName).run held after = some reached)
    (kept : (elections request leaseName).Meets (fun _ action => action.keepsRow request leaseName = true) held after)
    (otherNamed : (request other).name = leaseName) (later : held.leases.phase other ≠ .done (some taken))
    (takenOver : reached.leases.phase other = .done (some taken)) (different : taken.ownerId ≠ hold.ownerId)
    (unnoticed : reached.elector hold.ownerId = ⟨true, some hold⟩)
    (waited : (elections request leaseName).run reached meanwhile = some final)
    (keptOn : (elections request leaseName).Meets (fun _ action => action.keepsRow request leaseName = true)
      reached meanwhile) :
    ∃ current, assertLeaseFence (final.leases.rows leaseName) (reached.backgroundLeaderFence hold.ownerId)
      = .error ⟨hold.fence, some current⟩ := by
  have coherent : Coherent request start.leases :=
    @StepSystem.invariant_run _ _ (elections request leaseName) _ _ _
      (fun electorate => Coherent request electorate.leases) Coherent.election .fresh ran
  obtain ⟨world, committed, same⟩ := Option.map_eq_some_iff.mp elected
  subst same
  have follows : world.Follows leaseName hold := mineNamed ▸ commit_follows committed mineHeld
  have start : Overtaken request leaseName hold taken other world :=
    ⟨coherent.step committed, follows, fun given => absurd given later⟩
  have overtaken : Overtaken request leaseName hold taken other reached.leases :=
    @StepSystem.invariant _ _ (elections request leaseName) _ _ _ _
      (fun electorate => Overtaken request leaseName hold taken other electorate.leases)
      (fun keeps => Overtaken.election otherNamed different keeps) kept start since
  obtain ⟨overtakes, ahead⟩ := overtaken.overtaken takenOver
  have still : Coherent request final.leases ∧ final.leases.Follows leaseName taken :=
    @StepSystem.invariant _ _ (elections request leaseName) _ _ _ _
      (fun electorate => Coherent request electorate.leases ∧ electorate.leases.Follows leaseName taken)
      follows_election keptOn ⟨overtaken.coherent, overtakes⟩ waited
  simp only [Electorate.backgroundLeaderFence, unnoticed]
  exact still.2.refuses ahead

/-- `"a"` is elected and has not noticed that `"b"` has taken over. -/
theorem deposed_write_refused_of_unnoticed :
    ∃ start held reached : Electorate String String Nat,
      (elections contenders "background_runner").run (.fresh (fun _ => none) 0)
        [.lease (.start 0), .lease (.select 0)] = some start ∧
      (elections contenders "background_runner").step start (.lease (.commit 0)) = some held ∧
      (elections contenders "background_runner").run held
        [.keep 0, .apply 0, .lease (.tick 31), .lease (.start 2), .lease (.select 2), .lease (.commit 2)] =
          some reached ∧
      reached.leases.phase 2 = .done (some ⟨"b", 2, 61⟩) ∧
      ∃ current, assertLeaseFence (reached.leases.rows "background_runner") (reached.backgroundLeaderFence "a")
        = .error ⟨1, some current⟩ := by
  refine ⟨_, _, _, rfl, rfl, rfl, rfl, ?_⟩
  exact @deposed_write_refused String String Nat _ _ _ contenders "background_runner" (fun _ => none) 0
    [.lease (.start 0), .lease (.select 0)]
    [.keep 0, .apply 0, .lease (.tick 31), .lease (.start 2), .lease (.select 2), .lease (.commit 2)] []
    _ _ _ _ 0 2 ⟨"a", 1, 30⟩ ⟨"b", 2, 61⟩ rfl rfl rfl rfl rfl (by decide) rfl (by decide) rfl (by decide) rfl rfl
    trivial

/-- `"a"` leads and runs a job; `"b"` takes over, and the next tick of `"a"` notices.
From then on `"a"` expects no fence, and the job is not checked. -/
theorem noticed_loss_not_refused :
    ∃ led noticed : Electorate String String Nat,
      (elections contenders "background_runner").run (.fresh (fun _ => none) 0)
        [.lease (.start 0), .lease (.select 0), .lease (.commit 0), .keep 0, .apply 0] = some led ∧
      led.backgroundLeaderFence "a" = some 1 ∧
      (elections contenders "background_runner").run led
        [.lease (.tick 31), .lease (.start 2), .lease (.select 2), .lease (.commit 2),
          .lease (.start 1), .lease (.select 1), .lease (.commit 1), .keep 1, .apply 1] = some noticed ∧
      noticed.leases.phase 2 = .done (some ⟨"b", 2, 61⟩) ∧
      assertLeaseFence (noticed.leases.rows "background_runner") (noticed.backgroundLeaderFence "a") = .ok () :=
  ⟨_, _, rfl, rfl, rfl, rfl, rfl⟩

end AindyRuntime.Leadership
