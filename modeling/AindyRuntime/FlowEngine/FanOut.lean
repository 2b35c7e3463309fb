import AindyRuntime.Data.PyError

/-! # Fan-out groups and their joins

`runtime/flow_engine/fan_out.py`: a group names the nodes of one superstep and
how many of them must succeed.
-/

namespace AindyRuntime.FlowEngine

inductive Join where
  | all
  | any
  | quorum (required : Nat)
deriving DecidableEq, Repr

def Join.admits (width : Nat) : Join → Prop
  | .quorum required => 1 ≤ required ∧ required ≤ width
  | _ => True

instance {width : Nat} : DecidablePred (Join.admits width) := fun join =>
  match join with
  | .quorum required => inferInstanceAs (Decidable (1 ≤ required ∧ required ≤ width))
  | .all | .any => isTrue trivial

/-- A declared group.  The fields after the data are what the constructor of
the source refuses to build a group without. -/
structure FanOutEdgeGroup where
  targets : List String
  join : Join
  wide : 2 ≤ targets.length
  distinct : targets.Nodup
  bounded : join.admits targets.length
deriving DecidableEq, Repr

variable (group : FanOutEdgeGroup)

def FanOutEdgeGroup.requiredSuccesses : Nat :=
  match group.join with
  | .any => 1
  | .quorum required => required
  | .all => group.targets.length

def FanOutEdgeGroup.joinLabel : String :=
  match group.join with
  | .any => "any"
  | .quorum required => "quorum:" ++ toString required
  | .all => "all"

structure JoinOutcome where
  join : String
  required : Nat
  (succeeded failed : List String)
deriving DecidableEq, Repr

def JoinOutcome.satisfied (outcome : JoinOutcome) : Bool :=
  decide (outcome.required ≤ outcome.succeeded.length)

def JoinOutcome.isPartial (outcome : JoinOutcome) : Bool :=
  outcome.satisfied && !outcome.failed.isEmpty

def resolveJoin (statuses : Dict String String) : JoinOutcome where
  join := group.joinLabel
  required := group.requiredSuccesses
  succeeded := group.targets.filter fun target => statuses.get? target = some "SUCCESS"
  failed := group.targets.filter fun target => !decide (statuses.get? target = some "SUCCESS")

theorem FanOutEdgeGroup.exists_last : ∃ front last, group.targets = front ++ [last] := by
  rcases List.eq_nil_or_concat group.targets with empty | ⟨front, last, split⟩
  · have wide := group.wide
    simp [empty] at wide
  · exact ⟨front, last, by rw [split, List.concat_eq_append]⟩

end AindyRuntime.FlowEngine
