import AindyRuntime.Lib.StepSystem

/-! # Claims by compare-and-set

Parties claim a resource with an update that only finds it in the statuses the
claim accepts.
-/

structure Claims (Party : Type) where
  free : Bool
  round : Nat
  won : List (Nat × Party)

namespace Claims

variable {Party : Type}

inductive Action (Party : Type) where
  | claim (party : Party) (closes : Bool)
  | move (free : Bool)
  | offer

def system : StepSystem (Claims Party) (Action Party) where
  step claims
    | .claim party closes =>
      if claims.free then
        some { claims with free := !closes, won := (claims.round, party) :: claims.won }
      else none
    | .move free => some { claims with free }
    | .offer => some { claims with free := true, round := claims.round + 1 }

variable {claims next : Claims Party}

def Unclaimed (claims : Claims Party) : Prop := ∀ party, (claims.round, party) ∉ claims.won

def Fair (claims : Claims Party) : Action Party → Prop
  | .claim _ _ => claims.Unclaimed
  | _ => True

/-- A claim takes the resource out of the accepted statuses, and no one else
brings it back into them. -/
def Closing : Action Party → Prop
  | .claim _ closes => closes = true
  | .move free => free = false
  | .offer => True

structure Exclusive (claims : Claims Party) : Prop where
  reached : ∀ {round party}, (round, party) ∈ claims.won → round ≤ claims.round
  unique : ∀ {round one other}, (round, one) ∈ claims.won → (round, other) ∈ claims.won → one = other

theorem Exclusive.of_empty (none : claims.won = []) : claims.Exclusive := by
  constructor <;> simp [none]

theorem step_exclusive (fair : claims.Fair action) (exclusive : claims.Exclusive)
    (stepped : system.step claims action = some next) : next.Exclusive := by
  cases action with
  | claim =>
    simp only [system] at stepped
    split at stepped <;> cases stepped
    refine ⟨fun member => ?_, fun first second => ?_⟩
    · rcases List.mem_cons.mp member with same | earlier
      · cases same
        exact Nat.le_refl _
      · exact exclusive.reached earlier
    · rcases List.mem_cons.mp first with same | earlier <;>
        rcases List.mem_cons.mp second with same' | earlier'
      · cases same
        cases same'
        rfl
      · cases same
        exact absurd earlier' (fair _)
      · cases same'
        exact absurd earlier (fair _)
      · exact exclusive.unique earlier earlier'
  | move =>
    cases stepped
    exact ⟨exclusive.reached, exclusive.unique⟩
  | offer =>
    cases stepped
    exact ⟨fun member => Nat.le_succ_of_le (exclusive.reached member), exclusive.unique⟩

structure Closed (claims : Claims Party) : Prop where
  exclusive : claims.Exclusive
  unclaimed : claims.free = true → claims.Unclaimed

theorem Closed.of_empty (none : claims.won = []) : claims.Closed :=
  ⟨.of_empty none, by simp [Unclaimed, none]⟩

theorem step_closed (closing : Closing action) (closed : claims.Closed)
    (stepped : system.step claims action = some next) : next.Closed := by
  have fair : claims.Fair action := by
    cases action with
    | claim =>
      simp only [system] at stepped
      split at stepped
      case isTrue free => exact closed.unclaimed free
      · cases stepped
    | move free | offer => trivial
  refine ⟨step_exclusive fair closed.exclusive stepped, fun free party member => ?_⟩
  cases action with
  | claim party closes =>
    simp only [system] at stepped
    split at stepped <;> cases stepped
    simp [show closes = true from closing] at free
  | move moved =>
    cases stepped
    simp [show moved = false from closing] at free
  | offer =>
    cases stepped
    have reached := closed.exclusive.reached member
    exact absurd reached (Nat.not_succ_le_self _)

def Follows (allowed : Action Party → Prop) (claims next : Claims Party) : Prop :=
  next = claims ∨ ∃ action, allowed action ∧ system.step claims action = some next

theorem Follows.exclusive (follows : Follows claims.Fair claims next) (exclusive : claims.Exclusive) :
    next.Exclusive := by
  rcases follows with same | ⟨action, fair, stepped⟩
  · rw [same]
    exact exclusive
  · exact step_exclusive fair exclusive stepped

theorem Follows.closed (follows : Follows Closing claims next) (closed : claims.Closed) : next.Closed := by
  rcases follows with same | ⟨action, closing, stepped⟩
  · rw [same]
    exact closed
  · exact step_closed closing closed stepped

end Claims
