import Mathlib.Data.List.Basic

/-! # Counters with a floor

A counter that goes up and down, and stays at zero where it would fall below.
-/

namespace FloorCounter

open List

inductive Move where
  | up
  | down
deriving DecidableEq, Repr

def step (count : Int) : Move → Int
  | .up => count + 1
  | .down => if count - 1 < 0 then 0 else count - 1

def run (count : Int) (moves : List Move) : Int := moves.foldl step count

variable {count : Int}

theorem step_nonneg (floor : 0 ≤ count) : 0 ≤ step count move := by
  cases move with
  | up =>
    simp only [step]
    omega
  | down =>
    simp only [step]
    split <;> omega

def Drains (moves : List Move) : Prop := ∀ later, later <:+ moves → later.count .up ≤ later.count .down

theorem drains_cons :
    Drains (move :: moves) ↔ (move :: moves).count .up ≤ (move :: moves).count .down ∧ Drains moves := by
  constructor
  · intro drains
    exact ⟨drains _ (suffix_refl _), fun later stretch => drains later (stretch.trans (suffix_cons ..))⟩
  · rintro ⟨whole, drains⟩ later stretch
    rcases suffix_cons_iff.mp stretch with rfl | inner
    · exact whole
    · exact drains later inner

/-- The counter ends at zero just when the moves lower it all the way and drain
it again after every rise. -/
theorem run_eq_zero_iff (floor : 0 ≤ count) :
    run count moves = 0 ↔ count + moves.count .up ≤ moves.count .down ∧ Drains moves := by
  induction moves generalizing count with
  | nil =>
    simp only [run, foldl_nil, count_nil]
    constructor
    · rintro rfl
      refine ⟨by omega, fun later stretch => ?_⟩
      rw [suffix_nil.mp stretch]
      exact Nat.le_refl _
    · omega
  | cons move rest ih =>
    have next : run count (move :: rest) = run (step count move) rest := rfl
    rw [next, ih (step_nonneg floor), drains_cons]
    have stretch (drains : Drains rest) : rest.count .up ≤ rest.count .down :=
      drains rest (suffix_refl _)
    cases move with
    | up =>
      simp only [step, count_cons_self, count_cons_of_ne (show Move.up ≠ .down by decide)]
      constructor
      · rintro ⟨lowered, drains⟩
        exact ⟨by omega, by omega, drains⟩
      · rintro ⟨lowered, _, drains⟩
        exact ⟨by omega, drains⟩
    | down =>
      simp only [step, count_cons_self, count_cons_of_ne (show Move.down ≠ .up by decide)]
      constructor
      · rintro ⟨lowered, drains⟩
        refine ⟨?_, by omega, drains⟩
        split at lowered <;> omega
      · rintro ⟨lowered, _, drains⟩
        have drained := stretch drains
        refine ⟨?_, drains⟩
        split <;> omega

structure Paired (moves : List Move) : Prop where
  earlier : ∀ earlier, earlier <+: moves → earlier.count .down ≤ earlier.count .up
  all : moves.count .up = moves.count .down

theorem paired_iff_drains : Paired moves ↔ Drains moves ∧ moves.count .up = moves.count .down := by
  constructor
  · rintro ⟨earlier, all⟩
    refine ⟨fun later stretch => ?_, all⟩
    obtain ⟨front, rfl⟩ := stretch
    have before := earlier front (prefix_append ..)
    simp only [count_append] at all
    omega
  · rintro ⟨drains, all⟩
    refine ⟨fun front stretch => ?_, all⟩
    obtain ⟨later, rfl⟩ := stretch
    have after := drains later (suffix_append ..)
    simp only [count_append] at all
    omega

end FloorCounter
