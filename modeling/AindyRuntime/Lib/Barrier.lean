import Mathlib.Data.List.Nodup
import AindyRuntime.Lib.StepSystem

/-! # A barrier with a bounded buffer

Callers look whether the barrier is raised, and then deliver what they carry or
leave it in the buffer.  The opener raises the barrier, takes what is in the
buffer and delivers it.  What a caller has seen may no longer be so when it acts.
-/

namespace Barrier

open Function List

inductive Fate where
  | delivered
  | buffered
  | rejected
deriving DecidableEq, Repr

inductive Phase where
  | ready
  | saw (raised : Bool)
  | done (fate : Fate)
deriving DecidableEq, Repr

inductive Opening where
  | shut
  | raised
  | drained
deriving DecidableEq, Repr

structure World (Caller : Type) where
  opening : Opening
  buffer : List Caller
  /-- What the opener has taken and not delivered yet. -/
  pending : List Caller
  delivered : List Caller
  phase : Caller → Phase

inductive Action (Caller : Type) where
  | look (caller : Caller)
  | act (caller : Caller)
  | raise
  | drain
  | replay

variable {Caller : Type} [DecidableEq Caller]

def World.fresh : World Caller := ⟨.shut, [], [], [], fun _ => .ready⟩

def barrier (capacity : Nat) : StepSystem (World Caller) (Action Caller) where
  step world
    | .look caller =>
      if world.phase caller = .ready then
        some { world with phase := update world.phase caller (.saw (world.opening ≠ .shut)) }
      else none
    | .act caller =>
      match world.phase caller with
      | .saw true =>
        some
          { world with
            delivered := world.delivered ++ [caller]
            phase := update world.phase caller (.done .delivered) }
      | .saw false =>
        if capacity ≤ world.buffer.length then
          some { world with phase := update world.phase caller (.done .rejected) }
        else
          some
            { world with
              buffer := world.buffer ++ [caller]
              phase := update world.phase caller (.done .buffered) }
      | _ => none
    | .raise => if world.opening = .shut then some { world with opening := .raised } else none
    | .drain =>
      if world.opening = .raised then
        some { world with opening := .drained, buffer := [], pending := world.buffer }
      else none
    | .replay =>
      match world.pending with
      | [] => none
      | caller :: rest => some { world with pending := rest, delivered := world.delivered ++ [caller] }

variable {capacity : Nat} {world next : World Caller}
variable {actions : List (Action Caller)} {caller other : Caller}

variable (capacity world) in
inductive Stepped : Action Caller → World Caller → Prop where
  | looked {caller : Caller} (ready : world.phase caller = .ready) :
      Stepped (.look caller)
        { world with phase := update world.phase caller (.saw (world.opening ≠ .shut)) }
  | delivered {caller : Caller} (saw : world.phase caller = .saw true) :
      Stepped (.act caller)
        { world with
          delivered := world.delivered ++ [caller]
          phase := update world.phase caller (.done .delivered) }
  | rejected {caller : Caller} (saw : world.phase caller = .saw false)
      (full : capacity ≤ world.buffer.length) :
      Stepped (.act caller)
        { world with phase := update world.phase caller (.done .rejected) }
  | buffered {caller : Caller} (saw : world.phase caller = .saw false)
      (room : ¬capacity ≤ world.buffer.length) :
      Stepped (.act caller)
        { world with
          buffer := world.buffer ++ [caller]
          phase := update world.phase caller (.done .buffered) }
  | raised (shut : world.opening = .shut) : Stepped .raise { world with opening := .raised }
  | drained (raised : world.opening = .raised) :
      Stepped .drain { world with opening := .drained, buffer := [], pending := world.buffer }
  | replayed {caller : Caller} {rest : List Caller} (taken : world.pending = caller :: rest) :
      Stepped .replay
        { world with pending := rest, delivered := world.delivered ++ [caller] }

theorem barrier_stepped (stepped : (barrier capacity).step world action = some next) :
    Stepped capacity world action next := by
  cases action <;> simp only [barrier] at stepped
  case look =>
    split at stepped <;> cases stepped
    case isTrue ready => exact .looked ready
  case act =>
    split at stepped
    case h_1 saw =>
      cases stepped
      exact .delivered saw
    case h_2 saw =>
      split at stepped <;> cases stepped
      case isTrue full => exact .rejected saw full
      case isFalse room => exact .buffered saw room
    case h_3 => cases stepped
  case raise =>
    split at stepped <;> cases stepped
    case isTrue shut => exact .raised shut
  case drain =>
    split at stepped <;> cases stepped
    case isTrue raised => exact .drained raised
  case replay =>
    split at stepped <;> cases stepped
    case h_2 taken => exact .replayed taken

def OnTime (capacity : Nat) (world : World Caller) : Action Caller → Prop
  | .act caller => world.phase caller = .saw false → world.opening = .drained → capacity ≤ world.buffer.length
  | _ => True

structure Placed (world : World Caller) : Prop where
  distinct : (world.buffer ++ world.pending ++ world.delivered).Nodup
  placed : ∀ caller, caller ∈ world.buffer ++ world.pending ++ world.delivered ↔
    world.phase caller = .done .buffered ∨ world.phase caller = .done .delivered
  untaken : world.opening ≠ .drained → world.pending = []

omit [DecidableEq Caller] in
theorem Placed.fresh : Placed (World.fresh : World Caller) :=
  ⟨nodup_nil, fun _ => by simp [World.fresh], fun _ => rfl⟩

theorem Placed.move (placed : Placed world)
    (moved : List.Perm (buffer ++ world.pending ++ delivered)
      (if fate = .rejected then world.buffer ++ world.pending ++ world.delivered
        else caller :: (world.buffer ++ world.pending ++ world.delivered)))
    (free : world.phase caller ≠ .done .buffered ∧ world.phase caller ≠ .done .delivered) :
    Placed
      { world with
        buffer, delivered
        phase := update world.phase caller (.done fate) } := by
  have absent : caller ∉ world.buffer ++ world.pending ++ world.delivered := fun member =>
    ((placed.placed caller).mp member).elim free.1 free.2
  refine ⟨?_, fun other => ?_, placed.untaken⟩
  · rw [moved.nodup_iff]
    split
    · exact placed.distinct
    · exact nodup_cons.mpr ⟨absent, placed.distinct⟩
  · rw [moved.mem_iff]
    by_cases same : other = caller
    · subst same
      cases fate with
      | delivered | buffered => simp
      | rejected => simpa using absent
    · simp only [update_of_ne same, ← placed.placed other]
      split <;> simp [same]

theorem Placed.look (placed : Placed world) (ready : world.phase caller = .ready) :
    Placed { world with phase := update world.phase caller (.saw raised) } := by
  refine ⟨placed.distinct, fun other => ?_, placed.untaken⟩
  rw [placed.placed other]
  by_cases same : other = caller
  · subst same
    simp [ready]
  · simp [update_of_ne same]

omit [DecidableEq Caller] in
theorem Placed.replay {rest : List Caller} (placed : Placed world) (taken : world.pending = caller :: rest) :
    Placed { world with pending := rest, delivered := world.delivered ++ [caller] } := by
  have moved : List.Perm (world.buffer ++ rest ++ (world.delivered ++ [caller]))
      (world.buffer ++ world.pending ++ world.delivered) := by
    rw [taken, ← append_assoc, append_assoc world.buffer]
    refine (perm_append_singleton caller _).trans ?_
    rw [← append_assoc, append_assoc world.buffer, append_assoc world.buffer]
    exact perm_middle.symm
  refine ⟨moved.nodup_iff.mpr placed.distinct, fun other => ?_, fun notDrained => ?_⟩
  · rw [moved.mem_iff, placed.placed other]
  · have none := placed.untaken notDrained
    rw [taken] at none
    cases none

theorem Placed.step (placed : Placed world) (stepped : (barrier capacity).step world action = some next) :
    Placed next := by
  cases barrier_stepped stepped with
  | looked ready => exact placed.look ready
  | @delivered caller saw =>
    refine placed.move ?_ (by simp [saw])
    rw [← append_assoc]
    exact perm_append_singleton caller _
  | rejected saw => exact placed.move (by simp) (by simp [saw])
  | buffered saw =>
    refine placed.move ?_ (by simp [saw])
    rw [append_assoc, append_assoc, append_assoc]
    exact perm_middle
  | raised shut => exact ⟨placed.distinct, placed.placed, fun _ => placed.untaken (by rw [shut]; decide)⟩
  | drained raised =>
    have untaken := placed.untaken (by rw [raised]; decide)
    have distinct := placed.distinct
    have places := placed.placed
    rw [untaken, append_nil] at distinct places
    exact ⟨distinct, places, fun absurdity => absurd rfl absurdity⟩
  | replayed taken => exact placed.replay taken

theorem step_emptied_iff (stepped : (barrier capacity).step world action = some next) :
    (next.opening = .drained → next.buffer = []) ↔
      (world.opening = .drained → world.buffer = []) ∧ OnTime capacity world action := by
  cases barrier_stepped stepped with
  | looked ready | replayed taken => simp [OnTime]
  | delivered saw => simp [OnTime, saw]
  | rejected saw full => simp [OnTime, full]
  | buffered saw room =>
    simp only [OnTime, saw, true_implies, room, append_eq_nil_iff, cons_ne_self, and_false]
    tauto
  | raised shut => simp [OnTime, shut]
  | drained raised => simp [OnTime, raised]

/-- Once the buffer has been drained it stays empty just when every caller acts in time. -/
theorem emptied_iff (ran : (barrier capacity).run world actions = some final) :
    (final.opening = .drained → final.buffer = []) ↔
      (world.opening = .drained → world.buffer = []) ∧ (barrier capacity).Meets (OnTime capacity) world actions :=
  StepSystem.invariant_iff step_emptied_iff ran

/-- When the opener and the callers are done and every caller acted in time, nothing is left behind. -/
theorem nothing_left (ran : (barrier capacity).run .fresh actions = some final)
    (drained : final.opening = .drained) (replayed : final.pending = [])
    (returned : ∀ caller raised, final.phase caller ≠ .saw raised)
    (met : (barrier capacity).Meets (OnTime capacity) .fresh actions) :
    final.buffer = [] ∧ final.delivered.Nodup ∧ ∀ caller, final.phase caller ≠ .ready →
      caller ∈ final.delivered ∨ final.phase caller = .done .rejected := by
  have placed : Placed final := StepSystem.invariant_run Placed.step .fresh ran
  have empty : final.buffer = [] := (emptied_iff ran).mpr ⟨fun _ => rfl, met⟩ drained
  refine ⟨empty, ?_, fun caller looked => ?_⟩
  · have distinct := placed.distinct
    rw [empty, replayed] at distinct
    exact distinct
  · have place := placed.placed caller
    rw [empty, replayed, nil_append] at place
    cases phase : final.phase caller with
    | ready => exact absurd phase looked
    | saw raised => exact absurd phase (returned caller raised)
    | done fate =>
      cases fate with
      | delivered => exact .inl (place.mpr (.inr phase))
      | buffered => exact .inl (place.mpr (.inl phase))
      | rejected => exact .inr rfl

end Barrier
