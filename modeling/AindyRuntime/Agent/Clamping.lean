import AindyRuntime.Agent.ExecutionEnvironment

namespace AindyRuntime.Environment

section Axis

variable {Value : Type} [DecidableEq Value] {vocabulary : Axis Value}

structure Axis.Complete (vocabulary : Axis Value) : Prop where
  nodup : vocabulary.order.Nodup
  known : ∀ value, value ∈ vocabulary.order

theorem filesystem_complete : filesystemAxis.Complete := ⟨by decide, fun value => by cases value <;> decide⟩

theorem env_complete : envAxis.Complete := ⟨by decide, fun value => by cases value <;> decide⟩

theorem network_complete : networkAxis.Complete := ⟨by decide, fun value => by cases value <;> decide⟩

def Axis.Below (vocabulary : Axis Value) (value floor : Value) : Prop :=
  vocabulary.order.idxOf value ≤ vocabulary.order.idxOf floor

section

variable (complete : vocabulary.Complete)
include complete

theorem Axis.Complete.idxOf_narrower :
    vocabulary.order.idxOf (narrower vocabulary declared floor).1
      = min (vocabulary.order.idxOf declared) (vocabulary.order.idxOf floor) := by
  have bound : min (vocabulary.order.idxOf declared) (vocabulary.order.idxOf floor) < vocabulary.order.length :=
    Nat.lt_of_le_of_lt (Nat.min_le_left _ _) (List.idxOf_lt_length_of_mem (complete.known declared))
  simp only [narrower, List.getD_eq_getElem?_getD, List.getElem?_eq_getElem bound]
  exact complete.nodup.idxOf_getElem _ bound

theorem Axis.Complete.below_narrower : vocabulary.Below (narrower vocabulary declared floor).1 floor :=
  complete.idxOf_narrower.trans_le (Nat.min_le_right _ _)

theorem Axis.Complete.narrower_below : vocabulary.Below (narrower vocabulary declared other).1 declared :=
  complete.idxOf_narrower.trans_le (Nat.min_le_left _ _)

theorem Axis.Complete.narrower_eq (below : vocabulary.Below declared floor) :
    narrower vocabulary declared floor = (declared, false) := by
  have found := List.getElem?_idxOf (complete.known declared)
  simp [narrower, Nat.min_eq_left below, found, decide_eq_false (Nat.not_lt.mpr below)]

end

end Axis

def BelowInt (own floor : Option Nat) : Prop := ∀ limit, floor = some limit → ∃ count ≤ limit, own = some count

theorem belowInt_narrowerInt : BelowInt (narrowerInt declared floor).1 floor := by
  rintro limit rfl
  cases declared with
  | none => exact ⟨limit, Nat.le_refl _, rfl⟩
  | some count => exact ⟨min count limit, Nat.min_le_right _ _, rfl⟩

theorem BelowInt.narrow (below : BelowInt own floor) (other : Option Nat) :
    BelowInt (narrowerInt own other).1 floor := by
  intro limit limited
  obtain ⟨count, within, rfl⟩ := below limit limited
  cases other with
  | none => exact ⟨count, within, rfl⟩
  | some bound => exact ⟨min count bound, Nat.le_trans (Nat.min_le_left _ _) within, rfl⟩

theorem BelowInt.narrowerInt_eq (below : BelowInt own floor) : narrowerInt own floor = (own, false) := by
  cases floor with
  | none => exact narrowerInt_none own
  | some limit =>
    obtain ⟨_, within, rfl⟩ := below limit rfl
    simp [narrowerInt, within]

def Paths.allows (paths : Paths) (floor : Spec) (root : String) : Bool :=
  ((floor.visibility.filesystemRoots.filter (· != "")).map paths.canonical).any (paths.within (paths.canonical root))

structure Bounded (paths : Paths) (floor spec : Spec) : Prop where
  filesystem : filesystemAxis.Below spec.visibility.filesystem floor.visibility.filesystem
  named : ∀ root ∈ spec.visibility.filesystemRoots, root ≠ ""
  roots : spec.visibility.filesystem ≠ .none → floor.visibility.filesystem ≠ .host →
    ∀ root ∈ spec.visibility.filesystemRoots, paths.allows floor root = true
  env : envAxis.Below spec.visibility.env floor.visibility.env
  network : networkAxis.Below spec.authority.network floor.authority.network
  subprocess : spec.authority.subprocess = true → floor.authority.subprocess = true
  wallTimeMs : BelowInt spec.resources.wallTimeMs floor.resources.wallTimeMs
  memoryBytes : BelowInt spec.resources.memoryBytes floor.resources.memoryBytes
  syscalls : BelowInt spec.resources.syscalls floor.resources.syscalls
  tokens : BelowInt spec.resources.tokens floor.resources.tokens
  minAssurance : assuranceRank floor.minAssurance ≤ assuranceRank spec.minAssurance

variable {spec : Spec} {roots : List String}

theorem mem_clampRoots (kept : root ∈ (clampRoots paths mode roots floor).1) :
    (root ∈ roots ∧ root ≠ "") ∧
      (mode ≠ .none → mode ≠ .host → floor.visibility.filesystem ≠ .host → paths.allows floor root = true) := by
  have listed {root : String} : root ∈ roots.filter (· != "") ↔ root ∈ roots ∧ root ≠ "" := by simp
  simp only [clampRoots] at kept
  split at kept
  case isTrue unread =>
    refine ⟨listed.mp kept, fun reads bounded _ => ?_⟩
    rw [unread.resolve_left reads |>.resolve_left bounded] at kept
    cases kept
  case isFalse =>
    split at kept
    case isTrue host => exact ⟨listed.mp kept, fun _ _ bounded => absurd host bounded⟩
    case isFalse =>
      obtain ⟨member, allowed⟩ := List.mem_filter.mp kept
      exact ⟨listed.mp member, fun _ _ _ => allowed⟩

theorem clampRoots_eq (named : ∀ root ∈ roots, root ≠ "")
    (allowed : mode ≠ .none → floor.visibility.filesystem ≠ .host → ∀ root ∈ roots, paths.allows floor root = true) :
    clampRoots paths mode roots floor = (roots, false) := by
  have same : roots.filter (· != "") = roots := by simpa using named
  simp only [clampRoots, same]
  split
  · rfl
  case isFalse read =>
    split
    · rfl
    case isFalse bounded =>
      have kept : roots.filter (paths.allows floor) = roots :=
        List.filter_eq_self.mpr (allowed (fun none => read (.inl none)) bounded)
      unfold Paths.allows at kept
      simp only [kept, ne_eq, not_true_eq_false, decide_false]

theorem eq_host_of_below (below : filesystemAxis.Below .host mode) : mode = .host := by
  unfold Axis.Below at below
  cases mode with
  | host => rfl
  | _ => exact absurd below (by decide)

theorem narrower_none {floor : Filesystem} : (narrower filesystemAxis .none floor).1 = .none := by
  cases floor <;> rfl

theorem bounded_clampToFloor : Bounded paths floor (clampToFloor paths declared floor).1 where
  filesystem := filesystem_complete.below_narrower
  named root kept := (mem_clampRoots kept).1.2
  roots reads bounded root kept := by
    refine (mem_clampRoots kept).2 reads (fun host => bounded (eq_host_of_below ?_)) bounded
    rw [← host]
    exact filesystem_complete.below_narrower
  env := env_complete.below_narrower
  network := network_complete.below_narrower
  subprocess allowed := (Bool.and_eq_true_iff.mp allowed).2
  wallTimeMs := belowInt_narrowerInt
  memoryBytes := belowInt_narrowerInt
  syscalls := belowInt_narrowerInt
  tokens := belowInt_narrowerInt
  minAssurance := by
    simp only [clampToFloor]
    split <;> omega

/-- What another floor leaves of a bounded spec is bounded. -/
theorem Bounded.clamp (bounded : Bounded paths floor spec) :
    Bounded paths floor (clampToFloor paths spec other).1 where
  filesystem := filesystem_complete.narrower_below.trans bounded.filesystem
  named root kept := (mem_clampRoots kept).1.2
  roots reads limited root kept := by
    refine bounded.roots (fun none => reads ?_) limited root (mem_clampRoots kept).1.1
    simp [clampToFloor, none, narrower_none]
  env := env_complete.narrower_below.trans bounded.env
  network := network_complete.narrower_below.trans bounded.network
  subprocess allowed := bounded.subprocess (Bool.and_eq_true_iff.mp allowed).1
  wallTimeMs := bounded.wallTimeMs.narrow _
  memoryBytes := bounded.memoryBytes.narrow _
  syscalls := bounded.syscalls.narrow _
  tokens := bounded.tokens.narrow _
  minAssurance := by
    have enough := bounded.minAssurance
    simp only [clampToFloor]
    split <;> omega

theorem Bounded.clampToFloor_eq (bounded : Bounded paths floor spec) : clampToFloor paths spec floor = (spec, []) := by
  have assured := Nat.not_lt.mpr bounded.minAssurance
  have allowed : (spec.authority.subprocess && floor.authority.subprocess) = spec.authority.subprocess ∧
      (spec.authority.subprocess && !floor.authority.subprocess) = false := by
    cases subprocess : spec.authority.subprocess with
    | false => exact ⟨rfl, rfl⟩
    | true => simp [bounded.subprocess subprocess]
  simp only [clampToFloor, filesystem_complete.narrower_eq bounded.filesystem,
    clampRoots_eq bounded.named bounded.roots,
    env_complete.narrower_eq bounded.env, network_complete.narrower_eq bounded.network,
    bounded.wallTimeMs.narrowerInt_eq, bounded.memoryBytes.narrowerInt_eq, bounded.syscalls.narrowerInt_eq,
    bounded.tokens.narrowerInt_eq, if_neg assured, allowed.1, allowed.2]
  rfl

/-- Clamping again changes nothing and reports nothing, and after a second floor neither floor does. -/
theorem clampToFloor_settles (paths : Paths) (declared floor other : Spec) :
    let once := (clampToFloor paths declared floor).1
    let twice := (clampToFloor paths once other).1
    clampToFloor paths once floor = (once, []) ∧
      clampToFloor paths twice floor = (twice, []) ∧ clampToFloor paths twice other = (twice, []) :=
  ⟨bounded_clampToFloor.clampToFloor_eq, bounded_clampToFloor.clamp.clampToFloor_eq,
    bounded_clampToFloor.clampToFloor_eq⟩

end AindyRuntime.Environment
