import Mathlib.Data.List.Destutter
import Mathlib.Data.List.DropRight
import AindyRuntime.Data.PyError

/-! # The address space of memory

`memory_address_space.py`, with `tenant_owns_memory_path` of `tenant_context.py`, on the letters of the paths.
-/

namespace AindyRuntime.AddressSpace

open List

abbrev Path := List Char

def masRoot : Path := "/memory".toList

inductive PathError where
  | empty
  | outsideRoot (path : Path)
deriving DecidableEq, Repr

variable (path : Path)

def stripped : Path := (path.dropWhile isSpace).rdropWhile isSpace

def collapsed : Path := (stripped path).destutter fun one next => ¬(one = '/' ∧ next = '/')

def trimmed (cleaned : Path) : Path :=
  if cleaned ≠ masRoot ∧ cleaned.getLast? = some '/' then cleaned.rdropWhile (· = '/') else cleaned

def normalizePath : Except PathError Path :=
  if path = [] then .error .empty
  else if masRoot <+: collapsed path then .ok (trimmed (collapsed path))
  else .error (.outsideRoot path)

def tenantOwnsMemoryPath (path tenantId : Path) : Bool :=
  let cleaned := trimmed (collapsed path)
  let root := masRoot ++ '/' :: tenantId
  cleaned = root ∨ root ++ ['/'] <+: cleaned

def endsInSpace : Bool := path.getLast?.any isSpace

structure Clean : Prop where
  rooted : masRoot <+: path
  single : path.IsChain fun one next => ¬(one = '/' ∧ next = '/')
  closed : path.getLast? ≠ some '/'

variable {path : Path}

theorem rooted_rdropWhile (rest : Path) : masRoot <+: (masRoot ++ rest).rdropWhile (· = '/') := by
  induction rest using List.reverseRecOn with
  | nil => decide
  | append_singleton rest last ih =>
    rw [← append_assoc, rdropWhile_concat]
    split
    · exact ih
    · exact ⟨rest ++ [last], (append_assoc ..).symm⟩

theorem trimmed_le (path : Path) : (trimmed path).length ≤ path.length := by
  simp only [trimmed]
  split
  · exact IsPrefix.length_le <| rdropWhile_prefix _ path
  · exact Nat.le_refl _

theorem normalizePath_clean (accepted : normalizePath path = .ok cleaned) :
    cleaned = trimmed (collapsed path) ∧ Clean cleaned := by
  simp only [normalizePath] at accepted
  split at accepted
  · cases accepted
  · split at accepted
    case isTrue rooted =>
      cases accepted
      have single : (collapsed path).IsChain fun one next => ¬(one = '/' ∧ next = '/') := isChain_destutter _ _
      refine ⟨rfl, ?_⟩
      simp only [trimmed]
      split
      case isTrue =>
        obtain ⟨rest, same⟩ := rooted
        rw [← @rdropWhile_append_rtakeWhile _ (· = '/') (collapsed path)] at single
        refine ⟨same ▸ rooted_rdropWhile rest, single.left_of_append, fun last => ?_⟩
        have some : (collapsed path).rdropWhile (· = '/') ≠ [] := fun none => by simp [none] at last
        rw [getLast?_eq_some_getLast some] at last
        exact rdropWhile_last_not _ _ some (by simpa using last)
      case isFalse whole =>
        refine ⟨rooted, single, fun last => whole ⟨?_, last⟩⟩
        intro same
        rw [same] at last
        revert last
        decide
    · cases accepted

namespace Clean

variable (clean : Clean path)
include clean

theorem trimmed_eq : trimmed path = path := if_neg fun slash => clean.closed slash.2

theorem dropWhile_eq : path.dropWhile isSpace = path := by
  obtain ⟨_, rfl⟩ := clean.rooted
  rfl

theorem collapsed_eq (full : endsInSpace path = false) : collapsed path = path := by
  have back : path.rdropWhile isSpace = path := by
    refine rdropWhile_eq_self_iff.mpr fun some space => ?_
    simp [endsInSpace, getLast?_eq_some_getLast some, space] at full
  rw [collapsed, stripped, clean.dropWhile_eq, back, destutter_of_isChain _ _ clean.single]

theorem collapsed_lt (space : endsInSpace path = true) : (collapsed path).length < path.length := by
  obtain ⟨last, ends, blank⟩ := (Option.any_eq_true _ _).mp space
  obtain ⟨front, rfl⟩ := getLast?_eq_some_iff.mp ends
  have kept : (collapsed (front ++ [last])).length ≤ (front.rdropWhile isSpace).length := by
    rw [collapsed, stripped, clean.dropWhile_eq, rdropWhile_concat_pos _ _ _ blank]
    exact (destutter_sublist _ _).length_le
  have less := IsPrefix.length_le <| rdropWhile_prefix isSpace front
  rw [length_append, length_singleton]
  omega

end Clean

/-- The path without its slashes. -/
def letters (path : Path) : Path := path.filter (· ≠ '/')

theorem letters_destutter : letters (path.destutter fun one next => ¬(one = '/' ∧ next = '/')) = letters path := by
  have later (first : Char) (rest : Path) :
      letters (rest.destutter' (fun one next => ¬(one = '/' ∧ next = '/')) first) = letters (first :: rest) := by
    induction rest generalizing first with
    | nil => rfl
    | cons second rest ih =>
        by_cases slashes : first = '/' ∧ second = '/'
        · rw [destutter'_cons_neg _ (not_not.mpr slashes), ih]
          simp [letters, slashes.1, slashes.2]
        · rw [destutter'_cons_pos _ slashes, letters, filter_cons, ← letters, ih]
          simp only [letters, filter_cons]
  cases path with
  | nil => rfl
  | cons first rest => exact later first rest

theorem letters_trimmed : letters (trimmed path) = letters path := by
  have slashes : (path.rtakeWhile (· = '/')).filter (· ≠ '/') = [] :=
    filter_eq_nil_iff.mpr fun letter member => by simpa using mem_rtakeWhile_imp member
  have dropped : (path.rdropWhile (· = '/')).filter (· ≠ '/') = path.filter (· ≠ '/') := by
    conv_rhs => rw [← @rdropWhile_append_rtakeWhile _ (· = '/') path]
    rw [filter_append, slashes, append_nil]
  simp only [trimmed]
  split
  · exact dropped
  · rfl

theorem Clean.endsInSpace_eq (clean : Clean path) : endsInSpace path = endsInSpace (letters path) := by
  cases last : path.getLast? with
  | none => rw [getLast?_eq_none_iff.mp last]; rfl
  | some letter =>
      have kept : letter ≠ '/' := fun same => clean.closed (by rw [last, same])
      obtain ⟨front, rfl⟩ := getLast?_eq_some_iff.mp last
      simp [endsInSpace, letters, kept]

/-- A normal form is its own unless the stripped path has white space before the slashes at its end. -/
theorem normalizePath_canonical_iff (accepted : normalizePath path = .ok cleaned) :
    (normalizePath cleaned = .ok cleaned ↔ endsInSpace (letters (stripped path)) = false) ∧
      (endsInSpace (letters (stripped path)) = false → ∀ tenantId,
        tenantOwnsMemoryPath path tenantId = tenantOwnsMemoryPath cleaned tenantId) := by
  obtain ⟨same, clean⟩ := normalizePath_clean accepted
  have ends : endsInSpace (letters (stripped path)) = endsInSpace cleaned := by
    rw [clean.endsInSpace_eq, same, letters_trimmed, collapsed, letters_destutter]
  rw [ends]
  refine ⟨⟨fun again => ?_, fun full => ?_⟩, fun full tenantId => ?_⟩
  · by_contra space
    have shorter := clean.collapsed_lt (by simpa using space)
    have kept := trimmed_le (collapsed cleaned)
    rw [← (normalizePath_clean again).1] at kept
    omega
  · have whole := clean.collapsed_eq full
    obtain ⟨_, root⟩ := clean.rooted
    rw [normalizePath, if_neg (by simp [← root, masRoot]), whole, if_pos clean.rooted, clean.trimmed_eq]
  · rw [tenantOwnsMemoryPath, tenantOwnsMemoryPath, clean.collapsed_eq full, clean.trimmed_eq, ← same]

theorem normalizePath_canonical_iff_slashes :
    normalizePath "/memory//t/".toList = .ok "/memory/t".toList ∧
      normalizePath "/memory/t".toList = .ok "/memory/t".toList :=
  ⟨rfl, (@normalizePath_canonical_iff "/memory//t/".toList _ rfl).1.mpr rfl⟩

/-- The slash keeps `strip` from the space before it. -/
theorem normalizePath_twice :
    normalizePath "/memory/t /".toList = .ok "/memory/t ".toList ∧
      normalizePath "/memory/t ".toList = .ok "/memory/t".toList ∧
      tenantOwnsMemoryPath "/memory/t /".toList ['t'] = false ∧
      tenantOwnsMemoryPath "/memory/t ".toList ['t'] = true := by
  decide

end AindyRuntime.AddressSpace
