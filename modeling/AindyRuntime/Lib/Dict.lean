import Mathlib.Data.List.Nodup

/-! # Insertion-ordered dictionaries

The dictionaries of the modelled language: iteration follows insertion order,
assigning to a present key keeps its position, and no key occurs twice.
-/

structure Dict (Key Value : Type) where
  entries : List (Key × Value)
  distinct : (entries.map Prod.fst).Nodup
deriving Repr

namespace Dict

open List

namespace Entries

variable {Key Value : Type} [DecidableEq Key] (key : Key)

def find? : List (Key × Value) → Option Value
  | [] => none
  | (name, value) :: rest => if name = key then some value else find? rest

def assign (value : Value) : List (Key × Value) → List (Key × Value)
  | [] => [(key, value)]
  | (name, old) :: rest => if name = key then (key, value) :: rest else (name, old) :: assign value rest

def remove : List (Key × Value) → List (Key × Value)
  | [] => []
  | (name, value) :: rest => if name = key then rest else (name, value) :: remove rest

variable {entries : List (Key × Value)} {key : Key}

theorem mem_keys_assign :
    other ∈ (assign key value entries).map Prod.fst ↔
      other = key ∨ other ∈ entries.map Prod.fst := by
  induction entries with
  | nil => simp [assign]
  | cons entry rest ih =>
    obtain ⟨name, _⟩ := entry
    by_cases same : name = key
    · simp [assign, same]
    · simp only [assign, same, if_false, map_cons, mem_cons]
      tauto

theorem nodup_assign (distinct : (entries.map Prod.fst).Nodup) :
    ((assign key value entries).map Prod.fst).Nodup := by
  induction entries with
  | nil => simp [assign]
  | cons entry rest ih =>
    obtain ⟨name, _⟩ := entry
    simp only [map_cons, nodup_cons] at distinct
    by_cases same : name = key
    · subst same
      simpa [assign] using distinct
    · rw [assign, if_neg same, map_cons, nodup_cons, mem_keys_assign]
      exact ⟨fun member => member.elim same distinct.1, ih distinct.2⟩

theorem mem_keys_remove (member : other ∈ (remove key entries).map Prod.fst) : other ∈ entries.map Prod.fst := by
  induction entries with
  | nil => exact member
  | cons entry rest ih =>
    obtain ⟨name, _⟩ := entry
    by_cases same : name = key
    · simp only [remove, same] at member
      exact mem_cons_of_mem _ member
    · simp only [remove, same, if_false, map_cons, mem_cons] at member ⊢
      exact member.imp_right ih

theorem nodup_remove
    (distinct : (entries.map Prod.fst).Nodup) : ((remove key entries).map Prod.fst).Nodup := by
  induction entries with
  | nil => exact distinct
  | cons entry rest ih =>
    obtain ⟨name, _⟩ := entry
    simp only [map_cons, nodup_cons] at distinct
    by_cases same : name = key
    · simpa [remove, same] using distinct.2
    · simp only [remove, same, if_false, map_cons, nodup_cons]
      exact ⟨fun member => distinct.1 (mem_keys_remove member), ih distinct.2⟩

theorem find?_assign :
    find? other (assign key value entries) =
      if key = other then some value else find? other entries := by
  induction entries with
  | nil => simp [assign, find?]
  | cons entry rest ih =>
    obtain ⟨name, _⟩ := entry
    by_cases same : name = key
    · by_cases hit : key = other <;> simp [assign, find?, same, hit]
    · by_cases hit : name = other
      · subst hit
        simp [assign, find?, same, Ne.symm same]
      · simp [assign, same, find?, hit, ih]

theorem find?_eq_none : find? key entries = none ↔ key ∉ entries.map Prod.fst := by
  induction entries with
  | nil => simp [find?]
  | cons entry rest ih =>
    obtain ⟨name, _⟩ := entry
    by_cases same : name = key
    · simp [find?, same]
    · simp [find?, same, ih, Ne.symm same]

theorem find?_eq_some (distinct : (entries.map Prod.fst).Nodup) :
    find? key entries = some value ↔ (key, value) ∈ entries := by
  induction entries with
  | nil => simp [find?]
  | cons entry rest ih =>
    obtain ⟨name, _⟩ := entry
    simp only [map_cons, nodup_cons] at distinct
    by_cases same : name = key
    · subst same
      have absent : (name, value) ∉ rest := fun member => distinct.1 (mem_map_of_mem member)
      simp [find?, absent, eq_comm]
    · simp [find?, same, ih distinct.2, Ne.symm same]

theorem find?_perm (distinct : (entries.map Prod.fst).Nodup) (reordered : entries.Perm entries') :
    find? key entries' = find? key entries := by
  have distinct' := (reordered.map Prod.fst).nodup_iff.mp distinct
  refine Option.ext fun value => ?_
  rw [find?_eq_some distinct', find?_eq_some distinct, reordered.mem_iff]

theorem find?_remove (distinct : (entries.map Prod.fst).Nodup) :
    find? other (remove key entries) = if key = other then none else find? other entries := by
  induction entries with
  | nil => simp [remove, find?]
  | cons entry rest ih =>
    obtain ⟨name, _⟩ := entry
    simp only [map_cons, nodup_cons] at distinct
    by_cases same : name = key
    · subst same
      by_cases hit : name = other
      · subst hit
        simpa [remove] using find?_eq_none.mpr distinct.1
      · simp [remove, find?, hit]
    · by_cases hit : name = other
      · subst hit
        simp [remove, find?, same, Ne.symm same]
      · simp [remove, same, find?, hit, ih distinct.2]

theorem assign_eq_self (found : find? key entries = some value) : assign key value entries = entries := by
  induction entries with
  | nil => cases found
  | cons entry rest ih =>
    obtain ⟨name, old⟩ := entry
    simp only [find?, assign] at found ⊢
    split at found
    case isTrue => simp_all
    case isFalse other => rw [if_neg other, ih found]

end Entries

variable {Key Value : Type} [DecidableEq Key]

instance [DecidableEq Value] : DecidableEq (Dict Key Value) := fun left right =>
  decidable_of_iff (left.entries = right.entries) <| by
    cases left
    cases right
    simp

def empty : Dict Key Value := ⟨[], nodup_nil⟩

instance : EmptyCollection (Dict Key Value) := ⟨empty⟩

instance : Inhabited (Dict Key Value) := ⟨empty⟩

variable (dict : Dict Key Value) (key : Key)

def get? : Option Value := Entries.find? key dict.entries

def contains : Bool := (dict.get? key).isSome

def keys : List Key := dict.entries.map Prod.fst

def set (value : Value) : Dict Key Value :=
  ⟨Entries.assign key value dict.entries, Entries.nodup_assign dict.distinct⟩

def erase : Dict Key Value :=
  ⟨Entries.remove key dict.entries, Entries.nodup_remove dict.distinct⟩

def eraseAll (keys : List Key) : Dict Key Value := keys.foldl erase dict

def alter (change : Value → Value) : Dict Key Value :=
  match dict.get? key with
  | some value => dict.set key (change value)
  | none => dict

def assignAll (dict : Dict Key Value) : List (Key × Value) → Dict Key Value
  | [] => dict
  | (key, value) :: rest => assignAll (dict.set key value) rest

def update (dict patch : Dict Key Value) : Dict Key Value := dict.assignAll patch.entries

def ofList (entries : List (Key × Value)) : Dict Key Value := empty.assignAll entries

variable {dict : Dict Key Value} {key : Key}

@[simp] theorem get?_empty : (empty : Dict Key Value).get? key = none := rfl

@[simp] theorem get?_set : (dict.set key value).get? other = if key = other then some value else dict.get? other :=
  Entries.find?_assign

@[simp] theorem get?_erase : (dict.erase key).get? other = if key = other then none else dict.get? other :=
  Entries.find?_remove dict.distinct

theorem get?_eq_none : dict.get? key = none ↔ key ∉ dict.keys := Entries.find?_eq_none

theorem get?_eq_some : dict.get? key = some value ↔ (key, value) ∈ dict.entries :=
  Entries.find?_eq_some dict.distinct

theorem get?_eraseAll {keys : List Key} :
    (dict.eraseAll keys).get? other = if other ∈ keys then none else dict.get? other := by
  induction keys generalizing dict with
  | nil => simp [eraseAll]
  | cons first rest ih =>
    have once : dict.eraseAll (first :: rest) = (dict.erase first).eraseAll rest := rfl
    rw [once, ih]
    by_cases same : first = other
    · simp [same]
    · simp [same, Ne.symm same]

@[simp] theorem get?_alter :
    (dict.alter key change).get? other =
      if key = other then (dict.get? other).map change else dict.get? other := by
  by_cases same : key = other
  · subst same
    cases found : dict.get? key <;> simp [alter, found]
  · cases found : dict.get? key <;> simp [alter, found, same]

section

variable {entries : List (Key × Value)} (distinct : (entries.map Prod.fst).Nodup)
include distinct

theorem get?_assignAll : (dict.assignAll entries).get? key = (Entries.find? key entries).or (dict.get? key) := by
  induction entries generalizing dict with
  | nil => simp [assignAll, Entries.find?]
  | cons entry rest ih =>
    obtain ⟨name, _⟩ := entry
    simp only [map_cons, nodup_cons] at distinct
    rw [assignAll, ih distinct.2, Entries.find?]
    by_cases same : name = key
    · subst same
      simp [Entries.find?_eq_none.mpr distinct.1]
    · simp [same]

theorem assignAll_eq_self :
    dict.assignAll entries = dict ↔ ∀ entry ∈ entries, dict.get? entry.1 = some entry.2 := by
  refine ⟨fun same entry member => ?_, fun held => ?_⟩
  · rw [← same, get?_assignAll distinct, (Entries.find?_eq_some distinct).mpr member, Option.some_or]
  · induction entries with
    | nil => rfl
    | cons entry rest ih =>
      have kept : dict.set entry.1 entry.2 = dict := by
        simp [set, Entries.assign_eq_self (held entry mem_cons_self)]
      rw [assignAll, kept]
      exact ih (nodup_cons.mp distinct).2 fun other later => held other (mem_cons_of_mem _ later)

end

theorem get?_ofList_map {keys : List Key} {values : Key → Value} (distinct : keys.Nodup)
    (listed : key ∈ keys) : (ofList (keys.map fun name => (name, values name))).get? key = some (values key) := by
  have names : ((keys.map fun name => (name, values name)).map Prod.fst).Nodup := by
    simpa [Function.comp_def] using distinct
  have found : Entries.find? key (keys.map fun name => (name, values name)) = some (values key) := by
    rw [Entries.find?_eq_some names]
    exact mem_map_of_mem listed
  rw [ofList, get?_assignAll names, found]
  rfl

@[simp] theorem get?_update : (dict.update patch).get? key = (patch.get? key).or (dict.get? key) :=
  get?_assignAll patch.distinct

end Dict
