import Mathlib.Data.List.Basic

/-! # Fields joined by a separator

What can be read back from fields that were joined: all of them where none is
empty and none has the separator in it, and the last one wherever it has none,
whatever stands before.
-/

namespace Joined

open List

variable {Symbol : Type} {separator : Symbol}

theorem last_field (plain : separator ∉ field)
    (plain' : separator ∉ field') (same : before ++ separator :: field = before' ++ separator :: field') :
    before = before' ∧ field = field' := by
  have aligned : ∀ {front front' last last' middle : List Symbol}, separator ∉ last →
      front' = front ++ middle → separator :: last = middle ++ separator :: last' → front = front' ∧ last = last' := by
    intro front front' last last' middle free longer split
    cases middle with
    | nil =>
      rw [append_nil] at longer
      rw [nil_append, List.cons.injEq] at split
      exact ⟨longer.symm, split.2⟩
    | cons =>
      rw [cons_append, List.cons.injEq] at split
      rw [split.2] at free
      exact absurd (mem_append_right _ mem_cons_self) free
  rcases append_eq_append_iff.mp same with ⟨middle, longer, split⟩ | ⟨middle, longer, split⟩
  · exact aligned plain longer split
  · obtain ⟨fronts, lasts⟩ := aligned plain' longer split
    exact ⟨fronts.symm, lasts.symm⟩

theorem intercalate_concat (some : fields ≠ []) (last : List Symbol) :
    [separator].intercalate (fields ++ [last]) = [separator].intercalate fields ++ separator :: last := by
  induction fields with
  | nil => exact absurd rfl some
  | cons field rest ih =>
    cases rest with
    | nil => simp [List.intercalate]
    | cons =>
      have joined := ih (cons_ne_nil _ _)
      simp only [cons_append, intercalate_cons_cons] at joined ⊢
      rw [joined]
      simp

theorem intercalate_eq_nil (named : ∀ field ∈ fields, field ≠ [])
    (empty : [separator].intercalate fields = []) : fields = [] := by
  cases fields with
  | nil => rfl
  | cons field rest =>
    cases rest with
    | nil => exact absurd (by simpa [List.intercalate] using empty) (named field mem_cons_self)
    | cons =>
      simp at empty

theorem intercalate_injective [DecidableEq Symbol] (named : ∀ field ∈ fields, field ≠ [] ∧ separator ∉ field)
    (named' : ∀ field ∈ fields', field ≠ [] ∧ separator ∉ field)
    (same : [separator].intercalate fields = [separator].intercalate fields') : fields = fields' := by
  by_cases none : fields = []
  · subst none
    exact (intercalate_eq_nil (fun field member => (named' field member).1) same.symm).symm
  · have some' : fields' ≠ [] := by
      rintro rfl
      exact none (intercalate_eq_nil (fun field member => (named field member).1) same)
    rw [← splitOn_intercalate separator (fun field member => (named field member).2) none, same,
      splitOn_intercalate separator (fun field member => (named' field member).2) some']

end Joined
