import Mathlib.Logic.Basic

/-! # Write-back of loaded rows

An object-relational session loads a row, lets the program assign to its
columns, and at commit sends an update of exactly the columns whose value
differs from the loaded one.
-/

namespace UnitOfWork

variable {Value : Type} [DecidableEq Value] {assigned : Value}

/-- The column after a commit, from the value loaded, the value assigned and
the value the database holds when the commit runs. -/
def writeBack (loaded assigned current : Value) : Value :=
  if assigned = loaded then current else assigned

@[simp] theorem writeBack_fresh : writeBack loaded assigned loaded = assigned := by
  simp only [writeBack]
  split <;> simp_all

end UnitOfWork
