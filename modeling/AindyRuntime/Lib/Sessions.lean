import AindyRuntime.Lib.StepSystem
import AindyRuntime.Lib.UnitOfWork

/-! # Sessions on one row

Parties read and write a row of a table through sessions of their own.
-/

structure Sessions (Party Row : Type) where
  row : Row
  object : Party → Option Row

namespace Sessions

variable {Party Row : Type} {sessions : Sessions Party Row}

def held (sessions : Sessions Party Row) (party : Party) : Row := (sessions.object party).getD sessions.row

structure All (Settled : Row → Prop) (sessions : Sessions Party Row) : Prop where
  row : Settled sessions.row
  objects : ∀ {party loaded}, sessions.object party = some loaded → Settled loaded

variable {Settled : Row → Prop}

theorem All.held (all : All Settled sessions) : Settled (sessions.held party) := by
  rw [Sessions.held]
  cases found : sessions.object party with
  | none => exact all.row
  | some => exact all.objects found

theorem All.of_unloaded (row : Settled sessions.row) (unloaded : ∀ party, sessions.object party = none) :
    All Settled sessions := by
  refine ⟨row, fun {party loaded} found => ?_⟩
  rw [unloaded party] at found
  cases found

variable [DecidableEq Party]

def query (sessions : Sessions Party Row) (party : Party) : Sessions Party Row :=
  { sessions with
    object := fun other => if other = party then some (sessions.held party) else sessions.object other }

def expire (sessions : Sessions Party Row) (party : Party) : Sessions Party Row :=
  { sessions with object := fun other => if other = party then none else sessions.object other }

/-- The commit of an assignment; `writeBack` is what it leaves of the loaded, the assigned and the current row. -/
def commit (writeBack : (loaded assigned current : Row) → Row) (sessions : Sessions Party Row) (party : Party)
    (assign : Row → Row) : Sessions Party Row :=
  { sessions.expire party with row := writeBack (sessions.held party) (assign (sessions.held party)) sessions.row }

def update (sessions : Sessions Party Row) (party : Party) (condition : Row → Bool) (assign : Row → Row) :
    Sessions Party Row :=
  if condition sessions.row then { sessions.expire party with row := assign sessions.row }
  else sessions.expire party

@[simp] theorem held_query : (sessions.query party).held party = sessions.held party := by
  simp [held, query]

section

variable (all : All Settled sessions)
include all

theorem All.query : All Settled (sessions.query party) := by
  refine ⟨all.row, fun {other loaded} found => ?_⟩
  simp only [Sessions.query] at found
  split at found
  · cases found
    exact all.held
  · exact all.objects found

theorem All.expire : All Settled (sessions.expire party) := by
  refine ⟨all.row, fun {other loaded} found => ?_⟩
  simp only [Sessions.expire] at found
  split at found
  · cases found
  · exact all.objects found

theorem All.commit
    (written : ∀ {loaded current}, Settled loaded → Settled current →
      Settled (writeBack loaded (assign loaded) current)) :
    All Settled (sessions.commit writeBack party assign) :=
  ⟨written all.held all.row, all.expire.objects⟩

theorem All.update
    (kept : ∀ {row}, Settled row → condition row = false) : All Settled (sessions.update party condition assign) := by
  rw [Sessions.update, if_neg (by simp [kept all.row])]
  exact all.expire

end

end Sessions
