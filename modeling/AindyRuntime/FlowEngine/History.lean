import AindyRuntime.FlowEngine.NodeEntry
import AindyRuntime.FlowEngine.Resume

/-! # Folding the history

`core/flow_history_fold.py`: a run's state is read back from the last row of its
history, by that row's checkpoint and its patch.
-/

namespace AindyRuntime.FlowEngine

open List

def FlowHistory.rank (row : FlowHistory) : Nat :=
  match row.sequenceNumber with
  | none => 0
  | some number => number + 1

def orderedFlowHistory (rows : List FlowHistory) : List FlowHistory :=
  rows.insertionSort fun left right => left.rank ≤ right.rank

variable (textCase : TextCase)

def foldsPatch (status : String) : Bool :=
  textCase.upper status = "SUCCESS" || textCase.upper status = "WAIT"

def foldRow (row : FlowHistory) : State :=
  if foldsPatch textCase row.status then row.inputState.update (row.outputPatch.getD ∅)
  else row.inputState

def foldFlowHistoryState (rows : List FlowHistory) : State :=
  match rows.getLast? with
  | none => ∅
  | some last => foldRow textCase last

def reconstructState (history : List FlowHistory) : State :=
  foldFlowHistoryState textCase (orderedFlowHistory history)

variable {textCase : TextCase}

theorem orderedFlowHistory_getLast? (member : row ∈ rows)
    (above : ∀ other ∈ rows, other ≠ row → other.rank < row.rank) :
    (orderedFlowHistory rows).getLast? = some row := by
  have listed : row ∈ orderedFlowHistory rows := mem_insertionSort _ |>.mpr member
  rcases eq_nil_or_concat (orderedFlowHistory rows) with empty | ⟨front, last, split⟩
  · simp [empty] at listed
  · rw [concat_eq_append] at split
    rw [split, getLast?_concat]
    by_contra differ
    have lastListed : last ∈ rows := by
      rw [← mem_insertionSort (fun left right : FlowHistory => left.rank ≤ right.rank)]
      change last ∈ orderedFlowHistory rows
      simp [split]
    have below := above last lastListed fun same => differ (by rw [same])
    have sorted : (front ++ [last]).Pairwise fun left right : FlowHistory => left.rank ≤ right.rank := by
      rw [← split]
      exact pairwise_insertionSort _ rows
    rw [split, mem_append, mem_singleton] at listed
    rcases listed with earlier | same
    · have order := (pairwise_append.mp sorted).2.2 row earlier last mem_cons_self
      omega
    · exact differ (by rw [same])

theorem reconstructState_concat (below : ∀ other ∈ rows, other.rank < row.rank) :
    reconstructState textCase (rows ++ [row]) = foldRow textCase row := by
  have last : (orderedFlowHistory (rows ++ [row])).getLast? = some row := by
    apply orderedFlowHistory_getLast? (by simp)
    intro other member differ
    rcases mem_append.mp member with older | same
    · exact below other older
    · exact absurd (mem_singleton.mp same) differ
  rw [reconstructState, foldFlowHistoryState, last]

theorem Engine.rank_lt_nextSequence {engine : Engine} (member : row ∈ engine.history) :
    row.rank < engine.nextSequence + 1 := by
  simp only [FlowHistory.rank, Engine.nextSequence]
  cases numbered : row.sequenceNumber with
  | none => simp
  | some number =>
    have listed : number ∈ engine.history.filterMap (·.sequenceNumber) :=
      mem_filterMap.mpr ⟨row, member, numbered⟩
    have bound : number ≤ (engine.history.filterMap (·.sequenceNumber)).max?.getD 0 :=
      le_max?_getD_of_mem listed
    simp only
    omega

end AindyRuntime.FlowEngine
