import AindyRuntime.Data.PyValue
import AindyRuntime.FlowEngine.Definition

/-! # Merging a superstep into the state

`runtime/flow_engine/state_merge.py`: the patches of one superstep, in
declaration order, are merged cell by cell; a cell written twice needs a
declared policy.
-/

namespace AindyRuntime.FlowEngine

abbrev Patch := String × State

/-- `_REDUCERS`; `none` inside is a `TypeError` of the operator. -/
def reducer? : String → Option (Json → Json → Option Json)
  | "sum" => some Json.pyAdd
  | "max" => some Json.pyMax
  | "min" => some Json.pyMin
  | "and" => some fun left right => some (.bool (left.truthy && right.truthy))
  | "or" => some fun left right => some (.bool (left.truthy || right.truthy))
  | "union" => some Json.pyUnion
  | _ => none

def conflict (text : String) : PyError := ⟨.other, text⟩

def reduceValues (reducer : Json → Json → Option Json) : Json → List Json → Except PyError Json
  | value, [] => .ok value
  | value, next :: rest =>
    match reducer value next with
    | some combined => reduceValues reducer combined rest
    | none => .error ⟨.other, "unsupported operand type(s)"⟩

def resolveCell (cell : String) (writers : List String) (first : Json) (rest : List Json)
    (policy : Option CellPolicy) : Except PyError Json :=
  match policy with
  | none => .error (conflict ("state cell " ++ quote cell ++ " was written by " ++ quoteAll writers
      ++ " in one superstep and no conflict policy is declared for it. Declare one under "
      ++ "'state_policies' — the runtime will not pick a default, because last-write-wins is "
      ++ "correct for a latest-reading cell and wrong for a counter, and guessing produces a "
      ++ "plausible value nobody checks."))
  | some declared =>
    match declared.policy with
    | "last_write_wins" => .ok ((first :: rest).getLast (List.cons_ne_nil _ _))
    | "reduce" =>
      match reducer? declared.op with
      | none => .error (conflict ("state cell " ++ quote cell ++ " declares reduce op "
          ++ quote declared.op ++ "; expected one of ['and', 'max', 'min', 'or', 'sum', 'union']. "
          ++ "Only commutative, associative operators are accepted — anything else makes the "
          ++ "result depend on which branch finished first."))
      | some reducer => reduceValues reducer first rest
    | "barrier" =>
      if declared.writers.isEmpty then
        .error (conflict ("state cell " ++ quote cell ++ " declares a barrier with no 'writers' "
          ++ "list; a barrier that names no writers cannot tell a complete superstep from an "
          ++ "incomplete one"))
      else
        let missing := declared.writers.filter fun writer => !decide (writer ∈ writers)
        if missing.isEmpty then .ok ((first :: rest).getLast (List.cons_ne_nil _ _))
        else .error (conflict ("state cell " ++ quote cell ++ " is barrier-gated on "
          ++ quoteAll declared.writers ++ " and " ++ quoteAll missing ++ " did not write. "
          ++ "Resolving it now would decide the cell from partial input."))
    | other => .error (conflict ("state cell " ++ quote cell ++ " declares unknown policy "
        ++ quote other ++ "; expected one of ['barrier', 'last_write_wins', 'reduce']"))

def writtenCells (patches : List Patch) : List String :=
  (patches.flatMap fun patch => patch.2.keys).eraseDups

def writersOf (cell : String) (patches : List Patch) : List String :=
  (patches.filter fun patch => patch.2.contains cell).map Prod.fst

def valuesOf (cell : String) (patches : List Patch) : List Json :=
  patches.filterMap fun patch => patch.2.get? cell

variable (policies : Dict String CellPolicy)

def cellValue (patches : List Patch) (cell : String) : Except PyError (Option Json) :=
  match valuesOf cell patches with
  | [] => .ok none
  | [value] => .ok (some value)
  | first :: rest => (resolveCell cell (writersOf cell patches) first rest (policies.get? cell)).map some

def mergeCells (patches : List Patch) : State → List String → Except PyError Unit × State
  | state, [] => (.ok (), state)
  | state, cell :: rest =>
    match cellValue policies patches cell with
    | .ok (some value) => mergeCells patches (state.set cell value) rest
    | .ok none => mergeCells patches state rest
    | .error error => (.error error, state)

def mergeState (state : State) (patches : List Patch) : Except PyError Unit × State :=
  match patches with
  | [] => (.ok (), state)
  | [(_, patch)] => (.ok (), state.update patch)
  | patches => mergeCells policies patches state (writtenCells patches)

variable {policies : Dict String CellPolicy} {patches : List Patch} {state after : State}
  {cell : String}

theorem mergeCells_get? (merged : mergeCells policies patches state cells = (.ok (), after)) :
    (cell ∉ cells → after.get? cell = state.get? cell) ∧
      (cell ∈ cells → ∃ value, cellValue policies patches cell = .ok value ∧
        after.get? cell = value.or (state.get? cell)) := by
  induction cells generalizing state with
  | nil =>
    cases merged
    simp
  | cons first rest ih =>
    simp only [mergeCells] at merged
    split at merged
    case h_1 value assigned =>
      obtain ⟨outside, inside⟩ := ih merged
      refine ⟨fun absent => ?_, fun present => ?_⟩
      · rw [outside fun member => absent (List.mem_cons_of_mem _ member), Dict.get?_set, if_neg]
        exact fun same => absent (same ▸ List.mem_cons_self)
      · by_cases later : cell ∈ rest
        · obtain ⟨result, resolved, equal⟩ := inside later
          refine ⟨result, resolved, equal.trans ?_⟩
          by_cases same : first = cell
          · subst same
            rw [assigned] at resolved
            cases resolved
            simp
          · simp [same]
        · obtain rfl : cell = first := by simpa [later] using present
          refine ⟨some value, assigned, ?_⟩
          rw [outside later]
          simp
    case h_2 unwritten =>
      obtain ⟨outside, inside⟩ := ih merged
      refine ⟨fun absent => outside fun member => absent (List.mem_cons_of_mem _ member), fun present => ?_⟩
      by_cases later : cell ∈ rest
      · exact inside later
      · obtain rfl : cell = first := by simpa [later] using present
        exact ⟨none, unwritten, by rw [outside later]; simp⟩
    · cases merged

theorem mem_writtenCells : cell ∈ writtenCells patches ↔ ∃ patch ∈ patches, cell ∈ patch.2.keys := by
  simp [writtenCells]

theorem valuesOf_eq_nil (absent : cell ∉ writtenCells patches) : valuesOf cell patches = [] := by
  simp only [valuesOf, List.filterMap_eq_nil_iff]
  intro patch member
  rw [Dict.get?_eq_none]
  exact fun written => absent (mem_writtenCells.mpr ⟨patch, member, written⟩)

/-- After a merge that raised nothing, each cell holds what the patches give it
and otherwise what it held. -/
theorem mergeState_get? (merged : mergeState policies state patches = (.ok (), after)) :
    ∃ value, cellValue policies patches cell = .ok value ∧
      after.get? cell = value.or (state.get? cell) := by
  rcases patches with _ | ⟨⟨writer, patch⟩, _ | ⟨second, rest⟩⟩
  · cases merged
    exact ⟨none, rfl, by simp⟩
  · cases merged
    refine ⟨patch.get? cell, ?_, Dict.get?_update⟩
    cases written : patch.get? cell <;> simp [cellValue, valuesOf, written]
  · obtain ⟨outside, inside⟩ := @mergeCells_get? policies _ state after cell _ merged
    by_cases written : cell ∈ writtenCells ((writer, patch) :: second :: rest)
    · exact inside written
    · refine ⟨none, ?_, by rw [outside written]; simp⟩
      simp [cellValue, valuesOf_eq_nil written]

theorem cellValue_eq_last (resolved : cellValue policies patches cell = .ok value)
    (unreduced : 2 ≤ (valuesOf cell patches).length →
      ∀ policy, policies.get? cell = some policy → policy.policy ≠ "reduce") :
    value = (valuesOf cell patches).getLast? := by
  simp only [cellValue] at resolved
  rcases written : valuesOf cell patches with _ | ⟨first, _ | ⟨second, rest⟩⟩
  · rw [written] at resolved
    cases resolved
    rfl
  · rw [written] at resolved
    cases resolved
    rfl
  · have plain := unreduced (by simp [written])
    simp only [written, resolveCell] at resolved
    cases declared : policies.get? cell with
    | none => simp [declared, Except.map] at resolved
    | some policy =>
      have other := plain policy declared
      simp only [declared] at resolved
      split at resolved
      · cases resolved
        rfl
      · contradiction
      · split at resolved
        · cases resolved
        · split at resolved <;> cases resolved
          · rfl
      · cases resolved

end AindyRuntime.FlowEngine
