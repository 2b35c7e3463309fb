import AindyRuntime.FlowEngine.StateMerge
import Mathlib.Data.List.Perm.Basic
import Mathlib.Data.String.Basic

namespace AindyRuntime.FlowEngine

open List

variable {policies : Dict String CellPolicy} {patches : List Patch} {state after : State}

def assignments (policies : Dict String CellPolicy) (patches : List Patch) : List String → List (String × Json)
  | [] => []
  | cell :: rest =>
    match cellValue policies patches cell with
    | .ok (some value) => (cell, value) :: assignments policies patches rest
    | .ok none => assignments policies patches rest
    | .error _ => []

/-- What `merge_state` assigns, in its order, up to the cell that raises. -/
def mergeWrites (policies : Dict String CellPolicy) : List Patch → List (String × Json)
  | [] => []
  | [(_, patch)] => patch.entries
  | patches => assignments policies patches (writtenCells patches)

theorem mergeCells_state :
    (mergeCells policies patches state cells).2 = state.assignAll (assignments policies patches cells) := by
  induction cells generalizing state with
  | nil => rfl
  | cons cell rest ih =>
    simp only [mergeCells, assignments]
    rcases cellValue policies patches cell with error | _ | value
    · rfl
    · exact ih
    · exact ih

theorem mem_assignments (member : (cell, value) ∈ assignments policies patches cells) :
    cell ∈ cells ∧ cellValue policies patches cell = .ok (some value) := by
  induction cells with
  | nil => cases member
  | cons first rest ih =>
    simp only [assignments] at member
    split at member
    case h_1 resolved =>
      cases member with
      | head => exact ⟨mem_cons_self, resolved⟩
      | tail _ later => exact (ih later).imp_left (mem_cons_of_mem _)
    · exact (ih member).imp_left (mem_cons_of_mem _)
    · cases member

theorem nodup_assignments (distinct : cells.Nodup) :
    ((assignments policies patches cells).map Prod.fst).Nodup := by
  induction cells with
  | nil => exact nodup_nil
  | cons first rest ih =>
    obtain ⟨absent, others⟩ := nodup_cons.mp distinct
    simp only [assignments]
    split
    · refine nodup_cons.mpr ⟨fun member => absent ?_, ih others⟩
      obtain ⟨⟨_, _⟩, listed, rfl⟩ := mem_map.mp member
      exact (mem_assignments listed).1
    · exact ih others
    · exact nodup_nil

/-- What the patches and the policies make of a cell that they decide: its only
value, the last one, or the reduction of all. -/
inductive Decided (policies : Dict String CellPolicy) (patches : List Patch) (cell : String) : Json → Prop
  | only (value : Json) (values : valuesOf cell patches = [value]) : Decided policies patches cell value
  | last {policy : CellPolicy} (values : valuesOf cell patches = first :: second :: rest)
      (declared : policies.get? cell = some policy)
      (named : policy.policy = "last_write_wins" ∨ policy.policy = "barrier" ∧ policy.writers ≠ [] ∧
        ∀ writer ∈ policy.writers, writer ∈ writersOf cell patches) :
      Decided policies patches cell ((first :: second :: rest).getLast (cons_ne_nil _ _))
  | reduced {policy : CellPolicy} (values : valuesOf cell patches = first :: second :: rest)
      (declared : policies.get? cell = some policy) (named : policy.policy = "reduce")
      (accepted : reducer? policy.op = some reducer)
      (folded : reduceValues reducer first (second :: rest) = .ok value) : Decided policies patches cell value

theorem decided_iff : Decided policies patches cell value ↔ cellValue policies patches cell = .ok (some value) := by
  constructor
  · rintro (⟨_, values⟩ | ⟨values, declared, named | ⟨named, gated, wrote⟩⟩ |
      ⟨values, declared, named, accepted, folded⟩)
    · rw [cellValue, values]
    · simp [cellValue, values, resolveCell, declared, named, Except.map]
    · simp [cellValue, values, resolveCell, declared, named, gated, if_pos wrote, Except.map]
    · simp [cellValue, values, resolveCell, declared, named, accepted, folded, Except.map]
  · intro resolved
    rw [cellValue] at resolved
    rcases values : valuesOf cell patches with _ | ⟨first, _ | ⟨second, rest⟩⟩ <;> simp only [values] at resolved
    · cases resolved
    · cases resolved
      exact .only _ values
    · cases declared : policies.get? cell with
      | none => simp [declared, resolveCell, Except.map] at resolved
      | some policy =>
          simp only [declared, resolveCell] at resolved
          split at resolved
          case h_1 named =>
            cases resolved
            exact .last values declared (.inl named)
          case h_2 named =>
            split at resolved
            · cases resolved
            case h_2 reducer accepted =>
              cases folded : reduceValues reducer first (second :: rest) <;> rw [folded] at resolved <;>
                cases resolved
              exact .reduced values declared named accepted folded
          case h_3 named =>
            split at resolved
            · cases resolved
            case isFalse gated =>
              split at resolved <;> cases resolved
              case isTrue whole =>
                exact .last values declared (.inr ⟨named, by simpa using gated, by simpa using whole⟩)
          · cases resolved

theorem mergeCells_raised (raised : mergeCells policies patches state cells = (.error error, after)) :
    ∃ earlier cell later, cells = earlier ++ cell :: later ∧ cellValue policies patches cell = .error error ∧
      ∀ written value, (written, value) ∈ assignments policies patches cells ↔
        written ∈ earlier ∧ cellValue policies patches written = .ok (some value) := by
  induction cells generalizing state with
  | nil => cases raised
  | cons first rest ih =>
      cases resolved : cellValue policies patches first with
      | error =>
          simp only [mergeCells, resolved] at raised
          cases raised
          exact ⟨[], first, rest, rfl, resolved, by simp [assignments, resolved]⟩
      | ok result =>
          have later : ∃ state, mergeCells policies patches state rest = (.error error, after) := by
            cases result <;> simp only [mergeCells, resolved] at raised <;> exact ⟨_, raised⟩
          obtain ⟨earlier, cell, later, split, undecided, writes⟩ := ih later.choose_spec
          refine ⟨first :: earlier, cell, later, by rw [split]; rfl, undecided, fun written value => ?_⟩
          cases result <;> simp only [assignments, resolved, mem_cons, Prod.mk.injEq, writes] <;>
            by_cases same : written = first <;> simp [same, resolved, eq_comm]

/-- The cells assigned before the one that nothing decides stay assigned: the
dictionary is what it was only where each of them held its decided value already. -/
theorem conflict_keeps_state_iff {error : PyError}
    (raised : mergeState policies state patches = (.error error, after)) :
    ∃ earlier cell later, writtenCells patches = earlier ++ cell :: later ∧
      (∀ value, ¬Decided policies patches cell value) ∧
      (after = state ↔ ∀ decided ∈ earlier, ∀ value, Decided policies patches decided value →
        state.get? decided = some value) := by
  have cells : mergeCells policies patches state (writtenCells patches) = (.error error, after) := by
    rcases patches with _ | ⟨⟨writer, patch⟩, _ | ⟨second, rest⟩⟩
    · cases raised
    · cases raised
    · exact raised
  obtain ⟨earlier, cell, later, split, undecided, writes⟩ := mergeCells_raised cells
  have written : after = state.assignAll (assignments policies patches (writtenCells patches)) := by
    rw [← mergeCells_state, cells]
  have distinct : ((assignments policies patches (writtenCells patches)).map Prod.fst).Nodup :=
    nodup_assignments (nodup_eraseDups _)
  refine ⟨earlier, cell, later, split, fun value decided => ?_, ?_⟩
  · rw [decided_iff, undecided] at decided
    cases decided
  · rw [written, Dict.assignAll_eq_self distinct]
    simp only [Prod.forall, writes, decided_iff, and_imp]
    exact ⟨fun held decided member value => held decided value member,
      fun held decided value member => held decided member value⟩

def quarrel : List Patch :=
  [("left", Dict.ofList [("mine", .int 1), ("shared", .int 1)]), ("right", Dict.ofList [("shared", .int 2)])]

theorem conflict_keeps_state_of_repeated_write :
    ∃ error, mergeState ∅ (Dict.ofList [("mine", .int 1)]) quarrel
      = (.error error, Dict.ofList [("mine", .int 1)]) := by
  obtain ⟨earlier, cell, later, split, undecided, kept⟩ := @conflict_keeps_state_iff ∅ quarrel
    (Dict.ofList [("mine", .int 1)]) _ _ rfl
  refine ⟨_, Prod.ext rfl (kept.mpr fun decided member value given => ?_)⟩
  have listed : decided ∈ writtenCells quarrel := split ▸ mem_append_left _ member
  rw [decided_iff] at given
  rcases mem_pair.mp (show decided ∈ ["mine", "shared"] from listed) with rfl | rfl
  · cases given
    rfl
  · cases given

/-- The first branch's own cell is assigned before the shared one raises. -/
theorem conflict_leaves_earlier_cells :
    ∃ error, mergeState ∅ ∅ quarrel = (.error error, Dict.ofList [("mine", .int 1)]) :=
  ⟨_, rfl⟩

theorem length_writersOf : (writersOf cell patches).length = (valuesOf cell patches).length := by
  induction patches with
  | nil => rfl
  | cons patch rest ih =>
    cases written : patch.2.get? cell <;>
      simpa [writersOf, valuesOf, Dict.contains, written] using ih

def gate : Dict String CellPolicy := Dict.ofList [("verdict", ⟨"barrier", "", ["left", "right"]⟩)]

def bothVote : List Patch := ["left", "right"].map fun writer => (writer, Dict.ofList [("verdict", .bool true)])

def Patch.Apart (first second : Patch) : Prop := ∀ cell ∈ first.2.keys, cell ∉ second.2.keys

instance : DecidableRel Patch.Apart := fun first second =>
  inferInstanceAs (Decidable (∀ cell ∈ first.2.keys, cell ∉ second.2.keys))

def updateAll (state : State) (patches : List Patch) : State :=
  patches.foldl (fun state patch => state.update patch.2) state

theorem length_valuesOf_le_one (disjoint : patches.Pairwise Patch.Apart) : (valuesOf cell patches).length ≤ 1 := by
  induction disjoint with
  | nil => exact Nat.zero_le _
  | @cons patch rest apart _ ih =>
    cases written : patch.2.get? cell with
    | none => simpa [valuesOf, written] using ih
    | some =>
      have listed : cell ∈ patch.2.keys := by
        by_contra absent
        simp [Dict.get?_eq_none.mpr absent] at written
      have silent : rest.filterMap (fun patch => patch.2.get? cell) = [] := by
        rw [filterMap_eq_nil_iff]
        exact fun other member => Dict.get?_eq_none.mpr (apart other member cell listed)
      simp [valuesOf, written, silent]

theorem get?_updateAll :
    (updateAll state patches).get? cell = (valuesOf cell patches).getLast?.or (state.get? cell) := by
  induction patches generalizing state with
  | nil => simp [updateAll, valuesOf]
  | cons patch rest ih =>
    have first : updateAll state (patch :: rest) = updateAll (state.update patch.2) rest := rfl
    rw [first, ih]
    cases written : patch.2.get? cell <;> simp [valuesOf, written, getLast?_cons]

theorem mergeCells_returns (resolved : ∀ cell, ∃ value, cellValue policies patches cell = .ok value) :
    ∃ after, mergeCells policies patches state cells = (.ok (), after) := by
  induction cells generalizing state with
  | nil => exact ⟨state, rfl⟩
  | cons cell rest ih =>
    obtain ⟨value, given⟩ := resolved cell
    cases value <;> simpa [mergeCells, given] using ih

theorem mergeState_returns (resolved : ∀ cell, ∃ value, cellValue policies patches cell = .ok value) :
    ∃ after, mergeState policies state patches = (.ok (), after) := by
  rcases patches with _ | ⟨⟨writer, patch⟩, _ | ⟨second, rest⟩⟩
  · exact ⟨state, rfl⟩
  · exact ⟨state.update patch, rfl⟩
  · exact mergeCells_returns resolved

/-- Patches that share no cell are merged as updates one after another, in any
order and whatever is declared. -/
theorem disjoint_merge_eq_updates {order : List Patch} (disjoint : patches.Pairwise Patch.Apart)
    (reordered : patches.Perm order) :
    ∃ after, mergeState policies state patches = (.ok (), after) ∧
      ∀ cell, after.get? cell = (updateAll state order).get? cell := by
  have single (cell : String) : cellValue policies patches cell = .ok (valuesOf cell order).getLast? := by
    have bound := @length_valuesOf_le_one patches cell disjoint
    have perm : (valuesOf cell patches).Perm (valuesOf cell order) := reordered.filterMap _
    rcases values : valuesOf cell patches with _ | ⟨value, _ | ⟨second, rest⟩⟩
    · rw [values] at perm
      simp [cellValue, values, perm.nil_eq.symm]
    · rw [values] at perm
      simp [cellValue, values, perm_singleton.mp perm.symm]
    · simp [values] at bound
  obtain ⟨after, merged⟩ := @mergeState_returns policies patches state fun cell => ⟨_, single cell⟩
  refine ⟨after, merged, fun cell => ?_⟩
  obtain ⟨_, resolved, result⟩ := @mergeState_get? _ _ _ _ cell merged
  rw [single cell] at resolved
  cases resolved
  rw [result, get?_updateAll]

def leftPatch : Patch := ("left", Dict.ofList [("a", .int 1)])

def rightPatch : Patch := ("right", Dict.ofList [("b", .int 2)])

theorem disjoint_merge_of_two :
    ∃ after, mergeState ∅ ∅ [leftPatch, rightPatch] = (.ok (), after) ∧
      ∀ cell, after.get? cell = (updateAll ∅ [rightPatch, leftPatch]).get? cell :=
  disjoint_merge_eq_updates (by decide) (.swap _ _ _)

section Reduce

variable {reducer : Json → Json → Option Json} {kind : Json → Prop} {first first' : Json} {rest rest' : List Json}

/-- What `_REDUCERS` asks of an operator, on one kind of values: it is defined,
commutative and associative there. -/
structure Harmonious (reducer : Json → Json → Option Json) (kind : Json → Prop) : Prop where
  closed : ∀ left right, kind left → kind right → ∃ value, reducer left right = some value ∧ kind value
  comm : ∀ left right, kind left → kind right → reducer left right = reducer right left
  assoc : ∀ left middle right, kind left → kind middle → kind right →
    (reducer left middle).bind (reducer · right) = (reducer middle right).bind (reducer left)

theorem Harmonious.of_op {Item : Type} {write : Item → Json} (op : Item → Item → Item)
    [comm : Std.Commutative op] [assoc : Std.Associative op]
    (defined : ∀ left right, reducer (write left) (write right) = some (write (op left right))) :
    Harmonious reducer fun value => ∃ item, value = write item where
  closed := by
    rintro _ _ ⟨left, rfl⟩ ⟨right, rfl⟩
    exact ⟨_, defined left right, _, rfl⟩
  comm := by
    rintro _ _ ⟨left, rfl⟩ ⟨right, rfl⟩
    rw [defined, defined, comm.comm]
  assoc := by
    rintro _ _ _ ⟨left, rfl⟩ ⟨middle, rfl⟩ ⟨right, rfl⟩
    simp only [defined, Option.bind_some, assoc.assoc]

theorem Harmonious.of_bool (op : Bool → Bool → Bool) [comm : Std.Commutative op] [assoc : Std.Associative op] :
    Harmonious (fun left right => some (.bool (op left.truthy right.truthy))) fun _ => True where
  closed _ _ _ _ := ⟨_, rfl, trivial⟩
  comm _ _ _ _ := by rw [comm.comm]
  assoc _ _ _ _ _ _ := by simp [Json.truthy, assoc.assoc]

/-- The operators on the values they are meant for: `union` apart, on lists of texts. -/
theorem harmonious_reducers :
    (∀ op ∈ ["and", "or"], ∃ reducer, reducer? op = some reducer ∧ Harmonious reducer fun _ => True) ∧
    (∀ op ∈ ["sum", "max", "min"], ∃ reducer, reducer? op = some reducer ∧
      Harmonious reducer fun value => ∃ number, value = .int number) ∧
    ∀ op ∈ ["max", "min"], ∃ reducer, reducer? op = some reducer ∧
      Harmonious reducer fun value => ∃ text, value = .str text := by
  have extremes {Item : Type} [LinearOrder Item] {write : Item → Json}
      (less : ∀ left right, Json.pyLt (write left) (write right) = some (decide (left < right))) :
      (∀ left right, Json.pyMax (write left) (write right) = some (write (max left right))) ∧
        ∀ left right, Json.pyMin (write left) (write right) = some (write (min left right)) := by
    simp only [Json.pyMax, Json.pyMin, less, Option.map_some, max_def, min_def]
    grind
  have numbers := @extremes Int _ .int fun _ _ => rfl
  have texts := @extremes String _ .str fun _ _ => rfl
  simp only [forall_mem_cons, not_mem_nil, false_implies, implies_true, and_true]
  exact ⟨⟨⟨_, rfl, .of_bool _⟩, _, rfl, .of_bool _⟩,
    ⟨⟨_, rfl, .of_op (· + ·) fun _ _ => rfl⟩, ⟨_, rfl, .of_op max numbers.1⟩, _, rfl, .of_op min numbers.2⟩,
    ⟨_, rfl, .of_op max texts.1⟩, _, rfl, .of_op min texts.2⟩

theorem reduceValues_write {Item : Type} {op : Item → Item → Item} {write : Item → Json}
    (defined : ∀ a b, reducer (write a) (write b) = some (write (op a b)))
    {first : Item} {rest : List Item} :
    reduceValues reducer (write first) (rest.map write) = .ok (write (rest.foldl op first)) := by
  induction rest generalizing first with
  | nil => rfl
  | cons second rest ih =>
      rw [map_cons, reduceValues, defined]
      exact ih

theorem foldl_of_perm {Item : Type} {op : Item → Item → Item} [Std.Commutative op] [Std.Associative op]
    {first first' : Item} {rest rest' : List Item}
    (reordered : (first :: rest).Perm (first' :: rest')) : rest.foldl op first = rest'.foldl op first' := by
  have lifted (first : Item) (rest : List Item) :
      some (rest.foldl op first) = ((first :: rest).map some).foldl (Option.merge op) none := by
    induction rest generalizing first with
    | nil => rfl
    | cons second rest ih => exact ih (op first second)
  apply Option.some.inj
  rw [lifted, lifted]
  exact (reordered.map some).foldl_op_eq

/-- The order of the values does not show. -/
theorem Harmonious.reduceValues_perm (harmonious : Harmonious reducer kind)
    (typed : ∀ value ∈ first :: rest, kind value) (reordered : (first :: rest).Perm (first' :: rest')) :
    reduceValues reducer first rest = reduceValues reducer first' rest' := by
  classical
  let op (left right : Subtype kind) : Subtype kind :=
    ⟨_, (harmonious.closed left right left.2 right.2).choose_spec.2⟩
  have defined (left right : Subtype kind) : reducer left right = some (op left right).1 :=
    (harmonious.closed left right left.2 right.2).choose_spec.1
  have comm : Std.Commutative op := by
    refine ⟨fun left right => Subtype.ext (Option.some.inj ?_)⟩
    rw [← defined, ← defined, harmonious.comm _ _ left.2 right.2]
  have assoc : Std.Associative op := by
    refine ⟨fun left middle right => Subtype.ext (Option.some.inj ?_)⟩
    have same := harmonious.assoc left middle right left.2 middle.2 right.2
    rwa [defined, defined, Option.bind_some, Option.bind_some, defined, defined] at same
  let read (value : Json) : Subtype kind :=
    if known : kind value then ⟨value, known⟩ else ⟨first, typed _ mem_cons_self⟩
  have items {first : Json} {rest : List Json} (typed : ∀ value ∈ first :: rest, kind value) :
      reduceValues reducer first rest = .ok ((rest.map read).foldl op (read first)).1 := by
    have same {value : Json} (member : value ∈ first :: rest) : (read value).1 = value := by
      simp [read, typed value member]
    have others : rest.map (Subtype.val ∘ read) = rest :=
      (map_congr_left fun value member => same (mem_cons_of_mem _ member)).trans (map_id _)
    rw [← reduceValues_write defined, map_map, others, same mem_cons_self]
  rw [items typed, items fun value member => typed value (reordered.mem_iff.mpr member)]
  rw [foldl_of_perm (reordered.map read)]

end Reduce

/-- A cell reduced over such values gets the same value from the patches in any
order. -/
theorem reduce_order_independent {policy : CellPolicy} {reducer : Json → Json → Option Json} {kind : Json → Prop}
    {order : List Patch} {after' : State}
    (declared : policies.get? cell = some policy) (reduced : policy.policy = "reduce")
    (accepted : reducer? policy.op = some reducer) (harmonious : Harmonious reducer kind)
    (typed : ∀ value ∈ valuesOf cell patches, kind value) (reordered : patches.Perm order) :
    cellValue policies patches cell = cellValue policies order cell ∧
      (mergeState policies state patches = (.ok (), after) → mergeState policies state order = (.ok (), after') →
        after.get? cell = after'.get? cell) := by
  have same : cellValue policies patches cell = cellValue policies order cell := by
    have perm : (valuesOf cell patches).Perm (valuesOf cell order) := reordered.filterMap _
    rcases values : valuesOf cell patches with _ | ⟨first, _ | ⟨second, rest⟩⟩
    · rw [values] at perm
      simp [cellValue, values, perm.nil_eq.symm]
    · rw [values] at perm
      simp [cellValue, values, perm_singleton.mp perm.symm]
    · rw [values] at perm typed
      rcases values' : valuesOf cell order with _ | ⟨first', _ | ⟨second', rest'⟩⟩
      · simp [values'] at perm
      · simp [values'] at perm
      · rw [values'] at perm
        have equal := harmonious.reduceValues_perm typed perm
        simp [cellValue, values, values', declared, resolveCell, reduced, accepted, equal]
  refine ⟨same, fun merged merged' => ?_⟩
  obtain ⟨_, resolved, result⟩ := @mergeState_get? _ _ _ _ cell merged
  obtain ⟨_, resolved', result'⟩ := @mergeState_get? _ _ _ _ cell merged'
  rw [same, resolved'] at resolved
  cases resolved
  rw [result, result']

def tally (op : String) : Dict String CellPolicy := Dict.ofList [("n", ⟨"reduce", op, []⟩)]

def tallied (values : List Json) : List Patch := values.map fun value => ("branch", Dict.ofList [("n", value)])

theorem sum_of_numbers_order_independent :
    cellValue (tally "sum") (tallied [.int 1, .int 2]) "n" = cellValue (tally "sum") (tallied [.int 2, .int 1]) "n" :=
  have ⟨_, accepted, harmonious⟩ := harmonious_reducers.2.1 "sum" (by decide)
  (@reduce_order_independent (tally "sum") _ ∅ ∅ "n" ⟨"reduce", "sum", []⟩ _ _ _ ∅ rfl rfl accepted harmonious
    (by simp [valuesOf, Dict.ofList, Dict.assignAll, Dict.get?_set]) (.swap _ _ _)).1

/-- `operator.add` joins strings. -/
theorem sum_of_strings_order_dependent :
    mergeState (tally "sum") ∅ (tallied [.str "a", .str "b"]) = (.ok (), Dict.ofList [("n", .str "ab")]) ∧
      mergeState (tally "sum") ∅ (tallied [.str "b", .str "a"]) = (.ok (), Dict.ofList [("n", .str "ba")]) :=
  ⟨rfl, rfl⟩

end AindyRuntime.FlowEngine
