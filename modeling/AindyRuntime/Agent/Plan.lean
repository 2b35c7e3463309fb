import AindyRuntime.Data.PyError

/-! # Agent plans and their segments

`runtime/agent_plan_compiler.py`: a plan is a list of tool steps and wait steps.
-/

namespace AindyRuntime.Agent

open List

structure Wait where
  eventType : String
  correlationKey : Option String
deriving DecidableEq, Repr

structure Segment where
  toolSteps : List Json
  baseIndex : Nat
  wait : Option Wait
deriving DecidableEq, Repr

def isWaitStep (step : Json) : Bool :=
  step.isDict && decide (step.get "wait_for" ≠ .null) && !(step.get "tool").truthy

def atStep (position : Nat) (text : String) : PyError :=
  ⟨.value, "plan step " ++ toString position ++ text⟩

def waitOf (position : Nat) (step : Json) : Except PyError Wait :=
  match step.get "wait_for" with
  | .str eventType =>
    if strip eventType = "" then .error (atStep position " wait_for must be a non-empty string")
    else
      match step.get "correlation_key" with
      | .null => .ok ⟨eventType, none⟩
      | .str key => .ok ⟨eventType, some key⟩
      | _ => .error (atStep position " correlation_key must be a string")
  | _ => .error (atStep position " wait_for must be a non-empty string")

/-- The loop of `split_agent_plan` over the steps from `position` on, with the
tool steps collected since the last wait. -/
def splitSteps (position baseIndex : Nat) (current : List Json) : List Json → Except PyError (List Segment)
  | [] => .ok [⟨current, baseIndex, none⟩]
  | step :: rest =>
    if isWaitStep step then
      match waitOf position step with
      | .error error => .error error
      | .ok wait =>
        (splitSteps (position + 1) (baseIndex + current.length) [] rest).map
          (⟨current, baseIndex, some wait⟩ :: ·)
    else splitSteps (position + 1) baseIndex (current ++ [step]) rest

def stepSegments (wait : Option Wait) : Nat → List Json → List Segment
  | _, [] => []
  | base, [step] => [⟨[step], base, wait⟩]
  | base, step :: rest => ⟨[step], base, none⟩ :: stepSegments wait (base + 1) rest

def expandSegment (segment : Segment) : List Segment :=
  if segment.toolSteps.length ≤ 1 then [segment]
  else stepSegments segment.wait segment.baseIndex segment.toolSteps

def expandToStepSegments (segments : List Segment) : List Segment := segments.flatMap expandSegment

def noSteps : PyError := ⟨.value, "agent plan has no steps to compile"⟩

def planSteps (plan : Json) : Except PyError (List Json) :=
  match plan.orElse (.obj []) with
  | .obj entries =>
    match (Json.get (.obj entries) "steps").orElse (.arr []) with
    | .arr [] => .error noSteps
    | .arr steps => .ok steps
    | .obj keyed => .ok (keyed.map fun entry => .str entry.1)
    | .str text => .ok (text.toList.map fun letter => .str letter.toString)
    | other => .error ⟨.other, quote other.typeName ++ " object is not iterable"⟩
  | other => .error ⟨.attribute, quote other.typeName ++ " object has no attribute 'get'"⟩

def splitAgentPlan (granular : Bool) (plan : Json) : Except PyError (List Segment) := do
  let steps ← planSteps plan
  let segments ← splitSteps 0 0 [] steps
  return if granular then expandToStepSegments segments else segments

def toolStep (name : String) : Json := .obj [("tool", .str name), ("args", .obj [])]

def waitStep (event : String) : Json := .obj [("wait_for", .str event)]

def planOf (steps : List Json) : Json := .obj [("steps", .arr steps)]

structure CompiledStep where
  index : Nat
  tool : String
  (args riskLevel description : Json)
  maxAttempts : Nat
deriving DecidableEq, Repr

def resolveMaxAttempts (riskLevel : Json) : Except PyError Nat :=
  match riskLevel.orElse (.str "high") with
  | .str risk =>
    match strip (asciiLower risk) with
    | "low" | "medium" => .ok 3
    | _ => .ok 1
  | other => .error ⟨.attribute, quote other.typeName ++ " object has no attribute 'lower'"⟩

def compileStep (index : Nat) (step : Json) : Except PyError CompiledStep :=
  if !step.isDict then .error (atStep index (" is not an object: " ++ step.repr))
  else
    match step.get "tool" with
    | .str tool =>
      if strip tool = "" then .error (atStep index " has no tool name")
      else
        let args := if step.get "args" = .null then .obj [] else step.get "args"
        if !args.isDict then
          .error (atStep index (" args must be an object, got " ++ args.typeName))
        else
          let riskLevel := if step.hasKey "risk_level" then step.get "risk_level" else .str "high"
          let description := if step.hasKey "description" then step.get "description" else .str ""
          (resolveMaxAttempts riskLevel).map fun maxAttempts =>
            ⟨index, tool, args, riskLevel, description, maxAttempts⟩
    | _ => .error (atStep index " has no tool name")

def compileSteps (index : Nat) : List Json → Except PyError (List CompiledStep)
  | [] => .ok []
  | step :: rest =>
    match compileStep index step with
    | .error error => .error error
    | .ok compiled => (compileSteps (index + 1) rest).map (compiled :: ·)

def compileAgentSegment (toolSteps : List Json) (baseIndex : Nat) : Except PyError (List CompiledStep) :=
  if toolSteps.isEmpty then .error ⟨.value, "agent segment has no steps to compile"⟩
  else compileSteps baseIndex toolSteps

def Compiles (segments : List Segment) : Prop :=
  ∀ segment ∈ segments, ∃ compiled, compileSteps segment.baseIndex segment.toolSteps = .ok compiled

def totalToolSteps : List Segment → Nat
  | [] => 0
  | segment :: rest => segment.toolSteps.length + totalToolSteps rest

@[simp] theorem totalToolSteps_nil : totalToolSteps [] = 0 := rfl

variable {segment : Segment} {base : Nat}

@[simp] theorem totalToolSteps_cons :
    totalToolSteps (segment :: rest) = segment.toolSteps.length + totalToolSteps rest := rfl

/-- Every segment but the last is followed by a wait, and the indices count the
tool steps. -/
def Shaped : Nat → List Segment → Prop
  | _, [] => False
  | base, [last] => last.baseIndex = base ∧ last.wait = none
  | base, segment :: rest => segment.baseIndex = base ∧ segment.wait ≠ none ∧
      Shaped (base + segment.toolSteps.length) rest

theorem Shaped.cons (index : segment.baseIndex = base) (waits : segment.wait ≠ none)
    (later : Shaped (base + segment.toolSteps.length) rest) : Shaped base (segment :: rest) := by
  cases rest with
  | nil => exact later.elim
  | cons => exact ⟨index, waits, later⟩

theorem splitSteps_cons {rest : List Json}
    (split : splitSteps position base current (step :: rest) = .ok segments) :
    (isWaitStep step = true ∧ ∃ wait tail, waitOf position step = .ok wait ∧
        splitSteps (position + 1) (base + current.length) [] rest = .ok tail ∧
        segments = ⟨current, base, some wait⟩ :: tail) ∨
      (isWaitStep step = false ∧ splitSteps (position + 1) base (current ++ [step]) rest = .ok segments) := by
  simp only [splitSteps] at split
  split at split
  case isTrue waits =>
    split at split
    · cases split
    case h_2 wait read =>
      cases later : splitSteps (position + 1) (base + current.length) [] rest with
      | error => simp [later, Except.map] at split
      | ok tail =>
        simp only [later, Except.map, Except.ok.injEq] at split
        exact .inl ⟨waits, wait, tail, read, rfl, split.symm⟩
  case isFalse works => exact .inr ⟨by simpa using works, split⟩

theorem splitAgentPlan_pieces (split : splitAgentPlan granular plan = .ok segments) :
    ∃ steps pieces, planSteps plan = .ok steps ∧ splitSteps 0 0 [] steps = .ok pieces ∧
      segments = if granular then expandToStepSegments pieces else pieces := by
  simp only [splitAgentPlan] at split
  cases steps : planSteps plan with
  | error => simp [steps, bind, Except.bind] at split
  | ok listed =>
    cases pieces : splitSteps 0 0 [] listed with
    | error => simp [steps, pieces, bind, Except.bind] at split
    | ok found =>
      simp only [steps, pieces, bind, Except.bind, pure, Except.pure, Except.ok.injEq] at split
      exact ⟨listed, found, rfl, pieces, split.symm⟩

theorem splitSteps_shaped
    (split : splitSteps position base current steps = .ok segments) : Shaped base segments := by
  induction steps generalizing position base current segments with
  | nil =>
    cases split
    exact ⟨rfl, rfl⟩
  | cons step rest ih =>
    rcases splitSteps_cons split with ⟨_, wait, tail, _, later, rfl⟩ | ⟨_, later⟩
    · exact .cons rfl (by simp) (ih later)
    · exact ih later

structure Sound (segments : List Segment) : Prop where
  events : ∀ {segment wait}, segment ∈ segments → segment.wait = some wait → wait.eventType ≠ ""
  last : ∀ {segment}, segments.getLast? = some segment → segment.wait = none

theorem Sound.next_lt
    (sound : Sound segments) (found : segments[index]? = some segment) (waits : segment.wait ≠ none) :
    index + 1 < segments.length := by
  have bound : index < segments.length := (List.getElem?_eq_some_iff.mp found).1
  by_contra past
  have final : segments.getLast? = some segment := by
    rw [getLast?_eq_getElem?, show segments.length - 1 = index by omega, found]
  exact waits (sound.last final)

theorem waitOf_event {wait : Wait} (read : waitOf position step = .ok wait) : wait.eventType ≠ "" := by
  simp only [waitOf] at read
  split at read
  case h_1 eventType _ =>
    split at read
    · cases read
    case isFalse named =>
      have nonempty : eventType ≠ "" := by
        intro same
        subst same
        exact named rfl
      split at read <;> cases read
      · exact nonempty
      · exact nonempty
  · cases read

theorem splitSteps_sound (split : splitSteps position base current steps = .ok segments) :
    segments ≠ [] ∧ Sound segments := by
  induction steps generalizing position base current segments with
  | nil =>
    cases split
    refine ⟨by simp, fun member waits => ?_, fun final => ?_⟩
    · cases mem_singleton.mp member
      cases waits
    · cases final
      rfl
  | cons step rest ih =>
    rcases splitSteps_cons split with ⟨_, wait, tail, read, later, rfl⟩ | ⟨_, later⟩
    · obtain ⟨nonempty, sound⟩ := ih later
      refine ⟨by simp, fun member waits => ?_, fun final => sound.last ?_⟩
      · rcases mem_cons.mp member with rfl | inTail
        · cases waits
          exact waitOf_event read
        · exact sound.events inTail waits
      · rwa [getLast?_cons_of_ne_nil nonempty] at final
    · exact ih later

theorem mem_stepSegments
    (member : piece ∈ stepSegments wait base steps) : piece.wait = none ∨ piece.wait = wait := by
  induction steps generalizing base with
  | nil => cases member
  | cons step rest ih =>
    cases rest with
    | nil =>
      cases mem_singleton.mp member
      exact .inr rfl
    | cons =>
      rcases mem_cons.mp member with rfl | later
      · exact .inl rfl
      · exact ih later

theorem stepSegments_getLast? (present : steps ≠ []) :
    ∃ piece, (stepSegments wait base steps).getLast? = some piece ∧ piece.wait = wait := by
  induction steps generalizing base with
  | nil => exact absurd rfl present
  | cons step rest ih =>
    cases rest with
    | nil => exact ⟨_, rfl, rfl⟩
    | cons =>
      obtain ⟨piece, final, waits⟩ := @ih (base + 1) (cons_ne_nil _ _)
      refine ⟨piece, ?_, waits⟩
      rw [stepSegments, getLast?_cons, final]
      · rfl
      · exact cons_ne_nil _ _

theorem Sound.expand (nonempty : segments ≠ []) (sound : Sound segments) :
    Sound (expandToStepSegments segments) := by
  constructor
  · intro piece wait member waits
    obtain ⟨_, listed, inside⟩ := mem_flatMap.mp member
    simp only [expandSegment] at inside
    split at inside
    · cases mem_singleton.mp inside
      exact sound.events listed waits
    · rcases mem_stepSegments inside with none | same
      · rw [none] at waits
        cases waits
      · exact sound.events listed (same ▸ waits)
  · intro piece final
    obtain ⟨front, last, rfl⟩ : ∃ front last, segments = front ++ [last] :=
      ⟨_, _, (dropLast_append_getLast nonempty).symm⟩
    have ended : last.wait = none := sound.last (by simp)
    have inner : ∃ piece, (expandSegment last).getLast? = some piece ∧ piece.wait = last.wait := by
      simp only [expandSegment]
      split
      · exact ⟨last, rfl, rfl⟩
      case isFalse wide => exact stepSegments_getLast? fun empty => wide (by simp [empty])
    obtain ⟨_, innerLast, waits⟩ := inner
    rw [expandToStepSegments, flatMap_append, flatMap_singleton, getLast?_append,
      innerLast] at final
    cases final
    rw [waits, ended]

theorem splitAgentPlan_sound (split : splitAgentPlan granular plan = .ok segments) : Sound segments := by
  obtain ⟨_, _, _, found, rfl⟩ := splitAgentPlan_pieces split
  obtain ⟨nonempty, sound⟩ := splitSteps_sound found
  cases granular with
  | true => exact sound.expand nonempty
  | false => exact sound

def planToolSteps (plan : Json) : List Json :=
  match planSteps plan with
  | .ok steps => steps.filter (!isWaitStep ·)
  | .error _ => []

def toolStepsOf (segments : List Segment) : List Json := segments.flatMap (·.toolSteps)

def Indexed : Nat → List Segment → Prop
  | _, [] => True
  | base, segment :: rest => segment.baseIndex = base ∧ Indexed (base + segment.toolSteps.length) rest

theorem splitSteps_toolSteps (split : splitSteps position base current steps = .ok segments) :
    toolStepsOf segments = current ++ steps.filter (!isWaitStep ·) := by
  induction steps generalizing position base current segments with
  | nil =>
    cases split
    simp [toolStepsOf]
  | cons step rest ih =>
    rcases splitSteps_cons split with ⟨waits, wait, tail, _, later, rfl⟩ | ⟨works, later⟩
    · have rest := ih later
      simp only [toolStepsOf] at rest
      simp [toolStepsOf, rest, waits]
    · rw [ih later]
      simp [works]

theorem stepSegments_toolSteps : toolStepsOf (stepSegments wait base steps) = steps := by
  induction steps generalizing base with
  | nil => rfl
  | cons step rest ih =>
    cases rest with
    | nil => rfl
    | cons =>
      have tail := @ih (base + 1)
      simp only [toolStepsOf] at tail
      simp [toolStepsOf, stepSegments, tail]

theorem expandSegment_toolSteps : toolStepsOf (expandSegment segment) = segment.toolSteps := by
  simp only [expandSegment]
  split
  · simp [toolStepsOf]
  · exact stepSegments_toolSteps

theorem expandToStepSegments_toolSteps : toolStepsOf (expandToStepSegments segments) = toolStepsOf segments := by
  induction segments with
  | nil => rfl
  | cons segment rest ih =>
    have first := @expandSegment_toolSteps segment
    simp only [toolStepsOf, expandToStepSegments, flatMap_cons, flatMap_append] at ih first ⊢
    rw [first, ih]

theorem Shaped.indexed (shaped : Shaped base segments) : Indexed base segments := by
  induction segments generalizing base with
  | nil => exact shaped.elim
  | cons segment rest ih =>
    cases rest with
    | nil => exact ⟨shaped.1, trivial⟩
    | cons => exact ⟨shaped.1, ih shaped.2.2⟩

theorem Indexed.stepSegments (later : Indexed (base + steps.length) rest) :
    Indexed base (stepSegments wait base steps ++ rest) := by
  induction steps generalizing base with
  | nil => exact later
  | cons step others ih =>
    cases others with
    | nil => exact ⟨rfl, later⟩
    | cons next more =>
      have moved : base + (step :: next :: more).length = base + 1 + (next :: more).length := by
        simp only [length_cons]
        omega
      rw [moved] at later
      exact ⟨rfl, @ih (base + 1) later⟩

theorem Indexed.expand (indexed : Indexed base segments) : Indexed base (expandToStepSegments segments) := by
  induction segments generalizing base with
  | nil => trivial
  | cons segment rest ih =>
    obtain ⟨place, later⟩ := indexed
    have tail := ih later
    rw [expandToStepSegments, flatMap_cons, expandSegment]
    split
    · exact ⟨place, tail⟩
    · rw [place]
      exact Indexed.stepSegments tail

theorem splitAgentPlan_layout (split : splitAgentPlan granular plan = .ok segments) :
    toolStepsOf segments = planToolSteps plan ∧ Indexed 0 segments := by
  obtain ⟨_, _, listed, found, rfl⟩ := splitAgentPlan_pieces split
  have order := splitSteps_toolSteps found
  have indexed := (splitSteps_shaped found).indexed
  rw [planToolSteps, listed]
  cases granular with
  | true => exact ⟨expandToStepSegments_toolSteps.trans order, indexed.expand⟩
  | false => exact ⟨order, indexed⟩

/-- What a segment stands for: its tool steps, and the wait after them. -/
def Segment.items (segment : Segment) : List (Json ⊕ Wait) :=
  segment.toolSteps.map .inl ++ segment.wait.toList.map .inr

def HeldAs (step : Json) : Json ⊕ Wait → Prop
  | .inl kept => isWaitStep step = false ∧ kept = step
  | .inr wait => isWaitStep step = true ∧ ∃ position, waitOf position step = .ok wait

theorem splitSteps_items (split : splitSteps position base current steps = .ok segments) :
    ∃ items, segments.flatMap Segment.items = current.map .inl ++ items ∧ Forall₂ HeldAs steps items := by
  induction steps generalizing position base current segments with
  | nil =>
    cases split
    exact ⟨[], by simp [Segment.items], .nil⟩
  | cons step rest ih =>
    rcases splitSteps_cons split with ⟨waits, wait, tail, read, later, rfl⟩ | ⟨works, later⟩
    · obtain ⟨items, held, each⟩ := ih later
      refine ⟨.inr wait :: items, ?_, .cons ⟨waits, position, read⟩ each⟩
      simp [Segment.items, held]
    · obtain ⟨items, held, each⟩ := ih later
      refine ⟨.inl step :: items, ?_, .cons ⟨works, rfl⟩ each⟩
      simp [held]

theorem stepSegments_items (present : steps ≠ []) :
    (stepSegments wait base steps).flatMap Segment.items = steps.map .inl ++ wait.toList.map .inr := by
  induction steps generalizing base with
  | nil => exact absurd rfl present
  | cons step rest ih =>
    cases rest with
    | nil => simp [stepSegments, Segment.items]
    | cons =>
      have tail := @ih (base + 1) (cons_ne_nil _ _)
      simp [stepSegments, Segment.items, tail]

theorem expandSegment_items : (expandSegment segment).flatMap Segment.items = segment.items := by
  simp only [expandSegment]
  split
  · simp
  case isFalse wide => exact stepSegments_items fun empty => wide (by simp [empty])

/-- At either granularity the segments hold the plan: read in order they give its
tool steps and its waits in order, and each counts the tool steps before it. -/
theorem segments_hold_plan (split : splitAgentPlan granular plan = .ok segments) :
    Indexed 0 segments ∧ ∃ steps, planSteps plan = .ok steps ∧
      Forall₂ HeldAs steps (segments.flatMap Segment.items) := by
  refine ⟨(splitAgentPlan_layout split).2, ?_⟩
  obtain ⟨steps, pieces, listed, found, rfl⟩ := splitAgentPlan_pieces split
  obtain ⟨items, held, each⟩ := splitSteps_items found
  have same : (if granular then expandToStepSegments pieces else pieces).flatMap Segment.items = items := by
    cases granular with
    | true => simpa [expandToStepSegments, flatMap_assoc, expandSegment_items] using held
    | false => simpa using held
  exact ⟨steps, listed, same ▸ each⟩

theorem segments_hold_plan_around_wait :
    ∃ segments, splitAgentPlan true (planOf [toolStep "a", waitStep "e"]) = .ok segments ∧
      segments.length = 2 ∧ Indexed 0 segments :=
  ⟨_, rfl, rfl, (@segments_hold_plan true (planOf [toolStep "a", waitStep "e"]) _ rfl).1⟩

end AindyRuntime.Agent
