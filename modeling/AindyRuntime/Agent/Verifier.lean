import Mathlib.Data.List.Infix
import AindyRuntime.Agent.Chain
import AindyRuntime.Data.PyValue

/-! # Post-conditions

`core/verifier.py`: the `expects` of a plan's steps, by tool-step ordinal, and
their check against the recorded step results.
-/

namespace AindyRuntime.Agent

abbrev PostConditions := List (Nat × List Json)

def expectsOf (step : Json) : Option (List Json) :=
  match step.get "expects" with
  | .arr [] => none
  | .arr conditions => some conditions
  | other => if other.truthy then some [other] else none

/-- The steps as the loop reads them.  The keys of a dictionary and the letters
of a string are no steps, and a plan that has been split has no other `steps`. -/
def declaredSteps (plan : Json) : List Json :=
  match plan.get "steps" with
  | .arr steps => steps
  | _ => []

def conditionsFrom (ordinal : Nat) : List Json → PostConditions
  | [] => []
  | step :: rest =>
    if !step.isDict || isWaitStep step then conditionsFrom ordinal rest
    else
      match expectsOf step with
      | some conditions => (ordinal, conditions) :: conditionsFrom (ordinal + 1) rest
      | none => conditionsFrom (ordinal + 1) rest

def extractPostConditions (plan : Json) : PostConditions := conditionsFrom 0 (declaredSteps plan)

def itemAt (items : List Json) (index : Int) : Option Json :=
  if 0 ≤ index then items[index.toNat]?
  else if -index ≤ items.length then items[(items.length + index).toNat]?
  else none

def resolveParts : List String → Json → Option Json
  | [], value => some value
  | part :: rest, .obj entries => (Dict.Entries.find? part entries).bind (resolveParts rest)
  | part :: rest, .arr items => (Json.readInt part).bind fun index => (itemAt items index).bind (resolveParts rest)
  | _ :: _, _ => none

def pathParts (path : Json) : List String := (path.text.toList.splitOn '.').map String.ofList

/-- `none` is `MISSING`. -/
def resolvePath (payload path : Json) : Option Json := resolveParts (pathParts path) payload

/-- `expected in actual`; `none` is a `TypeError`. -/
def pyContains (actual expected : Json) : Option Bool :=
  match actual, expected with
  | .str text, .str part => some (decide (part.toList <:+: text.toList))
  | .arr items, value => some (items.any fun item => item.pyEq value)
  | .obj entries, .str key => some (Json.obj entries |>.hasKey key)
  | .obj _, .arr _ | .obj _, .obj _ => none
  | .obj _, _ => some false
  | _, _ => none

structure Comparison where
  holds : Json → Json → Option Bool
  /-- What stands between the two values in the reason. -/
  failure : String

def comparison? : String → Option Comparison
  | "eq" => some ⟨fun actual expected => some (actual.pyEq expected), " != "⟩
  | "ne" => some ⟨fun actual expected => some !(actual.pyEq expected), " == "⟩
  | "contains" => some ⟨pyContains, " does not contain "⟩
  | "not_contains" => some ⟨fun actual expected => (pyContains actual expected).map not, " contains "⟩
  | "gt" => some ⟨fun actual expected => expected.pyLt actual, " <= "⟩
  | "gte" => some ⟨fun actual expected => (actual.pyLt expected).map not, " < "⟩
  | "lt" => some ⟨fun actual expected => actual.pyLt expected, " >= "⟩
  | "lte" => some ⟨fun actual expected => (expected.pyLt actual).map not, " > "⟩
  | _ => none

def compareField (op : String) (actual expected : Json) : Bool × String :=
  match comparison? op with
  | some comparison =>
    match comparison.holds actual expected with
    | some held => (held, actual.repr ++ comparison.failure ++ expected.repr)
    | none => (false, "op " ++ quote op ++ " not applicable to " ++ actual.repr)
  | none => (false, "unknown op " ++ quote op)

def checkField (op : String) (field : Json) (actual : Option Json) (expected : Json) : Bool × String :=
  match op, actual with
  | "exists", value => (value.isSome, "field " ++ field.repr ++ " does not exist")
  | "not_exists", none => (true, "")
  | "not_exists", some value => (false, "field " ++ field.repr ++ " exists (" ++ value.repr ++ ")")
  | _, none => (false, "field " ++ field.repr ++ " does not exist")
  | "truthy", some value => (value.truthy, "field " ++ field.repr ++ " is not truthy (" ++ value.repr ++ ")")
  | "falsy", some value => (!value.truthy, "field " ++ field.repr ++ " is not falsy (" ++ value.repr ++ ")")
  | op, some value => compareField op value expected

def evalCondition (condition : Json) (result : Option StepResult) : Bool × String :=
  if !condition.isDict then (false, "malformed condition " ++ condition.repr)
  else
    match result with
    | none => (false, "step did not run")
    | some entry =>
      if condition.hasKey "status" && !condition.hasKey "field" && !condition.hasKey "op" then
        let expected := condition.get "status"
        ((Json.str entry.status.name).pyEq expected,
          "status is " ++ quote entry.status.name ++ ", expected " ++ expected.repr)
      else
        let op := if condition.hasKey "op" then (condition.get "op").text else "truthy"
        let field := condition.get "field"
        let actual := if field = .null then some entry.result else resolvePath entry.result field
        checkField op field actual (condition.get "value")

structure ConditionFailure where
  stepIndex : Nat
  condition : Json
  reason : String
deriving DecidableEq

structure Report where
  checked : Nat
  failures : List ConditionFailure
deriving DecidableEq

def Report.ok (report : Report) : Bool := report.failures.isEmpty

def resultAt (results : List StepResult) (index : Nat) : Option StepResult :=
  results.reverse.find? (·.stepIndex = index)

def failuresAt (index : Nat) (result : Option StepResult) (conditions : List Json) : List ConditionFailure :=
  conditions.filterMap fun condition =>
    match evalCondition condition result with
    | (true, _) => none
    | (false, reason) => some ⟨index, condition, reason⟩

def verifyPostConditions (conditions : PostConditions) (results : List StepResult) : Report where
  checked := conditions.foldl (fun count entry => count + entry.2.length) 0
  failures := conditions.flatMap fun entry => failuresAt entry.1 (resultAt results entry.1) entry.2

def Verified (plan : Json) (results : List StepResult) : Prop :=
  (verifyPostConditions (extractPostConditions plan) results).ok = true

instance {plan : Json} {results : List StepResult} : Decidable (Verified plan results) :=
  inferInstanceAs (Decidable (_ = true))

def planVerifier : Verifier := fun plan results =>
  let report := verifyPostConditions (extractPostConditions plan) results
  ⟨report.ok, report.checked, report.failures.length⟩

end AindyRuntime.Agent
