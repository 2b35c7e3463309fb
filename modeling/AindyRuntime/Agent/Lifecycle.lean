import AindyRuntime.Agent.Recovery
import AindyRuntime.Lib.StepSystem

/-! # The life of a plan run

A run through the segment chain with its waits, cancellations, crashes and
restarts, in any order.
-/

namespace AindyRuntime.Agent

inductive Position where
  | idle
  | driving (drive : Drive)
  /-- Nothing is: the process has stopped during this call, or the call has
  given up on an exception. -/
  | stalled (drive : Drive)
deriving DecidableEq

structure Life where
  world : World
  position : Position
  delivered : List Nat
  /-- The segments a continuation has re-driven, each with the waits delivered
  before it. -/
  redriven : List (Nat × List Nat)

inductive Event where
  | call (calls : ChainCalls)
  | deliver
  | cancel
  | crash (calls : SegmentCalls)
  | startup (startup : Startup)

def Chain.interrupted (chain : Chain) (drive : Drive) (calls : SegmentCalls) (world : World) : World :=
  match chain.segments[drive.segment]? with
  | some segment => ((runSegment segment drive.continuation calls).run world).2
  | none => world

def Drive.awaited (drive : Drive) : List Nat :=
  if drive.continuation then [] else [drive.segment - 1]

def Life.deliver (life : Life) (registration : Registration) : Life :=
  let world := { life.world with registered := none }
  match world.claim .waiting with
  | some claimed =>
    { life with
      world := claimed
      position := .driving registration.resume
      delivered := registration.resume.awaited ++ life.delivered }
  | none => { life with world }

def Life.recover (deployment : Deployment) (startup : Startup) (life : Life) : Life :=
  let scanned := scanAndRecover startup life.world
  let armed := rehydrateWaiting deployment scanned
  match continueCrashed deployment startup armed with
  | (world, some drive) =>
    { life with
      world
      position := .driving drive
      redriven := (drive.segment, life.delivered) :: life.redriven }
  | (world, none) => { life with world }

def Position.after (drive : Drive) : Except PyError ChainResponse → Position
  | .ok (.failed _) | .error _ => .stalled drive
  | .ok _ => .idle

def planLife (deployment : Deployment) (chain : Chain) : StepSystem Life Event where
  step life
    | .call calls =>
      match life.position with
      | .driving drive =>
        let ended := (executeAgentSegmentChain chain drive calls).run life.world
        some { life with world := ended.2, position := .after drive ended.1 }
      | _ => none
    | .deliver =>
      match life.position, life.world.registered with
      | .idle, some registration => some (life.deliver registration)
      | _, _ => none
    | .cancel => some { life with world := { life.world with run := life.world.run.map AgentRun.cancel } }
    | .crash calls =>
      match life.position with
      | .driving drive =>
        some
          { life with
            world := { chain.interrupted drive calls life.world with registered := none }
            position := .stalled drive }
      | _ => some { life with world := { life.world with registered := none } }
    | .startup startup =>
      match life.position, life.world.registered with
      | .driving _, _ => none
      | _, some _ => none
      | _, none => some (life.recover deployment startup)

def Life.started (plan : Json) : Life where
  world := .started plan
  position := .driving ⟨0, [], false⟩
  delivered := []
  redriven := []

def continuing : Deployment := ⟨false, true, true, 3⟩

def onlyRun : Startup := ⟨fun _ => true, ["run"], "run"⟩

def succeeding : SegmentCalls := .finishing fun _ _ => ⟨true, .null, .null, false, none, true⟩

def awaiting : Chain :=
  ⟨[⟨[toolStep "a"], 0, some ⟨"go", none⟩⟩, ⟨[toolStep "b"], 1, none⟩], passing⟩

variable {deployment : Deployment} {chain : Chain} {life next : Life}

theorem Chain.interrupted_touched : Touched world (chain.interrupted drive calls world) := by
  simp only [Chain.interrupted]
  split
  case h_1 segment found =>
    have yields := (@runSegment_yields world segment drive.continuation calls).mono
      (fun _ _ left => left.1) (fun _ _ left => left)
    exact yields.left_state
  · exact .refl

variable (deployment chain life) in
inductive Stepped : Event → Life → Prop where
  | called (calls : ChainCalls) (drive : Drive) (response : ChainResponse) (world : World)
      (driving : life.position = .driving drive)
      (called : Called chain drive life.world response world) :
      Stepped (.call calls)
        { life with world, position := .after drive (.ok response) }
  | delivered (registration : Registration) (idle : life.position = .idle)
      (registered : life.world.registered = some registration) :
      Stepped .deliver (life.deliver registration)
  | cancelled :
      Stepped .cancel
        { life with world := { life.world with run := life.world.run.map AgentRun.cancel } }
  | cut (calls : SegmentCalls) (drive : Drive) (world : World)
      (driving : life.position = .driving drive) (touched : Touched life.world world) :
      Stepped (.crash calls)
        { life with world := { world with registered := none }, position := .stalled drive }
  | stopped (calls : SegmentCalls) (resting : ∀ drive, life.position ≠ .driving drive) :
      Stepped (.crash calls)
        { life with world := { life.world with registered := none } }
  | restarted (startup : Startup) (resting : ∀ drive, life.position ≠ .driving drive)
      (unregistered : life.world.registered = none) :
      Stepped (.startup startup) (life.recover deployment startup)

theorem planLife_stepped (stepped : (planLife deployment chain).step life event = some next) :
    Stepped deployment chain life event next := by
  cases event <;> simp only [planLife] at stepped
  case call calls =>
    split at stepped <;> cases stepped
    case h_1 drive driving =>
      have yields := @executeAgentSegmentChain_called chain drive life.world calls
      generalize ended : (executeAgentSegmentChain chain drive calls).run life.world = result
      obtain ⟨outcome, world⟩ := result
      cases outcome with
      | error => exact absurd (yields.raises ended) not_false
      | ok response => exact .called calls drive response world driving (yields.returned ended)
  case deliver =>
    split at stepped <;> cases stepped
    case h_1 registration idle registered => exact .delivered registration idle registered
  case cancel =>
    cases stepped
    exact .cancelled
  case crash calls =>
    split at stepped <;> cases stepped
    case h_1 drive driving => exact .cut calls drive _ driving Chain.interrupted_touched
    case h_2 resting => exact .stopped calls resting
  case startup startup =>
    split at stepped <;> cases stepped
    case h_3 unregistered resting => exact .restarted startup resting unregistered

end AindyRuntime.Agent
