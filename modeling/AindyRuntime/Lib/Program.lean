import Mathlib.Logic.Basic

/-! # Programs that raise

A program reads and writes a state and returns a value or raises an error; what
it wrote before it raised stays written.
-/

def Program (Error State Value : Type) : Type := State → Except Error Value × State

namespace Program

variable {Error State Value Other : Type}

def run (program : Program Error State Value) (before : State) : Except Error Value × State :=
  program before

def raise (error : Error) : Program Error State Value := fun before => (.error error, before)

def read : Program Error State State := fun before => (.ok before, before)

def modify (change : State → State) : Program Error State Unit := fun before =>
  (.ok (), change before)

def call (outcome : Except Error Value) : Program Error State Value := fun before =>
  (outcome, before)

def attempt (body : Program Error State Value) (handler : Error → Program Error State Value) :
    Program Error State Value := fun before =>
  match body before with
  | (.ok value, after) => (.ok value, after)
  | (.error error, after) => handler error after

def ensuring (body : Program Error State Value) (last : State → State) : Program Error State Value := fun before =>
  ((body before).1, last (body before).2)

instance : Monad (Program Error State) where
  pure value := fun before => (.ok value, before)
  bind program next := fun before =>
    match program before with
    | (.ok value, after) => next value after
    | (.error error, after) => (.error error, after)

/-- From `before` the program returns into `normal` or raises into `raised`. -/
def Yields (program : Program Error State Value) (before : State)
    (normal : Value → State → Prop) (raised : Error → State → Prop) : Prop :=
  match program.run before with
  | (.ok value, after) => normal value after
  | (.error error, after) => raised error after

/-- Where the program returns, it returns into `normal`. -/
abbrev Returns (program : Program Error State Value) (before : State) (normal : Value → State → Prop) : Prop :=
  program.Yields before normal fun _ _ => True

variable {program body : Program Error State Value} {next : Value → Program Error State Other}
variable {before : State}
variable {normal : Value → State → Prop} {raised : Error → State → Prop}

section

variable (yields : program.Yields before normal raised)
include yields

theorem Yields.returned (ran : program.run before = (.ok value, after)) : normal value after := by
  rw [Yields, ran] at yields
  exact yields

theorem Yields.raises (ran : program.run before = (.error error, after)) : raised error after := by
  rw [Yields, ran] at yields
  exact yields

theorem Yields.mono (returns : ∀ value after, normal value after → normal' value after)
    (raises : ∀ error after, raised error after → raised' error after) :
    program.Yields before normal' raised' := by
  simp only [Yields] at yields ⊢
  split <;> simp_all

theorem Yields.into (returns : ∀ value after, normal value after → normal' value after) :
    program.Returns before normal' :=
  yields.mono returns fun _ _ _ => trivial

end

theorem yields_true : program.Returns before fun _ _ => True := by
  simp only [Yields]
  split <;> trivial

theorem Yields.and (first : program.Yields before normal raised) (second : program.Yields before normal' raised') :
    program.Yields before (fun value after => normal value after ∧ normal' value after)
      (fun error after => raised error after ∧ raised' error after) := by
  simp only [Yields] at first second ⊢
  split <;> simp_all

theorem Yields.left_state (yields : program.Yields before (fun _ => Post) (fun _ => Post)) :
    Post (program.run before).2 := by
  generalize ran : program.run before = ended
  obtain ⟨_ | _, _⟩ := ended
  · exact yields.raises ran
  · exact yields.returned ran

/-- A postcondition of one value and one state says how the program ends. -/
theorem Yields.run_eq
    (yields : program.Yields before (fun given left => given = value ∧ left = after) (fun _ _ => False)) :
    program.run before = (.ok value, after) := by
  generalize ran : program.run before = ended
  obtain ⟨_ | _, _⟩ := ended
  · exact absurd (yields.raises ran) not_false
  · obtain ⟨rfl, rfl⟩ := yields.returned ran
    rfl

@[simp] theorem run_pure : (pure value : Program Error State Value).run before = (.ok value, before) :=
  rfl

@[simp] theorem run_raise : (raise error : Program Error State Value).run before = (.error error, before) := rfl

@[simp] theorem run_read : (read : Program Error State State).run before = (.ok before, before) := rfl

@[simp] theorem run_modify : (modify change : Program Error State Unit).run before = (.ok (), change before) := rfl

@[simp] theorem run_call : (call outcome : Program Error State Value).run before = (outcome, before) := rfl

@[simp] theorem run_bind :
    (program >>= next).run before =
      match program.run before with
      | (.ok value, after) => (next value).run after
      | (.error error, after) => (.error error, after) :=
  rfl

@[simp] theorem run_attempt :
    (attempt body handler).run before =
      match body.run before with
      | (.ok value, after) => (.ok value, after)
      | (.error error, after) => (handler error).run after :=
  rfl

@[simp] theorem yields_pure :
    (pure value : Program Error State Value).Yields before normal raised ↔ normal value before :=
  Iff.rfl

@[simp] theorem yields_raise :
    (raise error : Program Error State Value).Yields before normal raised ↔ raised error before :=
  Iff.rfl

@[simp] theorem yields_read {normal : State → State → Prop} :
    (read : Program Error State State).Yields before normal raised ↔ normal before before :=
  Iff.rfl

@[simp] theorem yields_modify {normal : Unit → State → Prop} :
    (modify change : Program Error State Unit).Yields before normal raised ↔
      normal () (change before) :=
  Iff.rfl

@[simp] theorem yields_call :
    (call outcome : Program Error State Value).Yields before normal raised ↔
      (∀ value, outcome = .ok value → normal value before) ∧
        ∀ error, outcome = .error error → raised error before := by
  cases outcome <;> simp [Yields, run, call]

@[simp] theorem yields_bind {normal : Other → State → Prop} :
    (program >>= next).Yields before normal raised ↔
      program.Yields before (fun value after => (next value).Yields after normal raised) raised := by
  simp only [Yields, run]
  simp only [bind]
  rcases program before with ⟨outcome, after⟩
  cases outcome <;> rfl

@[simp] theorem yields_attempt :
    (attempt body handler).Yields before normal raised ↔
      body.Yields before normal (fun error after => (handler error).Yields after normal raised) := by
  simp only [Yields, run, attempt]
  rcases body before with ⟨outcome, after⟩
  cases outcome <;> rfl

@[simp] theorem yields_ensuring :
    (ensuring body last).Yields before normal raised ↔
      body.Yields before (fun value after => normal value (last after))
        (fun error after => raised error (last after)) := by
  simp only [Yields, run, ensuring]
  rcases body before with ⟨outcome, after⟩
  cases outcome <;> rfl

@[simp] theorem yields_ite {condition : Prop} [Decidable condition] {no : Program Error State Value} :
    (if condition then yes else no).Yields before normal raised ↔
      (condition → yes.Yields before normal raised) ∧
        (¬condition → no.Yields before normal raised) := by
  by_cases holds : condition <;> simp [holds]

def Keeps (program : Program Error State Value) (Invariant : State → Prop) : Prop :=
  ∀ before, Invariant before → program.Yields before (fun _ => Invariant) (fun _ => Invariant)

theorem Keeps.pure : (Pure.pure value : Program Error State Value).Keeps Invariant :=
  fun _ holds => holds

theorem Keeps.raise : (Program.raise error : Program Error State Value).Keeps Invariant :=
  fun _ holds => holds

theorem Keeps.read : (Program.read : Program Error State State).Keeps Invariant :=
  fun _ holds => holds

theorem Keeps.call : (Program.call outcome : Program Error State Value).Keeps Invariant :=
  fun _ holds => yields_call.mpr ⟨fun _ _ => holds, fun _ _ => holds⟩

theorem Keeps.modify (preserved : ∀ before, Invariant before → Invariant (change before)) :
    (Program.modify change : Program Error State Unit).Keeps Invariant :=
  fun before holds => preserved before holds

theorem Keeps.bind (first : program.Keeps Invariant)
    (rest : ∀ value, (next value).Keeps Invariant) : (program >>= next).Keeps Invariant :=
  fun before holds => yields_bind.mpr <|
    (first before holds).mono (fun value after held => rest value after held) fun _ _ held => held

theorem Keeps.attempt (tried : body.Keeps Invariant) (handled : ∀ error, (handler error).Keeps Invariant) :
    (Program.attempt body handler).Keeps Invariant :=
  fun before holds => yields_attempt.mpr <|
    (tried before holds).mono (fun _ _ held => held) fun error after held => handled error after held

theorem Keeps.ite {condition : Prop} [Decidable condition]
    {no : Program Error State Value} (whenTrue : yes.Keeps Invariant)
    (whenFalse : no.Keeps Invariant) : (if condition then yes else no).Keeps Invariant := by
  by_cases holds : condition
  · simpa [holds] using whenTrue
  · simpa [holds] using whenFalse

theorem Keeps.at_end (keeps : program.Keeps Invariant) (holds : Invariant before)
    (ran : program.run before = (outcome, after)) : Invariant after := by
  cases outcome with
  | ok => exact (keeps before holds).returned ran
  | error => exact (keeps before holds).raises ran

end Program
