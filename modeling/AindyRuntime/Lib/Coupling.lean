import AindyRuntime.Lib.Program

/-! # Two programs side by side

`Couples` compares the runs of two programs from states that are alike: either
both return values that are the same in a given sense, or both raise the same
error, and the states they leave are alike again.
-/

namespace Program

variable {Error State Value Value' Other Other' : Type}

variable (Alike : State → State → Prop) (Same : Value → Value' → Prop) in
inductive Paired :
    Except Error Value × State → Except Error Value' × State → Prop where
  | returned {value : Value} {value' : Value'} {after after' : State} (same : Same value value')
      (alike : Alike after after') : Paired (.ok value, after) (.ok value', after')
  | raised {error : Error} {after after' : State} (alike : Alike after after') :
      Paired (.error error, after) (.error error, after')

def Couples (left : Program Error State Value) (right : Program Error State Value')
    (Alike : State → State → Prop) (Same : Value → Value' → Prop) : Prop :=
  ∀ before before', Alike before before' → Paired Alike Same (left.run before) (right.run before')

inductive Matched (Same : Value → Value' → Prop) : Except Error Value → Except Error Value' → Prop where
  | value {value : Value} {value' : Value'} (same : Same value value') :
      Matched Same (.ok value) (.ok value')
  | error {error : Error} : Matched Same (.error error) (.error error)

/-- Outcomes that look the same match in what is looked at. -/
theorem Matched.of_map {view : Value → Other} {outcome' : Except Error Value}
    (same : outcome.map view = outcome'.map view) :
    Matched (fun value value' => view value = view value') outcome outcome' := by
  rcases outcome with error | value <;> rcases outcome' with error' | value'
  · cases same
    exact .error
  · cases same
  · cases same
  · exact .value (Except.ok.inj same)

namespace Couples

variable {Same : Value → Value' → Prop}
variable {left : Program Error State Value}
variable {next : Value → Program Error State Other} {next' : Value' → Program Error State Other'}

theorem pure (same : Same value value') :
    (Pure.pure value : Program Error State Value).Couples (Pure.pure value') Alike Same :=
  fun _ _ alike => .returned same alike

theorem raise :
    (Program.raise error : Program Error State Value).Couples
      (Program.raise error : Program Error State Value') Alike Same :=
  fun _ _ alike => .raised alike

theorem read : (Program.read : Program Error State State).Couples Program.read Alike Alike :=
  fun _ _ alike => .returned alike alike

theorem modify (kept : ∀ {before before'}, Alike before before' → Alike (change before) (change' before')) :
    (Program.modify change : Program Error State Unit).Couples (Program.modify change') Alike Eq :=
  fun _ _ alike => .returned rfl (kept alike)

theorem call_matched (matched : Matched Same outcome outcome') :
    (Program.call outcome : Program Error State Value).Couples (Program.call outcome') Alike Same := by
  intro before before' alike
  cases matched with
  | value same => exact .returned same alike
  | error => exact .raised alike

theorem call :
    (Program.call outcome : Program Error State Value).Couples (Program.call outcome) Alike Eq := by
  cases outcome with
  | ok value => exact call_matched (.value rfl)
  | error error => exact call_matched .error

theorem bind (first : left.Couples right Alike Same)
    (rest : ∀ {value value'}, Same value value' → (next value).Couples (next' value') Alike Same') :
    (left >>= next).Couples (right >>= next') Alike Same' := by
  intro before before' alike
  rw [run_bind, run_bind]
  have paired := first before before' alike
  generalize left.run before = ended at paired ⊢
  generalize right.run before' = ended' at paired ⊢
  cases paired with
  | returned same after => exact rest same _ _ after
  | raised after => exact .raised after

/-- The rule for a first part whose values are equal. -/
theorem bind_eq {right : Program Error State Value} {next' : Value → Program Error State Other'}
    (first : left.Couples right Alike Eq) (rest : ∀ value, (next value).Couples (next' value) Alike Same') :
    (left >>= next).Couples (right >>= next') Alike Same' :=
  first.bind fun same => same ▸ rest _

theorem attempt (tried : left.Couples right Alike Same)
    (handled : ∀ error, (handler error).Couples (handler' error) Alike Same) :
    (Program.attempt left handler).Couples (Program.attempt right handler') Alike Same := by
  intro before before' alike
  rw [run_attempt, run_attempt]
  have paired := tried before before' alike
  generalize left.run before = ended at paired ⊢
  generalize right.run before' = ended' at paired ⊢
  cases paired with
  | returned same after => exact .returned same after
  | raised after => exact handled _ _ _ after

theorem ite_of_iff {condition condition' : Prop} [Decidable condition] [Decidable condition']
    {no : Program Error State Value}
    (together : condition ↔ condition') (whenTrue : condition → yes.Couples yes' Alike Same)
    (whenFalse : ¬condition → no.Couples no' Alike Same) :
    (if condition then yes else no).Couples (if condition' then yes' else no') Alike Same := by
  by_cases holds : condition
  · rw [if_pos holds, if_pos (together.mp holds)]
    exact whenTrue holds
  · rw [if_neg holds, if_neg (mt together.mpr holds)]
    exact whenFalse holds

theorem ite {condition : Prop} [Decidable condition] {no : Program Error State Value}
    (whenTrue : condition → yes.Couples yes' Alike Same)
    (whenFalse : ¬condition → no.Couples no' Alike Same) :
    (if condition then yes else no).Couples (if condition then yes' else no') Alike Same :=
  ite_of_iff Iff.rfl whenTrue whenFalse

/-- Two programs that always return, each to its own postcondition. -/
theorem of_returns {Left : State → Value → State → Prop} {Right : State → Value' → State → Prop}
    (returns : ∀ before, left.Yields before (Left before) (fun _ _ => False))
    (returns' : ∀ before, right.Yields before (Right before) (fun _ _ => False))
    (together : ∀ {before before' value value' after after'}, Alike before before' →
      Left before value after → Right before' value' after' → Same value value' ∧ Alike after after') :
    left.Couples right Alike Same := by
  intro before before' alike
  generalize ran : left.run before = ended
  generalize ran' : right.run before' = ended'
  obtain ⟨error | _, _⟩ := ended
  · exact absurd ((returns before).raises ran) id
  · obtain ⟨_ | _, _⟩ := ended'
    · exact absurd ((returns' before').raises ran') id
    · obtain ⟨same, alike'⟩ := together alike ((returns before).returned ran)
        ((returns' before').returned ran')
      exact .returned same alike'

end Couples

end Program
