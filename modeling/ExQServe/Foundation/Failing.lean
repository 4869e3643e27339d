import Mathlib

/-! # Procedures that fail

What is known of the parts of a procedure that has ended without a failure. The second
part is about procedures that change a state, which they keep when they fail. -/

namespace ExQServe.Failing

variable {ε σ α β : Type}

/-! ## Without a state -/

theorem bind_eq_ok {first : Except ε α} {next : α → Except ε β} {value : β}
    (ended : (first >>= next) = .ok value) :
    ∃ middle, first = .ok middle ∧ next middle = .ok value := by
  cases first with
  | error failure => cases ended
  | ok middle => exact ⟨middle, rfl, ended⟩

theorem map_eq_ok {first : Except ε α} {next : α → β} {value : β}
    (ended : first.map next = .ok value) : ∃ middle, first = .ok middle ∧ next middle = value := by
  cases first with
  | error failure => cases ended
  | ok middle => exact ⟨middle, rfl, Except.ok.inj ended⟩

theorem mapM_eq_ok {step : α → Except ε β} {inputs : List α} {outputs : List β}
    (ended : inputs.mapM step = .ok outputs) :
    List.Forall₂ (fun input output => step input = .ok output) inputs outputs := by
  induction inputs generalizing outputs with
  | nil =>
      cases ended
      exact .nil
  | cons input inputs induction =>
      rw [List.mapM_cons] at ended
      rcases bind_eq_ok ended with ⟨output, stepped, ended⟩
      rcases bind_eq_ok ended with ⟨others, rest, ended⟩
      cases ended
      exact .cons stepped (induction rest)

/-- A related list stays related when one entry is replaced by a related one. -/
theorem forall₂_set {relation : α → β → Prop} {inputs : List α} {outputs : List β} {index : Nat}
    {input : α} {output : β} (related : List.Forall₂ relation inputs outputs)
    (stands : inputs[index]? = some input) (fits : relation input output) :
    List.Forall₂ relation inputs (outputs.set index output) := by
  induction related generalizing index with
  | nil => cases stands
  | cons head tail induction =>
      cases index with
      | zero =>
          cases stands
          exact .cons fits tail
      | succ index => exact .cons head (induction stands)

/-! ## With a state -/

section Stages

theorem stage_bind_eq_ok {first : EStateM ε σ α} {next : α → EStateM ε σ β} {state final : σ}
    {value : β} (ended : (first >>= next) state = .ok value final) :
    ∃ middle between, first state = .ok middle between ∧ next middle between = .ok value final := by
  change EStateM.bind first next state = .ok value final at ended
  rw [EStateM.bind] at ended
  cases run : first state with
  | error failure between =>
      rw [run] at ended
      cases ended
  | ok middle between =>
      rw [run] at ended
      exact ⟨middle, between, rfl, ended⟩

theorem stage_mapM_eq_ok {step : α → EStateM ε σ β} {inputs : List α} {outputs : List β}
    {state final : σ} (ended : inputs.mapM step state = .ok outputs final) :
    List.Forall₂ (fun input output => ∃ before after, step input before = .ok output after)
      inputs outputs := by
  induction inputs generalizing outputs state final with
  | nil =>
      cases ended
      exact .nil
  | cons input inputs induction =>
      rw [List.mapM_cons] at ended
      rcases stage_bind_eq_ok ended with ⟨output, between, stepped, ended⟩
      rcases stage_bind_eq_ok ended with ⟨others, last, rest, ended⟩
      cases ended
      exact .cons ⟨state, between, stepped⟩ (induction rest)

/-- From a state of the first kind the procedure ends, with a value and a state of the second
kind. -/
def Ends (before : σ → Prop) (stage : EStateM ε σ α) (behind : α → σ → Prop) : Prop :=
  ∀ state, before state → ∃ value final, stage state = .ok value final ∧ behind value final

theorem ends_pure {before : σ → Prop} {behind : α → σ → Prop} {value : α}
    (holds : ∀ state, before state → behind value state) :
    Ends before (pure value : EStateM ε σ α) behind :=
  fun state here => ⟨value, state, rfl, holds state here⟩

theorem ends_bind {before : σ → Prop} {between : α → σ → Prop} {behind : β → σ → Prop}
    {first : EStateM ε σ α} {next : α → EStateM ε σ β} (here : Ends before first between)
    (there : ∀ value, Ends (between value) (next value) behind) :
    Ends before (first >>= next) behind := by
  intro state holds
  rcases here state holds with ⟨middle, final, ended, holds⟩
  rcases there middle final holds with ⟨value, last, finished, holds⟩
  refine ⟨value, last, ?_, holds⟩
  change EStateM.bind first next state = .ok value last
  rw [EStateM.bind, ended]
  exact finished

/-- The procedure fails in no other way. -/
def OnlyFails (allowed : ε → Prop) (stage : EStateM ε σ α) : Prop :=
  ∀ state failure final, stage state = .error failure final → allowed failure

variable {allowed : ε → Prop}

theorem onlyFails_pure (value : α) : OnlyFails allowed (pure value : EStateM ε σ α) := by
  intro state failure final failed
  cases failed

theorem onlyFails_bind {first : EStateM ε σ α} {next : α → EStateM ε σ β}
    (here : OnlyFails allowed first) (there : ∀ value, OnlyFails allowed (next value)) :
    OnlyFails allowed (first >>= next) := by
  intro state failure final failed
  change EStateM.bind first next state = .error failure final at failed
  rw [EStateM.bind] at failed
  cases run : first state with
  | error earlier between =>
      rw [run] at failed
      cases failed
      exact here _ _ _ run
  | ok value between =>
      rw [run] at failed
      exact there value _ _ _ failed

theorem onlyFails_mapM {step : α → EStateM ε σ β} (each : ∀ input, OnlyFails allowed (step input))
    (inputs : List α) : OnlyFails allowed (inputs.mapM step) := by
  induction inputs with
  | nil => exact onlyFails_pure _
  | cons input inputs induction =>
      rw [List.mapM_cons]
      exact onlyFails_bind (each input) fun _ => onlyFails_bind induction fun _ => onlyFails_pure _

/-- Where the procedure ends, its state is related to the one it started in. -/
def Frames (relation : σ → σ → Prop) (stage : EStateM ε σ α) : Prop :=
  ∀ state value final, stage state = .ok value final → relation state final

variable {relation : σ → σ → Prop}

theorem frames_pure (reflexive : ∀ state, relation state state) (value : α) :
    Frames relation (pure value : EStateM ε σ α) := by
  intro state found final ended
  cases ended
  exact reflexive state

theorem frames_bind (transitive : ∀ first second third : σ, relation first second →
      relation second third → relation first third)
    {first : EStateM ε σ α} {next : α → EStateM ε σ β} (here : Frames relation first)
    (there : ∀ value, Frames relation (next value)) : Frames relation (first >>= next) := by
  intro state value final ended
  rcases stage_bind_eq_ok ended with ⟨middle, between, first, last⟩
  exact transitive _ _ _ (here _ _ _ first) (there _ _ _ _ last)

/-- The state after a procedure that has ended or failed. -/
def finalState : EStateM.Result ε σ α → σ
  | .ok _ final => final
  | .error _ final => final

/-- The invariant holds afterwards, whether the procedure has ended or failed. -/
def Keeps (invariant : σ → Prop) (stage : EStateM ε σ α) : Prop :=
  ∀ state, invariant state → invariant (finalState (stage state))

variable {invariant : σ → Prop}

theorem keeps_pure (value : α) : Keeps invariant (pure value : EStateM ε σ α) :=
  fun _ kept => kept

theorem keeps_bind {first : EStateM ε σ α} {next : α → EStateM ε σ β}
    (here : Keeps invariant first) (there : ∀ value, Keeps invariant (next value)) :
    Keeps invariant (first >>= next) := by
  intro state kept
  have between := here state kept
  change invariant (finalState (EStateM.bind first next state))
  rw [EStateM.bind]
  cases run : first state with
  | error failure final =>
      rw [run] at between
      exact between
  | ok value final =>
      rw [run] at between
      exact there value final between

end Stages

end ExQServe.Failing
