import Mathlib

/-! # Machines and their runs

A machine answers an action with its next state, or refuses the action. A run is
the list of the actions it has taken from its first state. -/

namespace ExQServe

structure Machine (σ α : Type) where
  initial : σ
  step : σ → α → Option σ

inductive TaskOutcome (ε τ : Type)
  | returned (value : τ)
  | raised (error : ε)
  | cancelled
deriving DecidableEq, Repr

variable {σ α : Type}

/-- Where an entry stands in a list that has grown by one. -/
theorem append_singleton_split {before entries after : List α} {last entry : α}
    (split : entries ++ [last] = before ++ entry :: after) :
    (after = [] ∧ entry = last ∧ entries = before) ∨
      ∃ rest, after = rest ++ [last] ∧ entries = before ++ entry :: rest := by
  rcases List.eq_nil_or_concat after with empty | ⟨rest, final, whole⟩
  · subst empty
    have parts := List.append_inj' split rfl
    cases parts.2
    exact .inl ⟨rfl, rfl, parts.1⟩
  · subst whole
    have joined : entries ++ [last] = (before ++ entry :: rest) ++ [final] := by
      simpa using split
    have parts := List.append_inj' joined rfl
    cases parts.2
    exact .inr ⟨rest, List.concat_eq_append, parts.1⟩

namespace Machine

def perform (machine : Machine σ α) (state : σ) : List α → Option σ
  | [] => some state
  | action :: actions => (machine.step state action).bind (machine.perform · actions)

/-- The actions lead from the first state to this one. -/
def Runs (machine : Machine σ α) (actions : List α) (state : σ) : Prop :=
  machine.perform machine.initial actions = some state

/-- The run takes an action of this kind from a state of this kind. -/
def Passes (machine : Machine σ α) (kind : σ → α → Prop) (actions : List α) : Prop :=
  ∃ before action after state, actions = before ++ action :: after ∧
    machine.Runs before state ∧ kind state action

variable {machine : Machine σ α}

theorem perform_append (state : σ) (first second : List α) :
    machine.perform state (first ++ second) =
      (machine.perform state first).bind (machine.perform · second) := by
  induction first generalizing state with
  | nil => rfl
  | cons action actions induction =>
      simp only [List.cons_append, perform, Option.bind_assoc]
      congr 1
      funext next
      exact induction next

theorem runs_nil : machine.Runs [] machine.initial := rfl

theorem Runs.unique {actions : List α} {first second : σ} (left : machine.Runs actions first)
    (right : machine.Runs actions second) : first = second :=
  Option.some.inj (left.symm.trans right)

theorem Runs.snoc {actions : List α} {state next : σ} {action : α}
    (run : machine.Runs actions state) (taken : machine.step state action = some next) :
    machine.Runs (actions ++ [action]) next := by
  unfold Runs at run ⊢
  rw [perform_append, run]
  simp only [Option.bind_some, perform, taken]

theorem Runs.of_append {first second : List α} {state : σ}
    (run : machine.Runs (first ++ second) state) : ∃ earlier, machine.Runs first earlier := by
  unfold Runs at run
  rw [perform_append] at run
  rcases Option.bind_eq_some_iff.mp run with ⟨earlier, reached, _⟩
  exact ⟨earlier, reached⟩

theorem Runs.of_snoc {actions : List α} {next : σ} {action : α}
    (run : machine.Runs (actions ++ [action]) next) :
    ∃ state, machine.Runs actions state ∧ machine.step state action = some next := by
  unfold Runs at run
  rw [perform_append] at run
  rcases Option.bind_eq_some_iff.mp run with ⟨state, first, last⟩
  refine ⟨state, first, ?_⟩
  simpa only [perform, Option.bind_fun_some] using last

/-- What holds at first and after every step holds after every run. The statement may
speak about the actions taken so far. -/
theorem Runs.invariant {holds : List α → σ → Prop} (initial : holds [] machine.initial)
    (step : ∀ actions state action next, machine.Runs actions state → holds actions state →
      machine.step state action = some next → holds (actions ++ [action]) next)
    {actions : List α} {state : σ} (run : machine.Runs actions state) : holds actions state := by
  induction actions using List.reverseRecOn generalizing state with
  | nil =>
      cases run
      exact initial
  | append_singleton actions action induction =>
      rcases run.of_snoc with ⟨before, earlier, taken⟩
      exact step actions before action state earlier (induction earlier) taken

/-- What holds at first and after every step holds in every state a run reaches. -/
theorem Runs.preserves {holds : σ → Prop} (initial : holds machine.initial)
    (step : ∀ state action next, holds state → machine.step state action = some next →
      holds next) {actions : List α} {state : σ} (run : machine.Runs actions state) :
    holds state :=
  Runs.invariant initial (fun _ before action next _ held taken =>
    step before action next held taken)
    run

variable {kind : σ → α → Prop}

theorem not_passes_nil : ¬ machine.Passes kind [] := by
  intro passes
  rcases passes with ⟨before, action, after, _, split, _⟩
  cases before <;> cases split

theorem passes_snoc {actions : List α} {state : σ} {action : α}
    (run : machine.Runs actions state) :
    machine.Passes kind (actions ++ [action]) ↔
      machine.Passes kind actions ∨ kind state action := by
  constructor
  · intro passes
    rcases passes with ⟨before, taken, after, reached, split, earlier, holds⟩
    rcases List.eq_nil_or_concat after with empty | ⟨rest, last, whole⟩
    · subst empty
      have parts := List.append_inj' split rfl
      cases parts.2
      cases parts.1
      exact .inr (earlier.unique run ▸ holds)
    · subst whole
      have joined : actions ++ [action] = (before ++ taken :: rest) ++ [last] := by
        simpa using split
      have parts : actions = before ++ taken :: rest := (List.append_inj' joined rfl).1
      exact .inl ⟨before, taken, rest, reached, parts, earlier, holds⟩
  · intro either
    cases either with
    | inl passes =>
        rcases passes with ⟨before, taken, after, reached, split, earlier, holds⟩
        exact ⟨before, taken, after ++ [action], reached, by simp [split], earlier, holds⟩
    | inr holds => exact ⟨actions, action, [], state, rfl, run, holds⟩

theorem Passes.append {first : List α} (passes : machine.Passes kind first) (second : List α) :
    machine.Passes kind (first ++ second) := by
  rcases passes with ⟨before, action, after, state, split, run, holds⟩
  exact ⟨before, action, after ++ second, state, by simp [split], run, holds⟩

/-- In every state the run comes through. -/
def Throughout (machine : Machine σ α) (good : σ → Prop) (actions : List α) : Prop :=
  ∀ before after state, actions = before ++ after → machine.Runs before state → good state

section Faults

variable {sound good : σ → Prop}

theorem Runs.orderly (initial : sound machine.initial)
    (step : ∀ state action next, sound state → ¬ kind state action →
      machine.step state action = some next → sound next)
    {actions : List α} {state : σ} (run : machine.Runs actions state)
    (orderly : ¬ machine.Passes kind actions) : sound state := by
  apply @Runs.invariant σ α machine
    (fun actions state => ¬ machine.Passes kind actions → sound state) (fun _ => initial) _ _ _
    run orderly
  intro earlier before action next runs holds taken orderly
  have parts := not_or.mp (mt (passes_snoc runs).mpr orderly)
  exact step before action next (holds parts.1) parts.2 taken

/-- Where a fault shows in the state it leads to, a run is good throughout exactly when it
takes no fault. -/
theorem throughout_iff (initial : sound machine.initial)
    (step : ∀ state action next, sound state → ¬ kind state action →
      machine.step state action = some next → sound next)
    (implies : ∀ state, sound state → good state)
    (visible : ∀ state action, sound state → kind state action →
      ∃ next, machine.step state action = some next ∧ ¬ good next) (actions : List α) :
    machine.Throughout good actions ↔ ¬ machine.Passes kind actions := by
  constructor
  · intro throughout passes
    rcases passes with ⟨before, fault, after, state, split, run, faulty⟩
    have sofar : machine.Throughout good before := fun first second reached parts =>
      throughout first (second ++ fault :: after) reached (by simp [split, parts])
    have reached : machine.Throughout good before → sound state := by
      apply @Runs.invariant σ α machine
        (fun actions state => machine.Throughout good actions → sound state) (fun _ => initial) _ _
        _ run
      intro earlier before action next runs holds taken fine
      have held := holds fun first second reached parts =>
        fine first (second ++ [action]) reached (by simp [parts])
      by_contra lost
      have faulty : kind before action := by
        by_contra orderly
        exact lost (step before action next held orderly taken)
      rcases visible before action held faulty with ⟨shown, same, visible⟩
      cases taken.symm.trans same
      exact visible (fine (earlier ++ [action]) [] next (by simp) (runs.snoc taken))
    rcases visible state fault (reached sofar) faulty with ⟨next, taken, visible⟩
    exact visible (throughout (before ++ [fault]) after next (by simp [split]) (run.snoc taken))
  · intro orderly before after state split run
    apply implies state
    apply run.orderly initial step
    intro passes
    exact orderly (split ▸ passes.append after)

end Faults

end Machine
end ExQServe
