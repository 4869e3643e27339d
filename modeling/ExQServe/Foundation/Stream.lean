import Mathlib

/-! # Loops and streams

A `while` loop over a state that may fail, and a machine whose input arrives in
chunks. Nothing here depends on what the states or the inputs are. -/

namespace ExQServe.Stream

variable {σ β γ : Type u} {ε : Type v}

/-! ## Outcomes -/

/-- What holds of a result: one thing of its value, another of its failure. -/
def Outcome (fails : ε → Prop) (returns : β → Prop) : Except ε β → Prop
  | .error failure => fails failure
  | .ok value => returns value

theorem Outcome.bind {fails : ε → Prop} {returns : β → Prop} {returns' : γ → Prop}
    {result : Except ε β} {next : β → Except ε γ} (first : Outcome fails returns result)
    (second : ∀ value, result = .ok value → returns value →
      Outcome fails returns' (next value)) :
    Outcome fails returns' (result >>= next) := by
  cases result with
  | error failure => exact first
  | ok value => exact second value rfl first

/-! ## Loops -/

/-- Repeat a step until it returns, at most `fuel` times. -/
def iterate (exhausted : ε) (step : σ → Except ε (σ ⊕ β)) : Nat → σ → Except ε β
  | 0, _ => .error exhausted
  | fuel + 1, state =>
      match step state with
      | .error failure => .error failure
      | .ok (.inl next) => iterate exhausted step fuel next
      | .ok (.inr result) => .ok result

/-- A `while` loop. The measure bounds its turns, so the loop can be evaluated;
where every turn decreases the measure the bound is never met. -/
def whileLoop (exhausted : ε) (measure : σ → Nat) (step : σ → Except ε (σ ⊕ β))
    (state : σ) : Except ε β :=
  iterate exhausted step (measure state + 1) state

structure Decreases (measure : σ → Nat) (step : σ → Except ε (σ ⊕ β)) : Prop where
  less : ∀ state next, step state = .ok (.inl next) → measure next < measure state

section WhileLoop

variable {exhausted : ε} {measure : σ → Nat} {step : σ → Except ε (σ ⊕ β)}

theorem iterate_eq_iterate (decreases : Decreases measure step) :
    ∀ (left right : Nat) (state : σ), measure state < left → measure state < right →
      iterate exhausted step left state = iterate exhausted step right state
  | left + 1, right + 1, state, leftEnough, rightEnough => by
      unfold iterate
      cases result : step state with
      | error failure => rfl
      | ok outcome =>
          cases outcome with
          | inr value => rfl
          | inl next =>
              have less := decreases.less state next result
              exact iterate_eq_iterate decreases left right next (by omega) (by omega)

/-- The loop's own equation, free of its bound. -/
theorem whileLoop_eq (decreases : Decreases measure step) (state : σ) :
    whileLoop exhausted measure step state =
      step state >>= Sum.elim (whileLoop exhausted measure step) Except.ok := by
  unfold whileLoop
  rw [iterate]
  cases result : step state with
  | error failure => rfl
  | ok outcome =>
      cases outcome with
      | inr value => rfl
      | inl next =>
          have less := decreases.less state next result
          exact iterate_eq_iterate decreases _ _ next (by omega) (by omega)

/-- Induction along the turns of a loop. -/
theorem Decreases.induction (decreases : Decreases measure step) {motive : σ → Prop}
    (turn : ∀ state, (∀ next, step state = .ok (.inl next) → motive next) → motive state)
    (state : σ) : motive state := by
  induction size : measure state using Nat.strongRecOn generalizing state with
  | ind size induction =>
      refine turn state fun next stepped => ?_
      have less := decreases.less state next stepped
      exact induction (measure next) (by omega) next rfl

/-- What every turn preserves holds where the loop returns, and the loop fails
only where a turn does. -/
theorem whileLoop_invariant (decreases : Decreases measure step) (invariant : σ → Prop)
    {returns : β → Prop} {fails : ε → Prop}
    (turn : ∀ state, invariant state →
      Outcome fails (Sum.elim invariant returns) (step state)) (state : σ) :
    invariant state → Outcome fails returns (whileLoop exhausted measure step state) := by
  induction state using decreases.induction with
  | turn state induction =>
      intro holds
      rw [whileLoop_eq decreases]
      refine (turn state holds).bind ?_
      rintro (next | result) stepped turned
      · exact induction next stepped turned
      · exact turned

end WhileLoop

/-! ## Chunks -/

/-- Feed the chunks one after another. -/
def feedAll (feed : σ → List α → Except ε σ) (state : σ) (chunks : List (List α)) :
    Except ε σ :=
  chunks.foldlM feed state

/-- The cut of a chunk does not show: feeding it whole or in two pieces leaves the
same state, or fails the same way. -/
structure CutFree (invariant : σ → Prop) (feed : σ → List α → Except ε σ) : Prop where
  nil : ∀ state, invariant state → feed state [] = .ok state
  append : ∀ state first second, invariant state →
    feed state (first ++ second) = feed state first >>= fun next => feed next second
  preserves : ∀ state chunk next, invariant state → feed state chunk = .ok next →
    invariant next

theorem CutFree.feedAll_eq {invariant : σ → Prop} {feed : σ → List α → Except ε σ}
    (cutFree : CutFree invariant feed) (chunks : List (List α)) :
    ∀ state, invariant state → feedAll feed state chunks = feed state chunks.flatten := by
  induction chunks with
  | nil =>
      intro state holds
      exact (cutFree.nil state holds).symm
  | cons chunk chunks induction =>
      intro state holds
      rw [List.flatten_cons, cutFree.append state _ _ holds]
      unfold feedAll at induction ⊢
      rw [List.foldlM_cons]
      cases fed : feed state chunk with
      | error failure => rfl
      | ok next => exact induction next (cutFree.preserves state chunk next holds fed)

end ExQServe.Stream
