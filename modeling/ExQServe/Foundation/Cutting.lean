import ExQServe.Foundation.Emission

/-! # Machines that drain their input

A machine takes in a piece of input and then takes turns until it rests. When more input does
not change what a turn does, but for the cut of neighbouring entries of the log, the pieces in
which the input arrives do not show. -/

namespace ExQServe.Emission

open Emitting

structure Draining (ε σ ω α : Type) where
  exhausted : ε
  measure : σ → Nat
  turn : Emitting ε σ ω Bool
  push : σ → List α → σ
  progresses : Progresses measure turn
  push_nil : ∀ state, push state [] = state
  push_append : ∀ state first second, push state (first ++ second) = push (push state first) second

namespace Draining

variable {ε σ ω α : Type} (machine : Draining ε σ ω α)

def drain : Emitting ε σ ω Unit := repeatWhile machine.exhausted machine.measure machine.turn

def feed (piece : List α) : Emitting ε σ ω Unit := fun state =>
  machine.drain (machine.push state piece)

def feedAll : List (List α) → Emitting ε σ ω Unit
  | [] => pure ()
  | piece :: pieces => do
      machine.feed piece
      feedAll pieces

/-- More input does not change a turn, up to the cut of the log, where `whole` holds of the state
that has all the input. -/
structure CutFree (joining : Joining ω) (good whole : σ → Prop) : Prop where
  push : ∀ state more, good state → good (machine.push state more)
  turn : ∀ state ending, good state → machine.turn state = .ok ending → good ending.state
  failed : ∀ state failure more, good state → whole (machine.push state more) →
    machine.turn state = .error failure → machine.turn (machine.push state more) = .error failure
  turned : ∀ state ending more, good state → whole (machine.push state more) →
    machine.turn state = .ok ending →
    Alike joining (machine.drain (machine.push state more))
      ((machine.drain (machine.push ending.state more)).map (Ending.after ending.log)) ∧
    whole (machine.push ending.state more)
  rested : ∀ state ending, good state → machine.turn state = .ok ending → ending.value = false →
    machine.turn ending.state = .ok ⟨false, ending.state, []⟩

section Turns

variable {machine} {joining : Joining ω} {state state' : σ}

theorem drain_of_error {failure : ε} (failed : machine.turn state = .error failure) :
    machine.drain state = .error failure :=
  repeatWhile_of_error machine.progresses failed

theorem drain_of_rest {ending : Ending σ ω Bool} (turned : machine.turn state = .ok ending)
    (rests : ending.value = false) : machine.drain state = .ok ⟨(), ending.state, ending.log⟩ :=
  repeatWhile_of_rest machine.progresses turned rests

theorem drain_of_progress {ending : Ending σ ω Bool} (turned : machine.turn state = .ok ending)
    (progressed : ending.value = true) :
    machine.drain state = (machine.drain ending.state).map (Ending.after ending.log) :=
  repeatWhile_of_progress machine.progresses turned progressed

/-- Turns to the same state, with logs that merge to the same. -/
theorem drain_alike {value : Bool} {next : σ} {log log' front : List ω}
    (turned : machine.turn state = .ok ⟨value, next, log⟩)
    (turned' : machine.turn state' = .ok ⟨value, next, log'⟩)
    (same : joining.merge log = joining.merge (front ++ log')) :
    Alike joining (machine.drain state) ((machine.drain state').map (Ending.after front)) := by
  cases value with
  | false =>
      rw [drain_of_rest turned rfl, drain_of_rest turned' rfl]
      exact ⟨rfl, rfl, same⟩
  | true =>
      rw [drain_of_progress turned rfl, drain_of_progress turned' rfl, Ending.map_after_after]
      exact (Alike.refl _).after same

end Turns

namespace CutFree

variable {machine} {joining : Joining ω} {good whole : σ → Prop}

/-- Draining before more input comes does not show. -/
theorem drain_push (cutFree : machine.CutFree joining good whole) (more : List α) {state : σ}
    (isGood : good state) (isWhole : whole (machine.push state more)) :
    Alike joining (machine.drain (machine.push state more))
      ((machine.drain >>= fun _ => machine.feed more) state) := by
  induction size : machine.measure state using Nat.strongRecOn generalizing state with
  | ind size induction =>
      cases turned : machine.turn state with
      | error failure =>
          rw [drain_of_error (cutFree.failed state failure more isGood isWhole turned),
            bind_run_error (drain_of_error turned)]
          exact rfl
      | ok ending =>
          rcases cutFree.turned state ending more isGood isWhole turned with ⟨alike, wholeThen⟩
          cases progressed : ending.value with
          | false =>
              rw [bind_run_ok (drain_of_rest turned progressed)]
              exact alike
          | true =>
              have less := machine.progresses state ending turned progressed
              have later := induction _ (size ▸ less) (cutFree.turn state ending isGood turned)
                wholeThen rfl
              have step : (machine.drain >>= fun _ => machine.feed more) state =
                  ((machine.drain >>= fun _ => machine.feed more) ending.state).map
                    (Ending.after ending.log) := by
                have front := drain_of_progress turned progressed
                cases rest : machine.drain ending.state with
                | error failure =>
                    rw [rest] at front
                    rw [bind_run_error front, bind_run_error rest]
                    rfl
                | ok last =>
                    rw [rest] at front
                    rw [bind_run_ok front, bind_run_ok rest, Ending.map_after_after]
                    rfl
              rw [step]
              exact alike.trans (later.after rfl)

theorem feed_append (cutFree : machine.CutFree joining good whole) (first second : List α)
    {state : σ} (isGood : good state) (isWhole : whole (machine.push state (first ++ second))) :
    Alike joining (machine.feed (first ++ second) state)
      ((machine.feed first >>= fun _ => machine.feed second) state) := by
  rw [machine.push_append] at isWhole
  rw [feed, machine.push_append]
  exact cutFree.drain_push second (cutFree.push state first isGood) isWhole

theorem drain_good (cutFree : machine.CutFree joining good whole) {state : σ}
    {ending : Ending σ ω Unit} (isGood : good state) (drained : machine.drain state = .ok ending) :
    good ending.state ∧ machine.turn ending.state = .ok ⟨false, ending.state, []⟩ := by
  induction size : machine.measure state using Nat.strongRecOn generalizing state ending with
  | ind size induction =>
      cases turned : machine.turn state with
      | error failure =>
          rw [drain_of_error turned] at drained
          cases drained
      | ok turn =>
          cases progressed : turn.value with
          | false =>
              rw [drain_of_rest turned progressed] at drained
              cases drained
              exact ⟨cutFree.turn state turn isGood turned,
                cutFree.rested state turn isGood turned progressed⟩
          | true =>
              have less := machine.progresses state turn turned progressed
              rw [drain_of_progress turned progressed] at drained
              rcases map_eq_ok drained with ⟨last, rest, same⟩
              subst same
              exact @induction _ (size ▸ less) turn.state last
                (cutFree.turn state turn isGood turned) rest rfl

theorem drain_whole (cutFree : machine.CutFree joining good whole) (more : List α) {state : σ}
    {ending : Ending σ ω Unit} (isGood : good state) (isWhole : whole (machine.push state more))
    (drained : machine.drain state = .ok ending) : whole (machine.push ending.state more) := by
  induction size : machine.measure state using Nat.strongRecOn generalizing state ending with
  | ind size induction =>
      cases turned : machine.turn state with
      | error failure =>
          rw [drain_of_error turned] at drained
          cases drained
      | ok turn =>
          have wholeThen := (cutFree.turned state turn more isGood isWhole turned).2
          cases progressed : turn.value with
          | false =>
              rw [drain_of_rest turned progressed] at drained
              cases drained
              exact wholeThen
          | true =>
              have less := machine.progresses state turn turned progressed
              rw [drain_of_progress turned progressed] at drained
              rcases map_eq_ok drained with ⟨last, rest, same⟩
              subst same
              exact @induction _ (size ▸ less) turn.state last
                (cutFree.turn state turn isGood turned) wholeThen rest rfl

/-- The pieces in which the input arrives do not show. -/
theorem feedAll_flatten (cutFree : machine.CutFree joining good whole) (pieces : List (List α))
    {state : σ} (isGood : good state) (isWhole : whole (machine.push state pieces.flatten))
    (rests : machine.turn state = .ok ⟨false, state, []⟩) :
    Alike joining (machine.feedAll pieces state) (machine.feed pieces.flatten state) := by
  induction pieces generalizing state with
  | nil =>
      rw [List.flatten_nil, feed, machine.push_nil, drain_of_rest rests rfl]
      exact Alike.refl _
  | cons piece pieces induction =>
      rw [List.flatten_cons] at isWhole ⊢
      apply Alike.trans ?_ (cutFree.feed_append piece pieces.flatten isGood isWhole).symm
      apply Alike.bind (Alike.refl _)
      intro value reached fed
      rcases fed with ⟨log, fed⟩
      have goodPushed := cutFree.push state piece isGood
      rcases cutFree.drain_good goodPushed fed with ⟨goodThen, restsThen⟩
      rw [machine.push_append] at isWhole
      exact induction goodThen (cutFree.drain_whole _ goodPushed isWhole fed) restsThen

/-- Neither do they show when the input ends. -/
theorem feedAll_bind (cutFree : machine.CutFree joining good whole) {β : Type}
    (finish : Emitting ε σ ω β) (pieces : List (List α)) {state : σ} (isGood : good state)
    (isWhole : whole (machine.push state pieces.flatten))
    (rests : machine.turn state = .ok ⟨false, state, []⟩) :
    Alike joining ((machine.feedAll pieces >>= fun _ => finish) state)
      ((machine.feedAll [pieces.flatten] >>= fun _ => finish) state) := by
  have flat : [pieces.flatten].flatten = pieces.flatten := by
    rw [List.flatten_cons, List.flatten_nil, List.append_nil]
  have one := cutFree.feedAll_flatten [pieces.flatten] isGood (flat.symm ▸ isWhole) rests
  rw [flat] at one
  apply Alike.bind
  · exact (cutFree.feedAll_flatten pieces isGood isWhole rests).trans one.symm
  · exact fun _ _ _ => Alike.refl _

end CutFree

/-! ## States on the way -/

/-- The states that the turns from a state go through. -/
inductive Reaches : σ → σ → Prop
  | here (state : σ) : Reaches state state
  | turn {state last : σ} {ending : Ending σ ω Bool} (turned : machine.turn state = .ok ending)
      (progressed : ending.value = true) (later : Reaches ending.state last) : Reaches state last

/-- The property holds of every state on the way. -/
def Always (property : σ → Prop) (state : σ) : Prop :=
  ∀ last, machine.Reaches state last → property last

namespace Always

variable {machine} {property : σ → Prop} {state : σ}

theorem now (always : machine.Always property state) : property state :=
  always state (.here state)

theorem next (always : machine.Always property state) {ending : Ending σ ω Bool}
    (turned : machine.turn state = .ok ending) (progressed : ending.value = true) :
    machine.Always property ending.state :=
  fun last later => always last (.turn turned progressed later)

theorem of_turn (holds : property state)
    (later : ∀ ending, machine.turn state = .ok ending → ending.value = true →
      machine.Always property ending.state) : machine.Always property state := by
  intro last reached
  cases reached with
  | here => exact holds
  | turn turned progressed reached => exact later _ turned progressed last reached

end Always

/-- The check of the states on the way, for at most some turns. -/
def checkTurns (check : σ → Bool) : Nat → σ → Bool
  | 0, _ => false
  | turns + 1, state =>
      check state &&
        match machine.turn state with
        | .error _ => true
        | .ok ending => !ending.value || checkTurns check turns ending.state

theorem always_of_checkTurns {check : σ → Bool} {turns : Nat} {state : σ}
    (checked : machine.checkTurns check turns state = true) :
    machine.Always (fun reached => check reached = true) state := by
  induction turns generalizing state with
  | zero => cases checked
  | succ turns induction =>
      rw [checkTurns, Bool.and_eq_true] at checked
      apply @Always.of_turn _ _ _ _ machine (fun reached => check reached = true) _ checked.1
      intro ending turned progressed
      have later := checked.2
      rw [turned] at later
      dsimp only at later
      rw [progressed, Bool.not_true, Bool.false_or] at later
      exact induction later

/-! ## Machines that show the same -/

/-- The turns of the second machine are those of the first, seen through the view. -/
structure Simulates (machine' : Draining ε σ ω α) (good : σ → Prop) (view : σ → σ) : Prop where
  push : ∀ state more, good state → good (machine.push state more) ∧
    view (machine.push state more) = machine'.push (view state) more
  turn : ∀ state, good state →
    machine'.turn (view state) = (machine.turn state).map (Ending.relocate view)
  good_turn : ∀ state ending, good state → machine.turn state = .ok ending → good ending.state

namespace Simulates

variable {machine} {machine' : Draining ε σ ω α} {good : σ → Prop} {view : σ → σ}

theorem drain (simulates : machine.Simulates machine' good view) {state : σ}
    (isGood : good state) :
    machine'.drain (view state) = (machine.drain state).map (Ending.relocate view) := by
  induction size : machine.measure state using Nat.strongRecOn generalizing state with
  | ind size induction =>
      have same := simulates.turn state isGood
      cases turned : machine.turn state with
      | error failure =>
          rw [turned] at same
          rw [drain_of_error turned, drain_of_error same]
          rfl
      | ok ending =>
          rw [turned] at same
          cases progressed : ending.value with
          | false =>
              rw [drain_of_rest turned progressed, drain_of_rest same progressed]
              rfl
          | true =>
              have less := machine.progresses state ending turned progressed
              have later := induction _ (size ▸ less)
                (simulates.good_turn state ending isGood turned) rfl
              rw [drain_of_progress turned progressed, drain_of_progress same progressed]
              have moved : (Ending.relocate view ending).state = view ending.state := rfl
              rw [moved, later]
              cases machine.drain ending.state with
              | error failure => rfl
              | ok last => rfl

theorem drain_good (simulates : machine.Simulates machine' good view) {state : σ}
    {ending : Ending σ ω Unit} (isGood : good state) (drained : machine.drain state = .ok ending) :
    good ending.state := by
  induction size : machine.measure state using Nat.strongRecOn generalizing state ending with
  | ind size induction =>
      cases turned : machine.turn state with
      | error failure =>
          rw [drain_of_error turned] at drained
          cases drained
      | ok turn =>
          have goodThen := simulates.good_turn state turn isGood turned
          cases progressed : turn.value with
          | false =>
              rw [drain_of_rest turned progressed] at drained
              cases drained
              exact goodThen
          | true =>
              have less := machine.progresses state turn turned progressed
              rw [drain_of_progress turned progressed] at drained
              rcases map_eq_ok drained with ⟨last, rest, same⟩
              subst same
              exact @induction _ (size ▸ less) turn.state last goodThen rest rfl

theorem reaches (simulates : machine.Simulates machine' good view) {shown last : σ}
    (reached : machine'.Reaches shown last) {state : σ} (isGood : good state)
    (seen : view state = shown) :
    ∃ last', machine.Reaches state last' ∧ good last' ∧ view last' = last := by
  induction reached generalizing state with
  | here => exact ⟨state, .here state, isGood, seen⟩
  | turn turned progressed later induction =>
      have same := simulates.turn state isGood
      rw [seen, turned] at same
      rcases map_eq_ok same.symm with ⟨ending, turned', equal⟩
      cases equal
      rcases induction (simulates.good_turn state ending isGood turned') rfl with
        ⟨last', reached', facts⟩
      exact ⟨last', .turn turned' progressed reached', facts⟩

theorem always (simulates : machine.Simulates machine' good view) {property property' : σ → Prop}
    (holds : ∀ state, property state → property' (view state)) {state : σ} (isGood : good state)
    (always : machine.Always property state) : machine'.Always property' (view state) := by
  intro last reached
  rcases simulates.reaches reached isGood rfl with ⟨last', reached', -, same⟩
  exact same ▸ holds last' (always last' reached')

end Simulates

/-! ## Reading the log -/

/-- A reader that starts with what the state shows accepts the log of every turn and then has
what the next state shows. -/
structure Readable {ν : Type} (good : σ → Prop) (view : σ → ν) (read : ν → ω → Option ν) :
    Prop where
  push : ∀ state more, good state → good (machine.push state more)
  view_push : ∀ state more, view (machine.push state more) = view state
  turn : ∀ state ending, good state → machine.turn state = .ok ending →
    good ending.state ∧ ending.log.foldlM read (view state) = some (view ending.state)

namespace Readable

variable {machine} {ν : Type} {good : σ → Prop} {view : σ → ν} {read : ν → ω → Option ν}

theorem drain (readable : machine.Readable good view read) {state : σ} {ending : Ending σ ω Unit}
    (isGood : good state) (drained : machine.drain state = .ok ending) :
    good ending.state ∧ ending.log.foldlM read (view state) = some (view ending.state) := by
  induction size : machine.measure state using Nat.strongRecOn generalizing state ending with
  | ind size induction =>
      cases turned : machine.turn state with
      | error failure =>
          rw [drain_of_error turned] at drained
          cases drained
      | ok turn =>
          rcases readable.turn state turn isGood turned with ⟨goodThen, readTurn⟩
          cases progressed : turn.value with
          | false =>
              rw [drain_of_rest turned progressed] at drained
              cases drained
              exact ⟨goodThen, readTurn⟩
          | true =>
              have less := machine.progresses state turn turned progressed
              rw [drain_of_progress turned progressed] at drained
              rcases map_eq_ok drained with ⟨last, rest, same⟩
              subst same
              rcases @induction _ (size ▸ less) turn.state last goodThen rest rfl with
                ⟨goodLast, readRest⟩
              refine ⟨goodLast, ?_⟩
              rw [Ending.after, List.foldlM_append, readTurn]
              exact readRest

theorem feedAll (readable : machine.Readable good view read) (pieces : List (List α)) {state : σ}
    {ending : Ending σ ω Unit} (isGood : good state)
    (fed : machine.feedAll pieces state = .ok ending) :
    good ending.state ∧ ending.log.foldlM read (view state) = some (view ending.state) := by
  induction pieces generalizing state ending with
  | nil =>
      cases fed
      exact ⟨isGood, rfl⟩
  | cons piece pieces induction =>
      rcases bind_eq_ok fed with ⟨middle, last, first, rest, same⟩
      rcases readable.drain (readable.push state piece isGood) first with ⟨goodThen, readFirst⟩
      rcases induction goodThen rest with ⟨goodLast, readRest⟩
      rw [same]
      refine ⟨goodLast, ?_⟩
      rw [readable.view_push] at readFirst
      rw [Ending.after, List.foldlM_append, readFirst]
      exact readRest

end Readable

end Draining

end ExQServe.Emission
