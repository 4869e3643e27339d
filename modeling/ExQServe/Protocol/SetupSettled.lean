import ExQServe.Protocol.SetupRace

/-! # What becomes of a session that setup created

The invariant says for every place at which the calling task is suspended what has
become of the value. A cancellation in the gather is the one way to lose it. -/

namespace ExQServe
namespace SetupRace

variable {ε τ : Type}

def Leaves (state : State ε τ) (leaving : TaskOutcome ε τ) : Prop :=
  if state.handedOff then ∃ value, leaving = .returned value ∧ state.resultTask = some leaving
  else ∀ value, leaving ≠ .returned value

def Cleaned (state : State ε τ) : Prop :=
  ∀ value, state.resultTask = some (.returned value) →
    ∃ outcome, state.cleanups = [(value, some outcome)]

def Stage (actions : List (Action ε τ)) (state : State ε τ) : Phase ε τ → Prop
  | .waiting => state.cleanups = [] ∧ state.handedOff = false ∧
      ¬ CancelsGather actions ∧ ¬ ArrivesFirst actions
  | .gathering leaving => state.cleanups = [] ∧ Leaves state leaving ∧
      (CancelsGather actions ↔ state.cancelling = true)
  | .cleaning leaving => state.handedOff = false ∧ Leaves state leaving ∧
      ¬ CancelsGather actions ∧
      ∃ value outcome, state.resultTask = some (.returned value) ∧
        state.cleanups = [(value, outcome)]
  | .finished result => state.resultTask.isSome ∧
      ((CancelsGather actions ∧ result = .cancelled ∧ state.cleanups = []) ∨
        (¬ CancelsGather actions ∧ Leaves state result ∧
          if state.handedOff then state.cleanups = [] else Cleaned state))

structure Coherent (actions : List (Action ε τ)) (state : State ε τ) : Prop where
  stage : Stage actions state state.phase
  arrival : ArrivesFirst actions → state.handedOff = false

theorem cancelsGather_snoc {actions : List (Action ε τ)} {state : State ε τ}
    (action : Action ε τ) (run : (machine ε τ).Runs actions state) :
    CancelsGather (actions ++ [action]) ↔ CancelsGather actions ∨
      ((∃ leaving, state.phase = .gathering leaving) ∧ action = .cancel) :=
  Machine.passes_snoc run

theorem arrivesFirst_snoc {actions : List (Action ε τ)} {state : State ε τ}
    (action : Action ε τ) (run : (machine ε τ).Runs actions state) :
    ArrivesFirst (actions ++ [action]) ↔ ArrivesFirst actions ∨
      (state.phase = .waiting ∧ state.disconnectTask.isSome ∧ action = .resume) :=
  Machine.passes_snoc run

variable {actions : List (Action ε τ)} {state : State ε τ}

theorem Leaves.of_not_handedOff {leaving : TaskOutcome ε τ} (kept : state.handedOff = false)
    (other : ∀ value, leaving ≠ .returned value) : Leaves state leaving := by
  unfold Leaves
  rw [kept]
  exact other

theorem Leaves.of_handedOff {value : τ} (handed : state.handedOff = true)
    (produced : state.resultTask = some (.returned value)) : Leaves state (.returned value) := by
  unfold Leaves
  rw [handed]
  exact ⟨value, rfl, produced⟩

theorem Leaves.raises {leaving : TaskOutcome ε τ} (leaves : Leaves state leaving)
    (kept : state.handedOff = false) : ∀ value, leaving ≠ .returned value := by
  simpa only [Leaves, kept, Bool.false_eq_true, if_false] using leaves

theorem Leaves.returns {leaving : TaskOutcome ε τ} (leaves : Leaves state leaving)
    (handed : state.handedOff = true) :
    ∃ value, leaving = .returned value ∧ state.resultTask = some leaving := by
  simpa only [Leaves, handed, if_true] using leaves

namespace Coherent

theorem initially : Coherent [] (State.initial : State ε τ) where
  stage := ⟨rfl, rfl, Machine.not_passes_nil, Machine.not_passes_nil⟩
  arrival _ := rfl

/-- The invariant speaks of the actions through these two facts only. -/
theorem congr {more : List (Action ε τ)} (coherent : Coherent actions state)
    (cancels : CancelsGather more ↔ CancelsGather actions)
    (arrives : ArrivesFirst more ↔ ArrivesFirst actions) : Coherent more state where
  stage := by
    have stage := coherent.stage
    generalize state.phase = phase at stage ⊢
    cases phase <;> simpa only [Stage, cancels, arrives] using stage
  arrival := by
    rw [arrives]
    exact coherent.arrival

theorem afterGather (ended : state.resultTask.isSome) (clean : state.cleanups = [])
    (leaving : TaskOutcome ε τ) (leaves : Leaves state leaving) (quiet : ¬ CancelsGather actions)
    (arrival : ArrivesFirst actions → state.handedOff = false) :
    Coherent actions (state.afterGather leaving) := by
  unfold State.afterGather
  split
  · rename_i value kept produced
    refine ⟨⟨kept, leaves, quiet, value, none, produced, ?_⟩, arrival⟩
    simp only [clean, List.nil_append]
  · rename_i unclean
    refine ⟨⟨ended, .inr ⟨quiet, leaves, ?_⟩⟩, arrival⟩
    split
    · exact clean
    · rename_i kept
      intro value produced
      exact absurd produced (unclean value (by simpa using kept))

theorem leave (idle : state.cancelling = false) (clean : state.cleanups = [])
    (leaving : TaskOutcome ε τ) (leaves : Leaves state leaving) (quiet : ¬ CancelsGather actions)
    (arrival : ArrivesFirst actions → state.handedOff = false) :
    Coherent actions (state.leave leaving) := by
  unfold State.leave
  split
  · rename_i ended
    exact afterGather (Bool.and_eq_true_iff.mp ended).1 clean leaving leaves quiet arrival
  · refine ⟨⟨clean, leaves, iff_of_false quiet ?_⟩, arrival⟩
    simp only [idle, Bool.false_eq_true, not_false_eq_true]

/-- The calling task goes on from the wait. -/
theorem afterWait {next : State ε τ} (kept : state.handedOff = false)
    (clean : state.cleanups = []) (quiet : ¬ CancelsGather actions)
    (arrives : ArrivesFirst actions → state.disconnectTask.isSome)
    (taken : state.afterWait = some next) : Coherent actions next := by
  unfold State.afterWait at taken
  split at taken
  · cases taken
    apply Coherent.leave
    · rfl
    · exact clean
    · exact Leaves.of_not_handedOff kept fun _ equal => by cases equal
    · exact quiet
    · exact fun _ => kept
  · rename_i idle
    have idle : state.cancelling = false := by simpa using idle
    split at taken
    · cases taken
      exact leave idle clean .cancelled
        (Leaves.of_not_handedOff kept fun _ equal => by cases equal) quiet fun _ => kept
    · rename_i absent
      split at taken
      · rename_i value produced
        cases taken
        apply Coherent.leave
        · exact idle
        · exact clean
        · exact Leaves.of_handedOff rfl produced
        · exact quiet
        · exact fun arrived => absurd (arrives arrived) absent
      · cases taken
        exact leave idle clean _ (Leaves.of_not_handedOff kept fun _ equal => by cases equal)
          quiet fun _ => kept
      · cases taken
        exact leave idle clean .cancelled
          (Leaves.of_not_handedOff kept fun _ equal => by cases equal) quiet fun _ => kept
      · cases taken

theorem resume {more : List (Action ε τ)} {next : State ε τ} (coherent : Coherent actions state)
    (cancels : CancelsGather more ↔ CancelsGather actions)
    (arrives : ArrivesFirst more ↔ ArrivesFirst actions ∨
      (state.phase = .waiting ∧ state.disconnectTask.isSome))
    (taken : state.resume = some next) : Coherent more next := by
  have stage := coherent.stage
  unfold State.resume at taken
  split at taken
  case h_1 waiting =>
    rw [waiting] at stage
    rcases stage with ⟨clean, kept, quiet, fresh⟩
    refine afterWait kept clean (mt cancels.mp quiet) ?_ taken
    intro arrived
    exact ((arrives.mp arrived).resolve_left fresh).2
  case h_2 leaving gathering =>
    have arrival : ArrivesFirst more → state.handedOff = false := by
      intro arrived
      refine coherent.arrival ((arrives.mp arrived).resolve_right ?_)
      rw [gathering]
      exact fun both => by cases both.1
    rw [gathering] at stage
    rcases stage with ⟨clean, leaves, cancelled⟩
    split at taken
    · rename_i ended
      have ended := (Bool.and_eq_true_iff.mp ended).1
      split at taken
      · rename_i cancelling
        cases taken
        exact ⟨⟨ended, .inl ⟨cancels.mpr (cancelled.mpr cancelling), rfl, clean⟩⟩, arrival⟩
      · rename_i idle
        cases taken
        exact afterGather ended clean leaving leaves
          (mt (fun cancel => cancelled.mp (cancels.mp cancel)) idle) arrival
    · cases taken
  case h_3 leaving cleaning =>
    rw [cleaning] at stage
    rcases stage with ⟨kept, leaves, quiet, value, outcome, produced, started⟩
    have quiet : ¬ CancelsGather more := mt cancels.mp quiet
    split at taken
    · rename_i result ended
      cases taken
      refine ⟨⟨?_, .inr ⟨quiet, ?_, ?_⟩⟩, fun _ => kept⟩
      · rw [produced]
        rfl
      · apply Leaves.of_not_handedOff kept
        cases result with
        | returned _ => exact leaves.raises kept
        | raised _ => exact fun _ equal => by cases equal
        | cancelled => exact fun _ equal => by cases equal
      · rw [if_neg (by simp only [kept, Bool.false_eq_true, not_false_eq_true])]
        intro other same
        have equal : value = other := by simpa [produced] using same
        subst equal
        refine ⟨result, ?_⟩
        rw [State.cleanup, started] at ended
        have ended : outcome = some result := ended
        rw [← ended]
        exact started
    · split at taken
      · cases taken
        refine ⟨?_, fun _ => kept⟩
        rw [show ({ state with cancelling := false } : State ε τ).phase = .cleaning leaving from
          cleaning]
        exact ⟨kept, leaves, quiet, value, outcome, produced, started⟩
      · cases taken
  case h_4 => cases taken

/-- The setup coroutine ends. Nothing was handed off before it had a value. -/
theorem resultEnds {outcome : TaskOutcome ε τ} (coherent : Coherent actions state)
    (running : state.resultTask = none) :
    Coherent actions { state with resultTask := some outcome } where
  stage := by
    have stage := coherent.stage
    show Stage actions _ state.phase
    generalize state.phase = phase at stage ⊢
    have leaves (leaving : TaskOutcome ε τ) (before : Leaves state leaving) :
        Leaves { state with resultTask := some outcome } leaving := by
      cases handed : state.handedOff with
      | false =>
          exact Leaves.of_not_handedOff rfl (before.raises handed)
      | true =>
          rcases before.returns handed with ⟨value, _, produced⟩
          rw [running] at produced
          cases produced
    cases phase with
    | waiting => exact stage
    | gathering leaving => exact ⟨stage.1, leaves leaving stage.2.1, stage.2.2⟩
    | cleaning leaving =>
        rcases stage with ⟨_, _, _, value, _, produced, _⟩
        rw [running] at produced
        cases produced
    | finished result =>
        have ended := stage.1
        rw [running] at ended
        cases ended
  arrival := coherent.arrival

/-- A cleanup that was started ends. -/
theorem cleanupEnds {value : τ} {outcome : TaskOutcome ε Unit} (coherent : Coherent actions state)
    (started : state.cleanups.getLast? = some (value, none)) :
    Coherent actions
      { state with cleanups := state.cleanups.dropLast ++ [(value, some outcome)] } where
  stage := by
    have stage := coherent.stage
    show Stage actions _ state.phase
    generalize state.phase = phase at stage ⊢
    have dirty : state.cleanups ≠ [] := by
      intro clean
      rw [clean] at started
      cases started
    cases phase with
    | waiting => exact absurd stage.1 dirty
    | gathering leaving => exact absurd stage.1 dirty
    | cleaning leaving =>
        rcases stage with ⟨kept, leaves, quiet, other, ended, produced, only⟩
        refine ⟨kept, leaves, quiet, value, some outcome, ?_, ?_⟩
        · rw [only] at started
          cases started
          exact produced
        · rw [only]
          rfl
    | finished result =>
        rcases stage with ⟨ended, lost | kept⟩
        · exact absurd lost.2.2 dirty
        · refine ⟨ended, .inr ⟨kept.1, kept.2.1, ?_⟩⟩
          have clean := kept.2.2
          split at clean
          · exact absurd clean dirty
          · rename_i free
            rw [if_neg free]
            intro other produced
            rcases clean other produced with ⟨result, only⟩
            rw [only] at started
            cases started
  arrival := coherent.arrival

theorem disconnectEnds {outcome : TaskOutcome ε Unit} (coherent : Coherent actions state) :
    Coherent actions { state with disconnectTask := some outcome } where
  stage := by
    have stage := coherent.stage
    show Stage actions _ state.phase
    generalize state.phase = phase at stage ⊢
    cases phase <;> exact stage
  arrival := coherent.arrival

/-- A cancellation is recorded; the gather will raise it. -/
theorem cancel {more : List (Action ε τ)} (coherent : Coherent actions state)
    (unfinished : ∀ result, state.phase ≠ .finished result)
    (cancels : CancelsGather more ↔
      CancelsGather actions ∨ ∃ leaving, state.phase = .gathering leaving)
    (arrives : ArrivesFirst more ↔ ArrivesFirst actions) :
    Coherent more { state with cancelling := true } where
  stage := by
    have stage := coherent.stage
    show Stage more _ state.phase
    generalize state.phase = phase at stage unfinished cancels ⊢
    cases phase with
    | waiting =>
        have same : CancelsGather more ↔ CancelsGather actions := by simpa using cancels
        rcases stage with ⟨clean, kept, quiet, fresh⟩
        exact ⟨clean, kept, mt same.mp quiet, mt arrives.mp fresh⟩
    | gathering leaving =>
        exact ⟨stage.1, stage.2.1, iff_of_true (cancels.mpr (.inr ⟨leaving, rfl⟩)) rfl⟩
    | cleaning leaving =>
        have same : CancelsGather more ↔ CancelsGather actions := by simpa using cancels
        rcases stage with ⟨kept, leaves, quiet, cleaned⟩
        exact ⟨kept, leaves, mt same.mp quiet, cleaned⟩
    | finished result => exact absurd rfl (unfinished result)
  arrival arrived := coherent.arrival (arrives.mp arrived)

theorem step {action : Action ε τ} {next : State ε τ} (run : (machine ε τ).Runs actions state)
    (coherent : Coherent actions state) (taken : state.step action = some next) :
    Coherent (actions ++ [action]) next := by
  have cancels := cancelsGather_snoc action run
  have arrives := arrivesFirst_snoc action run
  cases action with
  | resultEnds outcome =>
      simp only [State.step] at taken
      split at taken
      · rename_i running
        cases taken
        exact (coherent.resultEnds running).congr (by simpa using cancels) (by simpa using arrives)
      · cases taken
  | disconnectEnds outcome =>
      simp only [State.step] at taken
      split at taken
      · cases taken
        exact coherent.disconnectEnds.congr (by simpa using cancels) (by simpa using arrives)
      · cases taken
  | cleanupEnds outcome =>
      simp only [State.step] at taken
      split at taken
      · rename_i value started
        cases taken
        exact (coherent.cleanupEnds started).congr (by simpa using cancels) (by simpa using arrives)
      · cases taken
  | cancel =>
      simp only [State.step] at taken
      split at taken
      · cases taken
      · rename_i unfinished
        cases taken
        exact coherent.cancel unfinished (by simpa using cancels) (by simpa using arrives)
  | resume => exact coherent.resume (by simpa using cancels) (by simpa using arrives) taken

theorem of_run (run : (machine ε τ).Runs actions state) : Coherent actions state :=
  run.invariant initially fun _ _ _ _ earlier coherent taken => coherent.step earlier taken

end Coherent

/-! ## What becomes of the value -/

theorem Coherent.settled_iff (coherent : Coherent actions state) {result : TaskOutcome ε τ}
    (finished : state.phase = .finished result) :
    Settled state ↔ ¬ Produced state ∨ ¬ CancelsGather actions := by
  have stage := coherent.stage
  rw [finished] at stage
  rcases stage with ⟨_, lost | kept⟩
  · rcases lost with ⟨cancels, raised, clean⟩
    constructor
    · intro settled
      refine .inl fun produced => ?_
      rcases produced with ⟨value, produced⟩
      rcases settled value produced result finished with handed | cleaned
      · rw [raised] at handed
        cases handed.1
      · rcases cleaned.2 with ⟨outcome, once⟩
        rw [clean] at once
        cases once
    · intro either value produced
      exact absurd (either.resolve_right (not_not_intro cancels)) (not_not_intro ⟨value, produced⟩)
  · rcases kept with ⟨quiet, leaves, cleaned⟩
    refine iff_of_true ?_ (.inr quiet)
    intro value produced other same
    have equal : result = other := Phase.finished.inj (finished.symm.trans same)
    subst equal
    cases handed : state.handedOff with
    | true =>
        rcases leaves.returns handed with ⟨given, returned, task⟩
        rw [if_pos handed] at cleaned
        rw [produced] at task
        exact .inl ⟨(Option.some.inj task).symm, cleaned⟩
    | false =>
        rw [if_neg (by simp only [handed, Bool.false_eq_true, not_false_eq_true])] at cleaned
        exact .inr ⟨leaves.raises handed, cleaned value produced⟩

theorem Coherent.exclusive (coherent : Coherent actions state) : Exclusive state := by
  intro value finished
  have stage := coherent.stage
  rw [finished] at stage
  rcases stage with ⟨_, lost | kept⟩
  · exact lost.2.2
  · rcases kept with ⟨_, leaves, cleaned⟩
    cases handed : state.handedOff with
    | true => simpa only [handed, if_true] using cleaned
    | false => exact absurd rfl (leaves.raises handed value)

theorem Coherent.alive (coherent : Coherent actions state) : Alive state := by
  have stage := coherent.stage
  unfold Alive
  cases place : state.phase with
  | finished result => exact .inl ⟨result, rfl⟩
  | waiting =>
      refine .inr ?_
      simp only [State.resume, place, State.afterWait]
      cases ended : state.resultTask with
      | none => exact .inr (.inl rfl)
      | some outcome => cases outcome <;> exact .inl (by split_ifs <;> rfl)
  | gathering leaving =>
      refine .inr ?_
      simp only [State.resume, place]
      cases ended : state.resultTask with
      | none => exact .inr (.inl rfl)
      | some outcome =>
          cases gone : state.disconnectTask with
          | none => exact .inr (.inr (.inl rfl))
          | some _ =>
              refine .inl ?_
              simp only [Option.isSome_some, Bool.and_self, if_true]
              split_ifs <;> rfl
  | cleaning leaving =>
      rw [place] at stage
      rcases stage with ⟨_, _, _, value, outcome, _, started⟩
      refine .inr ?_
      cases outcome with
      | none => exact .inr (.inr (.inr ⟨value, by rw [started]; rfl⟩))
      | some ended =>
          refine .inl ?_
          simp only [State.resume, place, State.cleanup, started, List.getLast?_singleton,
            Option.bind_some, Option.isSome_some]

/-- A finished race has settled what the setup produced, unless a cancellation arrived
while it gathered its tasks. In no state is a value returned beside a cleanup, and a
disconnect that had arrived at the end of the wait keeps the value from being handed
off. Only an unfinished task holds the race up. -/
theorem setup_settled_iff (run : (machine ε τ).Runs actions state) :
    (∀ result, state.phase = .finished result →
      (Settled state ↔ ¬ Produced state ∨ ¬ CancelsGather actions)) ∧
    Exclusive state ∧ (ArrivesFirst actions → state.handedOff = false ∧
      ∀ value, state.phase ≠ .finished (.returned value)) ∧ Alive state := by
  have coherent := Coherent.of_run run
  refine ⟨fun _ finished => coherent.settled_iff finished, coherent.exclusive, ?_, coherent.alive⟩
  intro arrived
  refine ⟨coherent.arrival arrived, ?_⟩
  intro value finished
  have stage := coherent.stage
  rw [finished] at stage
  rcases stage with ⟨_, lost | kept⟩
  · cases lost.2.1
  · exact kept.2.1.raises (coherent.arrival arrived) value rfl

/-- The client stays, the session is handed off, and one cancellation arrives while the
disconnect task is being cancelled. -/
def cancelledHandOff : List (Action Unit Nat) :=
  [.resultEnds (.returned 7), .resume, .cancel, .disconnectEnds .cancelled, .resume]

def orphaned : State Unit Nat :=
  { resultTask := some (.returned 7)
    disconnectTask := some .cancelled
    cleanups := []
    handedOff := true
    cancelling := false
    phase := .finished .cancelled }

theorem handed_off_session_lost : ¬ Settled orphaned := by
  intro settled
  rcases settled 7 rfl .cancelled rfl with returned | cleaned
  · cases returned.1
  · rcases cleaned.2 with ⟨_, once⟩
    cases once

theorem handed_off_session_orphaned :
    (machine Unit Nat).Runs cancelledHandOff orphaned ∧ ¬ Settled orphaned :=
  ⟨rfl, handed_off_session_lost⟩

/-- The client leaves first, the setup ends nevertheless, and a cancellation arrives while its
value is cleaned up. -/
def leftInTime : List (Action Unit Nat) :=
  [.disconnectEnds (.returned ()), .resume, .resultEnds (.returned 7), .resume, .cancel, .resume,
    .cleanupEnds (.returned ()), .resume]

def cleaned : State Unit Nat :=
  { resultTask := some (.returned 7)
    disconnectTask := some (.returned ())
    cleanups := [(7, some (.returned ()))]
    handedOff := false
    cancelling := false
    phase := .finished .cancelled }

/-- The only cancellation arrives in the cleanup. -/
theorem leftInTime_quiet : ¬CancelsGather leftInTime := by
  rintro ⟨before, action, after, state, split, run, ⟨leaving, gathering⟩, rfl⟩
  rcases before with - | ⟨_, - | ⟨_, - | ⟨_, - | ⟨_, - | ⟨_, before⟩⟩⟩⟩⟩
  · cases split
  · cases split
  · cases split
  · cases split
  · cases split
    cases run
    cases gathering
  · rcases before with - | ⟨_, - | ⟨_, - | ⟨_, before⟩⟩⟩
    · cases split
    · cases split
    · cases split
    · simp [leftInTime] at split

theorem setup_settled_iff_cleaned :
    ¬Settled orphaned ∧ CancelsGather cancelledHandOff ∧ Settled cleaned ∧ Exclusive cleaned := by
  have lost : (machine Unit Nat).Runs cancelledHandOff orphaned := rfl
  have left : (machine Unit Nat).Runs leftInTime cleaned := rfl
  have settles := (setup_settled_iff left).1 .cancelled rfl
  have orphans := (setup_settled_iff lost).1 .cancelled rfl
  have unsettled : ¬Settled orphaned := handed_off_session_lost
  refine ⟨unsettled, ?_, settles.mpr (.inr leftInTime_quiet), (setup_settled_iff left).2.1⟩
  by_contra quiet
  exact unsettled (orphans.mpr (.inr quiet))

end SetupRace
end ExQServe
