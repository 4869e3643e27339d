import Mathlib

/-! # Procedures that write a log

A procedure reads and changes a state, may fail, and writes a log that no
procedure reads. The second part reasons about such procedures with an account:
a relation between the input a procedure took, the states around it and the log
it wrote, closed under running one procedure after another. The last part
compares logs up to the merging of neighbouring entries. -/

namespace ExQServe.Emission

variable {ε σ ω α β χ : Type}

theorem map_eq_ok {result : Except ε α} {next : α → β} {value : β}
    (mapped : result.map next = .ok value) : ∃ found, result = .ok found ∧ next found = value := by
  cases result with
  | error failure => cases mapped
  | ok found => exact ⟨found, rfl, Except.ok.inj mapped⟩

structure Ending (σ ω α : Type) where
  value : α
  state : σ
  log : List ω

namespace Ending

/-- The same ending after an earlier log. -/
def after (log : List ω) (ending : Ending σ ω α) : Ending σ ω α :=
  ⟨ending.value, ending.state, log ++ ending.log⟩

theorem map_after_after (first second : List ω) (run : Except ε (Ending σ ω α)) :
    (run.map (after second)).map (after first) = run.map (after (first ++ second)) := by
  cases run with
  | error failure => rfl
  | ok ending => simp only [Except.map, after, List.append_assoc]

theorem map_after_nil (run : Except ε (Ending σ ω α)) : run.map (after []) = run := by
  cases run <;> rfl

/-- The same ending in another state. -/
def relocate (change : σ → σ) (ending : Ending σ ω α) : Ending σ ω α :=
  ⟨ending.value, change ending.state, ending.log⟩

end Ending

def Emitting (ε σ ω α : Type) : Type := σ → Except ε (Ending σ ω α)

namespace Emitting

def done (value : α) : Emitting ε σ ω α := fun state => .ok ⟨value, state, []⟩

def andThen (first : Emitting ε σ ω α) (second : α → Emitting ε σ ω β) :
    Emitting ε σ ω β := fun state =>
  match first state with
  | .error failure => .error failure
  | .ok middle =>
      match second middle.value middle.state with
      | .error failure => .error failure
      | .ok last => .ok ⟨last.value, last.state, middle.log ++ last.log⟩

instance : Monad (Emitting ε σ ω) where
  pure := done
  bind := andThen

/-- The state, or a view of it. -/
def read (view : σ → α) : Emitting ε σ ω α := fun state => .ok ⟨view state, state, []⟩

def change (update : σ → σ) : Emitting ε σ ω Unit := fun state =>
  .ok ⟨(), update state, []⟩

def write (entry : ω) : Emitting ε σ ω Unit := fun state => .ok ⟨(), state, [entry]⟩

def fail (failure : ε) : Emitting ε σ ω α := fun _ => .error failure

/-- A step on a part of the state that writes nothing. -/
def within (view : σ → β) (update : β → σ → σ) (part : β → Except ε (α × β)) :
    Emitting ε σ ω α := fun state =>
  match part (view state) with
  | .error failure => .error failure
  | .ok (value, next) => .ok ⟨value, update next state, []⟩

/-- Repeat a step while it makes progress, at most `fuel` times. -/
def repeatUpTo (exhausted : ε) (step : Emitting ε σ ω Bool) : Nat → Emitting ε σ ω Unit
  | 0 => fail exhausted
  | fuel + 1 => do
      let progressed ← step
      if progressed then repeatUpTo exhausted step fuel else pure ()

/-- Repeat a step while it makes progress. The measure bounds the turns; where
progress decreases it the bound is never met. -/
def repeatWhile (exhausted : ε) (measure : σ → Nat) (step : Emitting ε σ ω Bool) :
    Emitting ε σ ω Unit := fun state =>
  repeatUpTo exhausted step (measure state + 1) state

@[simp] theorem read_run (view : σ → α) (state : σ) :
    (read view : Emitting ε σ ω α) state = .ok ⟨view state, state, []⟩ := rfl

@[simp] theorem change_run (update : σ → σ) (state : σ) :
    (change update : Emitting ε σ ω Unit) state = .ok ⟨(), update state, []⟩ := rfl

@[simp] theorem write_run (entry : ω) (state : σ) :
    (write entry : Emitting ε σ ω Unit) state = .ok ⟨(), state, [entry]⟩ := rfl

@[simp] theorem fail_run (failure : ε) (state : σ) :
    (fail failure : Emitting ε σ ω α) state = .error failure := rfl

@[simp] theorem pure_run (value : α) (state : σ) :
    (pure value : Emitting ε σ ω α) state = .ok ⟨value, state, []⟩ := rfl

theorem bind_run (first : Emitting ε σ ω α) (second : α → Emitting ε σ ω β) (state : σ) :
    (first >>= second) state = andThen first second state := rfl

theorem bind_run_error {first : Emitting ε σ ω α} {second : α → Emitting ε σ ω β}
    {state : σ} {failure : ε} (failed : first state = .error failure) :
    (first >>= second) state = .error failure := by
  rw [bind_run, andThen, failed]

theorem bind_run_ok {first : Emitting ε σ ω α} {second : α → Emitting ε σ ω β}
    {state : σ} {middle : Ending σ ω α} (ended : first state = .ok middle) :
    (first >>= second) state =
      (second middle.value middle.state).map (Ending.after middle.log) := by
  rw [bind_run, andThen, ended]
  dsimp only
  cases second middle.value middle.state <;> rfl

/-- A first part that writes nothing. -/
theorem silent_bind {first : Emitting ε σ ω α} {second : α → Emitting ε σ ω β}
    {state next : σ} {value : α} (ended : first state = .ok ⟨value, next, []⟩) :
    (first >>= second) state = second value next := by
  rw [bind_run_ok ended]
  cases second value next <;> rfl

theorem read_bind (view : σ → α) (next : α → Emitting ε σ ω β) (state : σ) :
    (read view >>= next) state = next (view state) state := silent_bind rfl

theorem change_bind (update : σ → σ) (next : Unit → Emitting ε σ ω β) (state : σ) :
    (change update >>= next) state = next () (update state) := silent_bind rfl

/-- A composite that ended: both parts did, one after the other. -/
theorem bind_eq_ok {first : Emitting ε σ ω α} {second : α → Emitting ε σ ω β}
    {state : σ} {ending : Ending σ ω β} (ended : (first >>= second) state = .ok ending) :
    ∃ middle last, first state = .ok middle ∧
      second middle.value middle.state = .ok last ∧
      ending = last.after middle.log := by
  cases firstRun : first state with
  | error failure => rw [bind_run_error firstRun] at ended; cases ended
  | ok middle =>
      rw [bind_run_ok firstRun] at ended
      cases secondRun : second middle.value middle.state with
      | error failure => rw [secondRun] at ended; cases ended
      | ok last =>
          rw [secondRun] at ended
          cases ended
          exact ⟨middle, last, rfl, secondRun, rfl⟩

theorem andThen_done (procedure : Emitting ε σ ω α) : andThen procedure done = procedure := by
  funext state
  unfold andThen done
  cases procedure state with
  | error failure => rfl
  | ok ending => simp only [List.append_nil]

theorem done_andThen (value : α) (next : α → Emitting ε σ ω β) :
    andThen (done value) next = next value := by
  funext state
  unfold andThen done
  dsimp only
  cases next value state with
  | error failure => rfl
  | ok ending => simp only [List.nil_append]

theorem andThen_assoc (first : Emitting ε σ ω α) (second : α → Emitting ε σ ω β)
    (third : β → Emitting ε σ ω χ) :
    andThen (andThen first second) third =
      andThen first fun value => andThen (second value) third := by
  funext state
  unfold andThen
  cases first state with
  | error failure => rfl
  | ok middle =>
      dsimp only
      cases second middle.value middle.state with
      | error failure => rfl
      | ok next =>
          dsimp only
          cases third next.value next.state with
          | error failure => rfl
          | ok last => simp only [List.append_assoc]

instance : LawfulMonad (Emitting ε σ ω) :=
  LawfulMonad.mk' _ andThen_done done_andThen andThen_assoc

end Emitting

/-! ## Loops -/

/-- Progress decreases the measure. -/
def Progresses (measure : σ → Nat) (step : Emitting ε σ ω Bool) : Prop :=
  ∀ state ending, step state = .ok ending → ending.value = true →
    measure ending.state < measure state

section Loops

open Emitting

variable {exhausted : ε} {measure : σ → Nat} {step : Emitting ε σ ω Bool}

theorem repeatUpTo_eq_repeatUpTo (progresses : Progresses measure step) :
    ∀ (left right : Nat) (state : σ), measure state < left → measure state < right →
      repeatUpTo exhausted step left state = repeatUpTo exhausted step right state
  | left + 1, right + 1, state, leftEnough, rightEnough => by
      unfold repeatUpTo
      cases stepped : step state with
      | error failure => rw [bind_run_error stepped, bind_run_error stepped]
      | ok ending =>
          rw [bind_run_ok stepped, bind_run_ok stepped]
          cases progressed : ending.value with
          | false => rfl
          | true =>
              have less := progresses state ending stepped progressed
              have same := repeatUpTo_eq_repeatUpTo progresses left right ending.state
                (by omega) (by omega)
              simp only [if_true, same]

/-- The loop's own equation, free of its bound. -/
theorem repeatWhile_eq (progresses : Progresses measure step) :
    repeatWhile exhausted measure step = (do
      let progressed ← step
      if progressed then repeatWhile exhausted measure step else pure ()) := by
  funext state
  show repeatUpTo exhausted step (measure state + 1) state = _
  rw [repeatUpTo]
  cases stepped : step state with
  | error failure => rw [bind_run_error stepped, bind_run_error stepped]
  | ok ending =>
      rw [bind_run_ok stepped, bind_run_ok stepped]
      cases progressed : ending.value with
      | false => rfl
      | true =>
          have less := progresses state ending stepped progressed
          have same : repeatUpTo exhausted step (measure state) ending.state =
              repeatWhile exhausted measure step ending.state :=
            repeatUpTo_eq_repeatUpTo progresses _ _ ending.state (by omega) (by omega)
          simp only [if_true, same]

theorem repeatWhile_of_progress (progresses : Progresses measure step) {state : σ}
    {ending : Ending σ ω Bool} (stepped : step state = .ok ending)
    (progressed : ending.value = true) :
    repeatWhile exhausted measure step state =
      (repeatWhile exhausted measure step ending.state).map (Ending.after ending.log) := by
  rw [congrFun (repeatWhile_eq progresses) state, bind_run_ok stepped, if_pos progressed]

theorem repeatWhile_of_rest (progresses : Progresses measure step) {state : σ}
    {ending : Ending σ ω Bool} (stepped : step state = .ok ending)
    (rests : ending.value = false) :
    repeatWhile exhausted measure step state = .ok ⟨(), ending.state, ending.log⟩ := by
  rw [congrFun (repeatWhile_eq progresses) state, bind_run_ok stepped, rests,
    if_neg Bool.false_ne_true, pure_run]
  simp only [Except.map, Ending.after, List.append_nil]

theorem repeatWhile_of_error (progresses : Progresses measure step) {state : σ} {failure : ε}
    (stepped : step state = .error failure) :
    repeatWhile exhausted measure step state = .error failure := by
  rw [congrFun (repeatWhile_eq progresses) state, bind_run_error stepped]

theorem repeatWhile_congr (progresses : Progresses measure step) {state state' : σ}
    (same : step state = step state') :
    repeatWhile exhausted measure step state = repeatWhile exhausted measure step state' := by
  rw [congrFun (repeatWhile_eq progresses) state, congrFun (repeatWhile_eq progresses) state',
    bind_run, bind_run, andThen, andThen, same]

/-- What every turn with progress keeps, and the turn without progress turns into `after`. -/
theorem repeatWhile_ends (progresses : Progresses measure step) {before after : σ → Prop}
    (turn : ∀ {state ending}, before state → step state = .ok ending →
      if ending.value then before ending.state else after ending.state)
    {state : σ} {ending : Ending σ ω Unit} (holds : before state)
    (ended : repeatWhile exhausted measure step state = .ok ending) : after ending.state := by
  induction size : measure state using Nat.strongRecOn generalizing state ending with
  | ind size induction =>
      cases stepped : step state with
      | error failure =>
          rw [repeatWhile_of_error progresses stepped] at ended
          cases ended
      | ok middle =>
          have reached := turn holds stepped
          cases progressed : middle.value with
          | false =>
              rw [repeatWhile_of_rest progresses stepped progressed] at ended
              rw [progressed] at reached
              cases ended
              exact reached
          | true =>
              rw [repeatWhile_of_progress progresses stepped progressed] at ended
              rw [progressed] at reached
              rcases map_eq_ok ended with ⟨last, lastEnded, rfl⟩
              have less := progresses state middle stepped progressed
              have rested : after last.state := induction _ (size ▸ less) reached lastEnded rfl
              exact rested

end Loops

/-! ## Frames -/

/-- A procedure does not see whether a change was made before it or is made after it. -/
def Commutes (change : σ → σ) (procedure : Emitting ε σ ω α) : Prop :=
  ∀ state, procedure (change state) = (procedure state).map (Ending.relocate change)

section Commutes

open Emitting

variable {change : σ → σ}

theorem Commutes.pure (value : α) :
    Commutes change (Pure.pure value : Emitting ε σ ω α) := fun _ => rfl

theorem Commutes.fail (failure : ε) :
    Commutes change (Emitting.fail failure : Emitting ε σ ω α) := fun _ => rfl

theorem Commutes.write (entry : ω) :
    Commutes change (Emitting.write entry : Emitting ε σ ω Unit) := fun _ => rfl

theorem Commutes.update {update : σ → σ}
    (swap : ∀ state, update (change state) = change (update state)) :
    Commutes change (Emitting.change update : Emitting ε σ ω Unit) := by
  intro state
  show Except.ok _ = Except.ok _
  rw [swap]
  rfl

theorem Commutes.bind {first : Emitting ε σ ω α} {next : α → Emitting ε σ ω β}
    (firstCommutes : Commutes change first) (nextCommutes : ∀ value, Commutes change (next value)) :
    Commutes change (first >>= next) := by
  intro state
  have swapped := firstCommutes state
  cases run : first state with
  | error failure =>
      rw [run] at swapped
      rw [bind_run_error run, bind_run_error swapped]
      rfl
  | ok middle =>
      rw [run] at swapped
      rw [bind_run_ok run, bind_run_ok swapped]
      have swapped' := nextCommutes middle.value middle.state
      show Except.map _ (next middle.value (change middle.state)) = _
      rw [swapped']
      cases next middle.value middle.state <;> rfl

/-- A procedure that starts by reading what the change does not touch. -/
theorem Commutes.read {view : σ → β} {next : β → Emitting ε σ ω α}
    (reads : ∀ state, next (view (change state)) = next (view state))
    (nextCommutes : ∀ value, Commutes change (next value)) :
    Commutes change (Emitting.read view >>= next) := by
  intro state
  show Emitting.andThen _ _ _ = Except.map _ (Emitting.andThen _ _ _)
  unfold Emitting.andThen Emitting.read
  dsimp only
  rw [reads, nextCommutes (view state) state]
  cases next (view state) state <;> rfl

end Commutes

/-! ## Merging neighbours -/

/-- A partial, associative way to join two neighbouring entries into one. -/
structure Joining (ω : Type) where
  join : ω → ω → Option ω
  assoc : ∀ first second third,
    (join first second).bind (join · third) = (join second third).bind (join first)
  chain : ∀ first second third, (join first second).isSome → (join second third).isSome →
    ((join first second).bind (join · third)).isSome

namespace Joining

section Pieces

variable {κ : Type} [DecidableEq κ] (piece : ω → Option (κ × List χ)) (whole : κ → List χ → ω)

def joinPieces (first second : ω) : Option ω :=
  (piece first).bind fun left => (piece second).bind fun right =>
    if left.1 = right.1 then some (whole left.1 (left.2 ++ right.2)) else none

/-- Some entries are pieces of a kind, and pieces of one kind join. -/
def ofPieces (piece_whole : ∀ kind content, piece (whole kind content) = some (kind, content)) :
    Joining ω where
  join := joinPieces piece whole
  assoc first second third := by
    unfold joinPieces
    cases piece first with
    | none => cases piece second <;> simp
    | some left =>
        cases piece second with
        | none => simp
        | some middle =>
            cases piece third with
            | none => simp
            | some right =>
                by_cases same : left.1 = middle.1 <;> by_cases same' : middle.1 = right.1 <;>
                  simp_all
  chain first second third := by
    unfold joinPieces
    cases piece first with
    | none => simp
    | some left =>
        cases piece second with
        | none => simp
        | some middle =>
            cases piece third with
            | none => simp
            | some right =>
                by_cases same : left.1 = middle.1 <;> by_cases same' : middle.1 = right.1 <;>
                  simp_all

end Pieces

variable (joining : Joining ω)

def cons (entry : ω) : List ω → List ω
  | [] => [entry]
  | next :: rest =>
      match joining.join entry next with
      | some joined => joined :: rest
      | none => entry :: next :: rest

/-- Join neighbours as long as there are two that join. -/
def merge (log : List ω) : List ω := log.foldr joining.cons []

@[simp] theorem merge_nil : joining.merge [] = [] := rfl

@[simp] theorem merge_cons (entry : ω) (log : List ω) :
    joining.merge (entry :: log) = joining.cons entry (joining.merge log) := rfl

theorem cons_cons_of_join {first second joined : ω}
    (joins : joining.join first second = some joined) (log : List ω) :
    joining.cons first (joining.cons second log) = joining.cons joined log := by
  cases log with
  | nil => simp only [cons, joins]
  | cons next rest =>
      have assoc := joining.assoc first second next
      rw [joins, Option.bind_some] at assoc
      cases after : joining.join second next with
      | none =>
          rw [after, Option.bind_none] at assoc
          simp only [cons, after, joins, assoc]
      | some late =>
          have chain := joining.chain first second next (by rw [joins]; rfl)
            (by rw [after]; rfl)
          rw [joins, Option.bind_some] at chain
          rw [after, Option.bind_some] at assoc
          rcases Option.isSome_iff_exists.mp chain with ⟨whole, joinsWhole⟩
          simp only [cons, after, ← assoc, joinsWhole]

theorem foldr_cons_merge (log tail : List ω) :
    (joining.merge log).foldr joining.cons tail = log.foldr joining.cons tail := by
  induction log with
  | nil => rfl
  | cons entry log induction =>
      rw [merge_cons, List.foldr_cons, ← induction]
      cases joining.merge log with
      | nil => rfl
      | cons next rest =>
          rw [cons]
          cases joins : joining.join entry next with
          | none => rfl
          | some joined =>
              rw [List.foldr_cons, List.foldr_cons]
              exact (joining.cons_cons_of_join joins _).symm

theorem merge_append_congr {first first' second second' : List ω}
    (same : joining.merge first = joining.merge first')
    (same' : joining.merge second = joining.merge second') :
    joining.merge (first ++ second) = joining.merge (first' ++ second') := by
  calc joining.merge (first ++ second)
      = first.foldr joining.cons (joining.merge second) := List.foldr_append
    _ = (joining.merge first).foldr joining.cons (joining.merge second) :=
        (joining.foldr_cons_merge first _).symm
    _ = (joining.merge first').foldr joining.cons (joining.merge second') := by
        rw [same, same']
    _ = first'.foldr joining.cons (joining.merge second') :=
        joining.foldr_cons_merge first' _
    _ = joining.merge (first' ++ second') := List.foldr_append.symm

/-- Merging first does not matter to what is merged again after some entries, or
parts of them, were left out. -/
theorem merge_filterMap {ω' : Type} (joining' : Joining ω') (view : ω → Option ω')
    (views : ∀ first second joined, joining.join first second = some joined →
      ∃ first' second' joined', view first = some first' ∧ view second = some second' ∧
        view joined = some joined' ∧ joining'.join first' second' = some joined')
    (log : List ω) :
    joining'.merge ((joining.merge log).filterMap view) =
      joining'.merge (log.filterMap view) := by
  have step : ∀ entry tail, joining'.merge ((joining.cons entry tail).filterMap view) =
      joining'.merge ((entry :: tail).filterMap view) := by
    intro entry tail
    cases tail with
    | nil => rfl
    | cons next rest =>
        rw [cons]
        cases joins : joining.join entry next with
        | none => rfl
        | some joined =>
            rcases views entry next joined joins with
              ⟨entry', next', joined', viewEntry, viewNext, viewJoined, joins'⟩
            simp only [List.filterMap_cons, viewEntry, viewNext, viewJoined, merge_cons]
            exact (joining'.cons_cons_of_join joins' _).symm
  induction log with
  | nil => rfl
  | cons entry log induction =>
      rw [merge_cons, step]
      cases viewEntry : view entry with
      | none => simpa only [List.filterMap_cons, viewEntry] using induction
      | some entry' =>
          simp only [List.filterMap_cons, viewEntry, merge_cons]
          rw [induction]

theorem cons_append_apart {entry : ω} {log second : List ω}
    (apart : ∀ next ∈ second, joining.join entry next = none) :
    joining.cons entry (log ++ second) = joining.cons entry log ++ second := by
  cases log with
  | nil =>
      cases second with
      | nil => rfl
      | cons next second =>
          have alone := apart next List.mem_cons_self
          simp only [List.nil_append, cons, alone, List.cons_append]
  | cons next rest =>
      rw [List.cons_append, cons, cons]
      cases joining.join entry next with
      | none => rfl
      | some joined => rfl

/-- Entries that join with nothing stay behind what is merged. -/
theorem merge_append_apart (first : List ω) {second : List ω}
    (apart : ∀ entry ∈ second, ∀ other, joining.join entry other = none ∧
      joining.join other entry = none) :
    joining.merge (first ++ second) = joining.merge first ++ second := by
  have alone : joining.merge second = second := by
    induction second with
    | nil => rfl
    | cons entry second induction =>
        have later := induction fun other member => apart other (List.mem_cons_of_mem _ member)
        have front := @cons_append_apart ω joining entry [] second fun next _ =>
          (apart entry List.mem_cons_self next).1
        rw [merge_cons, later]
        exact front
  induction first with
  | nil => exact alone
  | cons entry first induction =>
      rw [List.cons_append, merge_cons, merge_cons, induction]
      exact joining.cons_append_apart fun next member => (apart next member entry).2

theorem merge_join {first second joined : ω}
    (joins : joining.join first second = some joined) :
    joining.merge [first, second] = joining.merge [joined] := by
  simp only [merge_cons, merge_nil]
  exact joining.cons_cons_of_join joins []

end Joining

/-- Two runs that cannot be told apart once the neighbours in their logs are
joined. -/
def Alike (joining : Joining ω) (left right : Except ε (Ending σ ω α)) : Prop :=
  match left, right with
  | .error failure, .error failure' => failure = failure'
  | .ok ending, .ok ending' =>
      ending.value = ending'.value ∧ ending.state = ending'.state ∧
        joining.merge ending.log = joining.merge ending'.log
  | _, _ => False

section Alike

variable {joining : Joining ω} {left middle right : Except ε (Ending σ ω α)}

theorem Alike.refl (run : Except ε (Ending σ ω α)) : Alike joining run run := by
  cases run with
  | error failure => exact rfl
  | ok ending => exact ⟨rfl, rfl, rfl⟩

theorem Alike.of_eq (same : left = right) : Alike joining left right := same ▸ .refl left

theorem Alike.symm (alike : Alike joining left right) : Alike joining right left := by
  cases left <;> cases right
  · exact Eq.symm alike
  · exact alike
  · exact alike
  · exact ⟨alike.1.symm, alike.2.1.symm, alike.2.2.symm⟩

/-- Going on from an earlier log. -/
theorem Alike.after (alike : Alike joining left right) {log log' : List ω}
    (same : joining.merge log = joining.merge log') :
    Alike joining (left.map (Ending.after log)) (right.map (Ending.after log')) := by
  match left, right, alike with
  | .error _, .error _, alike => exact alike
  | .ok _, .ok _, alike =>
      exact ⟨alike.1, alike.2.1, joining.merge_append_congr same alike.2.2⟩

theorem Alike.trans (first : Alike joining left middle)
    (second : Alike joining middle right) : Alike joining left right := by
  match left, middle, right, first, second with
  | .error _, .error _, .error _, first, second => exact Eq.trans first second
  | .ok _, .ok _, .ok _, first, second =>
      exact ⟨first.1.trans second.1, first.2.1.trans second.2.1,
        first.2.2.trans second.2.2⟩

/-- Going on in the same way from runs that are alike. -/
theorem Alike.bind {first first' : Emitting ε σ ω α} {next next' : α → Emitting ε σ ω β}
    {state state' : σ} (alike : Alike joining (first state) (first' state'))
    (go : ∀ value reached, (∃ log, first state = .ok ⟨value, reached, log⟩) →
      Alike joining (next value reached) (next' value reached)) :
    Alike joining ((first >>= next) state) ((first' >>= next') state') := by
  cases run : first state with
  | error failure =>
      cases run' : first' state' with
      | error failure' =>
          rw [run, run'] at alike
          rw [Emitting.bind_run_error run, Emitting.bind_run_error run']
          exact alike
      | ok ending => rw [run, run'] at alike; cases alike
  | ok ending =>
      cases run' : first' state' with
      | error failure' => rw [run, run'] at alike; cases alike
      | ok ending' =>
          rw [run, run'] at alike
          rcases ending with ⟨value, reached, log⟩
          rcases ending' with ⟨value', reached', log'⟩
          rcases alike with ⟨sameValue, sameState, sameLog⟩
          simp only at sameValue sameState sameLog
          subst sameValue sameState
          rw [Emitting.bind_run_ok run, Emitting.bind_run_ok run']
          exact (go value reached ⟨log, run⟩).after sameLog

end Alike

end ExQServe.Emission
