import Mathlib

/-! # Programs whose log outlives a failure

A program asks a world it knows nothing of, may fail, and records entries that stay recorded
when it fails. A program satisfies a relation between its log and its result when it does so in
every world. -/

namespace ExQServe.Logged

variable {σ η ε α β : Type}

structure Ran (σ η ε α : Type) where
  result : Except ε α
  world : σ
  log : List η

end ExQServe.Logged

namespace ExQServe

open ExQServe.Logged

/-- A program over the world `σ` with log entries `η` and failures `ε`. -/
def Logged (σ η ε α : Type) : Type := σ → Ran σ η ε α

namespace Logged

variable {σ η ε α β : Type}

def done (value : α) : Logged σ η ε α := fun world => ⟨.ok value, world, []⟩

def fail (failure : ε) : Logged σ η ε α := fun world => ⟨.error failure, world, []⟩

def record (entry : η) : Logged σ η ε Unit := fun world => ⟨.ok (), world, [entry]⟩

/-- A question to the world. -/
def ask (answer : σ → Except ε α × σ) : Logged σ η ε α := fun world =>
  ⟨(answer world).1, (answer world).2, []⟩

def andThen (first : Logged σ η ε α) (next : α → Logged σ η ε β) : Logged σ η ε β := fun world =>
  match (first world).result with
  | .error failure => ⟨.error failure, (first world).world, (first world).log⟩
  | .ok value =>
      let second := next value (first world).world
      ⟨second.result, second.world, (first world).log ++ second.log⟩

def recover (first : Logged σ η ε α) (handler : ε → Logged σ η ε α) : Logged σ η ε α :=
  fun world =>
    match (first world).result with
    | .ok value => ⟨.ok value, (first world).world, (first world).log⟩
    | .error failure =>
        let second := handler failure (first world).world
        ⟨second.result, second.world, (first world).log ++ second.log⟩

instance : Monad (Logged σ η ε) where
  pure := done
  bind := andThen

instance : MonadExcept ε (Logged σ η ε) where
  throw := fail
  tryCatch := recover

def repeated (count : Nat) (program : Logged σ η ε Unit) : Logged σ η ε Unit :=
  match count with
  | 0 => pure ()
  | count + 1 => do
      program
      repeated count program

/-! ## What every world sees -/

/-- In every world the log and the result are related. -/
structure Satisfies (program : Logged σ η ε α) (post : List η → Except ε α → Prop) : Prop where
  everywhere : ∀ world, post (program world).log (program world).result

variable {post : List η → Except ε α → Prop}

theorem Satisfies.weaken {weaker : List η → Except ε α → Prop} {program : Logged σ η ε α}
    (satisfies : program.Satisfies post)
    (implies : ∀ log result, post log result → weaker log result) : program.Satisfies weaker :=
  ⟨fun world => implies _ _ (satisfies.everywhere world)⟩

theorem satisfies_pure {value : α} (holds : post [] (.ok value)) :
    Satisfies (pure value : Logged σ η ε α) post :=
  ⟨fun _ => holds⟩

theorem satisfies_throw {failure : ε} (holds : post [] (.error failure)) :
    Satisfies (throw failure : Logged σ η ε α) post :=
  ⟨fun _ => holds⟩

theorem satisfies_record {entry : η} {post : List η → Except ε Unit → Prop}
    (holds : post [entry] (.ok ())) : Satisfies (record entry : Logged σ η ε Unit) post :=
  ⟨fun _ => holds⟩

theorem satisfies_ask {answer : σ → Except ε α × σ} (holds : ∀ result, post [] result) :
    Satisfies (ask answer : Logged σ η ε α) post :=
  ⟨fun world => holds (answer world).1⟩

theorem satisfies_bind {first : Logged σ η ε β} {next : β → Logged σ η ε α}
    {middle : List η → Except ε β → Prop} (begins : first.Satisfies middle)
    (fails : ∀ log failure, middle log (.error failure) → post log (.error failure))
    (continues : ∀ log value, middle log (.ok value) →
      (next value).Satisfies fun more result => post (log ++ more) result) :
    (first >>= next).Satisfies post := by
  constructor
  intro world
  have started := begins.everywhere world
  change post (andThen first next world).log (andThen first next world).result
  rw [andThen]
  cases ran : (first world).result with
  | error failure =>
      rw [ran] at started
      exact fails _ failure started
  | ok value =>
      rw [ran] at started
      exact (continues _ value started).everywhere (first world).world

/-- A program that records nothing adds what is known of its value. -/
theorem satisfies_silent_bind {first : Logged σ η ε β} {next : β → Logged σ η ε α}
    {known : β → Prop}
    (begins : first.Satisfies fun log result =>
      log = [] ∧ ∀ value, result = .ok value → known value)
    (fails : ∀ failure, post [] (.error failure))
    (continues : ∀ value, known value → (next value).Satisfies post) :
    (first >>= next).Satisfies post := by
  apply satisfies_bind begins
  · intro log failure silent
    rw [silent.1]
    exact fails failure
  · intro log value silent
    rw [silent.1]
    exact continues value (silent.2 value rfl)

theorem satisfies_ask_bind {answer : σ → Except ε β × σ} {next : β → Logged σ η ε α}
    (fails : ∀ failure, post [] (.error failure))
    (continues : ∀ value, (next value).Satisfies post) :
    (ask answer >>= next).Satisfies post := by
  have begins : (ask answer : Logged σ η ε β).Satisfies
      fun log result => log = [] ∧ ∀ value, result = .ok value → True :=
    satisfies_ask fun _ => ⟨rfl, fun _ _ => trivial⟩
  exact satisfies_silent_bind begins fails fun value _ => continues value

theorem satisfies_tryCatch {first : Logged σ η ε α} {handler : ε → Logged σ η ε α}
    {middle : List η → Except ε α → Prop} (begins : first.Satisfies middle)
    (returns : ∀ log value, middle log (.ok value) → post log (.ok value))
    (handles : ∀ log failure, middle log (.error failure) →
      (handler failure).Satisfies fun more result => post (log ++ more) result) :
    (tryCatch first handler : Logged σ η ε α).Satisfies post := by
  constructor
  intro world
  have started := begins.everywhere world
  change post (recover first handler world).log (recover first handler world).result
  rw [recover]
  cases ran : (first world).result with
  | ok value =>
      rw [ran] at started
      exact returns _ value started
  | error failure =>
      rw [ran] at started
      exact (handles _ failure started).everywhere (first world).world

theorem satisfies_repeated {program : Logged σ η ε Unit} {each : η → Prop}
    (records : program.Satisfies fun log _ => ∀ entry ∈ log, each entry) (count : Nat) :
    (repeated count program).Satisfies fun log _ => ∀ entry ∈ log, each entry := by
  induction count with
  | zero => exact satisfies_pure fun entry member => absurd member List.not_mem_nil
  | succ count induction =>
      change (program >>= fun _ => repeated count program).Satisfies _
      apply satisfies_bind records
      · intro log _ holds
        exact holds
      · intro log _ holds
        apply induction.weaken
        intro more _ rest entry member
        rcases List.mem_append.mp member with member | member
        · exact holds entry member
        · exact rest entry member

end Logged

end ExQServe
