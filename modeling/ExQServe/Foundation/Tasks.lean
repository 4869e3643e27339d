import Mathlib

/-! # Tasks that interleave

A task is a tree of blocks. A block runs on a shared state without interruption,
and a choice from outside stands for what the world answers it; between two blocks
other tasks run. The second part reasons about a pool of tasks with an invariant of
the shared state and, for every task, with what the blocks of the other tasks leave
alone. -/

namespace ExQServe

inductive Task (σ χ κ ρ : Type) : Type
  | done (result : ρ)
  | block (ready : σ → Bool) (update : σ → χ → σ) (rest : σ → χ → Task σ χ κ ρ)
  | fork (call : κ) (rest : Task σ χ κ ρ)

variable {σ χ κ ρ ε α β : Type}

namespace Task

def andThen : Task σ χ κ α → (α → Task σ χ κ β) → Task σ χ κ β
  | done result, next => next result
  | block ready update rest, next =>
      block ready update fun state choice => (rest state choice).andThen next
  | fork call rest, next => fork call (rest.andThen next)

instance : Monad (Task σ χ κ) where
  pure := done
  bind := andThen

def when (ready : σ → Bool) (run : σ → χ → α × σ) : Task σ χ κ α :=
  block ready (fun state choice => (run state choice).2) fun state choice =>
    done (run state choice).1

def atomically (run : σ → χ → α × σ) : Task σ χ κ α := when (fun _ => true) run

def forkAll : List κ → Task σ χ κ Unit
  | [] => done ()
  | call :: calls => fork call (forkAll calls)

end Task

/-- A task that may raise. -/
abbrev Coroutine (σ χ κ ε α : Type) : Type := ExceptT ε (Task σ χ κ) α

namespace Coroutine

def atomically (run : σ → χ → Except ε α × σ) : Coroutine σ χ κ ε α := Task.atomically run

def when (ready : σ → Bool) (run : σ → χ → Except ε α × σ) : Coroutine σ χ κ ε α :=
  Task.when ready run

def forkAll (calls : List κ) : Coroutine σ χ κ ε Unit :=
  Task.andThen (Task.forkAll calls) fun _ => Task.done (.ok ())

/-- `try … finally …`, where a failure of the cleanup replaces the result. -/
def ensuring (first : Coroutine σ χ κ ε α) (cleanup : Coroutine σ χ κ ε Unit) :
    Coroutine σ χ κ ε α := do
  let value ← tryCatch first fun failure => do
    cleanup
    throw failure
  cleanup
  return value

end Coroutine

/-! ## Pools -/

structure Pool (σ χ κ ρ : Type) where
  shared : σ
  tasks : List (Task σ χ κ ρ)

/-- A new call arrives, or a started task runs up to its next block. -/
inductive Action (χ κ : Type)
  | call (call : κ)
  | run (thread : Nat) (choice : χ)

namespace Pool

variable (program : Nat → κ → Task σ χ κ ρ)

def start (pool : Pool σ χ κ ρ) (call : κ) : Pool σ χ κ ρ :=
  { pool with tasks := pool.tasks ++ [program pool.tasks.length call] }

def advance (pool : Pool σ χ κ ρ) : Action χ κ → Option (Pool σ χ κ ρ)
  | .call call => some (pool.start program call)
  | .run thread choice =>
      match pool.tasks[thread]? with
      | some (.block ready update rest) =>
          if ready pool.shared then
            some ⟨update pool.shared choice, pool.tasks.set thread (rest pool.shared choice)⟩
          else none
      | some (.fork call rest) =>
          some (start program { pool with tasks := pool.tasks.set thread rest } call)
      | _ => none

def perform (pool : Pool σ χ κ ρ) : List (Action χ κ) → Option (Pool σ χ κ ρ)
  | [] => some pool
  | action :: actions => (pool.advance program action).bind (·.perform actions)

/-- The pools of all runs, in any order of the calls and the blocks. -/
inductive Reachable (first : σ) : Pool σ χ κ ρ → Prop
  | initial : Reachable first ⟨first, []⟩
  | step {pool next : Pool σ χ κ ρ} (run : Reachable first pool) (action : Action χ κ)
      (advances : pool.advance program action = some next) : Reachable first next

variable {program}

theorem Reachable.perform {first : σ} {pool next : Pool σ χ κ ρ}
    (run : Reachable program first pool) (actions : List (Action χ κ))
    (performs : pool.perform program actions = some next) : Reachable program first next := by
  induction actions generalizing pool with
  | nil =>
      cases performs
      exact run
  | cons action actions induction =>
      rcases Option.bind_eq_some_iff.mp performs with ⟨middle, advances, rest⟩
      exact induction (run.step action advances) rest

end Pool

/-! ## Rules -/

/-- An invariant of the shared state, and for every thread what the blocks of the
others may do to what it has seen. -/
structure Discipline (σ : Type) where
  invariant : σ → Prop
  others : Nat → σ → σ → Prop
  refl : ∀ thread state, others thread state state
  trans : ∀ thread first second third, others thread first second →
    others thread second third → others thread first third

namespace Discipline

/-- Every block keeps the invariant and moves the state forward. -/
def forward (invariant : σ → Prop) (moves : σ → σ → Prop) (refl : ∀ state, moves state state)
    (trans : ∀ first second third, moves first second → moves second third → moves first third) :
    Discipline σ where
  invariant := invariant
  others _ := moves
  refl _ := refl
  trans _ := trans

end Discipline

namespace Task

/-- Every block the task can still come to keeps the invariant and what the others have
seen, whatever the others do before it; and the task ends as promised. -/
def Safe (rules : Discipline σ) (thread : Nat) (post : ρ → σ → Prop) : Task σ χ κ ρ → σ → Prop
  | done result => post result
  | block ready update rest => fun seen =>
      ∀ state choice, rules.others thread seen state → rules.invariant state →
        ready state = true →
          rules.invariant (update state choice) ∧
          (∀ other, other ≠ thread → rules.others other state (update state choice)) ∧
          (rest state choice).Safe rules thread post (update state choice)
  | fork _ rest => rest.Safe rules thread post

variable {rules : Discipline σ} {thread : Nat}

/-- What the others do leaves a task safe when it leaves its promise. -/
theorem Safe.stable {post : ρ → σ → Prop}
    (stays : ∀ result first second, rules.others thread first second → post result first →
      post result second) {task : Task σ χ κ ρ} {seen state : σ}
    (safe : task.Safe rules thread post seen) (others : rules.others thread seen state) :
    task.Safe rules thread post state := by
  induction task with
  | done result => exact stays result seen state others safe
  | block ready update rest induction =>
      intro later choice between
      apply safe
      exact rules.trans _ _ _ _ others between
  | fork call rest induction => exact induction safe

theorem Safe.weaken {post weaker : ρ → σ → Prop} (implies : ∀ result state, post result state →
    weaker result state) {task : Task σ χ κ ρ} {seen : σ}
    (safe : task.Safe rules thread post seen) :
    task.Safe rules thread weaker seen := by
  induction task generalizing seen with
  | done result => exact implies _ _ safe
  | block ready update rest induction =>
      intro state choice others holds isReady
      rcases safe state choice others holds isReady with ⟨keeps, leaves, after⟩
      exact ⟨keeps, leaves, induction _ _ after⟩
  | fork call rest induction => exact induction safe

theorem Safe.andThen {post : β → σ → Prop} {first : Task σ χ κ α} {next : α → Task σ χ κ β}
    {seen : σ} (safe : first.Safe rules thread
      (fun result state => (next result).Safe rules thread post state) seen) :
    (first.andThen next).Safe rules thread post seen := by
  induction first generalizing seen with
  | done result => exact safe
  | block ready update rest induction =>
      intro state choice others holds isReady
      rcases safe state choice others holds isReady with ⟨keeps, leaves, after⟩
      exact ⟨keeps, leaves, induction _ _ after⟩
  | fork call rest induction => exact induction safe

theorem safe_when {post : α → σ → Prop} {ready : σ → Bool} {run : σ → χ → α × σ} {seen : σ}
    (block : ∀ state choice, rules.others thread seen state → rules.invariant state →
      ready state = true →
        rules.invariant (run state choice).2 ∧
        (∀ other, other ≠ thread → rules.others other state (run state choice).2) ∧
        post (run state choice).1 (run state choice).2) :
    (when ready run : Task σ χ κ α).Safe rules thread post seen := block

theorem safe_atomically {post : α → σ → Prop} {run : σ → χ → α × σ} {seen : σ}
    (block : ∀ state choice, rules.others thread seen state → rules.invariant state →
      rules.invariant (run state choice).2 ∧
      (∀ other, other ≠ thread → rules.others other state (run state choice).2) ∧
      post (run state choice).1 (run state choice).2) :
    (atomically run : Task σ χ κ α).Safe rules thread post seen := by
  apply safe_when
  intro state choice others holds _
  exact block state choice others holds

theorem safe_forkAll {post : Unit → σ → Prop} {calls : List κ} {seen : σ} (holds : post () seen) :
    (forkAll calls : Task σ χ κ Unit).Safe rules thread post seen := by
  induction calls with
  | nil => exact holds
  | cons call calls induction => exact induction

end Task

/-! Rules for tasks that may raise. -/

theorem Coroutine.safe_bind {rules : Discipline σ} {thread : Nat} {post : Except ε β → σ → Prop}
    {first : Coroutine σ χ κ ε α} {next : α → Coroutine σ χ κ ε β} {seen : σ}
    (safe : Task.Safe rules thread (fun result state =>
      match result with
      | .ok value => Task.Safe rules thread post (next value) state
      | .error failure => post (.error failure) state) first seen) :
    Task.Safe rules thread post (first >>= next : Coroutine σ χ κ ε β) seen := by
  apply Task.Safe.andThen
  apply Task.Safe.weaken ?_ safe
  intro result state holds
  cases result with
  | ok value => exact holds
  | error failure => exact holds

theorem Coroutine.safe_tryCatch {rules : Discipline σ} {thread : Nat} {post : Except ε α → σ → Prop}
    {first : Coroutine σ χ κ ε α} {handler : ε → Coroutine σ χ κ ε α} {seen : σ}
    (safe : Task.Safe rules thread (fun result state =>
      match result with
      | .ok value => post (.ok value) state
      | .error failure => Task.Safe rules thread post (handler failure) state) first seen) :
    Task.Safe rules thread post (tryCatch first handler : Coroutine σ χ κ ε α) seen := by
  apply Task.Safe.andThen
  apply Task.Safe.weaken ?_ safe
  intro result state holds
  cases result with
  | ok value => exact holds
  | error failure => exact holds

theorem Coroutine.safe_ensuring {rules : Discipline σ} {thread : Nat}
    {post : Except ε α → σ → Prop} {first : Coroutine σ χ κ ε α} {cleanup : Coroutine σ χ κ ε Unit}
    {seen : σ} (safe : Task.Safe rules thread (fun result state =>
      Task.Safe rules thread (fun cleaned after =>
        match cleaned with
        | .ok _ => post result after
        | .error failure => post (.error failure) after) cleanup state) first seen) :
    Task.Safe rules thread post (ensuring first cleanup) seen := by
  apply safe_bind
  apply safe_tryCatch
  apply Task.Safe.weaken ?_ safe
  intro result state cleans
  cases result with
  | ok value =>
      apply safe_bind
      apply Task.Safe.weaken ?_ cleans
      intro cleaned after holds
      cases cleaned with
      | ok done => exact holds
      | error failure => exact holds
  | error failure =>
      apply safe_bind
      apply Task.Safe.weaken ?_ cleans
      intro cleaned after holds
      cases cleaned with
      | ok done => exact holds
      | error other => exact holds

/-! ## Pools of safe tasks -/

/-- What holds of a number before a task runs under it, and of the task's result. -/
structure Promise (rules : Discipline σ) (ρ : Type) where
  fresh : Nat → σ → Prop
  post : Nat → ρ → σ → Prop
  freshStays : ∀ thread first second, rules.others thread first second → fresh thread first →
    fresh thread second
  postStays : ∀ thread result first second, rules.others thread first second →
    post thread result first → post thread result second

namespace Pool

variable {rules : Discipline σ} {program : Nat → κ → Task σ χ κ ρ}

/-- The invariant, every task is safe from here on, and the numbers without one are fresh. -/
structure Fulfils (promise : Promise rules ρ) (pool : Pool σ χ κ ρ) : Prop where
  invariant : rules.invariant pool.shared
  safe : ∀ (thread : Nat) (task : Task σ χ κ ρ), pool.tasks[thread]? = some task →
    task.Safe rules thread (promise.post thread) pool.shared
  fresh : ∀ thread, pool.tasks.length ≤ thread → promise.fresh thread pool.shared

variable {promise : Promise rules ρ}

theorem Fulfils.start {pool : Pool σ χ κ ρ} (fulfils : pool.Fulfils promise) {call : κ}
    (starts : (program pool.tasks.length call).Safe rules pool.tasks.length
      (promise.post pool.tasks.length) pool.shared) :
    (pool.start program call).Fulfils promise := by
  constructor
  · exact fulfils.invariant
  · intro thread task found
    simp only [Pool.start] at found ⊢
    by_cases inside : thread < pool.tasks.length
    · rw [List.getElem?_append_left inside] at found
      exact fulfils.safe thread task found
    · rw [List.getElem?_append_right (Nat.le_of_not_lt inside)] at found
      rcases List.getElem?_eq_some_iff.mp found with ⟨bound, equal⟩
      have last : thread = pool.tasks.length := by
        simp only [List.length_singleton] at bound
        omega
      subst last
      simp only [List.getElem_singleton] at equal
      subst equal
      exact starts
  · intro thread beyond
    rw [Pool.start, List.length_append] at beyond
    exact fulfils.fresh thread (Nat.le_of_add_right_le beyond)

theorem Fulfils.replace {pool : Pool σ χ κ ρ} (fulfils : pool.Fulfils promise) {thread : Nat}
    (started : thread < pool.tasks.length) {shared : σ} {rest : Task σ χ κ ρ}
    (keeps : rules.invariant shared)
    (leaves : ∀ other, other ≠ thread → rules.others other pool.shared shared)
    (after : rest.Safe rules thread (promise.post thread) shared) :
    Fulfils promise ⟨shared, pool.tasks.set thread rest⟩ := by
  constructor
  · exact keeps
  · intro other task found
    by_cases same : thread = other
    · subst same
      rw [List.getElem?_set_self started] at found
      cases found
      exact after
    · rw [List.getElem?_set_ne same] at found
      exact (fulfils.safe other task found).stable (promise.postStays other)
        (leaves other fun equal => same equal.symm)
  · intro other beyond
    rw [List.length_set] at beyond
    exact promise.freshStays other _ _ (leaves other (by omega)) (fulfils.fresh other beyond)

/-- When every call starts a task that keeps the promise, all tasks of all runs do. -/
theorem Reachable.fulfils {first : σ} (holds : rules.invariant first)
    (fresh : ∀ thread, promise.fresh thread first)
    (starts : ∀ thread call state, rules.invariant state → promise.fresh thread state →
      (program thread call).Safe rules thread (promise.post thread) state)
    {pool : Pool σ χ κ ρ} (run : Reachable program first pool) : pool.Fulfils promise := by
  induction run with
  | initial =>
      constructor
      · exact holds
      · intro thread task found
        cases found
      · exact fun thread _ => fresh thread
  | @step pool next run action advances fulfils =>
      cases action with
      | call call =>
          cases advances
          exact fulfils.start (starts _ _ _ fulfils.invariant (fulfils.fresh _ (Nat.le_refl _)))
      | run thread choice =>
          simp only [advance] at advances
          cases found : pool.tasks[thread]? with
          | none =>
              rw [found] at advances
              cases advances
          | some task =>
              rw [found] at advances
              have safe := fulfils.safe thread task found
              have started : thread < pool.tasks.length :=
                (List.getElem?_eq_some_iff.mp found).choose
              cases task with
              | done result => cases advances
              | fork call rest =>
                  cases advances
                  have stays : Fulfils promise ⟨pool.shared, pool.tasks.set thread rest⟩ :=
                    fulfils.replace started fulfils.invariant (fun _ _ => rules.refl _ _) safe
                  exact stays.start (starts _ _ _ fulfils.invariant
                    (stays.fresh _ (Nat.le_refl _)))
              | block ready update rest =>
                  dsimp only at advances
                  by_cases isReady : ready pool.shared = true
                  · rw [if_pos isReady] at advances
                    cases advances
                    rcases safe pool.shared choice (rules.refl _ _) fulfils.invariant isReady with
                      ⟨keeps, leaves, after⟩
                    exact fulfils.replace started keeps leaves after
                  · rw [if_neg isReady] at advances
                    cases advances

/-- The invariant, and every task is safe from here on. -/
structure Sound (rules : Discipline σ) (pool : Pool σ χ κ ρ) : Prop where
  invariant : rules.invariant pool.shared
  safe : ∀ (thread : Nat) (task : Task σ χ κ ρ), pool.tasks[thread]? = some task →
    task.Safe rules thread (fun _ _ => True) pool.shared

/-- When every call starts a safe task, the invariant holds in every run. -/
theorem Reachable.sound {first : σ} (holds : rules.invariant first)
    (starts : ∀ thread call state, rules.invariant state →
      (program thread call).Safe rules thread (fun _ _ => True) state)
    {pool : Pool σ χ κ ρ} (run : Reachable program first pool) : pool.Sound rules := by
  let promise : Promise rules ρ :=
    ⟨fun _ _ => True, fun _ _ _ => True, fun _ _ _ _ _ => trivial, fun _ _ _ _ _ _ => trivial⟩
  have fulfils : pool.Fulfils promise :=
    run.fulfils holds (fun _ => trivial) fun thread call state holds _ =>
      starts thread call state holds
  exact ⟨fulfils.invariant, fulfils.safe⟩

end Pool

/-! ## Tasks that are safe wherever they start -/

/-- The task is safe under every number and from every state. -/
def Task.Keeps (rules : Discipline σ) (task : Task σ χ κ ρ) : Prop :=
  ∀ thread seen, task.Safe rules thread (fun _ _ => True) seen

section Keeps

variable {rules : Discipline σ}

theorem Task.keeps_done (result : ρ) : (Task.done result : Task σ χ κ ρ).Keeps rules :=
  fun _ _ => trivial

theorem Task.Keeps.andThen {first : Task σ χ κ α} {next : α → Task σ χ κ β}
    (keepsFirst : first.Keeps rules) (keepsNext : ∀ value, (next value).Keeps rules) :
    (first.andThen next).Keeps rules := by
  intro thread seen
  apply Task.Safe.andThen
  apply Task.Safe.weaken ?_ (keepsFirst thread seen)
  intro result state _
  exact keepsNext result thread state

namespace Coroutine

theorem keeps_pure (value : α) :
    Task.Keeps rules (pure value : Coroutine σ χ κ ε α) := Task.keeps_done _

theorem keeps_throw (failure : ε) :
    Task.Keeps rules (throw failure : Coroutine σ χ κ ε α) := Task.keeps_done _

theorem keeps_bind {first : Coroutine σ χ κ ε α} {next : α → Coroutine σ χ κ ε β}
    (keepsFirst : Task.Keeps rules first) (keepsNext : ∀ value, Task.Keeps rules (next value)) :
    Task.Keeps rules (first >>= next : Coroutine σ χ κ ε β) := by
  apply keepsFirst.andThen
  intro result
  cases result with
  | ok value => exact keepsNext value
  | error failure => exact Task.keeps_done _

theorem keeps_tryCatch {first : Coroutine σ χ κ ε α} {handler : ε → Coroutine σ χ κ ε α}
    (keepsFirst : Task.Keeps rules first)
    (keepsHandler : ∀ failure, Task.Keeps rules (handler failure)) :
    Task.Keeps rules (tryCatch first handler : Coroutine σ χ κ ε α) := by
  apply keepsFirst.andThen
  intro result
  cases result with
  | ok value => exact Task.keeps_done _
  | error failure => exact keepsHandler failure

theorem keeps_ensuring {first : Coroutine σ χ κ ε α} {cleanup : Coroutine σ χ κ ε Unit}
    (keepsFirst : Task.Keeps rules first) (keepsCleanup : Task.Keeps rules cleanup) :
    Task.Keeps rules (ensuring first cleanup) := by
  apply keeps_bind
  · apply keeps_tryCatch keepsFirst
    intro failure
    exact keeps_bind keepsCleanup fun _ => keeps_throw failure
  · intro value
    exact keeps_bind keepsCleanup fun _ => keeps_pure value

theorem keeps_when {ready : σ → Bool} {run : σ → χ → Except ε α × σ}
    (keeps : ∀ state choice, rules.invariant state → rules.invariant (run state choice).2 ∧
      ∀ thread, rules.others thread state (run state choice).2) :
    Task.Keeps rules (when ready run : Coroutine σ χ κ ε α) := by
  intro thread seen
  apply Task.safe_when
  intro state choice _ holds _
  rcases keeps state choice holds with ⟨after, moves⟩
  exact ⟨after, fun other _ => moves other, trivial⟩

theorem keeps_atomically {run : σ → χ → Except ε α × σ}
    (keeps : ∀ state choice, rules.invariant state → rules.invariant (run state choice).2 ∧
      ∀ thread, rules.others thread state (run state choice).2) :
    Task.Keeps rules (atomically run : Coroutine σ χ κ ε α) := keeps_when keeps

theorem keeps_forkAll (calls : List κ) :
    Task.Keeps rules (forkAll calls : Coroutine σ χ κ ε Unit) := by
  apply Task.Keeps.andThen
  · intro thread seen
    exact Task.safe_forkAll trivial
  · intro _
    exact Task.keeps_done _

end Coroutine

end Keeps

/-! ## Tasks that disturb nobody -/

/-- To what its thread has seen, the task does no more than the others may do. -/
def Task.Mild (rules : Discipline σ) (task : Task σ χ κ ρ) : Prop :=
  ∀ thread seen state, rules.others thread seen state →
    task.Safe rules thread (fun _ after => rules.others thread seen after) state

section Mild

variable {rules : Discipline σ}

/-- What the others leave alone stays true. -/
theorem Task.Mild.safe {task : Task σ χ κ ρ} (mild : task.Mild rules) {thread : Nat}
    {holds : σ → Prop} (stays : ∀ first second, rules.others thread first second → holds first →
      holds second) {seen : σ} (now : holds seen) :
    task.Safe rules thread (fun _ after => holds after) seen := by
  apply Task.Safe.weaken ?_ (mild thread seen seen (rules.refl thread seen))
  intro _ after others
  exact stays seen after others now

theorem Task.mild_done (result : ρ) : (Task.done result : Task σ χ κ ρ).Mild rules :=
  fun _ _ _ others => others

theorem Task.Mild.andThen {first : Task σ χ κ α} {next : α → Task σ χ κ β}
    (mildFirst : first.Mild rules) (mildNext : ∀ value, (next value).Mild rules) :
    (first.andThen next).Mild rules := by
  intro thread seen state others
  apply Task.Safe.andThen
  apply Task.Safe.weaken ?_ (mildFirst thread seen state others)
  intro result after others
  exact mildNext result thread seen after others

namespace Coroutine

theorem mild_pure (value : α) : Task.Mild rules (pure value : Coroutine σ χ κ ε α) :=
  Task.mild_done _

theorem mild_throw (failure : ε) : Task.Mild rules (throw failure : Coroutine σ χ κ ε α) :=
  Task.mild_done _

theorem mild_bind {first : Coroutine σ χ κ ε α} {next : α → Coroutine σ χ κ ε β}
    (mildFirst : Task.Mild rules first) (mildNext : ∀ value, Task.Mild rules (next value)) :
    Task.Mild rules (first >>= next : Coroutine σ χ κ ε β) := by
  apply mildFirst.andThen
  intro result
  cases result with
  | ok value => exact mildNext value
  | error failure => exact Task.mild_done _

theorem mild_tryCatch {first : Coroutine σ χ κ ε α} {handler : ε → Coroutine σ χ κ ε α}
    (mildFirst : Task.Mild rules first)
    (mildHandler : ∀ failure, Task.Mild rules (handler failure)) :
    Task.Mild rules (tryCatch first handler : Coroutine σ χ κ ε α) := by
  apply mildFirst.andThen
  intro result
  cases result with
  | ok value => exact Task.mild_done _
  | error failure => exact mildHandler failure

theorem mild_when {ready : σ → Bool} {run : σ → χ → Except ε α × σ}
    (mild : ∀ state choice, rules.invariant state → rules.invariant (run state choice).2 ∧
      ∀ thread, rules.others thread state (run state choice).2) :
    Task.Mild rules (when ready run : Coroutine σ χ κ ε α) := by
  intro thread seen state others
  apply Task.safe_when
  intro now choice between holds _
  rcases mild now choice holds with ⟨after, moves⟩
  exact ⟨after, fun other _ => moves other, rules.trans _ _ _ _ others
    (rules.trans _ _ _ _ between (moves thread))⟩

end Coroutine

end Mild

end ExQServe
