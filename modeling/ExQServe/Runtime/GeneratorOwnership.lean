import ExQServe.Runtime.GeneratorRecovery

/-! # One owner for every generator

The invariant of the generator lifecycle has three parts: who owns the generators, what
the failure episodes know of their recoveries, and where the recovery and the close calls
are. Each part is stated on the fields it is about. -/

namespace ExQServe.Runtime

/-- A generator is made only after every earlier one was closed and its queue cleared. -/
def Ordered (log : List GeneratorEvent) : Prop :=
  ∀ before generator after, log = before ++ .constructed generator :: after →
    ∀ older < generator, .quiesced older ∈ before

structure Ownership (generator generatorEpisode quarantined quarantinedEpisode : Option Nat)
    (state : GeneratorLifecycleState) (count : Nat) (log : List GeneratorEvent) : Prop where
  paired : generatorEpisode = generator
  quarantinePaired : ∀ episode, quarantinedEpisode = some episode → quarantined = some episode
  current : ∀ number, generator = some number → number < count
  single : generator = none ∨ quarantined = none
  ready : state = .ready → quarantined = none
  idle : state = .ready → generator = none → count = 0
  accounted : ∀ number < count, .quiesced number ∈ log ∨ generator = some number ∨
    quarantined = some number
  ordered : Ordered log

def RecoveryPlace.Lost : RecoveryPlace → Prop
  | .quiescingDead _ => True
  | .ended failed => failed = true
  | _ => False

def RecoveryPlace.Over : RecoveryPlace → Prop
  | .ended _ => True
  | _ => False

def RecoveryPlace.Holds (failed : Owned) (quarantined : Option Nat) : RecoveryPlace → Prop
  | .quiescing => quarantined = some failed.generator
  | .quiescingDead replacement => quarantined = some replacement
  | .quiescingTeardown replacement => quarantined = some replacement
  | _ => True

structure Causes (episodes : List (Option FailureCause)) (count : Nat) (tasks : List RecoveryTask)
    (sessions : List Owned) (reports : List (Owned × Option FailureCause)) : Prop where
  counted : episodes.length = count
  sessions : ∀ owned ∈ sessions, owned.episode = owned.generator
  failures : ∀ failed ∈ tasks.map RecoveryTask.failed,
    failed.episode = failed.generator ∧ failed.episode < count
  recovering : ∀ episode, (episodes[episode]?).join = some .runtimeRecovering →
    ⟨episode, episode⟩ ∈ tasks.map RecoveryTask.failed
  reported : ∀ owned, (owned, some .runtimeRecovering) ∈ reports →
    owned ∈ tasks.map RecoveryTask.failed
  lost : ∀ task ∈ tasks, task.place.Lost →
    (episodes[task.failed.episode]?).join = some .restartRequired

/-- A close call that has looked at the recovery task meets no other one, and nobody
else takes the generator it waits for. -/
def ClosePlace.Waits (tasks : List RecoveryTask) (generator quarantined : Option Nat) :
    ClosePlace → Prop
  | .ended _ => True
  | .awaitingRecovery awaited => ∀ number task, tasks[number]? = some task →
      ¬ task.place.Over → number = awaited
  | .quiescingQuarantined _ waited =>
      (∀ task ∈ tasks, task.place.Over) ∧ quarantined = some waited
  | .quiescingPoisoned waited =>
      (∀ task ∈ tasks, task.place.Over) ∧ (generator = some waited ∨ quarantined = some waited)
  | .closingGenerator _ => ∀ task ∈ tasks, task.place.Over

structure Recovering (tasks : List RecoveryTask) (recoveryTask : Option Nat)
    (state : GeneratorLifecycleState) (generator quarantined : Option Nat)
    (closers : List ClosePlace) (closing : Bool) : Prop where
  live : ∀ number task, tasks[number]? = some task → ¬ task.place.Over →
    recoveryTask = some number ∧ state ≠ .ready ∧ task.place.Holds task.failed quarantined
  closing : closers ≠ [] → closing = true
  waits : ∀ place ∈ closers, place.Waits tasks generator quarantined

/-! ## The owners -/

theorem Ordered.quiesced {log : List GeneratorEvent} (ordered : Ordered log) (number : Nat) :
    Ordered (log ++ [.quiesced number]) := by
  intro before generator after split
  rcases List.eq_nil_or_concat after with empty | ⟨rest, last, whole⟩
  · subst empty
    cases (List.append_inj' split rfl).2
  · subst whole
    have joined : log ++ [.quiesced number] =
      (before ++ .constructed generator :: rest) ++ [last] := by
      simpa using split
    exact ordered before generator rest (List.append_inj' joined rfl).1

theorem Ordered.constructed {log : List GeneratorEvent} {number : Nat} (ordered : Ordered log)
    (quiesced : ∀ older < number, .quiesced older ∈ log) :
    Ordered (log ++ [.constructed number]) := by
  intro before generator after split
  rcases List.eq_nil_or_concat after with empty | ⟨rest, last, whole⟩
  · subst empty
    have parts := List.append_inj' split rfl
    cases parts.2
    cases parts.1
    exact quiesced
  · subst whole
    have joined : log ++ [.constructed number] =
        (before ++ .constructed generator :: rest) ++ [last] := by
      simpa using split
    exact ordered before generator rest (List.append_inj' joined rfl).1

namespace Ownership

variable {generator generatorEpisode quarantined quarantinedEpisode : Option Nat}
  {state : GeneratorLifecycleState} {count : Nat} {log : List GeneratorEvent}
  (owns : Ownership generator generatorEpisode quarantined quarantinedEpisode state count log)
include owns

/-- A state that is not ready asks for less. -/
theorem leaves {other : GeneratorLifecycleState} (unready : other ≠ .ready) :
    Ownership generator generatorEpisode quarantined quarantinedEpisode other count log :=
  { owns with
    ready := fun ready => absurd ready unready
    idle := fun ready => absurd ready unready }

theorem quiesced (number : Nat) :
    Ownership generator generatorEpisode quarantined quarantinedEpisode state count
      (log ++ [.quiesced number]) :=
  { owns with
    accounted := fun other below => (owns.accounted other below).imp_left (List.mem_append_left _)
    ordered := owns.ordered.quiesced number }

/-- The current generator goes into quarantine. -/
theorem quarantine {number : Nat} {other : GeneratorLifecycleState}
    (current : generator = some number) (unready : other ≠ .ready) :
    Ownership none none (some number) (some number) other count log where
  paired := rfl
  quarantinePaired _ same := same
  current _ absent := by cases absent
  single := .inl rfl
  ready ready := absurd ready unready
  idle ready := absurd ready unready
  accounted other below := by
    rcases owns.accounted other below with done | owned | held
    · exact .inl done
    · exact .inr (.inr (current.symm.trans owned))
    · cases owns.single with
      | inl absent => cases absent.symm.trans current
      | inr absent => cases absent.symm.trans held
  ordered := owns.ordered

/-- Only one generator is current or in quarantine. -/
theorem sole {first second : Nat} (one : generator = some first ∨ quarantined = some first)
    (two : generator = some second ∨ quarantined = some second) : first = second := by
  rcases owns.single with absent | absent <;> rw [absent] at one two
  · exact Option.some.inj ((one.resolve_left (Option.some_ne_none _).symm).symm.trans
      (two.resolve_left (Option.some_ne_none _).symm))
  · exact Option.some.inj ((one.resolve_right (Option.some_ne_none _).symm).symm.trans
      (two.resolve_right (Option.some_ne_none _).symm))

/-- A poisoned generator that could not be closed goes into quarantine. -/
theorem poison {number : Nat} (owned : generator = some number ∨ quarantined = some number) :
    Ownership none none (some number) generatorEpisode .failed count log where
  paired := rfl
  quarantinePaired episode same :=
    congrArg some (owns.sole owned (.inl (owns.paired.symm.trans same)))
  current _ absent := by cases absent
  single := .inl rfl
  ready ready := by cases ready
  idle ready := by cases ready
  accounted other below := (owns.accounted other below).imp_right fun either =>
    .inr (congrArg some (owns.sole owned either))
  ordered := owns.ordered

/-- What is in quarantine leaves it once it has been closed. -/
theorem clear {number : Nat} (held : ∀ other, quarantined = some other → other = number)
    (done : .quiesced number ∈ log) (unready : state ≠ .ready) :
    Ownership generator generatorEpisode none none state count log :=
  { owns with
    quarantinePaired := fun _ absent => by cases absent
    single := .inr rfl
    ready := fun _ => rfl
    idle := fun ready => absurd ready unready
    accounted := fun other below => by
      rcases owns.accounted other below with before | owned | quarantine
      · exact .inl before
      · exact .inr (.inl owned)
      · exact .inl (held other quarantine ▸ done) }

/-- A generator is made where none is owned. -/
theorem construct {episode : Nat} (absent : generator = none) (free : quarantined = none)
    (numbered : episode = count) :
    Ownership (some count) (some episode) quarantined quarantinedEpisode state (count + 1)
      (log ++ [.constructed count]) := by
  have older (number : Nat) (below : number < count) : .quiesced number ∈ log := by
    rcases owns.accounted number below with done | owned | held
    · exact done
    · cases absent.symm.trans owned
    · cases free.symm.trans held
  refine
    { owns with
      paired := congrArg some numbered
      current := ?_
      single := .inr free
      idle := fun _ present => by cases present
      accounted := ?_
      ordered := owns.ordered.constructed older }
  · intro number same
    cases same
    exact Nat.lt_succ_self _
  · intro number below
    rcases Nat.lt_succ_iff_lt_or_eq.mp below with before | same
    · exact .inl (List.mem_append_left _ (older number before))
    · exact .inr (.inl (congrArg some same.symm))

/-- The replacement is adopted. -/
theorem becomesReady {number : Nat} (current : generator = some number) :
    Ownership generator generatorEpisode quarantined quarantinedEpisode .ready count log :=
  { owns with
    ready := fun _ => owns.single.resolve_left (by rw [current]; exact Option.some_ne_none _)
    idle := fun _ absent => by cases absent.symm.trans current }

end Ownership

/-! ## The causes -/

@[simp] theorem moveTask_failed (tasks : List RecoveryTask) (number : Nat)
    (place : RecoveryPlace) :
    (moveTask tasks number place).map RecoveryTask.failed = tasks.map RecoveryTask.failed := by
  induction tasks generalizing number with
  | nil => simp [moveTask]
  | cons task tasks induction =>
      cases number with
      | zero => simp [moveTask]
      | succ number => simpa [moveTask] using induction number

theorem getElem?_moveTask (tasks : List RecoveryTask) (number other : Nat)
    (place : RecoveryPlace) :
    (moveTask tasks number place)[other]? =
      if number = other then tasks[other]?.map fun found => { found with place }
      else tasks[other]? := by
  rw [moveTask, List.getElem?_modify]
  split
  · rfl
  · simp

theorem mem_moveTask {tasks : List RecoveryTask} {number : Nat} {place : RecoveryPlace}
    {task : RecoveryTask} (member : task ∈ moveTask tasks number place) :
    task ∈ tasks ∨ ∃ found, tasks[number]? = some found ∧ task = { found with place } := by
  rcases List.mem_iff_getElem?.mp member with ⟨position, located⟩
  rw [getElem?_moveTask] at located
  split at located
  · rename_i same
    rcases Option.map_eq_some_iff.mp located with ⟨found, present, equal⟩
    exact .inr ⟨found, same ▸ present, equal.symm⟩
  · exact .inl (List.mem_of_getElem? located)

namespace Causes

variable {episodes : List (Option FailureCause)} {count : Nat} {tasks : List RecoveryTask}
  {sessions : List Owned} {reports : List (Owned × Option FailureCause)}
  (causes : Causes episodes count tasks sessions reports)
include causes

theorem restart (episode : Nat) :
    Causes (episodes.set episode (some .restartRequired)) count tasks sessions reports where
  counted := (List.length_set ..).trans causes.counted
  sessions := causes.sessions
  failures := causes.failures
  recovering other reads := by
    rw [List.getElem?_set] at reads
    split at reads
    · split at reads <;> cases reads
    · exact causes.recovering other reads
  reported := causes.reported
  lost task member lost := by
    rw [List.getElem?_set]
    split
    · rename_i same
      have inside : task.failed.episode < count :=
        (causes.failures _ (List.mem_map_of_mem member)).2
      rw [if_pos (by rw [causes.counted, same]; exact inside)]
      rfl
    · exact causes.lost task member lost

/-- A recovery starts with its episode. -/
theorem start {number : Nat} {resources : Resources} (below : number < count)
    (fresh : (episodes[number]?).join = none) :
    Causes (episodes.set number (some .runtimeRecovering)) count
      (tasks ++ [⟨⟨number, number⟩, resources, .created⟩]) sessions reports where
  counted := (List.length_set ..).trans causes.counted
  sessions := causes.sessions
  failures failed member := by
    rw [List.map_append] at member
    rcases List.mem_append.mp member with old | new
    · exact causes.failures failed old
    · cases List.mem_singleton.mp new
      exact ⟨rfl, below⟩
  recovering other reads := by
    rw [List.map_append]
    rw [List.getElem?_set] at reads
    split at reads
    · rename_i same
      subst same
      exact List.mem_append_right _ (List.mem_singleton.mpr rfl)
    · exact List.mem_append_left _ (causes.recovering other reads)
  reported owned member := by
    rw [List.map_append]
    exact List.mem_append_left _ (causes.reported owned member)
  lost task member lost := by
    rcases List.mem_append.mp member with old | new
    · have kept := causes.lost task old lost
      rw [List.getElem?_set, if_neg]
      · exact kept
      · intro same
        rw [← same, fresh] at kept
        cases kept
    · cases List.mem_singleton.mp new
      exact absurd lost id

theorem construct : Causes (episodes ++ [none]) (count + 1) tasks sessions reports where
  counted := by rw [List.length_append, causes.counted]; rfl
  sessions := causes.sessions
  failures failed member :=
    ⟨(causes.failures failed member).1, Nat.lt_succ_of_lt (causes.failures failed member).2⟩
  recovering other reads := by
    rcases Nat.lt_or_ge other episodes.length with before | after
    · rw [List.getElem?_append_left before] at reads
      exact causes.recovering other reads
    · rw [List.getElem?_append_right after] at reads
      cases gap : other - episodes.length with
      | zero => rw [gap] at reads; cases reads
      | succ gap' => rw [gap] at reads; cases reads
  reported := causes.reported
  lost task member lost := by
    have inside := (causes.failures _ (List.mem_map_of_mem member)).2
    rw [List.getElem?_append_left (by rw [causes.counted]; exact inside)]
    exact causes.lost task member lost

theorem handOut {owned : Owned} (same : owned.episode = owned.generator) :
    Causes episodes count tasks (sessions ++ [owned]) reports :=
  { causes with
    sessions := fun other member => by
      rcases List.mem_append.mp member with old | new
      · exact causes.sessions other old
      · cases List.mem_singleton.mp new
        exact same }

/-- A session is given the cause of its episode. -/
theorem report {owned : Owned} (member : owned ∈ sessions) :
    Causes episodes count tasks sessions
      (reports ++ [(owned, (episodes[owned.episode]?).join)]) :=
  { causes with
    reported := fun other present => by
      rcases List.mem_append.mp present with old | new
      · exact causes.reported other old
      · have equal := List.mem_singleton.mp new
        rw [Prod.mk.injEq] at equal
        rcases equal with ⟨same, reads⟩
        subst same
        have recovering := causes.recovering _ reads.symm
        have paired := causes.sessions other member
        rcases other with ⟨generator, episode⟩
        cases paired
        exact recovering }

theorem move {number : Nat} {place : RecoveryPlace}
    (lost : place.Lost → ∀ task, tasks[number]? = some task →
      (episodes[task.failed.episode]?).join = some .restartRequired) :
    Causes episodes count (moveTask tasks number place) sessions reports where
  counted := causes.counted
  sessions := causes.sessions
  failures := by simpa using causes.failures
  recovering := by simpa using causes.recovering
  reported := by simpa using causes.reported
  lost task member gone := by
    rcases mem_moveTask member with old | ⟨found, present, equal⟩
    · exact causes.lost task old gone
    · subst equal
      exact lost gone found present

end Causes

/-! ## The recovery and the close calls -/

theorem over_of_moveTask {tasks : List RecoveryTask} {number other : Nat} {failed : Bool}
    {task : RecoveryTask} (present : (moveTask tasks number (.ended failed))[other]? = some task)
    (live : ¬ task.place.Over) : tasks[other]? = some task := by
  rw [getElem?_moveTask] at present
  split at present
  · rcases Option.map_eq_some_iff.mp present with ⟨found, _, equal⟩
    subst equal
    exact absurd trivial live
  · exact present

namespace Recovering

variable {tasks : List RecoveryTask} {recoveryTask : Option Nat} {state : GeneratorLifecycleState}
  {generator quarantined : Option Nat} {closers : List ClosePlace} {closing : Bool}
  (recovering : Recovering tasks recoveryTask state generator quarantined closers closing)
include recovering

/-- While one recovery runs there is no other. -/
theorem only {number : Nat} {task : RecoveryTask} (present : tasks[number]? = some task)
    (live : ¬ task.place.Over) {other : Nat} {task' : RecoveryTask}
    (present' : tasks[other]? = some task') (live' : ¬ task'.place.Over) : other = number :=
  Option.some.inj ((recovering.live other task' present' live').1.symm.trans
    (recovering.live number task present live).1)

theorem idle (absent : recoveryTask = none) : ∀ task ∈ tasks, task.place.Over := by
  intro task member
  rcases List.mem_iff_getElem?.mp member with ⟨number, present⟩
  by_contra live
  cases absent.symm.trans (recovering.live number task present live).1

theorem over_of_ready (ready : state = .ready) : ∀ task ∈ tasks, task.place.Over := by
  intro task member
  rcases List.mem_iff_getElem?.mp member with ⟨number, present⟩
  by_contra live
  exact (recovering.live number task present live).2.1 ready

theorem leaves {other : GeneratorLifecycleState} (unready : other ≠ .ready) :
    Recovering tasks recoveryTask other generator quarantined closers closing :=
  { recovering with
    live := fun number task present live =>
      have before := recovering.live number task present live
      ⟨before.1, unready, before.2.2⟩ }

theorem empty (unclosed : closing = false) : closers = [] := by
  by_contra filled
  cases unclosed.symm.trans (recovering.closing filled)

/-- While nobody closes, the current generator may change. -/
theorem anyGenerator (unclosed : closing = false) (generator' : Option Nat) :
    Recovering tasks recoveryTask state generator' quarantined closers closing :=
  { recovering with
    waits := fun place member => by
      rw [recovering.empty unclosed] at member
      cases member }

/-- With no recovery running and nobody closing, anything may happen to the owners. -/
theorem rest (ended : ∀ task ∈ tasks, task.place.Over) (unclosed : closing = false)
    (recoveryTask' : Option Nat) (state' : GeneratorLifecycleState)
    (generator' quarantined' : Option Nat) :
    Recovering tasks recoveryTask' state' generator' quarantined' closers closing where
  live _ task present live := absurd (ended task (List.mem_of_getElem? present)) live
  closing := recovering.closing
  waits place member := by
    rw [recovering.empty unclosed] at member
    cases member

/-- The recovery that runs comes to its end. -/
theorem finish {number : Nat} {task : RecoveryTask} (present : tasks[number]? = some task)
    (live : ¬ task.place.Over) (failed : Bool) (recoveryTask' : Option Nat)
    (state' : GeneratorLifecycleState) (generator' quarantined' : Option Nat) :
    Recovering (moveTask tasks number (.ended failed)) recoveryTask' state' generator' quarantined'
      closers closing where
  live other task' present' live' := by
    have before := over_of_moveTask present' live'
    have same := recovering.only present live before live'
    subst same
    rw [getElem?_moveTask, if_pos rfl, present] at present'
    cases present'
    exact absurd trivial live'
  closing := recovering.closing
  waits place member := by
    have before := recovering.waits place member
    cases place with
    | ended _ => trivial
    | awaitingRecovery awaited =>
        exact fun other task' present' live' =>
          before other task' (over_of_moveTask present' live') live'
    | quiescingQuarantined _ _ => exact absurd (before.1 task (List.mem_of_getElem? present)) live
    | quiescingPoisoned _ => exact absurd (before.1 task (List.mem_of_getElem? present)) live
    | closingGenerator _ => exact absurd (before task (List.mem_of_getElem? present)) live

/-- The recovery that runs comes to its next await. -/
theorem advance {number : Nat} {task : RecoveryTask} {place : RecoveryPlace}
    {state' : GeneratorLifecycleState} {generator' quarantined' : Option Nat}
    (present : tasks[number]? = some task) (live : ¬ task.place.Over) (unready : state' ≠ .ready)
    (holds : place.Holds task.failed quarantined') :
    Recovering (moveTask tasks number place) recoveryTask state' generator' quarantined' closers
      closing where
  live other task' present' live' := by
    rw [getElem?_moveTask] at present'
    split at present'
    · rename_i same
      subst same
      rw [present] at present'
      cases present'
      exact ⟨(recovering.live number task present live).1, unready, holds⟩
    · rename_i different
      exact absurd (recovering.only present live present' live').symm different
  closing := recovering.closing
  waits closer member := by
    have before := recovering.waits closer member
    cases closer with
    | ended _ => trivial
    | awaitingRecovery awaited =>
        intro other task' present' live'
        rw [getElem?_moveTask] at present'
        split at present'
        · rename_i same
          exact same ▸ before number task present live
        · exact before other task' present' live'
    | quiescingQuarantined _ _ => exact absurd (before.1 task (List.mem_of_getElem? present)) live
    | quiescingPoisoned _ => exact absurd (before.1 task (List.mem_of_getElem? present)) live
    | closingGenerator _ => exact absurd (before task (List.mem_of_getElem? present)) live

/-- A recovery starts while nobody closes. -/
theorem start {failed : Owned} {resources : Resources} {generator' quarantined' : Option Nat}
    (ended : ∀ task ∈ tasks, task.place.Over) (unclosed : closing = false) :
    Recovering (tasks ++ [⟨failed, resources, .created⟩]) (some tasks.length) .recovering
      generator' quarantined' closers closing where
  live number task present live := by
    rcases Nat.lt_or_ge number tasks.length with before | after
    · rw [List.getElem?_append_left before] at present
      exact absurd (ended task (List.mem_of_getElem? present)) live
    · rw [List.getElem?_append_right after] at present
      cases gap : number - tasks.length with
      | zero =>
          rw [gap] at present
          cases present
          exact ⟨congrArg some (by omega), GeneratorLifecycleState.noConfusion, trivial⟩
      | succ gap' =>
          rw [gap] at present
          cases present
  closing := recovering.closing
  waits place member := by
    have shut := recovering.closing (List.ne_nil_of_mem member)
    rw [unclosed] at shut
    cases shut

/-- A poisoned generator that could not be closed goes into quarantine. -/
theorem poison {number : Nat} (ended : ∀ task ∈ tasks, task.place.Over)
    (sole : ∀ other, generator = some other ∨ quarantined = some other → number = other) :
    Recovering tasks recoveryTask .failed none (some number) closers closing where
  live _ task present live := absurd (ended task (List.mem_of_getElem? present)) live
  closing := recovering.closing
  waits place member := by
    have before := recovering.waits place member
    cases place with
    | ended _ => trivial
    | awaitingRecovery _ => exact before
    | quiescingQuarantined _ waited => exact ⟨ended, congrArg some (sole waited (.inr before.2))⟩
    | quiescingPoisoned waited => exact ⟨ended, .inr (congrArg some (sole waited before.2))⟩
    | closingGenerator _ => exact ended

/-- A close call goes on to a place that it may wait at. -/
theorem moveCloser {closer : Nat} {place : ClosePlace}
    (waits : place.Waits tasks generator quarantined) :
    Recovering tasks recoveryTask state generator quarantined
      (closers.set closer place) closing where
  live := recovering.live
  closing filled := by
    refine recovering.closing fun empty => filled ?_
    rw [empty]
    rfl
  waits other member := by
    rcases List.mem_or_eq_of_mem_set member with old | new
    · exact recovering.waits other old
    · exact new ▸ waits

theorem newCloser {place : ClosePlace} (waits : place.Waits tasks generator quarantined) :
    Recovering tasks recoveryTask state generator quarantined (closers ++ [place]) true where
  live := recovering.live
  closing _ := rfl
  waits other member := by
    rcases List.mem_append.mp member with old | new
    · exact recovering.waits other old
    · exact List.mem_singleton.mp new ▸ waits

end Recovering

end ExQServe.Runtime
