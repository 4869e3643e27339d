import ExQServe.Serving.Recovery

/-! # One coherent attempt

What a recovering session has published in any state of any run: at most the start of an
attempt that was given up, then events of one attempt, then at most one terminal event of
its own making. Only the task that drives the generator changes its progress, so that task
knows the progress exactly from one block to the next. -/

namespace ExQServe.Serving

open ExQServe.Model ExQServe.Runtime

/-! ## Logs -/

def StartsFirst (events : List ServingEvent) : Prop :=
  ∀ event ∈ events.tail, event.isStarted = false

def publicationsOf (attempt : Nat) (events : List ServingEvent) : List Publication :=
  events.map fun event => ⟨some attempt, event⟩

@[simp] theorem publicationsOf_nil (attempt : Nat) : publicationsOf attempt [] = [] := rfl

theorem publicationsOf_append (attempt : Nat) (events more : List ServingEvent) :
    publicationsOf attempt (events ++ more) =
      publicationsOf attempt events ++ publicationsOf attempt more := List.map_append

def steady (event : ServingEvent) : Bool := !event.isStarted

/-- The publications are of one attempt, of what it has produced so far. Only a generation
start may have moved. -/
structure OwnEvents (attempt : Nat) (stream produced : List ServingEvent)
    (own : List Publication) : Prop where
  attempts : ∀ publication ∈ own, publication.attempt = some attempt
  members : ∀ publication ∈ own, publication.event ∈ produced
  inOrder : ((own.map Publication.event).filter steady).Sublist (produced.filter steady)
  startFirst : StartsFirst stream → (own.map Publication.event).Sublist produced

structure GivenUp (first : AttemptStream) (kept : Nat) (starts : List Publication) : Prop where
  atMostOne : starts.length ≤ 1
  firstStart : ∀ publication ∈ starts, 0 < kept ∧ publication.attempt = some 0 ∧
    publication.event.isStarted = true ∧ publication.event ∈ first.events

theorem GivenUp.none (first : AttemptStream) (kept : Nat) : GivenUp first kept [] := by
  constructor
  · exact Nat.zero_le 1
  · exact fun _ inside => absurd inside List.not_mem_nil

def Made (made : List Publication) : Prop :=
  made = [] ∨ ∃ event, made = [⟨none, event⟩] ∧ event.isTerminal = true

def Coherent (first : AttemptStream) (streams : List AttemptStream) (log : List Publication) :
    Prop :=
  ∃ kept stream starts own made, streams[kept]? = some stream ∧ log = starts ++ own ++ made ∧
    GivenUp first kept starts ∧ OwnEvents kept stream.events stream.events own ∧ Made made

/-- Nothing is published behind a terminal event. -/
def Ordered (log : List Publication) : Prop :=
  ∀ publication ∈ log.dropLast, publication.event.isTerminal = false

structure LogSound (first : AttemptStream) (ordinal : Nat) (streams : List AttemptStream)
    (log : List Publication) : Prop where
  begins : streams.head? = some first
  coherent : Coherent first streams log
  ordered : Ordered log
  unseen : 2 ≤ ordinal → ∀ publication ∈ log, publication.attempt = some 0 →
    ∀ event, publication.event ≠ .semantic event

def Finished (streams : List AttemptStream) (log : List Publication) : Prop :=
  ∃ front last, log = front ++ [last] ∧ last.event.isTerminal = true ∧
    (∀ publication ∈ front, publication.event.isTerminal = false) ∧
    (last.attempt = none ∨ last.attempt = some (streams.length - 1))

/-- The attempts that were started, those that were refused at once included. -/
structure Budget (config : RecoveryConfig) (progress : RecoveryProgress) : Prop where
  ordinal : progress.attemptOrdinal ≤ 1 + config.maxExtraAttempts
  streams : progress.streams.length ≤ progress.attemptOrdinal
  started : progress.attemptsStarted + config.initialAttemptOrdinal =
    config.initialAttemptsStarted + progress.attemptOrdinal

theorem Budget.same {config : RecoveryConfig} {before after : RecoveryProgress}
    (budget : Budget config before) (ordinal : after.attemptOrdinal = before.attemptOrdinal)
    (streams : after.streams = before.streams)
    (started : after.attemptsStarted = before.attemptsStarted) : Budget config after := by
  constructor
  · rw [ordinal]
    exact budget.ordinal
  · rw [streams, ordinal]
    exact budget.streams
  · rw [started, ordinal]
    exact budget.started

structure SessionSound (config : RecoveryConfig) (first : AttemptStream)
    (session : RecoveringServingSession) : Prop where
  fresh : session.progress.runner = none → session.progress = .initial config first
  budget : Budget config session.progress
  log : LogSound first session.progress.attemptOrdinal session.progress.streams
    session.progress.publications
  returned : session.progress.ended = some .returned →
    Finished session.progress.streams session.progress.publications
  fuel : session.progress.ended ≠ some .outOfFuel
  releases : session.releases = if session.released then 1 else 0
  concluded : session.progress.ended ≠ none → session.released = true

/-- A block of the driving task changes the progress, and no other. -/
def recoveryRules (config : RecoveryConfig) (first : AttemptStream) :
    Discipline RecoveringServingSession where
  invariant := SessionSound config first
  others thread before after :=
    before.progress.runner = some thread → after.progress = before.progress
  refl _ _ _ := rfl
  trans _ _ _ _ one two drives := by
    have same := one drives
    rw [← same] at drives ⊢
    exact two drives

/-! ## Own events -/

namespace OwnEvents

variable {attempt : Nat} {stream produced : List ServingEvent} {own : List Publication}

theorem none (attempt : Nat) (stream produced : List ServingEvent) :
    OwnEvents attempt stream produced [] := by
  constructor
  · exact fun _ inside => absurd inside List.not_mem_nil
  · exact fun _ inside => absurd inside List.not_mem_nil
  · exact List.nil_sublist _
  · exact fun _ => List.nil_sublist _

theorem mono (events : OwnEvents attempt stream produced own) {more : List ServingEvent}
    (extends_ : produced.Sublist more) : OwnEvents attempt stream more own := by
  constructor
  · exact events.attempts
  · exact fun publication inside => extends_.subset (events.members publication inside)
  · exact events.inOrder.trans (extends_.filter steady)
  · exact fun first => (events.startFirst first).trans extends_

theorem sublist (events : OwnEvents attempt stream produced own) {fewer : List Publication}
    (part : fewer.Sublist own) : OwnEvents attempt stream produced fewer := by
  constructor
  · exact fun publication inside => events.attempts publication (part.subset inside)
  · exact fun publication inside => events.members publication (part.subset inside)
  · exact ((part.map _).filter steady).trans events.inOrder
  · exact fun first => (part.map _).trans (events.startFirst first)

theorem ofSublist {events : List ServingEvent} (attempt : Nat) (stream : List ServingEvent)
    (part : events.Sublist produced) :
    OwnEvents attempt stream produced (publicationsOf attempt events) := by
  have same : (publicationsOf attempt events).map Publication.event = events := by
    rw [publicationsOf, List.map_map]
    exact List.map_id events
  constructor
  · intro publication inside
    rcases List.mem_map.mp inside with ⟨event, _, rfl⟩
    rfl
  · intro publication inside
    rcases List.mem_map.mp inside with ⟨event, found, rfl⟩
    exact part.subset found
  · rw [same]
    exact part.filter steady
  · intro _
    rw [same]
    exact part

/-- The next event is published behind the rest. -/
theorem append (events : OwnEvents attempt stream produced own) (event : ServingEvent) :
    OwnEvents attempt stream (produced ++ [event]) (own ++ [⟨some attempt, event⟩]) := by
  constructor
  · intro publication inside
    rcases List.mem_append.mp inside with old | new
    · exact events.attempts publication old
    · cases List.mem_singleton.mp new
      rfl
  · intro publication inside
    rcases List.mem_append.mp inside with old | new
    · exact List.mem_append_left _ (events.members publication old)
    · cases List.mem_singleton.mp new
      exact List.mem_append_right _ List.mem_cons_self
  · rw [List.map_append, List.filter_append, List.filter_append]
    exact events.inOrder.append (List.Sublist.refl _)
  · intro first
    rw [List.map_append]
    exact (events.startFirst first).append (List.Sublist.refl _)

/-- A start overtakes what is held back. -/
theorem start {held : List Publication} (events : OwnEvents attempt stream produced (own ++ held))
    {event : ServingEvent} (isStart : event.isStarted = true) {rest : List ServingEvent}
    (next : stream = produced ++ event :: rest) :
    OwnEvents attempt stream (produced ++ [event]) (own ++ [⟨some attempt, event⟩] ++ held) := by
  have skipped : steady event = false := by rw [steady, isStart, Bool.not_true]
  constructor
  · intro publication inside
    simp only [List.mem_append, List.mem_singleton] at inside
    rcases inside with (old | rfl) | later
    · exact events.attempts publication (List.mem_append_left _ old)
    · rfl
    · exact events.attempts publication (List.mem_append_right _ later)
  · intro publication inside
    simp only [List.mem_append, List.mem_singleton] at inside
    rcases inside with (old | rfl) | later
    · exact List.mem_append_left _ (events.members publication (List.mem_append_left _ old))
    · exact List.mem_append_right _ List.mem_cons_self
    · exact List.mem_append_left _ (events.members publication (List.mem_append_right _ later))
  · have order := events.inOrder
    simp only [List.map_append, List.filter_append, List.map_cons, List.map_nil,
      List.filter_cons, skipped, List.filter_nil] at order ⊢
    simpa using order
  · intro first
    cases produced with
    | nil =>
        have nothing := events.startFirst first
        rw [List.sublist_nil, List.map_eq_nil_iff, List.append_eq_nil_iff] at nothing
        rw [nothing.1, nothing.2]
        exact List.Sublist.refl _
    | cons head tail =>
        rw [next] at first
        have late := first event (by simp)
        rw [isStart] at late
        cases late

end OwnEvents

/-! ## Driving the generator -/

section Driving

variable (config : RecoveryConfig) (first : AttemptStream) (thread : Nat)

structure Driving (progress : RecoveryProgress) : Prop where
  budget : Budget config progress
  log : LogSound first progress.attemptOrdinal progress.streams progress.publications
  runner : progress.runner = some thread
  running : progress.ended = none

def Ends {α : Type} (post : α → RecoveryProgress → Prop) (progress : RecoveryProgress) :
    Except RecoveryFailure α → Prop
  | .ok value => post value progress
  | .error failure => failure = .raised

/-- From this progress the task ends with a value as promised, or raises, and publishes a
coherent log all along. -/
def Drives {α : Type} (post : α → RecoveryProgress → Prop) (task : RecoveryTask α)
    (progress : RecoveryProgress) : Prop :=
  ∀ session : RecoveringServingSession, session.progress = progress →
    Task.Safe (recoveryRules config first) thread (fun result session =>
      Driving config first thread session.progress ∧ Ends post session.progress result) task session

variable {config first thread} {α β : Type} {progress : RecoveryProgress}

theorem drives_pure {post : α → RecoveryProgress → Prop} {value : α}
    (driving : Driving config first thread progress) (holds : post value progress) :
    Drives config first thread post (pure value) progress := by
  intro session same
  subst same
  exact ⟨driving, holds⟩

theorem drives_weaken {post weaker : α → RecoveryProgress → Prop} {task : RecoveryTask α}
    (drives : Drives config first thread post task progress)
    (implies : ∀ value progress, post value progress → weaker value progress) :
    Drives config first thread weaker task progress := by
  intro session same
  apply Task.Safe.weaken ?_ (drives session same)
  intro result session ends
  refine ⟨ends.1, ?_⟩
  cases result with
  | ok value => exact implies _ _ ends.2
  | error failure => exact ends.2

theorem drives_bind (middle : α → RecoveryProgress → Prop) {post : β → RecoveryProgress → Prop}
    {task : RecoveryTask α} {next : α → RecoveryTask β}
    (drives : Drives config first thread middle task progress)
    (goesOn : ∀ value progress, Driving config first thread progress → middle value progress →
      Drives config first thread post (next value) progress) :
    Drives config first thread post (task >>= next) progress := by
  intro session same
  apply Coroutine.safe_bind
  apply Task.Safe.weaken ?_ (drives session same)
  intro result session ends
  cases result with
  | ok value => exact goesOn value session.progress ends.1 ends.2 session rfl
  | error failure => exact ends

theorem drives_advance {post : α → RecoveryProgress → Prop} {run : RecoveryProgress → Bool →
    RecoverySurroundings → Except RecoveryFailure α × RecoveryProgress}
    (driving : Driving config first thread progress)
    (step : ∀ cancelled outside, Driving config first thread (run progress cancelled outside).2 ∧
      Ends post (run progress cancelled outside).2 (run progress cancelled outside).1) :
    Drives config first thread post (advance run) progress := by
  intro seen same
  apply Task.safe_atomically
  intro session outside others sound
  have unchanged : session.progress = progress := by
    rw [← same]
    apply others
    rw [same]
    exact driving.runner
  subst unchanged
  have next := step session.cancelled outside
  refine ⟨?_, ?_, next⟩
  · have running := next.1.running
    constructor
    · intro idle
      rw [next.1.runner] at idle
      cases idle
    · exact next.1.budget
    · exact next.1.log
    · intro ended
      rw [running] at ended
      cases ended
    · intro ended
      rw [running] at ended
      cases ended
    · exact sound.releases
    · intro ended
      exact absurd running ended
  · intro other different drives
    rw [driving.runner] at drives
    exact absurd (Option.some.inj drives).symm different

theorem drives_pause (driving : Driving config first thread progress) :
    Drives config first thread (fun _ next => next = progress) pause progress := by
  apply drives_advance driving
  intro _ outside
  refine ⟨driving, ?_⟩
  cases outside.raises <;> rfl

def RecoveryProgress.publishAll (progress : RecoveryProgress) (attempt : Nat)
    (events : List ServingEvent) : RecoveryProgress :=
  { progress with publications := progress.publications ++ publicationsOf attempt events }

theorem drives_publishEvent {attempt : Option Nat} {event : ServingEvent}
    (driving : Driving config first thread progress)
    (log : LogSound first progress.attemptOrdinal progress.streams
      (progress.publish attempt event).publications) :
    Drives config first thread (fun _ next => next = progress.publish attempt event)
      (publishEvent attempt event) progress := by
  apply drives_advance driving
  intro _ outside
  refine ⟨⟨driving.budget.same rfl rfl rfl, log, driving.runner, driving.running⟩, ?_⟩
  cases outside.raises <;> rfl

theorem drives_publishAll {attempt : Nat} {events : List ServingEvent}
    (driving : Driving config first thread progress)
    (log : ∀ published, published <+: events →
      LogSound first progress.attemptOrdinal progress.streams
        (progress.publishAll attempt published).publications) :
    Drives config first thread (fun _ next => next = progress.publishAll attempt events)
      (publishAll attempt events) progress := by
  induction events generalizing progress with
  | nil =>
      apply drives_pure driving
      simp [RecoveryProgress.publishAll, publicationsOf]
  | cons event events induction =>
      have one : progress.publish (some attempt) event = progress.publishAll attempt [event] := rfl
      apply drives_bind _
      · apply drives_publishEvent driving
        rw [one]
        exact log [event] ⟨events, rfl⟩
      · intro _ next driving equal
        subst equal
        have rest := induction driving (by
          intro published isPrefix
          have whole := log (event :: published) (List.cons_prefix_cons.mpr ⟨rfl, isPrefix⟩)
          simpa [RecoveryProgress.publishAll, RecoveryProgress.publish, publicationsOf] using whole)
        simpa [RecoveryProgress.publishAll, RecoveryProgress.publish, publicationsOf] using rest

/-! ## Retries -/

/-- Recovery is chosen within the budget, with nothing semantic published. -/
theorem classifyAttemptRecovery_room {evidence : AttemptRecoveryEvidence}
    (recovers : (classifyAttemptRecovery evidence).kind ≠ .none) :
    evidence.attemptOrdinal ≤ evidence.maxExtraAttempts ∧
      evidence.publicationState = .unpublished := by
  rw [classifyAttemptRecovery] at recovers
  by_cases disabled : evidence.maxExtraAttempts = 0
  · rw [if_pos disabled] at recovers
    exact absurd rfl recovers
  rw [if_neg disabled] at recovers
  by_cases exhausted : evidence.attemptOrdinal > evidence.maxExtraAttempts
  · rw [if_pos exhausted] at recovers
    exact absurd rfl recovers
  rw [if_neg exhausted] at recovers
  by_cases unknown : evidence.visibilityMode = .unknown
  · rw [if_pos unknown] at recovers
    exact absurd rfl recovers
  rw [if_neg unknown] at recovers
  by_cases published : evidence.publicationState = .published
  · rw [if_pos published] at recovers
    exact absurd rfl recovers
  refine ⟨Nat.le_of_not_lt exhausted, ?_⟩
  cases state : evidence.publicationState with
  | unpublished => rfl
  | published => exact absurd state published

/-- Only starts are published, and the budget has an attempt left. -/
structure Room (config : RecoveryConfig) (progress : RecoveryProgress) : Prop where
  ordinal : progress.attemptOrdinal ≤ config.maxExtraAttempts
  onlyStarts : ∀ publication ∈ progress.publications, publication.event.isStarted = true

/-- Another attempt may be counted when only starts are published. -/
theorem LogSound.count {ordinal : Nat} {streams : List AttemptStream} {log : List Publication}
    (sound : LogSound first ordinal streams log)
    (onlyStarts : ∀ publication ∈ log, publication.event.isStarted = true) :
    LogSound first (ordinal + 1) streams log := by
  constructor
  · exact sound.begins
  · exact sound.coherent
  · exact sound.ordered
  · intro _ publication inside _ event isSemantic
    have isStart := onlyStarts publication inside
    rw [isSemantic] at isStart
    cases isStart

theorem LogSound.extend {ordinal : Nat} {streams : List AttemptStream} {log : List Publication}
    (sound : LogSound first ordinal streams log) (stream : AttemptStream) :
    LogSound first ordinal (streams ++ [stream]) log := by
  constructor
  · rw [List.head?_append, sound.begins]
    rfl
  · rcases sound.coherent with ⟨kept, found, starts, own, made, atKept, split, rest⟩
    refine ⟨kept, found, starts, own, made, ?_, split, rest⟩
    rw [List.getElem?_append_left (List.getElem?_eq_some_iff.mp atKept).1]
    exact atKept
  · exact sound.ordered
  · exact sound.unseen

structure Retried (before : RecoveryProgress) (failure : Option ServingEvent)
    (after : RecoveryProgress) : Prop where
  publications : after.publications = before.publications
  published : after.published = before.published
  externalStarted : after.externalStarted = before.externalStarted
  streams : after.streams = before.streams ∧ failure ≠ none ∨
    ∃ stream, after.streams = before.streams ++ [stream] ∧
      after.attemptOrdinal = before.attemptOrdinal + 1
  terminal : ∀ event ∈ failure, event.isTerminal = true

structure Noted (before after : RecoveryProgress) : Prop where
  publications : after.publications = before.publications
  published : after.published = before.published
  externalStarted : after.externalStarted = before.externalStarted
  streams : after.streams = before.streams
  ordinal : after.attemptOrdinal = before.attemptOrdinal
  started : after.attemptsStarted = before.attemptsStarted
  runner : after.runner = before.runner
  ended : after.ended = before.ended

namespace Noted

variable {before after : RecoveryProgress}

theorem refl (progress : RecoveryProgress) : Noted progress progress :=
  ⟨rfl, rfl, rfl, rfl, rfl, rfl, rfl, rfl⟩

theorem trans {last : RecoveryProgress} (one : Noted before after) (two : Noted after last) :
    Noted before last := by
  constructor
  · rw [two.publications, one.publications]
  · rw [two.published, one.published]
  · rw [two.externalStarted, one.externalStarted]
  · rw [two.streams, one.streams]
  · rw [two.ordinal, one.ordinal]
  · rw [two.started, one.started]
  · rw [two.runner, one.runner]
  · rw [two.ended, one.ended]

theorem driving (noted : Noted before after) (driving : Driving config first thread before) :
    Driving config first thread after := by
  constructor
  · exact driving.budget.same noted.ordinal noted.streams noted.started
  · rw [noted.ordinal, noted.streams, noted.publications]
    exact driving.log
  · rw [noted.runner]
    exact driving.runner
  · rw [noted.ended]
    exact driving.running

theorem room (noted : Noted before after) (room : Room config before) : Room config after := by
  constructor
  · rw [noted.ordinal]
    exact room.ordinal
  · rw [noted.publications]
    exact room.onlyStarts

theorem retried (noted : Noted before after) {failure : Option ServingEvent}
    {last : RecoveryProgress} (retried : Retried after failure last) :
    Retried before failure last := by
  rcases retried with ⟨publications, published, externalStarted, streams, terminal⟩
  rw [noted.publications] at publications
  rw [noted.published] at published
  rw [noted.externalStarted] at externalStarted
  rw [noted.streams, noted.ordinal] at streams
  exact ⟨publications, published, externalStarted, streams, terminal⟩

/-- A retry that ends before another attempt. -/
theorem refused (noted : Noted before after) {event : ServingEvent}
    (isTerminal : event.isTerminal = true) : Retried before (some event) after := by
  refine ⟨noted.publications, noted.published, noted.externalStarted, .inl ⟨noted.streams, by simp⟩,
    ?_⟩
  intro other found
  cases found
  exact isTerminal

end Noted

theorem drives_note {update : RecoveryProgress → RecoverySurroundings → RecoveryProgress}
    (driving : Driving config first thread progress)
    (notes : ∀ outside, Noted progress (update progress outside)) :
    Drives config first thread (fun _ next => Noted progress next) (change update) progress := by
  apply drives_advance driving
  intro _ outside
  exact ⟨(notes outside).driving driving, notes outside⟩

def AfterSubmission (before : RecoveryProgress) : Submitted → RecoveryProgress → Prop
  | .failure event, after => Retried before (some event) after
  | .cancelled, after => ∀ event : ServingEvent, event.isTerminal = true →
      Retried before (some event) after
  | .running, after => Retried before none after

theorem settleSubmission_sound {requestId : PyStr} {stopped : Bool}
    (driving : Driving config first thread progress) (room : Room config progress)
    (submission : Submission) :
    Driving config first thread (settleSubmission requestId progress stopped submission).2 ∧
      Ends (AfterSubmission progress) (settleSubmission requestId progress stopped submission).2
        (settleSubmission requestId progress stopped submission).1 := by
  rcases driving.budget with ⟨_, streams, started⟩
  have within := room.ordinal
  cases submission with
  | raised => exact ⟨driving, rfl⟩
  | rejected error attemptStarted =>
      rw [settleSubmission]
      cases stopped with
      | true =>
          have noted : Noted progress { progress with recoveryDecision := "cancelled" } :=
            ⟨rfl, rfl, rfl, rfl, rfl, rfl, rfl, rfl⟩
          exact ⟨noted.driving driving, noted.refused rfl⟩
      | false =>
          cases attemptStarted with
          | true =>
              constructor
              · constructor
                · constructor
                  · simp only [Bool.false_eq_true, if_false, if_true]
                    omega
                  · simp only [Bool.false_eq_true, if_false, if_true]
                    omega
                  · simp only [Bool.false_eq_true, if_false, if_true]
                    omega
                · exact driving.log.count room.onlyStarts
                · exact driving.runner
                · exact driving.running
              · refine ⟨rfl, rfl, rfl, .inl ⟨rfl, by simp⟩, ?_⟩
                intro other found
                cases found
                rfl
          | false =>
              have noted : Noted progress
                  { progress with recoveryDecision := "retry_blocked_before_submit" } :=
                ⟨rfl, rfl, rfl, rfl, rfl, rfl, rfl, rfl⟩
              exact ⟨noted.driving driving, noted.refused rfl⟩
  | session stream =>
      have extended : Driving config first thread
          (settleSubmission requestId progress stopped (.session stream)).2 := by
        constructor
        · constructor
          · simp only [settleSubmission]
            omega
          · simp only [settleSubmission, List.length_append, List.length_singleton]
            omega
          · simp only [settleSubmission]
            omega
        · exact (driving.log.count room.onlyStarts).extend stream
        · exact driving.runner
        · exact driving.running
      refine ⟨extended, ?_⟩
      cases stopped with
      | true =>
          intro event isTerminal
          refine ⟨rfl, rfl, rfl, .inr ⟨stream, rfl, rfl⟩, ?_⟩
          intro other found
          cases found
          exact isTerminal
      | false =>
          exact ⟨rfl, rfl, rfl, .inr ⟨stream, rfl, rfl⟩, fun _ found => by cases found⟩

theorem drives_submitRetry {requestId : PyStr} (driving : Driving config first thread progress)
    (room : Room config progress) :
    Drives config first thread (Retried progress) (submitRetry requestId) progress := by
  rw [submitRetry]
  apply drives_bind (fun _ next => Noted progress next)
  · apply drives_advance driving
    intro cancelled outside
    by_cases stopped : (cancelled || !outside.leaseActive) = true
    · rw [if_pos stopped]
      have noted : Noted progress { progress with finalSkipReason := some .runtimeNotReady } :=
        ⟨rfl, rfl, rfl, rfl, rfl, rfl, rfl, rfl⟩
      exact ⟨noted.driving driving, noted⟩
    · rw [if_neg stopped]
      exact ⟨driving, Noted.refl progress⟩
  · intro stopped next driving noted
    cases stopped with
    | true => exact drives_pure driving (noted.refused rfl)
    | false =>
        apply drives_bind (AfterSubmission next)
        · apply drives_advance driving
          intro cancelled outside
          exact settleSubmission_sound driving (noted.room room) outside.submission
        · intro submitted after driving settled
          cases submitted with
          | failure event => exact drives_pure driving (noted.retried settled)
          | cancelled =>
              apply drives_bind _ (drives_pause driving)
              intro _ last driving equal
              subst equal
              exact drives_pure driving (noted.retried (settled _ rfl))
          | running => exact drives_pure driving (noted.retried settled)

theorem settleReadiness_noted (requestId : PyStr) (readiness : RuntimeReadinessResult)
    (progress : RecoveryProgress) (stopped : Bool) :
    Noted progress (settleReadiness requestId readiness progress stopped).2 ∧
      ∀ event ∈ (settleReadiness requestId readiness progress stopped).1,
        event.isTerminal = true := by
  cases stopped with
  | true => exact ⟨⟨rfl, rfl, rfl, rfl, rfl, rfl, rfl, rfl⟩, fun _ found => by cases found; rfl⟩
  | false =>
      cases readiness with
      | ready => exact ⟨⟨rfl, rfl, rfl, rfl, rfl, rfl, rfl, rfl⟩, fun _ found => by cases found⟩
      | _ => exact ⟨⟨rfl, rfl, rfl, rfl, rfl, rfl, rfl, rfl⟩, fun _ found => by cases found; rfl⟩

/-- A decision against recovery leaves the attempt as it is; one for it needs room. -/
theorem drives_startRetryOrFailure {decision : AttemptRecoveryDecision} {requestId : PyStr}
    (driving : Driving config first thread progress)
    (room : decision.kind ≠ .none → Room config progress) :
    Drives config first thread (fun failure next =>
        decision.kind = .none ∧ failure = none ∧ Noted progress next ∨
        decision.kind ≠ .none ∧ Retried progress failure next)
      (startRetryOrFailure decision requestId) progress := by
  rw [startRetryOrFailure]
  by_cases skipped : decision.kind = .none
  · rw [if_pos skipped]
    apply drives_bind _
    · apply drives_note driving
      exact fun _ => ⟨rfl, rfl, rfl, rfl, rfl, rfl, rfl, rfl⟩
    · intro _ next driving noted
      exact drives_pure driving (.inl ⟨skipped, rfl, noted⟩)
  · rw [if_neg skipped]
    apply drives_bind _
    · apply drives_note driving
      exact fun _ => ⟨rfl, rfl, rfl, rfl, rfl, rfl, rfl, rfl⟩
    · intro _ planned driving noted
      by_cases waits : decision.kind = .waitRuntimeAndRetry
      · rw [if_pos waits]
        apply drives_bind _ (drives_pause driving)
        intro _ paused driving equal
        subst equal
        apply drives_bind (fun failure next => Noted paused next ∧
          ∀ event ∈ failure, event.isTerminal = true)
        · apply drives_advance driving
          intro cancelled outside
          have settled := settleReadiness_noted requestId outside.readiness paused
            (cancelled || !outside.leaseActive)
          exact ⟨settled.1.driving driving, settled⟩
        · intro failure settled driving facts
          cases failure with
          | some event =>
              apply drives_pure driving
              exact .inr ⟨skipped, noted.retried (facts.1.refused (facts.2 event rfl))⟩
          | none =>
              have ready := facts.1.room (noted.room (room skipped))
              apply drives_weaken (drives_submitRetry driving ready)
              intro failure last retried
              exact .inr ⟨skipped, noted.retried (facts.1.retried retried)⟩
      · rw [if_neg waits]
        apply drives_weaken (drives_submitRetry driving (noted.room (room skipped)))
        intro failure last retried
        exact .inr ⟨skipped, noted.retried retried⟩

end Driving

end ExQServe.Serving
