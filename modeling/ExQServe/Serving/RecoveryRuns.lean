import ExQServe.Serving.RecoveryCoherence

/-! # The loops of a recovering session

Each of the three loops publishes a coherent log and, where it returns, a terminal event
last. The stream of the current attempt is split into what is consumed and what is to
come; what is consumed is published, held back or a start. -/

namespace ExQServe.Serving

open ExQServe.Model ExQServe.Runtime

/-! ## The current attempt -/

theorem AttemptStream.finished (stream : AttemptStream) {streams : List AttemptStream}
    {attempt : Nat} (number : streams.length = attempt + 1) :
    Finished streams (publicationsOf attempt stream.events) := by
  rcases stream.endsOnce with ⟨front, last, split, isTerminal, before⟩
  refine ⟨publicationsOf attempt front, ⟨some attempt, last⟩, ?_, isTerminal, ?_, .inr ?_⟩
  · rw [split, publicationsOf, List.map_append]
    rfl
  · intro publication inside
    rcases List.mem_map.mp inside with ⟨event, found, rfl⟩
    exact before event found
  · rw [number]
    rfl

structure Current (stream : AttemptStream) (attempt : Nat) (progress : RecoveryProgress) :
    Prop where
  last : progress.streams.getLast? = some stream
  number : progress.streams.length = attempt + 1
  ordinal_eq : progress.attemptOrdinal = attempt + 1

section Loops

variable {config : RecoveryConfig} {first : AttemptStream} {thread : Nat} {stream : AttemptStream}
  {attempt : Nat} {progress next : RecoveryProgress}

theorem Current.found (current : Current stream attempt progress) :
    progress.streams[attempt]? = some stream := by
  have last := current.last
  rw [List.getLast?_eq_getElem?, current.number] at last
  exact last

theorem Current.note (current : Current stream attempt progress) (noted : Noted progress next) :
    Current stream attempt next := by
  constructor
  · rw [noted.streams]
    exact current.last
  · rw [noted.streams]
    exact current.number
  · rw [noted.ordinal]
    exact current.ordinal_eq

theorem Current.published {attempts : Option Nat} (current : Current stream attempt progress)
    (event : ServingEvent) : Current stream attempt (progress.publish attempts event) :=
  ⟨current.last, current.number, current.ordinal_eq⟩

theorem drives_currentAttempt (driving : Driving config first thread progress)
    (counted : progress.attemptOrdinal = progress.streams.length) :
    Drives config first thread (fun value next => next = progress ∧
      ∃ stream : AttemptStream, value.2 = stream.events ∧ Current stream value.1 progress)
      currentAttempt progress := by
  apply drives_advance driving
  intro _ _
  refine ⟨driving, rfl, ?_⟩
  cases streams : progress.streams with
  | nil =>
      have begins := driving.log.begins
      rw [streams] at begins
      cases begins
  | cons head tail =>
      have last := List.getLast?_eq_some_getLast (List.cons_ne_nil head tail)
      refine ⟨(head :: tail).getLast (List.cons_ne_nil head tail), ?_, ?_, ?_, ?_⟩
      · rw [last]
        rfl
      · rw [streams]
        exact last
      · rw [streams]
        rfl
      · rw [counted, streams]
        rfl

theorem drives_markTerminal (driving : Driving config first thread progress) :
    Drives config first thread (fun _ next => Noted progress next) markTerminal progress := by
  apply drives_note driving
  exact fun _ => ⟨rfl, rfl, rfl, rfl, rfl, rfl, rfl, rfl⟩

theorem recordTerminalAttempt_noted (progress : RecoveryProgress) (terminal : ServingEvent)
    (seen outside : Measurements) (discarded : Bool) :
    Noted progress (progress.recordTerminalAttempt terminal seen outside discarded) := by
  rw [RecoveryProgress.recordTerminalAttempt]
  cases attemptRecord progress.attemptOrdinal
      ⟨seen.usage.or outside.usage, seen.timing.or outside.timing⟩ discarded terminal with
  | none => exact Noted.refl progress
  | some record => exact ⟨rfl, rfl, rfl, rfl, rfl, rfl, rfl, rfl⟩

theorem noteCompletion_noted (progress : RecoveryProgress) (event : ServingEvent) :
    Noted progress (progress.noteCompletion event) := by
  cases event with
  | generationCompleted requestId reason usage stopSequence =>
      exact ⟨rfl, rfl, rfl, rfl, rfl, rfl, rfl, rfl⟩
  | _ => exact Noted.refl progress

theorem drives_recordTerminal {terminal : ServingEvent} {seen : Measurements}
    (driving : Driving config first thread progress) :
    Drives config first thread (fun _ next => Noted progress next) (recordTerminal terminal seen)
      progress := by
  apply drives_note driving
  exact fun outside => recordTerminalAttempt_noted progress terminal seen _ false

/-- A decision for another attempt is within the budget, before anything semantic. -/
theorem drives_judgeFailure {terminal : ServingEvent} {error : CanonicalError} {seen : Measurements}
    (driving : Driving config first thread progress) :
    Drives config first thread (fun decision next => Noted progress next ∧
        (decision.kind ≠ .none → progress.attemptOrdinal ≤ config.maxExtraAttempts ∧
          progress.published = false))
      (judgeFailure config terminal error seen) progress := by
  apply drives_advance driving
  intro _ outside
  have noted := recordTerminalAttempt_noted progress terminal seen outside.attemptMeasurements
    ((classifyAttemptRecovery (progress.evidence config outside.leaseReplaySafe error)).kind ≠
      .none)
  refine ⟨noted.driving driving, noted, ?_⟩
  intro recovers
  rcases classifyAttemptRecovery_room recovers with ⟨within, unpublished⟩
  refine ⟨within, ?_⟩
  cases published : progress.published with
  | false => rfl
  | true =>
      rw [RecoveryProgress.evidence, published] at unpublished
      cases unpublished

/-! ## The log while an attempt is current -/

theorem not_semantic_of_started {event : ServingEvent} (isStart : event.isStarted = true)
    (inner : GenerationEvent) : event ≠ .semantic inner := by
  intro equal
  rw [equal] at isStart
  cases isStart

theorem not_terminal_of_started {event : ServingEvent} (isStart : event.isStarted = true) :
    event.isTerminal = false := by
  cases event with
  | generationStarted requestId => rfl
  | _ => cases isStart

theorem ordered_append {log : List Publication}
    (unended : ∀ publication ∈ log, publication.event.isTerminal = false) (last : Publication) :
    Ordered (log ++ [last]) := by
  rw [Ordered, List.dropLast_concat]
  exact unended

theorem ordered_of_unended {log : List Publication}
    (unended : ∀ publication ∈ log, publication.event.isTerminal = false) : Ordered log :=
  fun publication inside => unended publication (List.mem_of_mem_dropLast inside)

/-- What is published of a stream from its beginning is ordered as the stream is. -/
theorem AttemptStream.ordered (stream : AttemptStream) (attempt : Nat) {events : List ServingEvent}
    (isPrefix : events <+: stream.events) : Ordered (publicationsOf attempt events) := by
  rcases stream.endsOnce with ⟨front, last, split, _, before⟩
  intro publication inside
  rw [publicationsOf, ← List.map_dropLast] at inside
  rcases List.mem_map.mp inside with ⟨event, found, rfl⟩
  apply before
  rw [split] at isPrefix
  rcases List.prefix_concat_iff.mp isPrefix with whole | short
  · rw [whole, List.dropLast_concat] at found
    exact found
  · exact short.subset (List.mem_of_mem_dropLast found)

theorem LogSound.of_parts {ordinal : Nat} {streams : List AttemptStream}
    {starts own made : List Publication}
    (begins : streams.head? = some first) (found : streams[attempt]? = some stream)
    (givenUp : GivenUp first attempt starts)
    (events : OwnEvents attempt stream.events stream.events own) (isMade : Made made)
    (ordered : Ordered (starts ++ own ++ made))
    (unseen : 2 ≤ ordinal → ∀ publication ∈ own, publication.attempt = some 0 →
      ∀ event, publication.event ≠ .semantic event) :
    LogSound first ordinal streams (starts ++ own ++ made) := by
  constructor
  · exact begins
  · exact ⟨attempt, stream, starts, own, made, found, rfl, givenUp, events, isMade⟩
  · exact ordered
  · intro more publication inside isFirst
    simp only [List.mem_append] at inside
    rcases inside with (start | mine) | last
    · exact not_semantic_of_started (givenUp.firstStart publication start).2.2.1
    · exact unseen more publication mine isFirst
    · rcases isMade with rfl | ⟨event, rfl, _⟩
      · cases last
      · cases List.mem_singleton.mp last
        cases isFirst

/-- No attempt has followed the current one. -/
theorem Current.logSound (current : Current stream attempt progress)
    (begins : progress.streams.head? = some first) {starts own : List Publication}
    (givenUp : GivenUp first attempt starts)
    (events : OwnEvents attempt stream.events stream.events own)
    (ordered : Ordered (starts ++ own)) :
    LogSound first progress.attemptOrdinal progress.streams (starts ++ own) := by
  rw [← List.append_nil (starts ++ own)] at ordered ⊢
  apply LogSound.of_parts begins current.found givenUp events (.inl rfl) ordered
  intro more publication mine isFirst
  rw [events.attempts publication mine] at isFirst
  have isZero := Option.some.inj isFirst
  have counted := current.ordinal_eq
  omega

/-- The log is of one attempt, which ends soon; staged events may still be published. -/
structure Closing (first stream : AttemptStream) (attempt : Nat)
    (consumed staged : List ServingEvent) (progress : RecoveryProgress) : Prop where
  found : progress.streams[attempt]? = some stream
  log : ∃ starts own, progress.publications = starts ++ own ∧ GivenUp first attempt starts ∧
    OwnEvents attempt stream.events consumed (own ++ publicationsOf attempt staged)
  part : consumed.Sublist stream.events
  unended : ∀ publication ∈ progress.publications, publication.event.isTerminal = false
  held : ∀ event ∈ staged, (isStagedToolEvent event || isAttemptDiagnosticEvent event) = true

/-- What is held back is neither a start nor the end. -/
theorem plain_of_held {event : ServingEvent}
    (held : (isStagedToolEvent event || isAttemptDiagnosticEvent event) = true) :
    event.isTerminal = false ∧ event.isStarted = false := by
  cases event with
  | semantic inner => exact ⟨rfl, rfl⟩
  | timingUpdated requestId timing => exact ⟨rfl, rfl⟩
  | usageUpdated requestId usage => exact ⟨rfl, rfl⟩
  | _ => cases held

/-- Of what is held back, a tool event is not published when the attempt ends. -/
theorem not_semantic_of_drained {staged : List ServingEvent}
    (held : ∀ event ∈ staged, (isStagedToolEvent event || isAttemptDiagnosticEvent event) = true)
    {event : ServingEvent} (drained : event ∈ drainStagedForPublication staged false)
    (inner : GenerationEvent) : event ≠ .semantic inner := by
  rintro rfl
  rcases List.mem_filter.mp drained with ⟨inside, kept⟩
  have isHeld := held _ inside
  have notDiagnostic : isAttemptDiagnosticEvent (.semantic inner) = false := rfl
  rw [notDiagnostic, Bool.or_false] at isHeld
  rw [isHeld] at kept
  cases kept

theorem staged_of_not_public {inner : GenerationEvent}
    (notPublic : ¬isPublicSemanticEvent (.semantic inner) = true) :
    isStagedToolEvent (.semantic inner) = true := by
  cases inner with
  | toolCallStarted _ _ _ _ => rfl
  | toolCallArgumentsDelta _ _ _ _ => rfl
  | _ => exact absurd rfl notPublic

theorem Closing.note {consumed staged : List ServingEvent}
    (closing : Closing first stream attempt consumed staged progress)
    (noted : Noted progress next) : Closing first stream attempt consumed staged next := by
  constructor
  · rw [noted.streams]
    exact closing.found
  · rw [noted.publications]
    exact closing.log
  · exact closing.part
  · rw [noted.publications]
    exact closing.unended
  · exact closing.held

theorem Closing.unended_append {consumed staged released : List ServingEvent}
    (closing : Closing first stream attempt consumed staged progress)
    (part : released.Sublist staged) :
    ∀ publication ∈ progress.publications ++ publicationsOf attempt released,
      publication.event.isTerminal = false := by
  intro publication inside
  rcases List.mem_append.mp inside with old | new
  · exact closing.unended publication old
  · rcases List.mem_map.mp new with ⟨event, found, rfl⟩
    exact (plain_of_held (closing.held event (part.subset found))).1

/-- The attempt stays as it is when a retry is refused. -/
theorem Closing.refused {consumed staged : List ServingEvent} {failure : Option ServingEvent}
    (closing : Closing first stream attempt consumed staged progress)
    (retried : Retried progress failure next) :
    Closing first stream attempt consumed staged next := by
  constructor
  · rcases retried.streams with ⟨same, _⟩ | ⟨added, extended, _⟩
    · rw [same]
      exact closing.found
    · rw [extended, List.getElem?_append_left (List.getElem?_eq_some_iff.mp closing.found).1]
      exact closing.found
  · rw [retried.publications]
    exact closing.log
  · exact closing.part
  · rw [retried.publications]
    exact closing.unended
  · exact closing.held

/-- What may be published of a closing attempt keeps the log sound. -/
theorem Closing.logSound {consumed staged : List ServingEvent}
    {starts own more made : List Publication}
    (closing : Closing first stream attempt consumed staged progress)
    (sound : LogSound first progress.attemptOrdinal progress.streams progress.publications)
    (split : progress.publications = starts ++ own) (givenUp : GivenUp first attempt starts)
    (events : OwnEvents attempt stream.events stream.events (own ++ more))
    (plain : ∀ publication ∈ more, ∀ event, publication.event ≠ .semantic event)
    (isMade : Made made) (ordered : Ordered (progress.publications ++ more ++ made)) :
    LogSound first progress.attemptOrdinal progress.streams
      (progress.publications ++ more ++ made) := by
  have whole : progress.publications ++ more ++ made = starts ++ (own ++ more) ++ made := by
    rw [split, List.append_assoc starts]
  rw [whole] at ordered ⊢
  apply LogSound.of_parts sound.begins closing.found givenUp events isMade ordered
  intro two publication inside isFirst
  rcases List.mem_append.mp inside with old | new
  · apply sound.unseen two publication ?_ isFirst
    rw [split]
    exact List.mem_append_right _ old
  · exact plain publication new

/-! ## Endings -/

theorem drives_marked (driving : Driving config first thread progress)
    (lastly : Finished progress.streams progress.publications) :
    Drives config first thread (fun _ next => Finished next.streams next.publications) markTerminal
      progress := by
  apply drives_weaken (drives_markTerminal driving)
  intro _ next noted
  rw [noted.streams, noted.publications]
  exact lastly

theorem finished_append {streams : List AttemptStream} {log : List Publication} {last : Publication}
    (unended : ∀ publication ∈ log, publication.event.isTerminal = false)
    (isTerminal : last.event.isTerminal = true)
    (mine : last.attempt = none ∨ last.attempt = some (streams.length - 1)) :
    Finished streams (log ++ [last]) :=
  ⟨log, last, rfl, isTerminal, unended, mine⟩

/-- What is held back when the attempt ends, without the tool events. -/
theorem drives_publishHeld {consumed staged : List ServingEvent}
    (driving : Driving config first thread progress)
    (closing : Closing first stream attempt consumed staged progress) :
    Drives config first thread (fun _ next => Closing first stream attempt consumed [] next ∧
        next.streams = progress.streams)
      (publishAll attempt (drainStagedForPublication staged false)) progress := by
  rcases closing.log with ⟨starts, own, split, givenUp, events⟩
  have part : (drainStagedForPublication staged false).Sublist staged := List.filter_sublist
  have ours : ∀ published : List ServingEvent,
      published.Sublist (drainStagedForPublication staged false) →
        OwnEvents attempt stream.events consumed (own ++ publicationsOf attempt published) := by
    intro published fewer
    exact events.sublist ((List.Sublist.refl own).append ((fewer.trans part).map _))
  apply drives_weaken
  · apply drives_publishAll driving
    intro published isPrefix
    have plain : ∀ publication ∈ publicationsOf attempt published, ∀ event,
        publication.event ≠ .semantic event := by
      intro publication inside
      rcases List.mem_map.mp inside with ⟨event, found, rfl⟩
      exact not_semantic_of_drained closing.held (isPrefix.subset found)
    have unended := closing.unended_append (isPrefix.sublist.trans part)
    have sound := closing.logSound driving.log split givenUp
      ((ours published isPrefix.sublist).mono closing.part) plain (.inl rfl)
      (ordered_of_unended (by rw [List.append_nil]; exact unended))
    rw [List.append_nil] at sound
    exact sound
  · rintro _ _ rfl
    refine ⟨?_, rfl⟩
    constructor
    · exact closing.found
    · refine ⟨starts, own ++ publicationsOf attempt (drainStagedForPublication staged false), ?_,
        givenUp, ?_⟩
      · rw [RecoveryProgress.publishAll, split, List.append_assoc]
      · have all := ours _ (List.Sublist.refl _)
        rw [publicationsOf_nil, List.append_nil]
        exact all
    · exact closing.part
    · exact closing.unended_append part
    · exact fun _ none => absurd none List.not_mem_nil

/-- The terminal event of the attempt. -/
theorem drives_publishLast {consumed rest : List ServingEvent} {terminal : ServingEvent}
    (driving : Driving config first thread progress)
    (closing : Closing first stream attempt consumed [] progress)
    (number : progress.streams.length = attempt + 1)
    (split : stream.events = consumed ++ terminal :: rest)
    (isTerminal : terminal.isTerminal = true) :
    Drives config first thread (fun _ next => Finished next.streams next.publications)
      (publishEvent (some attempt) terminal) progress := by
  rcases closing.log with ⟨starts, own, log, givenUp, events⟩
  rw [publicationsOf_nil, List.append_nil] at events
  have part : (consumed ++ [terminal]).Sublist stream.events := by
    rw [split]
    exact (List.Sublist.refl consumed).append (by simp)
  apply drives_weaken
  · apply drives_publishEvent driving
    have plain : ∀ publication ∈ [(⟨some attempt, terminal⟩ : Publication)], ∀ event,
        publication.event ≠ .semantic event := by
      intro publication inside event equal
      cases List.mem_singleton.mp inside
      dsimp only at equal
      rw [equal] at isTerminal
      cases isTerminal
    have sound := closing.logSound driving.log log givenUp ((events.append terminal).mono part)
      plain (.inl rfl) (by rw [List.append_nil]; exact ordered_append closing.unended _)
    rw [List.append_nil] at sound
    exact sound
  · rintro _ _ rfl
    apply finished_append closing.unended isTerminal (.inr ?_)
    exact congrArg (fun length => some (length - 1)) number.symm

/-- A terminal event that the session makes. -/
theorem drives_publishMade {consumed : List ServingEvent} {failure : ServingEvent}
    (driving : Driving config first thread progress)
    (closing : Closing first stream attempt consumed [] progress)
    (isTerminal : failure.isTerminal = true) :
    Drives config first thread (fun _ next => Finished next.streams next.publications)
      (publishEvent none failure) progress := by
  rcases closing.log with ⟨starts, own, log, givenUp, events⟩
  apply drives_weaken
  · apply drives_publishEvent driving
    have sound := closing.logSound driving.log log givenUp (events.mono closing.part)
      (fun _ none => absurd none List.not_mem_nil) (.inr ⟨failure, rfl, isTerminal⟩)
      (by rw [publicationsOf_nil, List.append_nil]; exact ordered_append closing.unended _)
    rw [publicationsOf_nil, List.append_nil] at sound
    exact sound
  · rintro _ _ rfl
    exact finished_append closing.unended isTerminal (.inl rfl)

theorem drives_publishOutcome {consumed rest : List ServingEvent} {terminal : ServingEvent}
    {failure : Option ServingEvent} (driving : Driving config first thread progress)
    (closing : Closing first stream attempt consumed [] progress)
    (number : failure = none → progress.streams.length = attempt + 1)
    (split : stream.events = consumed ++ terminal :: rest)
    (isTerminal : terminal.isTerminal = true)
    (failureTerminal : ∀ event ∈ failure, event.isTerminal = true) :
    Drives config first thread (fun _ next => Finished next.streams next.publications)
      (publishOutcome attempt terminal failure) progress := by
  cases failure with
  | none => exact drives_publishLast driving closing (number rfl) split isTerminal
  | some event => exact drives_publishMade driving closing (failureTerminal event rfl)

/-! ## Recovery that is out of the question -/

theorem noteUnavailable_noted (event : ServingEvent) (seen : Measurements)
    (progress : RecoveryProgress) (outside : RecoverySurroundings) :
    Noted progress (noteUnavailable config event seen progress outside) := by
  have terminalAttempt : ∀ noted : RecoveryProgress, Noted progress noted →
      Noted progress (if event.isTerminal then
        noted.recordTerminalAttempt event seen outside.attemptMeasurements false else noted) := by
    intro noted same
    by_cases isTerminal : event.isTerminal = true
    · rw [if_pos isTerminal]
      exact same.trans (recordTerminalAttempt_noted noted event seen _ false)
    · rw [if_neg isTerminal]
      exact same
  apply terminalAttempt
  cases event with
  | generationFailed requestId error =>
      dsimp only
      by_cases extra : 0 < config.maxExtraAttempts
      · rw [if_pos extra]
        exact ⟨rfl, rfl, rfl, rfl, rfl, rfl, rfl, rfl⟩
      · rw [if_neg extra]
        exact Noted.refl progress
  | _ => exact noteCompletion_noted progress _

theorem drives_passThrough {consumed remaining : List ServingEvent} {seen : Measurements}
    (driving : Driving config first thread progress)
    (current : Current stream 0 progress) (split : stream.events = consumed ++ remaining)
    (log : progress.publications = publicationsOf 0 consumed) :
    Drives config first thread (fun _ next => Finished next.streams next.publications)
      (passThrough config 0 remaining seen) progress := by
  induction remaining generalizing consumed seen progress with
  | nil =>
      apply drives_weaken (drives_markTerminal driving)
      intro _ next noted
      rw [noted.publications, log, ← List.append_nil consumed, ← split]
      exact stream.finished (current.note noted).number
  | cons event events induction =>
      rw [passThrough]
      apply drives_bind _ (drives_pause driving)
      intro _ _ driving equal
      subst equal
      apply drives_bind _ (drives_note driving fun outside => noteUnavailable_noted _ _ _ outside)
      intro _ noting driving noted
      have after : (noting.publish (some 0) event).publications =
          publicationsOf 0 (consumed ++ [event]) := by
        rw [RecoveryProgress.publish, noted.publications, log, publicationsOf_append]
        rfl
      have split : stream.events = consumed ++ [event] ++ events := by
        rw [split, List.append_cons]
      apply drives_bind
      · apply drives_publishEvent driving
        have isPrefix : consumed ++ [event] <+: stream.events := ⟨events, split.symm⟩
        rw [after, ← List.nil_append (publicationsOf 0 _)]
        exact (current.note noted).logSound driving.log.begins (.none first 0)
          (OwnEvents.ofSublist 0 stream.events isPrefix.sublist) (stream.ordered 0 isPrefix)
      · rintro _ _ driving rfl
        exact induction driving ((current.note noted).published _) split after

/-! ## Buffered attempts -/

/-- All of an attempt that was kept back. -/
theorem drives_publishStream (driving : Driving config first thread progress)
    (current : Current stream attempt progress) (log : progress.publications = []) :
    Drives config first thread (fun _ next => Finished next.streams next.publications)
      (do publishAll attempt stream.events; markTerminal) progress := by
  apply drives_bind
  · apply drives_publishAll driving
    intro published isPrefix
    rw [RecoveryProgress.publishAll, log]
    exact current.logSound driving.log.begins (.none first attempt)
      (OwnEvents.ofSublist attempt stream.events isPrefix.sublist) (stream.ordered attempt isPrefix)
  · rintro _ _ driving rfl
    apply drives_weaken (drives_markTerminal driving)
    intro _ next noted
    rw [noted.publications, RecoveryProgress.publishAll, log]
    apply stream.finished
    rw [noted.streams]
    exact current.number

/-- Nothing is published before the attempt ends. -/
theorem Current.closing (current : Current stream attempt progress)
    (log : progress.publications = []) {front : List ServingEvent} {last : ServingEvent}
    (split : stream.events = front ++ [last]) :
    Closing first stream attempt front [] progress := by
  constructor
  · exact current.found
  · exact ⟨[], [], log, .none first attempt, .none attempt stream.events front⟩
  · rw [split]
    exact List.sublist_append_left _ _
  · rw [log]
    exact fun _ none => absurd none List.not_mem_nil
  · exact fun _ none => absurd none List.not_mem_nil

theorem drives_bufferedAttempts {fuel : Nat} (driving : Driving config first thread progress)
    (counted : progress.attemptOrdinal = progress.streams.length)
    (enough : config.maxExtraAttempts + 2 ≤ fuel + progress.attemptOrdinal)
    (log : progress.publications = []) :
    Drives config first thread (fun _ next => Finished next.streams next.publications)
      (bufferedAttempts config fuel) progress := by
  induction fuel generalizing progress with
  | zero =>
      have within := driving.budget.ordinal
      omega
  | succ fuel induction =>
      rw [bufferedAttempts]
      apply drives_bind _ (drives_currentAttempt driving counted)
      rintro ⟨attempt, _⟩ _ driving ⟨rfl, stream, rfl, current⟩
      apply drives_bind _ (drives_pause driving)
      rintro _ _ driving rfl
      rcases stream.endsOnce with ⟨front, last, split, isTerminal, _⟩
      have ends : stream.events.getLast? = some last := by
        rw [split, List.getLast?_concat]
      dsimp only
      rw [ends]
      have closing : Closing first stream _ front [] _ := current.closing log split
      cases last with
      | generationFailed requestId error =>
          apply drives_bind _ (drives_judgeFailure driving)
          intro decision judged driving facts
          rcases facts with ⟨noted, allowed⟩
          have room : decision.kind ≠ .none → Room config judged := by
            intro recovers
            constructor
            · rw [noted.ordinal]
              exact (allowed recovers).1
            · rw [noted.publications, log]
              exact fun _ none => absurd none List.not_mem_nil
          apply drives_bind _ (drives_startRetryOrFailure driving room)
          rintro failure settled driving (⟨skipped, rfl, same⟩ | ⟨recovers, retried⟩)
          · rw [if_neg (fun both => both.1 skipped)]
            have closes := (closing.note noted).note same
            have number := ((current.note noted).note same).number
            apply drives_bind _ (drives_publishOutcome driving closes (fun _ => number) split
              isTerminal fun _ found => by cases found)
            intro _ _ driving lastly
            exact drives_marked driving lastly
          · cases failure with
            | none =>
                rw [if_pos ⟨recovers, rfl⟩]
                rcases retried.streams with ⟨_, absurdly⟩ | ⟨_, extended, ordinal⟩
                · exact absurd rfl absurdly
                apply induction driving
                · rw [ordinal, noted.ordinal, extended, noted.streams, List.length_append, counted]
                  rfl
                · rw [ordinal, noted.ordinal]
                  omega
                · rw [retried.publications, noted.publications, log]
            | some event =>
                rw [if_neg (fun both => by cases both.2)]
                have closes := (closing.note noted).refused retried
                apply drives_bind _ (drives_publishOutcome driving closes
                  (fun none => by cases none) split isTerminal retried.terminal)
                intro _ _ driving lastly
                exact drives_marked driving lastly
      | generationCancelled requestId =>
          apply drives_bind _ (drives_recordTerminal driving)
          intro _ _ driving noted
          apply drives_bind _ (drives_publishLast driving (closing.note noted)
            (current.note noted).number split rfl)
          intro _ _ driving lastly
          exact drives_marked driving lastly
      | generationCompleted requestId reason usage stopSequence =>
          apply drives_bind _ (drives_recordTerminal driving)
          intro _ recorded driving noted
          apply drives_bind _ (drives_note driving fun _ => noteCompletion_noted _ _)
          intro _ completed driving same
          apply drives_publishStream driving ((current.note noted).note same)
          rw [same.publications, noted.publications, log]
      | _ => cases isTerminal

/-! ## Streamed attempts -/

/-- At the start of an attempt no more is published than one start. -/
structure Begins (first : AttemptStream) (ordinal : Nat) (progress : RecoveryProgress) : Prop where
  ordinal_eq : progress.attemptOrdinal = ordinal
  counted : progress.attemptOrdinal = progress.streams.length
  givenUp : GivenUp first (progress.streams.length - 1) progress.publications
  unpublished : progress.published = false
  onlyStarts : ∀ publication ∈ progress.publications, publication.event.isStarted = true
  claimed : progress.publications ≠ [] → progress.externalStarted = true

/-- In the middle of an attempt. While nothing semantic is published, a start is all that
is; from then on nothing is held back. -/
structure Streaming (first stream : AttemptStream) (attempt ordinal : Nat)
    (consumed remaining staged : List ServingEvent) (progress : RecoveryProgress) : Prop extends
    Closing first stream attempt consumed staged progress where
  current : Current stream attempt progress
  ordinal_eq : progress.attemptOrdinal = ordinal
  split : stream.events = consumed ++ remaining
  ahead : ∀ event ∈ consumed, event.isTerminal = false
  onlyStarts : progress.published = false →
    (∀ publication ∈ progress.publications, publication.event.isStarted = true) ∧
    progress.publications.length ≤ if progress.externalStarted then 1 else 0
  nothingHeld : progress.published = true → staged = []

namespace Streaming

variable {ordinal : Nat} {consumed remaining staged : List ServingEvent} {event : ServingEvent}

theorem begin (current : Current stream attempt progress) (begins : Begins first ordinal progress) :
    Streaming first stream attempt ordinal [] stream.events [] progress := by
  have number : progress.streams.length - 1 = attempt := by
    rw [current.number]
    rfl
  have givenUp := begins.givenUp
  rw [number] at givenUp
  constructor
  · constructor
    · exact current.found
    · refine ⟨progress.publications, [], (List.append_nil _).symm, givenUp, ?_⟩
      exact .none attempt stream.events []
    · exact List.nil_sublist _
    · intro publication inside
      exact not_terminal_of_started (begins.onlyStarts publication inside)
    · exact fun _ none => absurd none List.not_mem_nil
  · exact current
  · exact begins.ordinal_eq
  · rfl
  · exact fun _ none => absurd none List.not_mem_nil
  · intro _
    refine ⟨begins.onlyStarts, ?_⟩
    cases claimed : progress.externalStarted with
    | true => exact givenUp.atMostOne
    | false =>
        have nothing : progress.publications = [] := by
          apply Classical.byContradiction
          intro some
          have started := begins.claimed some
          rw [claimed] at started
          cases started
        rw [nothing]
        exact Nat.le_refl 0
  · exact fun _ => rfl

/-- The stream ends in a terminal event. -/
theorem not_over (streaming : Streaming first stream attempt ordinal consumed [] staged progress) :
    False := by
  rcases stream.endsOnce with ⟨front, last, split, isTerminal, _⟩
  have inside : last ∈ consumed := by
    have whole := streaming.split
    rw [List.append_nil] at whole
    rw [← whole, split]
    exact List.mem_append_right _ List.mem_cons_self
  rw [streaming.ahead last inside] at isTerminal
  cases isTerminal

theorem ahead_append
    (streaming : Streaming first stream attempt ordinal consumed (event :: remaining)
    staged progress) (notTerminal : event.isTerminal = false) :
    ∀ other ∈ consumed ++ [event], other.isTerminal = false := by
  intro other inside
  rcases List.mem_append.mp inside with old | new
  · exact streaming.ahead other old
  · cases List.mem_singleton.mp new
    exact notTerminal

theorem split_append
    (streaming : Streaming first stream attempt ordinal consumed (event :: remaining)
    staged progress) : stream.events = consumed ++ [event] ++ remaining := by
  rw [streaming.split, List.append_cons]

theorem part_append
    (streaming : Streaming first stream attempt ordinal consumed (event :: remaining)
    staged progress) : (consumed ++ [event]).Sublist stream.events := by
  rw [streaming.split_append]
  exact List.sublist_append_left _ _

/-- A start that is not the first is passed over. -/
theorem skip (streaming : Streaming first stream attempt ordinal consumed (event :: remaining)
    staged progress) (notTerminal : event.isTerminal = false) :
    Streaming first stream attempt ordinal (consumed ++ [event]) remaining staged progress := by
  rcases streaming.log with ⟨starts, own, log, givenUp, events⟩
  constructor
  · constructor
    · exact streaming.found
    · exact ⟨starts, own, log, givenUp, events.mono (List.sublist_append_left _ _)⟩
    · exact streaming.part_append
    · exact streaming.unended
    · exact streaming.held
  · exact streaming.current
  · exact streaming.ordinal_eq
  · exact streaming.split_append
  · exact streaming.ahead_append notTerminal
  · exact streaming.onlyStarts
  · exact streaming.nothingHeld

/-- The first start is published at once, ahead of what is held back. -/
theorem start (streaming : Streaming first stream attempt ordinal consumed (event :: remaining)
    staged progress) (isStart : event.isStarted = true)
    (unclaimed : progress.externalStarted = false) :
    Streaming first stream attempt ordinal (consumed ++ [event]) remaining staged
      (RecoveryProgress.publish { progress with externalStarted := true } (some attempt)
        event) := by
  rcases streaming.log with ⟨starts, own, log, givenUp, events⟩
  have notTerminal := not_terminal_of_started isStart
  constructor
  · constructor
    · exact streaming.found
    · refine ⟨starts, own ++ [⟨some attempt, event⟩], ?_, givenUp, ?_⟩
      · rw [RecoveryProgress.publish, log, List.append_assoc]
      · exact events.start isStart streaming.split
    · exact streaming.part_append
    · intro publication inside
      rcases List.mem_append.mp inside with old | new
      · exact streaming.unended publication old
      · cases List.mem_singleton.mp new
        exact notTerminal
    · exact streaming.held
  · exact ⟨streaming.current.last, streaming.current.number, streaming.current.ordinal_eq⟩
  · exact streaming.ordinal_eq
  · exact streaming.split_append
  · exact streaming.ahead_append notTerminal
  · intro unpublished
    rcases streaming.onlyStarts unpublished with ⟨starts, few⟩
    rw [unclaimed] at few
    have nothing := List.length_eq_zero_iff.mp (Nat.le_zero.mp few)
    rw [RecoveryProgress.publish, nothing]
    refine ⟨?_, Nat.le_refl 1⟩
    intro publication inside
    cases List.mem_singleton.mp inside
    exact isStart
  · exact streaming.nothingHeld

/-- The event waits for a decision. -/
theorem hold (streaming : Streaming first stream attempt ordinal consumed (event :: remaining)
    staged progress)
    (isHeld : (isStagedToolEvent event || isAttemptDiagnosticEvent event) = true)
    (unpublished : progress.published = false) :
    Streaming first stream attempt ordinal (consumed ++ [event]) remaining (staged ++ [event])
      progress := by
  rcases streaming.log with ⟨starts, own, log, givenUp, events⟩
  constructor
  · constructor
    · exact streaming.found
    · refine ⟨starts, own, log, givenUp, ?_⟩
      rw [publicationsOf_append, ← List.append_assoc]
      exact events.append event
    · exact streaming.part_append
    · exact streaming.unended
    · intro other inside
      rcases List.mem_append.mp inside with old | new
      · exact streaming.held other old
      · cases List.mem_singleton.mp new
        exact isHeld
  · exact streaming.current
  · exact streaming.ordinal_eq
  · exact streaming.split_append
  · exact streaming.ahead_append (plain_of_held isHeld).1
  · exact streaming.onlyStarts
  · intro published
    rw [unpublished] at published
    cases published

/-- Something semantic is published, behind what is released of the events held back. -/
theorem publish (streaming : Streaming first stream attempt ordinal consumed (event :: remaining)
    staged progress) {drained : List ServingEvent} (part : drained.Sublist staged)
    (notTerminal : event.isTerminal = false) :
    Streaming first stream attempt ordinal (consumed ++ [event]) remaining []
      (RecoveryProgress.publish { progress.publishAll attempt drained with published := true }
        (some attempt) event) := by
  rcases streaming.log with ⟨starts, own, log, givenUp, events⟩
  constructor
  · constructor
    · exact streaming.found
    · refine ⟨starts, own ++ publicationsOf attempt drained ++ [⟨some attempt, event⟩], ?_, givenUp,
        ?_⟩
      · rw [RecoveryProgress.publish, RecoveryProgress.publishAll, log]
        simp only [List.append_assoc]
      · rw [publicationsOf_nil, List.append_nil]
        exact (events.sublist ((List.Sublist.refl own).append (part.map _))).append event
    · exact streaming.part_append
    · intro publication inside
      rcases List.mem_append.mp inside with old | new
      · exact streaming.unended_append part publication old
      · cases List.mem_singleton.mp new
        exact notTerminal
    · exact fun _ none => absurd none List.not_mem_nil
  · exact ⟨streaming.current.last, streaming.current.number, streaming.current.ordinal_eq⟩
  · exact streaming.ordinal_eq
  · exact streaming.split_append
  · exact streaming.ahead_append notTerminal
  · intro unpublished
    cases unpublished
  · exact fun _ => rfl

theorem logSound (streaming : Streaming first stream attempt ordinal consumed remaining staged
    progress) (begins : progress.streams.head? = some first) {released : List ServingEvent}
    (part : released.Sublist staged) :
    LogSound first progress.attemptOrdinal progress.streams
      (progress.publishAll attempt released).publications := by
  rcases streaming.log with ⟨starts, own, log, givenUp, events⟩
  have unended := streaming.unended_append part
  rw [RecoveryProgress.publishAll]
  rw [log, List.append_assoc] at unended ⊢
  exact streaming.current.logSound begins givenUp
    ((events.sublist ((List.Sublist.refl own).append (part.map _))).mono streaming.part)
    (ordered_of_unended unended)

theorem sound
    (streaming : Streaming first stream attempt ordinal consumed remaining staged progress)
    (begins : progress.streams.head? = some first) :
    LogSound first progress.attemptOrdinal progress.streams progress.publications := by
  have all := streaming.logSound begins (List.nil_sublist staged)
  rw [RecoveryProgress.publishAll, publicationsOf_nil, List.append_nil] at all
  exact all

/-- Before anything semantic is published, another attempt may begin. -/
theorem again {next : RecoveryProgress} (streaming : Streaming first stream attempt ordinal consumed
    remaining staged progress) (begins : progress.streams.head? = some first)
    (unpublished : progress.published = false) (isFirst : attempt = 0)
    (retried : Retried progress none next) : Begins first (ordinal + 1) next := by
  rcases streaming.onlyStarts unpublished with ⟨onlyStarts, few⟩
  rcases retried.streams with ⟨_, absurdly⟩ | ⟨added, extended, counted⟩
  · exact absurd rfl absurdly
  subst isFirst
  have number := streaming.current.number
  have isStream : stream = first := by
    have last := streaming.current.found
    rw [List.head?_eq_getElem?, last] at begins
    exact Option.some.inj begins
  subst isStream
  rcases streaming.log with ⟨starts, own, log, givenUp, events⟩
  constructor
  · rw [counted, streaming.ordinal_eq]
  · rw [counted, streaming.current.ordinal_eq, extended, List.length_append, number]
    rfl
  · rw [retried.publications, extended, List.length_append, number]
    constructor
    · apply Nat.le_trans few
      cases progress.externalStarted with
      | true => exact Nat.le_refl 1
      | false => exact Nat.zero_le 1
    · intro publication inside
      have isStart := onlyStarts publication inside
      rw [log] at inside
      rcases List.mem_append.mp inside with old | mine
      · exact absurd (givenUp.firstStart publication old).1 (Nat.lt_irrefl 0)
      · have known := List.mem_append_left (publicationsOf 0 staged) mine
        exact ⟨Nat.one_pos, events.attempts publication known, isStart,
          streaming.part.subset (events.members publication known)⟩
  · rw [retried.published]
    exact unpublished
  · rw [retried.publications]
    exact onlyStarts
  · rw [retried.publications, retried.externalStarted]
    intro some
    cases claimed : progress.externalStarted with
    | true => rfl
    | false =>
        rw [claimed] at few
        exact absurd (List.length_eq_zero_iff.mp (Nat.le_zero.mp few)) some

end Streaming

def Outcome (first : AttemptStream) (ordinal : Nat) (again : Bool) (progress : RecoveryProgress) :
    Prop :=
  if again then Begins first (ordinal + 1) progress
  else Finished progress.streams progress.publications

theorem drives_concluded {ordinal : Nat} (driving : Driving config first thread progress)
    (lastly : Finished progress.streams progress.publications) :
    Drives config first thread (Outcome first ordinal)
      (do markTerminal; return false) progress := by
  apply drives_bind _ (drives_marked driving lastly)
  intro _ _ driving lastly
  exact drives_pure driving lastly

theorem drives_settleFailed {ordinal : Nat} {consumed remaining staged : List ServingEvent}
    {requestId : PyStr} {error : CanonicalError} {seen : Measurements}
    (driving : Driving config first thread progress)
    (streaming : Streaming first stream attempt ordinal consumed
      (.generationFailed requestId error :: remaining) staged progress) :
    Drives config first thread (Outcome first ordinal)
      (settleFailed config attempt requestId error staged seen) progress := by
  have begins := driving.log.begins
  have streams := driving.budget.streams
  rw [streaming.current.number] at streams
  rw [settleFailed]
  apply drives_bind _ (drives_judgeFailure driving)
  rintro decision judged driving ⟨noted, allowed⟩
  have room : decision.kind ≠ .none → Room config judged := by
    intro recovers
    rcases allowed recovers with ⟨within, unpublished⟩
    constructor
    · rw [noted.ordinal]
      exact within
    · rw [noted.publications]
      exact (streaming.onlyStarts unpublished).1
  apply drives_bind _ (drives_startRetryOrFailure driving room)
  rintro failure settled driving (⟨skipped, rfl, same⟩ | ⟨recovers, retried⟩)
  · rw [if_neg (fun both => both.1 skipped)]
    apply drives_bind _ (drives_publishHeld driving ((streaming.toClosing.note noted).note same))
    rintro _ _ driving ⟨closing, unchanged⟩
    have number := ((streaming.current.note noted).note same).number
    rw [← unchanged] at number
    apply drives_bind _ (drives_publishOutcome driving closing (fun _ => number) streaming.split rfl
      fun _ found => by cases found)
    intro _ _ driving lastly
    exact drives_concluded driving lastly
  · cases failure with
    | none =>
        rw [if_pos ⟨recovers, rfl⟩]
        apply drives_pure driving
        rcases allowed recovers with ⟨within, unpublished⟩
        apply streaming.again begins unpublished ?_ (noted.retried retried)
        rcases config.maxExtraAttemptsKnown with none | one
        · omega
        · omega
    | some event =>
        rw [if_neg (fun both => by cases both.2)]
        apply drives_bind _
          (drives_publishHeld driving ((streaming.toClosing.note noted).refused retried))
        rintro _ _ driving ⟨closing, _⟩
        apply drives_bind _ (drives_publishOutcome driving closing (fun none => by cases none)
          streaming.split rfl retried.terminal)
        intro _ _ driving lastly
        exact drives_concluded driving lastly

theorem drives_settleEnded {ordinal : Nat} {consumed remaining staged : List ServingEvent}
    {terminal : ServingEvent} {seen : Measurements} (driving : Driving config first thread progress)
    (streaming : Streaming first stream attempt ordinal consumed (terminal :: remaining) staged
      progress) (isTerminal : terminal.isTerminal = true) :
    Drives config first thread (Outcome first ordinal) (settleEnded attempt terminal staged seen)
      progress := by
  rw [settleEnded]
  apply drives_bind _ (drives_recordTerminal driving)
  intro _ _ driving noted
  apply drives_bind _ (drives_publishHeld driving (streaming.toClosing.note noted))
  rintro _ _ driving ⟨closing, unchanged⟩
  have number := (streaming.current.note noted).number
  rw [← unchanged] at number
  apply drives_bind _ (drives_note driving fun _ => noteCompletion_noted _ _)
  intro _ _ driving same
  rw [← same.streams] at number
  apply drives_bind _ (drives_publishLast driving (closing.note same) number streaming.split
    isTerminal)
  intro _ _ driving lastly
  exact drives_concluded driving lastly

/-- From the middle of an attempt, with these events to come, the loop ends as promised. -/
def StreamsOn (config : RecoveryConfig) (first : AttemptStream) (thread : Nat)
    (stream : AttemptStream) (attempt ordinal : Nat) (remaining : List ServingEvent) : Prop :=
  ∀ (progress : RecoveryProgress) (consumed staged : List ServingEvent) (seen : Measurements),
    Driving config first thread progress →
    Streaming first stream attempt ordinal consumed remaining staged progress →
    Drives config first thread (Outcome first ordinal)
      (streamAttempt config attempt remaining staged seen) progress

section Events

variable {ordinal : Nat} {consumed remaining staged : List ServingEvent} {event : ServingEvent}
  {seen : Measurements}

theorem drives_start (goesOn : StreamsOn config first thread stream attempt ordinal remaining)
    (driving : Driving config first thread progress)
    (streaming :
      Streaming first stream attempt ordinal consumed (event :: remaining) staged progress)
    (isStart : event.isStarted = true) :
    Drives config first thread (Outcome first ordinal)
      (do
        if ← claimStart then
          publishEvent (some attempt) event
        streamAttempt config attempt remaining staged seen) progress := by
  apply drives_bind (fun unclaimed next => unclaimed = !progress.externalStarted ∧
    next = { progress with externalStarted := true })
  · apply drives_advance driving
    intro _ _
    exact ⟨⟨driving.budget.same rfl rfl rfl, driving.log, driving.runner, driving.running⟩, rfl,
      rfl⟩
  · rintro unclaimed _ driving ⟨known, rfl⟩
    cases claimed : progress.externalStarted with
    | true =>
        rw [claimed, Bool.not_true] at known
        subst known
        have same : { progress with externalStarted := true } = progress := by
          rw [← claimed]
        rw [same] at driving ⊢
        exact goesOn _ _ _ _ driving (streaming.skip (not_terminal_of_started isStart))
    | false =>
        rw [claimed, Bool.not_false] at known
        subst known
        have after := streaming.start isStart claimed
        apply drives_bind
        · apply drives_publishEvent driving
          exact after.sound driving.log.begins
        · rintro _ _ driving rfl
          exact goesOn _ _ _ _ driving after

theorem drives_semantic (goesOn : StreamsOn config first thread stream attempt ordinal remaining)
    (driving : Driving config first thread progress)
    (streaming :
      Streaming first stream attempt ordinal consumed (event :: remaining) staged progress)
    (notTerminal : event.isTerminal = false) (toolValidated : Bool) :
    Drives config first thread (Outcome first ordinal)
      (do
        publishAll attempt (drainStagedForPublication staged toolValidated)
        change fun progress _ => { progress with published := true }
        publishEvent (some attempt) event
        streamAttempt config attempt remaining [] seen) progress := by
  have part : (drainStagedForPublication staged toolValidated).Sublist staged := List.filter_sublist
  have after := streaming.publish part notTerminal
  apply drives_bind
  · apply drives_publishAll driving
    intro published isPrefix
    exact streaming.logSound driving.log.begins (isPrefix.sublist.trans part)
  · rintro _ _ driving rfl
    apply drives_bind (fun _ next => next =
      { progress.publishAll attempt (drainStagedForPublication staged toolValidated) with
        published := true })
    · apply drives_advance driving
      intro _ _
      exact ⟨⟨driving.budget.same rfl rfl rfl, driving.log, driving.runner, driving.running⟩, rfl⟩
    · rintro _ _ driving rfl
      apply drives_bind
      · apply drives_publishEvent driving
        exact after.sound driving.log.begins
      · rintro _ _ driving rfl
        exact goesOn _ _ _ _ driving after

/-- Once something semantic is published, nothing is held back any more. -/
theorem drives_direct (goesOn : StreamsOn config first thread stream attempt ordinal remaining)
    (driving : Driving config first thread progress)
    (streaming :
      Streaming first stream attempt ordinal consumed (event :: remaining) staged progress)
    (notTerminal : event.isTerminal = false) (published : progress.published = true) :
    Drives config first thread (Outcome first ordinal)
      (do
        publishEvent (some attempt) event
        streamAttempt config attempt remaining staged seen) progress := by
  have nothing := streaming.nothingHeld published
  subst nothing
  have after := streaming.publish (List.nil_sublist []) notTerminal
  have same : { progress.publishAll attempt [] with published := true } = progress := by
    rw [RecoveryProgress.publishAll, publicationsOf_nil, List.append_nil, ← published]
  rw [same] at after
  apply drives_bind
  · apply drives_publishEvent driving
    exact after.sound driving.log.begins
  · rintro _ _ driving rfl
    exact goesOn _ _ _ _ driving after

end Events

theorem drives_streamAttempt {ordinal : Nat} (remaining : List ServingEvent) :
    StreamsOn config first thread stream attempt ordinal remaining := by
  induction remaining with
  | nil => exact fun _ _ _ _ _ streaming => streaming.not_over.elim
  | cons event events induction =>
      intro progress consumed staged seen driving streaming
      rw [streamAttempt]
      apply drives_bind _ (drives_pause driving)
      rintro _ after driving rfl
      by_cases isStart : event.isStarted = true
      · rw [if_pos isStart]
        exact drives_start induction driving streaming isStart
      rw [if_neg isStart]
      apply drives_bind (fun published next => published = after.published ∧ next = after)
      · apply drives_advance driving
        intro _ _
        exact ⟨driving, rfl, rfl⟩
      rintro published current driving ⟨rfl, rfl⟩
      by_cases holds : ((isStagedToolEvent event || isAttemptDiagnosticEvent event) &&
          !current.published) = true
      · rw [if_pos holds]
        rw [Bool.and_eq_true, Bool.not_eq_true'] at holds
        exact induction _ _ _ _ driving (streaming.hold holds.1 holds.2)
      rw [if_neg holds]
      by_cases isPublic : isPublicSemanticEvent event = true
      · rw [if_pos isPublic]
        have notTerminal : event.isTerminal = false := by
          cases event with
          | semantic inner => rfl
          | _ => cases isPublic
        exact drives_semantic induction driving streaming notTerminal _
      rw [if_neg isPublic]
      have direct : isStagedToolEvent event = true ∨ isAttemptDiagnosticEvent event = true →
          current.published = true := by
        intro isHeld
        rw [← Bool.or_eq_true] at isHeld
        rw [isHeld, Bool.true_and, Bool.not_eq_true', Bool.not_eq_false] at holds
        exact holds
      cases event with
      | generationFailed requestId error => exact drives_settleFailed driving streaming
      | generationCompleted requestId reason usage stopSequence =>
          exact drives_settleEnded driving streaming rfl
      | generationCancelled requestId => exact drives_settleEnded driving streaming rfl
      | generationStarted requestId => exact absurd rfl isStart
      | semantic inner =>
          exact drives_direct induction driving streaming rfl
            (direct (.inl (staged_of_not_public isPublic)))
      | timingUpdated requestId timing =>
          exact drives_direct induction driving streaming rfl (direct (.inr rfl))
      | usageUpdated requestId usage =>
          exact drives_direct induction driving streaming rfl (direct (.inr rfl))

theorem drives_streamingAttempts {fuel : Nat} {ordinal : Nat}
    (driving : Driving config first thread progress)
    (enough : config.maxExtraAttempts + 2 ≤ fuel + ordinal)
    (begins : Begins first ordinal progress) :
    Drives config first thread (fun _ next => Finished next.streams next.publications)
      (streamingAttempts config fuel) progress := by
  induction fuel generalizing ordinal progress with
  | zero =>
      have within := driving.budget.ordinal
      rw [begins.ordinal_eq] at within
      omega
  | succ fuel induction =>
      rw [streamingAttempts]
      apply drives_bind _ (drives_currentAttempt driving begins.counted)
      rintro ⟨attempt, _⟩ _ driving ⟨rfl, stream, rfl, current⟩
      have streaming := Streaming.begin current begins
      apply drives_bind _ (drives_streamAttempt _ _ _ _ _ driving streaming)
      intro again next driving outcome
      cases again with
      | true =>
          apply induction driving ?_ outcome
          omega
      | false => exact drives_pure driving outcome

end Loops

end ExQServe.Serving
