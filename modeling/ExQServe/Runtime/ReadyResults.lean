import ExQServe.Runtime.BackendEvents

/-! # Draining does not change the stream

A run of a session over streaming results takes them in batches of at most sixteen, and
every partition into such batches is what some schedule gives. So what a run delivers is
read off a partition. -/

namespace ExQServe.Runtime

open ExQServe.Model ExQServe.ToolWire RuntimeSession

variable {request : RuntimeGenerationRequest} {tables : ProvenanceTables}

/-! ## Single looks -/

def atAwait (request : RuntimeGenerationRequest) (tables : ProvenanceTables)
    (state : ConstraintEnforcementState) (results : List BackendResult) : RuntimeSession :=
  ⟨request, tables, state, [], false, true, results.map .result⟩

def betweenCalls (request : RuntimeGenerationRequest) (tables : ProvenanceTables)
    (state : ConstraintEnforcementState) (pending : List SessionEvent) (terminal : Bool)
    (results : List BackendResult) : RuntimeSession :=
  ⟨request, tables, state, pending, terminal, false, results.map .result⟩

def calmly (ready : Nat → Nat) (look : Nat) : Surroundings := .calm (ready look)

structure BatchDeltas (request : RuntimeGenerationRequest) (tables : ProvenanceTables)
    (batch : List BackendResult) (deltas : List RuntimeTextDelta) : Prop where
  text : deltas.flatMap RuntimeTextDelta.text = batch.flatMap BackendResult.textOrEmpty
  tokenIds : deltas.flatMap RuntimeTextDelta.tokenIds = keptTokenIds tables batch
  sound : ∀ delta ∈ deltas, SoundDelta request tables delta

def endEvents (request : RuntimeGenerationRequest) (state : ConstraintEnforcementState)
    (results : List BackendResult) : List SessionEvent :=
  (results.flatMap (resultEnd request)).map fun finish => project state (.finished finish)

def observed (state : ConstraintEnforcementState) (results : List BackendResult) :
    ConstraintEnforcementState := state.observeTokenIds (results.flatMap BackendResult.tokenIds)

def drained (ready : Nat) : Nat := min ready (readyStreamDrainMaxResults - 1)

theorem settle_atAwait (state : ConstraintEnforcementState) (results : List BackendResult)
    (events : List SessionEvent) :
    (atAwait request tables state results).settle events =
      match events with
      | [] => .waiting (atAwait request tables state results)
      | event :: pending => .event event
          (betweenCalls request tables state pending (isTerminal event) results) := by
  cases events <;> rfl

theorem advance_atAwait (state : ConstraintEnforcementState) {first : BackendResult}
    {rest : List BackendResult} (streams : Streams (first :: rest)) (ready : Nat) :
    ∃ deltas, BatchDeltas request tables (first :: rest.take (drained ready)) deltas ∧
      (atAwait request tables state (first :: rest)).advance (.calm ready) =
        match deltas.map SessionEvent.textDelta ++
          endEvents request (observed state (first :: rest.take (drained ready)))
            (first :: rest.take (drained ready)) with
        | [] => .waiting (atAwait request tables
            (observed state (first :: rest.take (drained ready))) (rest.drop (drained ready)))
        | event :: pending => .event event (betweenCalls request tables
            (observed state (first :: rest.take (drained ready))) pending (isTerminal event)
            (rest.drop (drained ready))) := by
  have batch : Streams (first :: rest.take (drained ready)) :=
    streams.sublist ((List.take_sublist _ _).cons_cons first)
  rcases (atAwait request tables state (rest.drop (drained ready))).turnEvents_spec batch with
    ⟨deltas, events, text, tokenIds, sound⟩
  refine ⟨deltas, ⟨text, tokenIds, sound⟩, ?_⟩
  have taken : (atAwait request tables state (first :: rest)).takeResults ready first
      (rest.map .result) = .ok (turnResults tables first (rest.take (drained ready)),
        (rest.drop (drained ready)).map .result) := by
    have both := drainReadyStreamResults_eq streams ready
    rw [takeResults]
    cases run : drainReadyStreamResults first ((rest.map QueueItem.result).take ready) with
    | error raised =>
        rw [run] at both
        cases both
    | ok found =>
        rw [run] at both
        simp only [Except.map, Except.ok.injEq, Prod.mk.injEq] at both ⊢
        refine ⟨?_, both.2⟩
        rw [both.1]
        rfl
  rw [advance]
  have turned : (atAwait request tables state (first :: rest)).turn (.calm ready) first
      (rest.map .result) = translate { atAwait request tables state (first :: rest) with
        backlog := (rest.drop (drained ready)).map .result } (.calm ready)
          (turnResults tables first (rest.take (drained ready))) := by
    have same : (Surroundings.calm ready).ready = ready := rfl
    rw [turn, same, taken]
  change (atAwait request tables state (first :: rest)).turn (.calm ready) first
    (rest.map .result) = _
  rw [turned]
  change (atAwait request tables state (rest.drop (drained ready))).translate (.calm ready)
    (turnResults tables first (rest.take (drained ready))) = _
  rw [show (atAwait request tables state (rest.drop (drained ready))).tables = tables from rfl]
    at events
  have calm : ¬(Surroundings.calm ready).generatorError = true := Bool.false_ne_true
  rw [RuntimeSession.translate, if_neg calm, events]
  change (atAwait request tables
    (observeResults state (turnResults tables first (rest.take (drained ready))))
    (rest.drop (drained ready))).settle _ = _
  rw [observe_turnResults, settle_atAwait]
  rfl

/-! ## Looks between calls -/

theorem advance_pending (state : ConstraintEnforcementState) (event : SessionEvent)
    (pending : List SessionEvent) (terminal : Bool) (results : List BackendResult) (ready : Nat) :
    (betweenCalls request tables state (event :: pending) terminal results).advance (.calm ready) =
      .event event
        (betweenCalls request tables state pending (terminal || isTerminal event) results) := rfl

theorem delivers_pending {state : ConstraintEnforcementState} {pending : List SessionEvent}
    {terminal : Bool} {results : List BackendResult} {ready : Nat → Nat}
    {events : List SessionEvent}
    (later : Delivers (calmly fun look => ready (look + pending.length))
      (betweenCalls request tables state [] (terminal || pending.any isTerminal) results) events) :
    Delivers (calmly ready) (betweenCalls request tables state pending terminal results)
      (pending ++ events) := by
  induction pending generalizing terminal ready with
  | nil =>
      rw [List.any_nil, Bool.or_false] at later
      exact later
  | cons event rest induction =>
      refine .event (advance_pending state event rest terminal results _) ?_
      refine @induction (terminal || isTerminal event) (fun look => ready (look + 1)) ?_
      rw [List.any_cons, ← Bool.or_assoc] at later
      exact later

/-- Pending events with an end among them are the last. -/
theorem delivers_ending {state : ConstraintEnforcementState} {pending : List SessionEvent}
    {terminal : Bool} {results : List BackendResult} (ready : Nat → Nat)
    (ended : (terminal || pending.any isTerminal) = true) :
    Delivers (calmly ready) (betweenCalls request tables state pending terminal results)
      pending := by
  have delivers : Delivers (calmly ready)
      (betweenCalls request tables state pending terminal results) (pending ++ []) := by
    apply delivers_pending
    rw [ended]
    exact .stopped rfl
  rw [List.append_nil] at delivers
  exact delivers

/-- A batch that is not the last: its deltas, and then what the rest brings. -/
theorem delivers_batch {state : ConstraintEnforcementState} {first : BackendResult}
    {rest : List BackendResult} (streams : Streams (first :: rest)) (count : Nat)
    (more : rest.drop (drained count) ≠ []) :
    ∃ deltas, BatchDeltas request tables (first :: rest.take (drained count)) deltas ∧
      ∀ ready events, ready 0 = count →
        Delivers (calmly fun look => ready (look + (deltas.length + 1)))
          (atAwait request tables (observed state (first :: rest.take (drained count)))
            (rest.drop (drained count))) events →
        Delivers (calmly ready) (atAwait request tables state (first :: rest))
          (deltas.map .textDelta ++ events) := by
  rcases @advance_atAwait request tables state first rest streams count with
    ⟨deltas, batch, advanced⟩
  refine ⟨deltas, batch, fun ready events here later => ?_⟩
  have noEnd : endEvents request (observed state (first :: rest.take (drained count)))
      (first :: rest.take (drained count)) = [] := by
    have whole : (first :: rest.take (drained count)) ++ rest.drop (drained count) =
        first :: rest := congrArg (List.cons first) (List.take_append_drop _ _)
    have openBatch := (whole ▸ streams : Streams _).open_batch more
    rw [endEvents, List.flatMap_eq_nil_iff.mpr, List.map_nil]
    intro result member
    rw [resultEnd, openBatch result member]
    rfl
  rw [noEnd, List.append_nil, ← here] at advanced
  rw [← here] at later
  cases deltas with
  | nil => exact .waiting advanced later
  | cons delta others =>
      refine .event advanced ?_
      have noTerminal : (others.map SessionEvent.textDelta).any isTerminal = false := by
        rw [List.any_map, List.any_eq_false]
        intro other _
        exact Bool.false_ne_true
      apply delivers_pending
      have sameLooks : (fun look => ready (look + ((delta :: others).length + 1))) =
          fun look => ready (look + 1 + others.length + 1) := by
        funext look
        rw [List.length_cons]
        congr 1
        omega
      rw [sameLooks] at later
      rw [noTerminal, List.length_map]
      exact .waiting rfl later

/-- The last batch: its deltas and the end, and then nothing. -/
theorem delivers_last {state : ConstraintEnforcementState} {first : BackendResult}
    {rest : List BackendResult} (streams : Streams (first :: rest)) (ready : Nat → Nat)
    (whole : rest.length ≤ drained (ready 0)) {finish : RuntimeFinished}
    (ends : (first :: rest).flatMap (resultEnd request) = [finish]) :
    ∃ deltas, BatchDeltas request tables (first :: rest) deltas ∧
      Delivers (calmly ready) (atAwait request tables state (first :: rest))
        (deltas.map .textDelta ++
          [project (observed state (first :: rest)) (.finished finish)]) := by
  rcases @advance_atAwait request tables state first rest streams (ready 0) with
    ⟨deltas, batch, advanced⟩
  rw [List.take_of_length_le whole, List.drop_of_length_le whole] at advanced
  rw [List.take_of_length_le whole] at batch
  rw [endEvents, ends, List.map_singleton] at advanced
  refine ⟨deltas, batch, ?_⟩
  cases deltas with
  | nil => exact .event advanced (delivers_ending _ rfl)
  | cons delta others =>
      refine .event advanced (delivers_ending (fun look => ready (look + 1)) ?_)
      change (false || (others.map SessionEvent.textDelta ++
        [project (observed state (first :: rest)) (.finished finish)]).any isTerminal) = true
      rw [List.any_append, Bool.false_or, Bool.or_eq_true_iff]
      exact .inr rfl

/-! ## Runs -/

structure Batches (results : List BackendResult) (batches : List (List BackendResult)) : Prop where
  whole : batches.flatten = results
  nonempty : ∀ batch ∈ batches, batch ≠ []
  bounded : ∀ batch ∈ batches, batch.length ≤ readyStreamDrainMaxResults

def BatchRun (request : RuntimeGenerationRequest) (tables : ProvenanceTables)
    (state : ConstraintEnforcementState) (batches : List (List BackendResult))
    (finish : RuntimeFinished) (events : List SessionEvent) : Prop :=
  ∃ deltas : List RuntimeTextDelta,
    events = deltas.map .textDelta ++
      [project (observed state batches.flatten) (.finished finish)] ∧
    deltas.flatMap RuntimeTextDelta.text = batches.flatten.flatMap BackendResult.textOrEmpty ∧
    deltas.flatMap RuntimeTextDelta.tokenIds = batches.flatMap (keptTokenIds tables) ∧
    ∀ delta ∈ deltas, SoundDelta request tables delta

theorem BatchRun.single {state : ConstraintEnforcementState} {batch : List BackendResult}
    {deltas : List RuntimeTextDelta} (brings : BatchDeltas request tables batch deltas)
    (finish : RuntimeFinished) :
    BatchRun request tables state [batch] finish
      (deltas.map .textDelta ++ [project (observed state batch) (.finished finish)]) := by
  have alone : [batch].flatten = batch := List.flatten_singleton
  refine ⟨deltas, by rw [alone], by rw [alone, brings.text], ?_, brings.sound⟩
  rw [List.flatMap_singleton, brings.tokenIds]

theorem BatchRun.cons {state : ConstraintEnforcementState} {batch : List BackendResult}
    {batches : List (List BackendResult)} {deltas : List RuntimeTextDelta}
    {finish : RuntimeFinished} {events : List SessionEvent}
    (brings : BatchDeltas request tables batch deltas)
    (run : BatchRun request tables (observed state batch) batches finish events) :
    BatchRun request tables state (batch :: batches) finish
      (deltas.map .textDelta ++ events) := by
  rcases run with ⟨others, rfl, text, tokenIds, sound⟩
  have sameState : observed state (batch :: batches).flatten =
      observed (observed state batch) batches.flatten := by
    rw [observed, observed, observed, observeTokenIds_append, List.flatten_cons,
      List.flatMap_append]
  refine ⟨deltas ++ others, ?_, ?_, ?_, ?_⟩
  · rw [sameState, List.map_append, List.append_assoc]
  · rw [List.flatMap_append, brings.text, text, List.flatten_cons, List.flatMap_append]
  · rw [List.flatMap_append, brings.tokenIds, tokenIds, List.flatMap_cons]
  · intro delta member
    rcases List.mem_append.mp member with member | member
    · exact brings.sound delta member
    · exact sound delta member

theorem Batches.cons {batch rest : List BackendResult} {batches : List (List BackendResult)}
    (nonempty : batch ≠ []) (bounded : batch.length ≤ readyStreamDrainMaxResults)
    (others : Batches rest batches) : Batches (batch ++ rest) (batch :: batches) := by
  refine ⟨by rw [List.flatten_cons, others.whole], ?_, ?_⟩
  · intro other member
    rcases List.mem_cons.mp member with rfl | member
    · exact nonempty
    · exact others.nonempty other member
  · intro other member
    rcases List.mem_cons.mp member with rfl | member
    · exact bounded
    · exact others.bounded other member

theorem Batches.nil : Batches [] [] := ⟨rfl, nofun, nofun⟩

/-- Where the end of all results is the end of what is behind a batch without an end. -/
theorem ends_rest {batch rest : List BackendResult} (streams : Streams (batch ++ rest))
    (more : rest ≠ []) {finish : RuntimeFinished}
    (ends : (batch ++ rest).flatMap (resultEnd request) = [finish]) :
    rest.flatMap (resultEnd request) = [finish] := by
  rw [List.flatMap_append, List.flatMap_eq_nil_iff.mpr, List.nil_append] at ends
  · exact ends
  · intro result member
    rw [resultEnd, streams.open_batch more result member]
    rfl

/-- Every schedule takes the results in some partition. -/
theorem delivers_schedule {state : ConstraintEnforcementState} {results : List BackendResult}
    (streams : Streams results) {finish : RuntimeFinished}
    (ends : results.flatMap (resultEnd request) = [finish]) (ready : Nat → Nat) :
    ∃ batches events, Batches results batches ∧
      Delivers (calmly ready) (atAwait request tables state results) events ∧
      BatchRun request tables state batches finish events := by
  induction length : results.length using Nat.strong_induction_on generalizing state results ready
    with
  | _ size induction =>
  cases results with
  | nil => cases ends
  | cons first rest =>
      have bounded : (first :: rest.take (drained (ready 0))).length ≤
          readyStreamDrainMaxResults := by
        have taken := List.length_take_le (drained (ready 0)) rest
        rw [List.length_cons]
        rw [drained] at taken ⊢
        unfold readyStreamDrainMaxResults at taken ⊢
        omega
      have whole : (first :: rest.take (drained (ready 0))) ++ rest.drop (drained (ready 0)) =
          first :: rest := congrArg (List.cons first) (List.take_append_drop _ _)
      by_cases more : rest.drop (drained (ready 0)) = []
      · have short := List.drop_eq_nil_iff.mp more
        rw [List.take_of_length_le short] at bounded
        rcases @delivers_last request tables state first rest streams ready short finish ends with
          ⟨deltas, brings, delivers⟩
        refine ⟨[first :: rest], _, ?_, delivers, BatchRun.single brings finish⟩
        have one := Batches.cons (List.cons_ne_nil first rest) bounded Batches.nil
        rw [List.append_nil] at one
        exact one
      · rcases @delivers_batch request tables state first rest streams (ready 0) more with
          ⟨deltas, brings, delivers⟩
        have streams' : Streams ((first :: rest.take (drained (ready 0))) ++
            rest.drop (drained (ready 0))) := whole ▸ streams
        have shorter : (rest.drop (drained (ready 0))).length < size := by
          rw [← length, List.length_drop, List.length_cons]
          omega
        rcases induction _ shorter (streams'.sublist (List.sublist_append_right _ _))
          (ends_rest streams' more (by rw [whole]; exact ends))
          (fun look => ready (look + (deltas.length + 1))) rfl with
          ⟨batches, events, partition, later, run⟩
        have partitioned := Batches.cons (List.cons_ne_nil first _) bounded partition
        rw [whole] at partitioned
        exact ⟨_, _, partitioned, delivers ready events rfl later, BatchRun.cons brings run⟩

theorem Batches.tail {results batch : List BackendResult} {batches : List (List BackendResult)}
    (partition : Batches results (batch :: batches)) : Batches batches.flatten batches :=
  ⟨rfl, fun other member => partition.nonempty other (List.mem_cons_of_mem _ member),
    fun other member => partition.bounded other (List.mem_cons_of_mem _ member)⟩

/-- Every partition is what some schedule takes. -/
theorem schedule_of_batches {state : ConstraintEnforcementState} {results : List BackendResult}
    {batches : List (List BackendResult)} (streams : Streams results) {finish : RuntimeFinished}
    (ends : results.flatMap (resultEnd request) = [finish]) (partition : Batches results batches) :
    ∃ ready events, Delivers (calmly ready) (atAwait request tables state results) events ∧
      BatchRun request tables state batches finish events := by
  induction batches generalizing state results with
  | nil =>
      rw [← partition.whole] at ends
      cases ends
  | cons batch others induction =>
      have whole := partition.whole
      cases batch with
      | nil => exact absurd rfl (partition.nonempty [] List.mem_cons_self)
      | cons first more =>
          have bounded := partition.bounded _ List.mem_cons_self
          have count : drained more.length = more.length := by
            rw [List.length_cons] at bounded
            rw [drained]
            omega
          rw [List.flatten_cons, List.cons_append] at whole
          subst whole
          by_cases rest : others.flatten = []
          · have noOthers : others = [] := by
              refine List.eq_nil_iff_forall_not_mem.mpr fun other member => ?_
              exact partition.nonempty other (List.mem_cons_of_mem _ member)
                (List.flatten_eq_nil_iff.mp rest other member)
            subst noOthers
            rw [List.flatten_nil, List.append_nil] at streams ends ⊢
            rcases @delivers_last request tables state first more streams (fun _ => more.length)
              count.ge finish ends with ⟨deltas, brings, delivers⟩
            exact ⟨_, _, delivers, BatchRun.single brings finish⟩
          · have takes : (more ++ others.flatten).take (drained more.length) = more := by
              rw [count, List.take_left]
            have drops : (more ++ others.flatten).drop (drained more.length) = others.flatten := by
              rw [count, List.drop_left]
            have streams' : Streams ((first :: more) ++ others.flatten) := streams
            rcases @delivers_batch request tables state first _ streams more.length
              (by rw [drops]; exact rest) with ⟨deltas, brings, delivers⟩
            rw [takes] at brings
            rw [takes, drops] at delivers
            rcases @induction (observed state (first :: more)) others.flatten
              (streams'.sublist (List.sublist_append_right _ _)) (ends_rest streams' rest ends)
              partition.tail with ⟨later, events, laterDelivers, run⟩
            refine ⟨fun look =>
                if look = 0 then more.length else later (look - (deltas.length + 1)),
              _, delivers _ events rfl ?_, BatchRun.cons brings run⟩
            have sameLooks : (fun look => if look + (deltas.length + 1) = 0 then more.length
                else later (look + (deltas.length + 1) - (deltas.length + 1))) = later := by
              funext look
              rw [if_neg (by omega), Nat.add_sub_cancel]
            rw [sameLooks]
            exact laterDelivers

/-! ## The stream of a run -/

structure BackendStream where
  body : List BackendResult
  last : BackendResult
  eos : EosData
  bodyStreaming : ∀ result ∈ body, result.stage = .streaming ∧ result.eos = none
  lastStreaming : last.stage = .streaming
  lastEos : last.eos = some eos

namespace BackendStream

def results (stream : BackendStream) : List BackendResult := stream.body ++ [stream.last]

theorem streams (stream : BackendStream) : Streams stream.results := by
  constructor
  · intro result member
    rcases List.mem_append.mp member with member | member
    · exact (stream.bodyStreaming result member).1
    · rw [List.mem_singleton.mp member]
      exact stream.lastStreaming
  · refine List.pairwise_append.mpr ⟨?_, List.pairwise_singleton _ _, ?_⟩
    · exact List.pairwise_iff_forall_sublist.mpr fun sub =>
        (stream.bodyStreaming _ (sub.subset List.mem_cons_self)).2
    · intro result member _ _
      exact (stream.bodyStreaming result member).2

theorem ends (stream : BackendStream) (request : RuntimeGenerationRequest) :
    stream.results.flatMap (resultEnd request) = [translateEos request stream.eos] := by
  rw [results, List.flatMap_append, List.flatMap_eq_nil_iff.mpr, List.nil_append,
    List.flatMap_singleton, resultEnd, stream.lastEos]
  · rfl
  · intro result member
    rw [resultEnd, (stream.bodyStreaming result member).2]
    rfl

end BackendStream

/-- The constraint state a session starts with: no constraint, or one with its trigger. -/
def initialConstraint : Option (Option Nat × GenerationGuarantee) → ConstraintEnforcementState
  | none => .absent
  | some (trigger, guarantee) => .installedWithTrigger trigger guarantee

structure EndsAs (request : RuntimeGenerationRequest) (eos : EosData)
    (finish : RuntimeFinished) : Prop where
  requestId : finish.requestId = request.requestId
  reason : finish.reason = translateStopReason eos.eosReason
  backendReason : finish.backendReason = eos.eosReason
  usage : finish.usage = translateUsage request eos
  timing : finish.timing = translateTiming eos
  stopSequence : finish.stopSequence = nonEmptyText eos.eosTriggeringString
  eosTokenId : finish.eosTokenId = measuredNonNegativeInt eos.eosTriggeringTokenId
  eosTokenText : finish.eosTokenText = nonEmptyText eos.eosTriggeringTokenStr

/-- Spans that match the text at their offsets, in order and apart, and that are the native
tokens of the delta. -/
structure SpansExact (tables : ProvenanceTables) (delta : RuntimeTextDelta)
    (spans : List NativeTokenSpan) : Prop where
  ordered : spans.Pairwise fun span next => span.stop ≤ next.start
  inside : ∀ span ∈ spans, span.stop ≤ delta.text.length
  exact : ∀ span ∈ spans, delta.text.slice span.start span.stop = span.text
  tokens : ∃ idToPiece nativePieceIds, tables = ⟨some idToPiece, some nativePieceIds⟩ ∧
    spans.map (fun span => (span.tokenId, span.text)) =
      nativeTokens idToPiece nativePieceIds delta.tokenIds

/-- The events of a session that loses and invents nothing. -/
def Faithful (request : RuntimeGenerationRequest) (tables : ProvenanceTables)
    (constraint : Option (Option Nat × GenerationGuarantee)) (stream : BackendStream)
    (events : List SessionEvent) : Prop :=
  ∃ (deltas : List RuntimeTextDelta) (finish : RuntimeFinished),
    events = deltas.map .textDelta ++ [.finished finish] ∧
    deltas.flatMap RuntimeTextDelta.text = stream.results.flatMap BackendResult.textOrEmpty ∧
    deltas.flatMap RuntimeTextDelta.tokenIds =
      (stream.results.filter BackendResult.hasText).flatMap BackendResult.tokenIds ∧
    EndsAs request stream.eos finish ∧
    (finish.hardConstraintActivated = true ↔
      ∃ trigger guarantee, constraint = some (trigger, guarantee) ∧
        ∀ token, trigger = some token → ∃ result ∈ stream.results, token ∈ result.tokenIds) ∧
    ∀ delta ∈ deltas, ∀ spans, delta.nativeTokenSpans = some spans → SpansExact tables delta spans

/-- No result with token ids but without text is as near to a result with text as one batch
reaches. -/
def KeptApart (results : List BackendResult) : Prop :=
  ∀ (index other : Nat) (blank filled : BackendResult),
    results[index]? = some blank → results[other]? = some filled →
    blank.hasText = false → blank.tokenIds ≠ [] → filled.hasText = true →
    index + readyStreamDrainMaxResults ≤ other ∨ other + readyStreamDrainMaxResults ≤ index

/-! ## The token ids of a partition -/

theorem length_filter_flatMap_le (results : List BackendResult) :
    ((results.filter BackendResult.hasText).flatMap BackendResult.tokenIds).length ≤
      (results.flatMap BackendResult.tokenIds).length := by
  induction results with
  | nil => exact Nat.le_refl _
  | cons first rest induction =>
      rw [List.filter_cons, List.flatMap_cons, List.length_append]
      split
      · rw [List.flatMap_cons, List.length_append]
        omega
      · omega

/-- Leaving out the results without text loses nothing exactly where they have no ids. -/
theorem filter_flatMap_eq_iff (results : List BackendResult) :
    (results.filter BackendResult.hasText).flatMap BackendResult.tokenIds =
        results.flatMap BackendResult.tokenIds ↔
      ∀ result ∈ results, result.hasText = false → result.tokenIds = [] := by
  induction results with
  | nil => exact ⟨fun _ _ member => (List.not_mem_nil member).elim, fun _ => rfl⟩
  | cons first rest induction =>
      rw [List.forall_mem_cons, ← induction, List.filter_cons, List.flatMap_cons]
      cases filled : first.hasText with
      | true =>
          rw [if_pos rfl, List.flatMap_cons, List.append_right_inj]
          simp
      | false =>
          rw [if_neg Bool.false_ne_true]
          constructor
          · intro same
            have shorter := length_filter_flatMap_le rest
            have lengths := congrArg List.length same
            rw [List.length_append] at lengths
            have noIds : first.tokenIds = [] := List.eq_nil_of_length_eq_zero (by omega)
            rw [noIds, List.nil_append] at same
            exact ⟨fun _ => noIds, same⟩
          · intro both
            rw [both.1 rfl, List.nil_append]
            exact both.2

theorem flatMap_text_eq_nil_iff (results : List BackendResult) :
    results.flatMap BackendResult.textOrEmpty = [] ↔
      ∀ result ∈ results, result.hasText = false := by
  rw [List.flatMap_eq_nil_iff]
  refine forall_congr' fun result => forall_congr' fun _ => ?_
  rw [BackendResult.hasText, decide_eq_false_iff_not, not_not]

theorem keptTokenIds_blank {batch : List BackendResult}
    (blank : ∀ result ∈ batch, result.hasText = false) :
    keptTokenIds tables batch =
      (batch.filter BackendResult.hasText).flatMap BackendResult.tokenIds := by
  have noText := (flatMap_text_eq_nil_iff batch).mpr blank
  have noResults : batch.filter BackendResult.hasText = [] :=
    List.filter_eq_nil_iff.mpr fun result member => by rw [blank result member]; decide
  rw [keptTokenIds, if_pos noText, noResults, List.flatMap_nil, ite_self]

theorem keptTokenIds_filled (plain : tables.enabled = false) {batch : List BackendResult}
    {filled : BackendResult} (member : filled ∈ batch) (hasText : filled.hasText = true) :
    keptTokenIds tables batch = batch.flatMap BackendResult.tokenIds := by
  rw [keptTokenIds, plain, if_neg Bool.false_ne_true, if_neg]
  intro noText
  rw [(flatMap_text_eq_nil_iff batch).mp noText filled member] at hasText
  cases hasText

theorem KeptApart.append_left {front back : List BackendResult}
    (apart : KeptApart (front ++ back)) :
    KeptApart front := by
  intro index other blank filled atIndex atOther
  refine apart index other blank filled ?_ ?_
  · exact (List.getElem?_append_left (List.getElem?_eq_some_iff.mp atIndex).1).trans atIndex
  · exact (List.getElem?_append_left (List.getElem?_eq_some_iff.mp atOther).1).trans atOther

theorem KeptApart.append_right {front back : List BackendResult}
    (apart : KeptApart (front ++ back)) : KeptApart back := by
  intro index other blank filled atIndex atOther noText ids hasText
  have shifted : ∀ place : Nat, (front ++ back)[front.length + place]? = back[place]? :=
    fun place => by
    rw [List.getElem?_append_right (Nat.le_add_right _ _), Nat.add_sub_cancel_left]
  have far := apart (front.length + index) (front.length + other) blank filled
    ((shifted _).trans atIndex) ((shifted _).trans atOther) noText ids hasText
  omega

theorem keptTokenIds_apart {batch : List BackendResult} (apart : KeptApart batch)
    (bounded : batch.length ≤ readyStreamDrainMaxResults) :
    keptTokenIds tables batch =
      (batch.filter BackendResult.hasText).flatMap BackendResult.tokenIds := by
  cases enabled : tables.enabled with
  | true => rw [keptTokenIds, enabled, if_pos rfl]
  | false =>
      by_cases some : ∃ filled ∈ batch, filled.hasText = true
      · rcases some with ⟨filled, member, hasText⟩
        rw [keptTokenIds_filled enabled member hasText, eq_comm, filter_flatMap_eq_iff]
        intro result inBatch noText
        by_contra ids
        rcases List.getElem?_of_mem inBatch with ⟨index, atIndex⟩
        rcases List.getElem?_of_mem member with ⟨other, atOther⟩
        have far := apart index other result filled atIndex atOther noText ids hasText
        have inside := (List.getElem?_eq_some_iff.mp atIndex).1
        have inside' := (List.getElem?_eq_some_iff.mp atOther).1
        omega
      · refine keptTokenIds_blank fun result member => ?_
        rw [← Bool.not_eq_true]
        exact fun hasText => some ⟨result, member, hasText⟩

theorem one_le_drain : 1 ≤ readyStreamDrainMaxResults := by decide

theorem keptTokenIds_single (result : BackendResult) :
    keptTokenIds tables [result] =
      ([result].filter BackendResult.hasText).flatMap BackendResult.tokenIds := by
  refine keptTokenIds_apart ?_ one_le_drain
  intro index other blank filled atIndex atOther noText _ hasText
  rw [List.mem_singleton.mp (List.mem_of_getElem? atIndex)] at noText
  rw [List.mem_singleton.mp (List.mem_of_getElem? atOther), noText] at hasText
  cases hasText

theorem batches_tokenIds {results : List BackendResult} {batches : List (List BackendResult)}
    (partition : Batches results batches) (kept : tables.enabled = true ∨ KeptApart results) :
    batches.flatMap (keptTokenIds tables) =
      (results.filter BackendResult.hasText).flatMap BackendResult.tokenIds := by
  induction batches generalizing results with
  | nil =>
      rw [← partition.whole]
      rfl
  | cons batch others induction =>
      have whole := partition.whole
      rw [List.flatten_cons] at whole
      subst whole
      have here : keptTokenIds tables batch =
          (batch.filter BackendResult.hasText).flatMap BackendResult.tokenIds := by
        rcases kept with enabled | apart
        · rw [keptTokenIds, enabled, if_pos rfl]
        · exact keptTokenIds_apart apart.append_left (partition.bounded _ List.mem_cons_self)
      rw [List.flatMap_cons, here, induction partition.tail (kept.imp_right KeptApart.append_right),
        List.filter_append, List.flatMap_append]

/-! ## Partitions around a batch -/

theorem Batches.append {front back : List BackendResult} {batches more : List (List BackendResult)}
    (partition : Batches front batches) (partition' : Batches back more) :
    Batches (front ++ back) (batches ++ more) := by
  refine ⟨by rw [List.flatten_append, partition.whole, partition'.whole], ?_, ?_⟩
  · intro batch member
    rcases List.mem_append.mp member with member | member
    · exact partition.nonempty batch member
    · exact partition'.nonempty batch member
  · intro batch member
    rcases List.mem_append.mp member with member | member
    · exact partition.bounded batch member
    · exact partition'.bounded batch member

def singly (results : List BackendResult) : List (List BackendResult) := results.map ([·])

theorem Batches.singly (results : List BackendResult) : Batches results (singly results) := by
  induction results with
  | nil => exact Batches.nil
  | cons first rest induction =>
      exact Batches.cons (List.cons_ne_nil first []) one_le_drain induction

theorem singly_tokenIds (results : List BackendResult) :
    (singly results).flatMap (keptTokenIds tables) =
      (results.filter BackendResult.hasText).flatMap BackendResult.tokenIds := by
  induction results with
  | nil => rfl
  | cons first rest induction =>
      rw [← List.singleton_append, List.filter_append, List.flatMap_append, ← keptTokenIds_single,
        ← induction]
      rfl

/-- A batch of one partition keeps the ids it should, when the whole partition does. -/
theorem middle_tokenIds {front batch back : List BackendResult}
    (same : (singly front ++ batch :: singly back).flatMap (keptTokenIds tables) =
      ((front ++ (batch ++ back)).filter BackendResult.hasText).flatMap BackendResult.tokenIds) :
    keptTokenIds tables batch =
      (batch.filter BackendResult.hasText).flatMap BackendResult.tokenIds := by
  rw [List.flatMap_append, List.flatMap_cons, singly_tokenIds, singly_tokenIds, List.filter_append,
    List.filter_append, List.flatMap_append, List.flatMap_append] at same
  exact List.append_cancel_right (List.append_cancel_left same)

/-- Where every partition keeps the ids it should, results with ids but without text stand
apart. -/
theorem keptApart_of_batches (plain : tables.enabled = false) {results : List BackendResult}
    (kept : ∀ batches, Batches results batches → batches.flatMap (keptTokenIds tables) =
      (results.filter BackendResult.hasText).flatMap BackendResult.tokenIds) :
    KeptApart results := by
  intro index other blank filled atIndex atOther noText ids hasText
  by_contra near
  have low := Nat.min_le_left index other
  have low' := Nat.min_le_right index other
  have high := Nat.le_max_left index other
  have high' := Nat.le_max_right index other
  have width : max index other + 1 - min index other ≤ readyStreamDrainMaxResults := by
    unfold readyStreamDrainMaxResults at near ⊢
    omega
  -- The batch from the first of the two results to the second.
  let batch := (results.drop (min index other)).take (max index other + 1 - min index other)
  have within : ∀ (place : Nat) (result : BackendResult), results[place]? = some result →
      min index other ≤ place → place ≤ max index other → result ∈ batch := by
    intro place result atPlace after before
    apply List.mem_of_getElem? (i := place - min index other)
    rw [List.getElem?_take_of_lt (by omega), List.getElem?_drop, Nat.add_sub_cancel' after]
    exact atPlace
  have blankMember := within index blank atIndex low high
  have filledMember := within other filled atOther low' high'
  have whole : results.take (min index other) ++ (batch ++ (results.drop (min index other)).drop
      (max index other + 1 - min index other)) = results := by
    rw [List.take_append_drop, List.take_append_drop]
  have partition := (Batches.singly (results.take (min index other))).append
    (Batches.cons (List.ne_nil_of_mem blankMember)
      (Nat.le_trans (List.length_take_le _ _) width)
      (Batches.singly ((results.drop (min index other)).drop
        (max index other + 1 - min index other))))
  rw [whole] at partition
  have middle := middle_tokenIds ((kept _ partition).trans (by rw [whole]))
  rw [keptTokenIds_filled plain filledMember hasText, eq_comm, filter_flatMap_eq_iff] at middle
  exact ids (middle blank blankMember noText)

/-! ## Every schedule -/

theorem activated_iff (constraint : Option (Option Nat × GenerationGuarantee))
    (results : List BackendResult) :
    (observed (initialConstraint constraint) results).activated = true ↔
      ∃ trigger guarantee, constraint = some (trigger, guarantee) ∧
        ∀ token, trigger = some token → ∃ result ∈ results, token ∈ result.tokenIds := by
  rw [observed]
  cases constraint with
  | none => simp [initialConstraint, ConstraintEnforcementState.absent,
      ConstraintEnforcementState.observeTokenIds]
  | some installed =>
      rcases installed with ⟨trigger, guarantee⟩
      cases trigger with
      | none => simp [initialConstraint, ConstraintEnforcementState.installedWithTrigger,
          ConstraintEnforcementState.observeTokenIds]
      | some token =>
          by_cases seen : token ∈ results.flatMap BackendResult.tokenIds
          · have found := List.mem_flatMap.mp seen
            simp [initialConstraint, ConstraintEnforcementState.installedWithTrigger,
              ConstraintEnforcementState.observeTokenIds, seen, found]
          · have missing : ¬∃ result ∈ results, token ∈ result.tokenIds := fun found =>
              seen (List.mem_flatMap.mpr found)
            simp only [initialConstraint, ConstraintEnforcementState.installedWithTrigger,
              ConstraintEnforcementState.observeTokenIds, seen]
            simp [missing]

section EverySchedule

variable {constraint : Option (Option Nat × GenerationGuarantee)} {stream : BackendStream}

def sessionOver (request : RuntimeGenerationRequest) (tables : ProvenanceTables)
    (constraint : Option (Option Nat × GenerationGuarantee)) (stream : BackendStream) :
    RuntimeSession :=
  RuntimeSession.start request tables (initialConstraint constraint)
    (stream.results.map .result)

theorem BatchRun.faithful_iff {batches : List (List BackendResult)} {events : List SessionEvent}
    (partition : Batches stream.results batches)
    (run : BatchRun request tables (initialConstraint constraint) batches
      (translateEos request stream.eos) events) :
    Faithful request tables constraint stream events ↔
      batches.flatMap (keptTokenIds tables) =
        (stream.results.filter BackendResult.hasText).flatMap BackendResult.tokenIds := by
  rcases run with ⟨deltas, rfl, text, tokenIds, sound⟩
  rw [partition.whole] at text ⊢
  constructor
  · intro faithful
    rcases faithful with ⟨deltas', finish, events, _, tokenIds', _⟩
    have sameDeltas : deltas.map SessionEvent.textDelta = deltas'.map .textDelta :=
      (List.append_inj' events rfl).1
    rw [List.map_inj_right fun first second same => by injection same] at sameDeltas
    rw [← tokenIds, sameDeltas, tokenIds']
  · intro kept
    refine ⟨deltas, _, rfl, text, tokenIds.trans kept, ⟨rfl, rfl, rfl, rfl, rfl, rfl, rfl, rfl⟩,
      activated_iff constraint stream.results, ?_⟩
    intro delta member spans found
    have fit := delta.spansFit spans found
    exact ⟨fit.ordered, fit.inside, fit.exact, (sound delta member).spans spans found⟩

theorem delivers_start {ready : Nat → Nat} {events : List SessionEvent}
    (later : Delivers (calmly fun look => ready (look + 1))
      (atAwait request tables (initialConstraint constraint) stream.results) events) :
    Delivers (calmly ready) (sessionOver request tables constraint stream) events :=
  .waiting rfl later

theorem keptApart_of_faithful (plain : tables.enabled = false)
    (all : ∀ ready : Nat → Nat, ∃ events,
      Delivers (fun look => .calm (ready look)) (sessionOver request tables constraint stream)
        events ∧ Faithful request tables constraint stream events) :
    KeptApart stream.results := by
  refine keptApart_of_batches plain fun batches partition => ?_
  rcases @schedule_of_batches request tables (initialConstraint constraint) stream.results batches
    stream.streams _ (stream.ends request) partition with ⟨ready, events, delivers, run⟩
  rcases all fun look => ready (look - 1) with ⟨events', delivers', faithful⟩
  have started : Delivers (calmly fun look => ready (look - 1))
      (sessionOver request tables constraint stream) events := delivers_start delivers
  rw [delivers'.unique started] at faithful
  exact (run.faithful_iff partition).mp faithful

/-- Every schedule gives the same text, token ids, end and constraint state, with exact spans,
exactly where results with token ids but without text are never drained with others. -/
theorem ready_results_faithful_iff (request : RuntimeGenerationRequest)
    (tables : ProvenanceTables) (constraint : Option (Option Nat × GenerationGuarantee))
    (stream : BackendStream) :
    (∀ ready : Nat → Nat, ∃ events,
      Delivers (fun look => .calm (ready look)) (sessionOver request tables constraint stream)
        events ∧ Faithful request tables constraint stream events) ↔
      tables.enabled = true ∨ KeptApart stream.results := by
  constructor
  · intro all
    cases enabled : tables.enabled with
    | true => exact .inl rfl
    | false => exact .inr (keptApart_of_faithful enabled all)
  · intro kept ready
    rcases @delivers_schedule request tables (initialConstraint constraint) stream.results
      stream.streams _ (stream.ends request) (fun look => ready (look + 1)) with
      ⟨batches, events, partition, delivers, run⟩
    exact ⟨events, delivers_start delivers,
      (run.faithful_iff partition).mpr (batches_tokenIds partition kept)⟩

def heldToken : BackendStream where
  body := [⟨.streaming, some [], [5], none⟩]
  last := ⟨.streaming, some (py "a"), [6], some ⟨some (py "stop_token"), none, none, none, none,
    none, none, none, none, none, by decide, nofun⟩⟩
  eos := ⟨some (py "stop_token"), none, none, none, none, none, none, none, none, none, by decide,
    nofun⟩
  bodyStreaming result member := by
    rw [List.mem_singleton.mp member]
    exact ⟨rfl, rfl⟩
  lastStreaming := rfl
  lastEos := rfl

theorem sampleRequest_id : NonBlank (py "r") := by decide

theorem sampleRequest_input : ([1] : List Nat) ≠ [] := by decide

def sampleRequest : RuntimeGenerationRequest where
  requestId := py "r"
  inputIds := [1]
  maxNewTokens := 8
  outputJsonSchema := none
  generationConstraint := none
  requestIdNonBlank := sampleRequest_id
  inputIdsNonEmpty := sampleRequest_input
  maxNewTokensPositive := by decide

theorem held_token_depends_on_draining :
    ¬∀ ready : Nat → Nat, ∃ events,
      Delivers (fun look => .calm (ready look))
        (sessionOver sampleRequest ⟨none, none⟩ none heldToken)
        events ∧ Faithful sampleRequest ⟨none, none⟩ none heldToken events := by
  intro all
  have apart := keptApart_of_faithful rfl all 0 1 _ _ rfl rfl (by decide) (by decide) (by decide)
  revert apart
  decide

end EverySchedule

end ExQServe.Runtime
