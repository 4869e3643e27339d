import ExQServe.Runtime.BackendSession

/-! # The events of a batch

What a turn of a session makes of a batch of results, whether the results are merged
first or their deltas are coalesced afterwards. -/

namespace ExQServe.Runtime

open ExQServe.Model ExQServe.ToolWire

variable {request : RuntimeGenerationRequest} {tables : ProvenanceTables}

/-! ## Batches of streaming results -/

structure Streams (results : List BackendResult) : Prop where
  streaming : ∀ result ∈ results, result.stage = .streaming
  continues : results.Pairwise fun result _ => result.eos = none

namespace Streams

theorem sublist {part results : List BackendResult} (streams : Streams results)
    (sub : part.Sublist results) : Streams part :=
  ⟨fun result member => streams.streaming result (sub.subset member),
    streams.continues.sublist sub⟩

theorem tail {first : BackendResult} {rest : List BackendResult}
    (streams : Streams (first :: rest)) : Streams rest :=
  streams.sublist (List.sublist_cons_self _ _)

theorem open_first {first second : BackendResult} {rest : List BackendResult}
    (streams : Streams (first :: second :: rest)) : first.eos = none :=
  (List.pairwise_cons.mp streams.continues).1 second List.mem_cons_self

/-- A batch that is not the last one has no end. -/
theorem open_batch {batch rest : List BackendResult} (streams : Streams (batch ++ rest))
    (more : rest ≠ []) : ∀ result ∈ batch, result.eos = none := by
  intro result member
  rcases List.exists_mem_of_ne_nil rest more with ⟨later, inRest⟩
  exact (List.pairwise_append.mp streams.continues).2.2 result member later inRest

end Streams

theorem drainLoop_results (turns : Nat) {results : List BackendResult} (streams : Streams results) :
    drainLoop turns (results.map .result) =
      .ok (results.take turns, (results.drop turns).map .result) := by
  induction turns generalizing results with
  | zero => rfl
  | succ turns induction =>
      cases results with
      | nil => rfl
      | cons item rest =>
          have streaming := streams.streaming item List.mem_cons_self
          rw [List.map_cons, drainLoop, if_neg (not_not.mpr streaming)]
          cases rest with
          | nil =>
              cases item.eos with
              | none => cases turns <;> rfl
              | some eos => simp
          | cons second others =>
              rw [streams.open_first, if_neg (by decide), induction streams.tail]
              rfl

theorem drop_take_append_drop (results : List BackendResult) (ready turns : Nat) :
    (results.take ready).drop turns ++ results.drop ready = results.drop (min ready turns) := by
  rcases Nat.le_total ready turns with short | long
  · rw [Nat.min_eq_left short,
      List.drop_eq_nil_of_le (Nat.le_trans (List.length_take_le _ _) short), List.nil_append]
  · rw [Nat.min_eq_right long, List.drop_take, ← Nat.add_sub_of_le long, Nat.add_sub_cancel_left,
      ← List.drop_drop, List.take_append_drop]

/-- What a look takes of the results that the job still delivers. -/
theorem drainReadyStreamResults_eq {first : BackendResult} {rest : List BackendResult}
    (streams : Streams (first :: rest)) (ready : Nat) :
    (drainReadyStreamResults first ((rest.map QueueItem.result).take ready)).map
        (fun drained => (drained.1, drained.2 ++ (rest.map QueueItem.result).drop ready)) =
      .ok (first :: rest.take (min ready (readyStreamDrainMaxResults - 1)),
        (rest.drop (min ready (readyStreamDrainMaxResults - 1))).map .result) := by
  have streaming := streams.streaming first List.mem_cons_self
  rw [drainReadyStreamResults]
  cases rest with
  | nil =>
      split
      · simp [Except.map]
      · simp [Except.map, drainLoop, readyStreamDrainMaxResults]
  | cons second others =>
      have notEnd : ¬(first.stage ≠ .streaming ∨ first.eos.isSome = true) := by
        rw [streams.open_first, streaming]
        simp
      rw [if_neg notEnd, ← List.map_take, drainLoop_results _ (streams.tail.sublist
        (List.take_sublist ready _))]
      simp only [Except.map, List.take_take, ← List.map_drop, ← List.map_append]
      rw [Nat.min_comm, drop_take_append_drop]

/-! ## What a result brings -/

def BackendResult.hasText (result : BackendResult) : Bool := decide (result.textOrEmpty ≠ [])

def resultDeltas (request : RuntimeGenerationRequest) (tables : ProvenanceTables)
    (result : BackendResult) : List RuntimeTextDelta :=
  if nonempty : result.textOrEmpty ≠ [] then
    [textDeltaOf request tables result.tokenIds result.textOrEmpty nonempty]
  else []

def resultEnd (request : RuntimeGenerationRequest) (result : BackendResult) :
    List RuntimeFinished := (result.eos.map (translateEos request)).toList

theorem translate_eq {result : BackendResult} (streaming : result.stage = .streaming) :
    translateExllamav3Result request tables result =
      (resultDeltas request tables result).map .textDelta ++
        (resultEnd request result).map .finished := by
  rw [translateExllamav3Result, if_neg (by rw [streaming]; decide), resultDeltas, resultEnd]
  by_cases nonempty : result.textOrEmpty ≠ []
  · rw [dif_pos nonempty, dif_pos nonempty]
    cases result.eos <;> rfl
  · rw [dif_neg nonempty, dif_neg nonempty]
    cases result.eos <;> rfl

theorem resultDeltas_text (result : BackendResult) :
    (resultDeltas request tables result).flatMap RuntimeTextDelta.text = result.textOrEmpty := by
  rw [resultDeltas]
  split
  · rw [List.flatMap_singleton]
    rfl
  · rename_i blank
    rw [not_not.mp blank]
    rfl

theorem resultDeltas_tokenIds (result : BackendResult) :
    (resultDeltas request tables result).flatMap RuntimeTextDelta.tokenIds =
      if result.hasText then result.tokenIds else [] := by
  rw [resultDeltas]
  split
  · rename_i nonempty
    rw [List.flatMap_singleton, BackendResult.hasText, decide_eq_true nonempty]
    rfl
  · rename_i blank
    rw [BackendResult.hasText, decide_eq_false blank]
    rfl

theorem batchDeltas_tokenIds (batch : List BackendResult) :
    (batch.flatMap (resultDeltas request tables)).flatMap RuntimeTextDelta.tokenIds =
      (batch.filter BackendResult.hasText).flatMap BackendResult.tokenIds := by
  induction batch with
  | nil => rfl
  | cons first rest induction =>
      rw [List.flatMap_cons, List.flatMap_append, induction, resultDeltas_tokenIds,
        List.filter_cons]
      split
      · rw [List.flatMap_cons]
      · rw [List.nil_append]

/-- The deltas of a batch come before its end. -/
theorem translate_batch {batch : List BackendResult} (streams : Streams batch) :
    batch.flatMap (translateExllamav3Result request tables) =
      (batch.flatMap (resultDeltas request tables)).map .textDelta ++
        (batch.flatMap (resultEnd request)).map .finished := by
  induction batch with
  | nil => rfl
  | cons first rest induction =>
      have streaming := streams.streaming first List.mem_cons_self
      rw [List.flatMap_cons, translate_eq streaming, induction streams.tail]
      cases rest with
      | nil => simp
      | cons second others =>
          have noEnd : resultEnd request first = [] := by
            rw [resultEnd, streams.open_first]
            rfl
          simp [noEnd]

theorem resultEnd_batch {first : BackendResult} {others : List BackendResult}
    (streams : Streams (first :: others)) :
    (first :: others).flatMap (resultEnd request) = resultEnd request (others.getLastD first) := by
  induction others generalizing first with
  | nil => rw [List.flatMap_singleton, List.getLastD_nil]
  | cons second others induction =>
      have noEnd : resultEnd request first = [] := by
        rw [resultEnd, streams.open_first]
        rfl
      rw [List.flatMap_cons, noEnd, List.nil_append, induction streams.tail, List.getLastD_cons]

/-! ## Merged results -/

theorem mergeResults_text (first : BackendResult) (others : List BackendResult) :
    (mergeResults first others).textOrEmpty =
      (first :: others).flatMap BackendResult.textOrEmpty := by
  rw [mergeResults]
  split
  · rename_i alone
    rw [alone, List.flatMap_singleton]
  · rfl

theorem mergeResults_tokenIds (first : BackendResult) (others : List BackendResult) :
    (mergeResults first others).tokenIds = (first :: others).flatMap BackendResult.tokenIds := by
  rw [mergeResults]
  split
  · rename_i alone
    rw [alone, List.flatMap_singleton]
  · dsimp only
    split
    · rename_i noIds
      rw [noIds]
      exact List.flatMap_eq_nil_iff.mp noIds _ List.getLastD_mem_cons
    · rfl

theorem mergeResults_last (first : BackendResult) (others : List BackendResult) :
    (mergeResults first others).eos = (others.getLastD first).eos ∧
      (mergeResults first others).stage = (others.getLastD first).stage := by
  rw [mergeResults]
  split
  · rename_i alone
    rw [alone]
    exact ⟨rfl, rfl⟩
  · exact ⟨rfl, rfl⟩

/-! ## Sound deltas -/

/-- A delta of this request whose spans list the native tokens of its token ids. -/
structure SoundDelta (request : RuntimeGenerationRequest) (tables : ProvenanceTables)
    (delta : RuntimeTextDelta) : Prop where
  requestId : delta.requestId = request.requestId
  spans : ∀ spans, delta.nativeTokenSpans = some spans →
    ∃ idToPiece nativePieceIds, tables = ⟨some idToPiece, some nativePieceIds⟩ ∧
      spans.map (fun span => (span.tokenId, span.text)) =
        nativeTokens idToPiece nativePieceIds delta.tokenIds

theorem resultDeltas_sound {result : BackendResult} :
    ∀ delta ∈ resultDeltas request tables result, SoundDelta request tables delta := by
  intro delta member
  rw [resultDeltas] at member
  split at member
  · rw [List.mem_singleton.mp member]
    refine ⟨rfl, fun spans found => ?_⟩
    rcases nativeTokenSpans_eq_some found with ⟨table, native, pieces, isTable, isNative, listed, _,
      rfl⟩
    refine ⟨table, native, ?_, spansFrom_tokens 0 listed⟩
    rw [← isTable, ← isNative]
  · cases member

theorem joinDeltas_sound {first second : RuntimeTextDelta}
    (sound : SoundDelta request tables first) (sound' : SoundDelta request tables second) :
    SoundDelta request tables (joinDeltas first second) := by
  refine ⟨sound.requestId, fun spans found => ?_⟩
  rcases Option.bind_eq_some_iff.mp found with ⟨firstSpans, inFirst, found⟩
  rcases Option.map_eq_some_iff.mp found with ⟨secondSpans, inSecond, rfl⟩
  rcases sound.spans firstSpans inFirst with ⟨table, native, here, listed⟩
  rcases sound'.spans secondSpans inSecond with ⟨table', native', here', listed'⟩
  rw [here] at here'
  cases here'
  refine ⟨table, native, here, ?_⟩
  rw [List.map_append, List.map_map, listed, joinDeltas, nativeTokens, nativeTokens,
    List.filterMap_append]
  exact congrArg _ listed'

/-- Deltas of one request with verified spans are merged without a failure. -/
theorem mergeVerified_eq {first second : RuntimeTextDelta}
    (sound : SoundDelta request tables first) (sound' : SoundDelta request tables second)
    (verified : (verifiedProvenanceDelta second && verifiedProvenanceDelta first) = true) :
    mergeVerifiedTextDeltas first second = .ok (joinDeltas first second) := by
  have both := Bool.and_eq_true_iff.mp verified
  have same : first.requestId = second.requestId := sound.requestId.trans sound'.requestId.symm
  rw [mergeVerifiedTextDeltas, if_neg (not_not.mpr same),
    if_neg (by rw [both.1, both.2]; decide)]

/-! ## Coalescing -/

theorem coalesceNext_delta {coalesced : List RuntimeTextDelta} {delta : RuntimeTextDelta}
    (sound : ∀ earlier ∈ coalesced, SoundDelta request tables earlier)
    (sound' : SoundDelta request tables delta) :
    ∃ next : List RuntimeTextDelta, coalesceNext (coalesced.map .textDelta)
        (.textDelta delta) = .ok (next.map .textDelta) ∧
      next.reverse.flatMap RuntimeTextDelta.text =
        coalesced.reverse.flatMap RuntimeTextDelta.text ++ delta.text ∧
      next.reverse.flatMap RuntimeTextDelta.tokenIds =
        coalesced.reverse.flatMap RuntimeTextDelta.tokenIds ++ delta.tokenIds ∧
      ∀ earlier ∈ next, SoundDelta request tables earlier := by
  cases coalesced with
  | nil =>
      refine ⟨[delta], rfl, by simp, by simp, fun earlier member => ?_⟩
      rw [List.mem_singleton.mp member]
      exact sound'
  | cons previous earlier =>
      rw [List.map_cons, coalesceNext]
      split
      · rename_i verified
        have soundPrevious := sound previous List.mem_cons_self
        rw [mergeVerified_eq soundPrevious sound' verified]
        refine ⟨joinDeltas previous delta :: earlier, rfl, by simp [joinDeltas],
          by simp [joinDeltas], ?_⟩
        intro other member
        rcases List.mem_cons.mp member with rfl | member
        · exact joinDeltas_sound soundPrevious sound'
        · exact sound other (List.mem_cons_of_mem _ member)
      · refine ⟨delta :: previous :: earlier, rfl, by simp, by simp, ?_⟩
        intro other member
        rcases List.mem_cons.mp member with rfl | member
        · exact sound'
        · exact sound other member

theorem coalesce_deltas {coalesced deltas : List RuntimeTextDelta}
    (sound : ∀ earlier ∈ coalesced, SoundDelta request tables earlier)
    (sound' : ∀ delta ∈ deltas, SoundDelta request tables delta) :
    ∃ next : List RuntimeTextDelta, (deltas.map SessionEvent.textDelta).foldlM coalesceNext
        (coalesced.map .textDelta) = .ok (next.map .textDelta) ∧
      next.reverse.flatMap RuntimeTextDelta.text =
        coalesced.reverse.flatMap RuntimeTextDelta.text ++ deltas.flatMap RuntimeTextDelta.text ∧
      next.reverse.flatMap RuntimeTextDelta.tokenIds =
        coalesced.reverse.flatMap RuntimeTextDelta.tokenIds ++
          deltas.flatMap RuntimeTextDelta.tokenIds ∧
      ∀ earlier ∈ next, SoundDelta request tables earlier := by
  induction deltas generalizing coalesced with
  | nil => exact ⟨coalesced, rfl, by simp, by simp, sound⟩
  | cons delta rest induction =>
      rcases coalesceNext_delta sound (sound' delta List.mem_cons_self) with
        ⟨middle, step, text, tokenIds, soundMiddle⟩
      rcases induction soundMiddle fun later member =>
        sound' later (List.mem_cons_of_mem _ member) with ⟨next, rest', text', tokenIds', soundNext⟩
      refine ⟨next, ?_, ?_, ?_, soundNext⟩
      · rw [List.map_cons, List.foldlM_cons, step]
        exact rest'
      · rw [text', text, List.flatMap_cons, List.append_assoc]
      · rw [tokenIds', tokenIds, List.flatMap_cons, List.append_assoc]

theorem coalesce_ends (coalesced : List SessionEvent) (ends : List RuntimeFinished) :
    (ends.map SessionEvent.finished).foldlM coalesceNext coalesced =
      .ok ((ends.map SessionEvent.finished).reverse ++ coalesced) := by
  induction ends generalizing coalesced with
  | nil => rfl
  | cons first rest induction =>
      rw [List.map_cons, List.foldlM_cons]
      refine (induction (.finished first :: coalesced)).trans ?_
      rw [List.reverse_cons, List.append_assoc]
      rfl

theorem coalesce_spec {deltas : List RuntimeTextDelta}
    (sound : ∀ delta ∈ deltas, SoundDelta request tables delta) (ends : List RuntimeFinished) :
    ∃ merged : List RuntimeTextDelta, coalesceVerifiedRuntimeTextDeltas
          (deltas.map SessionEvent.textDelta ++ ends.map SessionEvent.finished) =
          .ok (merged.map .textDelta ++ ends.map .finished) ∧
      merged.flatMap RuntimeTextDelta.text = deltas.flatMap RuntimeTextDelta.text ∧
      merged.flatMap RuntimeTextDelta.tokenIds = deltas.flatMap RuntimeTextDelta.tokenIds ∧
      ∀ delta ∈ merged, SoundDelta request tables delta := by
  rcases coalesce_deltas (fun _ member => (List.not_mem_nil member).elim) sound with
    ⟨next, coalesced, text, tokenIds, soundNext⟩
  refine ⟨next.reverse, ?_, text, tokenIds, fun delta member =>
    soundNext delta (List.mem_reverse.mp member)⟩
  rw [coalesceVerifiedRuntimeTextDeltas, List.foldlM_append]
  rw [List.map_nil] at coalesced
  rw [coalesced]
  have ended := coalesce_ends (next.map SessionEvent.textDelta) ends
  refine (congrArg (Except.map List.reverse) ended).trans ?_
  simp [Except.map]

/-! ## Events of a turn -/

def keptTokenIds (tables : ProvenanceTables) (batch : List BackendResult) : List Nat :=
  if tables.enabled then (batch.filter BackendResult.hasText).flatMap BackendResult.tokenIds
  else if batch.flatMap BackendResult.textOrEmpty = [] then []
  else batch.flatMap BackendResult.tokenIds

def turnResults (tables : ProvenanceTables) (first : BackendResult)
    (others : List BackendResult) : List BackendResult :=
  if tables.enabled then first :: others else [mergeResults first others]

theorem observeTokenIds_append (state : ConstraintEnforcementState) (early late : List Nat) :
    (state.observeTokenIds early).observeTokenIds late = state.observeTokenIds (early ++ late) := by
  rw [ConstraintEnforcementState.observeTokenIds]
  cases hasTrigger : state.triggerToken with
  | none => simp [ConstraintEnforcementState.observeTokenIds, hasTrigger]
  | some trigger =>
      by_cases installed : state.installed = true
      · by_cases inEarly : trigger ∈ early
        · simp [ConstraintEnforcementState.observeTokenIds, hasTrigger, installed, inEarly]
        · simp [ConstraintEnforcementState.observeTokenIds, hasTrigger, installed, inEarly]
      · simp [ConstraintEnforcementState.observeTokenIds, hasTrigger, installed]

theorem observeTokenIds_nil (state : ConstraintEnforcementState) :
    state.observeTokenIds [] = state := by
  rw [ConstraintEnforcementState.observeTokenIds]
  cases state.triggerToken with
  | none => rfl
  | some trigger => simp

namespace RuntimeSession

theorem observeResults_eq (state : ConstraintEnforcementState) (results : List BackendResult) :
    observeResults state results =
      state.observeTokenIds (results.flatMap BackendResult.tokenIds) := by
  induction results generalizing state with
  | nil => exact (observeTokenIds_nil state).symm
  | cons first rest induction =>
      rw [observeResults, List.foldl_cons, ← observeResults, induction, observeTokenIds_append,
        List.flatMap_cons]

theorem observe_turnResults (state : ConstraintEnforcementState) (first : BackendResult)
    (others : List BackendResult) :
    observeResults state (turnResults tables first others) =
      state.observeTokenIds ((first :: others).flatMap BackendResult.tokenIds) := by
  rw [turnResults]
  split
  · exact observeResults_eq state _
  · rw [observeResults_eq, List.flatMap_singleton, mergeResults_tokenIds]

theorem project_deltas (state : ConstraintEnforcementState) (deltas : List RuntimeTextDelta) :
    (deltas.map SessionEvent.textDelta).map (project state) = deltas.map .textDelta := by
  rw [List.map_map]
  rfl

/-- The events of a turn: deltas with the batch's text, then its end. -/
theorem turnEvents_spec (session : RuntimeSession) {first : BackendResult}
    {others : List BackendResult} (streams : Streams (first :: others)) :
    ∃ deltas : List RuntimeTextDelta,
      session.turnEvents (turnResults session.tables first others) =
        .ok (deltas.map .textDelta ++
          ((first :: others).flatMap (resultEnd session.request)).map fun finish =>
            project (session.constraintState.observeTokenIds
              ((first :: others).flatMap BackendResult.tokenIds)) (.finished finish)) ∧
      deltas.flatMap RuntimeTextDelta.text =
        (first :: others).flatMap BackendResult.textOrEmpty ∧
      deltas.flatMap RuntimeTextDelta.tokenIds = keptTokenIds session.tables (first :: others) ∧
      ∀ delta ∈ deltas, SoundDelta session.request session.tables delta := by
  rw [turnEvents, observe_turnResults, turnResults, keptTokenIds]
  cases enabled : session.tables.enabled with
  | true =>
      simp only [if_true]
      rw [translate_batch streams]
      have sound : ∀ delta ∈ (first :: others).flatMap
        (resultDeltas session.request session.tables),
          SoundDelta session.request session.tables delta := by
        intro delta member
        rcases List.mem_flatMap.mp member with ⟨result, _, member⟩
        exact resultDeltas_sound delta member
      rcases coalesce_spec sound ((first :: others).flatMap (resultEnd session.request)) with
        ⟨merged, coalesced, text, tokenIds, soundMerged⟩
      refine ⟨merged, ?_, ?_, ?_, soundMerged⟩
      · rw [coalesced]
        simp only [Except.map, List.map_append, List.map_map]
        rfl
      · rw [text, List.flatMap_assoc]
        exact List.flatMap_congr fun result _ => resultDeltas_text result
      · rw [tokenIds, batchDeltas_tokenIds]
  | false =>
      simp only [Bool.false_eq_true, if_false]
      have last := mergeResults_last first others
      have streaming : (mergeResults first others).stage = .streaming := by
        rw [last.2]
        exact streams.streaming _ List.getLastD_mem_cons
      have sameEnd : resultEnd session.request (mergeResults first others) =
          (first :: others).flatMap (resultEnd session.request) := by
        rw [resultEnd_batch streams, resultEnd, resultEnd, last.1]
      refine ⟨resultDeltas session.request session.tables (mergeResults first others), ?_, ?_, ?_,
        resultDeltas_sound⟩
      · rw [List.flatMap_singleton, translate_eq streaming, sameEnd, List.map_append,
          project_deltas, List.map_map]
        rfl
      · rw [resultDeltas_text, mergeResults_text]
      · rw [resultDeltas_tokenIds, mergeResults_tokenIds, BackendResult.hasText, mergeResults_text]
        by_cases blank : (first :: others).flatMap BackendResult.textOrEmpty = []
        · rw [if_pos blank, if_neg (by rw [decide_eq_false (not_not.mpr blank)]; decide)]
        · rw [if_neg blank, if_pos (decide_eq_true blank)]

end RuntimeSession

end ExQServe.Runtime
