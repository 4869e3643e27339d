import ExQServe.Core.Events
import ExQServe.Runtime.Contracts
import ExQServe.ToolWire.Contracts

/-! # Results of the backend

The part of `runtime/exllamav3.py` that turns the results a backend job queues into
runtime events: draining, merging, translation with native token spans, and the state of
an installed constraint. -/

namespace ExQServe.Runtime

open ExQServe.Model ExQServe.ToolWire

/-! ## Native token spans -/

/-- What the constructor of a text delta checks of its spans. -/
structure SpansFit (text : PyStr) (spans : List NativeTokenSpan) : Prop where
  ordered : spans.Pairwise fun span next => span.stop ≤ next.start
  inside : ∀ span ∈ spans, span.stop ≤ text.length
  exact : ∀ span ∈ spans, text.slice span.start span.stop = span.text

/-- The loop of `_native_token_spans` over the tokens and their pieces. -/
def spansFrom (nativePieceIds : Finset Nat) :
    Nat → List (Nat × PyStr) → List NativeTokenSpan
  | _, [] => []
  | offset, (tokenId, piece) :: rest =>
      let spans := spansFrom nativePieceIds (offset + piece.length) rest
      if nonempty : piece ≠ [] then
        if tokenId ∈ nativePieceIds then
          ⟨offset, offset + piece.length, tokenId, piece,
            Nat.lt_add_of_pos_right (List.length_pos_of_ne_nil nonempty), nonempty⟩ :: spans
        else spans
      else spans

def nativeTokenSpans (text : PyStr) (tokenIds : List Nat) (idToPiece : Option (List PyStr))
    (nativePieceIds : Option (Finset Nat)) : Option (List NativeTokenSpan) :=
  match idToPiece, nativePieceIds with
  | some idToPiece, some nativePieceIds =>
      if tokenIds = [] then none
      else
        match tokenIds.mapM (idToPiece[·]?) with
        | none => none
        | some pieces =>
            if pieces.flatten ≠ text then none
            else some (spansFrom nativePieceIds 0 (tokenIds.zip pieces))
  | _, _ => none

theorem spansFrom_after (nativePieceIds : Finset Nat) (offset : Nat)
    (row : List (Nat × PyStr)) :
    ∀ span ∈ spansFrom nativePieceIds offset row, offset ≤ span.start := by
  induction row generalizing offset with
  | nil => intro span member; cases member
  | cons head rest induction =>
      have later : ∀ span ∈ spansFrom nativePieceIds (offset + head.2.length) rest,
          offset ≤ span.start := fun span member =>
        Nat.le_trans (Nat.le_add_right _ _) (induction _ span member)
      intro span member
      simp only [spansFrom] at member
      split at member
      · split at member
        · rcases List.mem_cons.mp member with rfl | member
          · exact Nat.le_refl _
          · exact later span member
        · exact later span member
      · exact later span member

theorem slice_middle (before middle after : PyStr) :
    PyStr.slice (before ++ (middle ++ after)) before.length (before.length + middle.length) =
      middle := by
  rw [PyStr.slice, List.take_length_add_append, List.drop_left, List.take_left]

/-- The pieces behind a text that is already written give spans that fit the whole. -/
theorem spansFrom_fit (nativePieceIds : Finset Nat) (before : PyStr)
    (row : List (Nat × PyStr)) :
    SpansFit (before ++ row.flatMap Prod.snd) (spansFrom nativePieceIds before.length row) := by
  induction row generalizing before with
  | nil =>
      exact ⟨List.Pairwise.nil, fun _ member => (List.not_mem_nil member).elim,
        fun _ member => (List.not_mem_nil member).elim⟩
  | cons head rest induction =>
      have fit := induction (before ++ head.2)
      rw [List.append_assoc, List.length_append] at fit
      have after := spansFrom_after nativePieceIds (before.length + head.2.length) rest
      rw [List.flatMap_cons]
      simp only [spansFrom]
      split
      · split
        · constructor
          · exact List.pairwise_cons.mpr ⟨after, fit.ordered⟩
          · intro span member
            rcases List.mem_cons.mp member with rfl | member
            · simp only [List.length_append]
              omega
            · exact fit.inside span member
          · intro span member
            rcases List.mem_cons.mp member with rfl | member
            · exact slice_middle before head.2 _
            · exact fit.exact span member
        · exact fit
      · exact fit

def nativeTokens (idToPiece : List PyStr) (nativePieceIds : Finset Nat) (tokenIds : List Nat) :
    List (Nat × PyStr) :=
  tokenIds.filterMap fun tokenId =>
    if tokenId ∈ nativePieceIds then
      (idToPiece[tokenId]?.filter fun piece => decide (piece ≠ [])).map fun piece =>
        (tokenId, piece)
    else none

theorem spansFrom_tokens {idToPiece : List PyStr} {nativePieceIds : Finset Nat}
    {tokenIds : List Nat} {pieces : List PyStr} (offset : Nat)
    (found : tokenIds.mapM (idToPiece[·]?) = some pieces) :
    (spansFrom nativePieceIds offset (tokenIds.zip pieces)).map
        (fun span => (span.tokenId, span.text)) =
      nativeTokens idToPiece nativePieceIds tokenIds := by
  induction tokenIds generalizing offset pieces with
  | nil =>
      cases found
      rfl
  | cons tokenId rest induction =>
      rw [List.mapM_cons] at found
      rcases Option.bind_eq_some_iff.mp found with ⟨piece, here, found⟩
      rcases Option.bind_eq_some_iff.mp found with ⟨more, others, found⟩
      cases found
      have tail := induction (offset + piece.length) others
      rw [nativeTokens] at tail ⊢
      rw [List.zip_cons_cons, List.filterMap_cons, here]
      simp only [spansFrom]
      by_cases blank : piece = []
      · subst blank
        rw [List.length_nil, Nat.add_zero] at tail
        simp [Option.filter, tail]
      · by_cases native : tokenId ∈ nativePieceIds
        · simp [Option.filter, blank, native, tail]
        · simp [blank, native, tail]

theorem length_of_mapM {idToPiece : List PyStr} {tokenIds : List Nat} {pieces : List PyStr}
    (found : tokenIds.mapM (idToPiece[·]?) = some pieces) :
    pieces.length = tokenIds.length := by
  induction tokenIds generalizing pieces with
  | nil =>
      cases found
      rfl
  | cons tokenId rest induction =>
      rw [List.mapM_cons] at found
      rcases Option.bind_eq_some_iff.mp found with ⟨piece, here, found⟩
      rcases Option.bind_eq_some_iff.mp found with ⟨more, others, found⟩
      cases found
      rw [List.length_cons, induction others, List.length_cons]

theorem pieces_flatMap {idToPiece : List PyStr} {tokenIds : List Nat} {pieces : List PyStr}
    (found : tokenIds.mapM (idToPiece[·]?) = some pieces) :
    (tokenIds.zip pieces).flatMap Prod.snd = pieces.flatten := by
  rw [List.flatMap_def, List.map_snd_zip (length_of_mapM found).le]

/-- Spans are present only where both tables are and the pieces are the text. -/
theorem nativeTokenSpans_eq_some {text : PyStr} {tokenIds : List Nat}
    {idToPiece : Option (List PyStr)} {nativePieceIds : Option (Finset Nat)}
    {spans : List NativeTokenSpan}
    (found : nativeTokenSpans text tokenIds idToPiece nativePieceIds = some spans) :
    ∃ table native pieces, idToPiece = some table ∧ nativePieceIds = some native ∧
      tokenIds.mapM (table[·]?) = some pieces ∧ pieces.flatten = text ∧
      spans = spansFrom native 0 (tokenIds.zip pieces) := by
  cases idToPiece with
  | none => cases found
  | some table =>
      cases nativePieceIds with
      | none => cases found
      | some native =>
          rw [nativeTokenSpans] at found
          split at found
          · cases found
          · cases listed : tokenIds.mapM (table[·]?) with
            | none =>
                rw [listed] at found
                cases found
            | some pieces =>
                rw [listed] at found
                dsimp only at found
                split at found
                · cases found
                · rename_i same
                  exact ⟨table, native, pieces, rfl, rfl, listed, not_not.mp same,
                    (Option.some.inj found).symm⟩

theorem nativeTokenSpans_fit {text : PyStr} {tokenIds : List Nat}
    {idToPiece : Option (List PyStr)} {nativePieceIds : Option (Finset Nat)}
    {spans : List NativeTokenSpan}
    (found : nativeTokenSpans text tokenIds idToPiece nativePieceIds = some spans) :
    SpansFit text spans := by
  rcases nativeTokenSpans_eq_some found with ⟨_, native, pieces, _, _, listed, same, rfl⟩
  have fit := spansFrom_fit native [] (tokenIds.zip pieces)
  rw [pieces_flatMap listed, same] at fit
  exact fit

/-! ## Events -/

@[ext] structure RuntimeTextDelta where
  requestId : PyStr
  text : PyStr
  tokenIds : List Nat
  nativeTokenSpans : Option (List NativeTokenSpan)
  nativeTokenProvenance : Bool
  textNonempty : text ≠ []
  spansNeedProvenance : nativeTokenSpans.isSome = true → nativeTokenProvenance = true
  spansFit : ∀ spans, nativeTokenSpans = some spans → SpansFit text spans

instance : DecidableEq RuntimeTextDelta := fun _ _ => decidable_of_iff' _ RuntimeTextDelta.ext_iff

structure RuntimeTiming where
  queueSeconds : Option PyFloat
  prefillSeconds : Option PyFloat
  generationSeconds : Option PyFloat
deriving DecidableEq

structure RuntimeFinished where
  requestId : PyStr
  reason : RuntimeStopReason
  usage : TokenUsage
  timing : RuntimeTiming
  stopSequence : Option PyStr
  backendReason : Option PyStr
  eosTokenId : Option Nat
  eosTokenText : Option PyStr
  hardConstraintInstalled : Bool
  hardConstraintActivated : Bool
  effectiveGenerationGuarantee : GenerationGuarantee
  stopSequenceValid : ∀ text, stopSequence = some text → text ≠ [] ∧ reason = .stopString
  backendReasonNonempty : backendReason ≠ some []
  eosTokenTextNonempty : eosTokenText ≠ some []
  activatedInstalled : hardConstraintActivated = true → hardConstraintInstalled = true
  guaranteeActivated : effectiveGenerationGuarantee ≠ .none → hardConstraintActivated = true
deriving DecidableEq

inductive SessionEvent
  | started (requestId : PyStr)
  | textDelta (delta : RuntimeTextDelta)
  | finished (event : RuntimeFinished)
  | cancelled (requestId : PyStr)
  | failed (requestId : PyStr) (error : CanonicalError)
deriving DecidableEq

/-! ## Results -/

inductive ResultStage
  | started
  | streaming
  | other
deriving DecidableEq, Repr

/-- What a result with `eos` says about the end. A stop string comes with its reason and
no text is empty, as the backend has it. -/
structure EosData where
  eosReason : Option PyStr
  eosTriggeringString : Option PyStr
  eosTriggeringTokenId : Option Int
  eosTriggeringTokenStr : Option PyStr
  promptTokens : Option Int
  cachedTokens : Option Int
  newTokens : Option Int
  timeEnqueued : Option PyFloat
  timePrefill : Option PyFloat
  timeGenerate : Option PyFloat
  reasonNonempty : eosReason ≠ some []
  stopStringReason : ∀ text, eosTriggeringString = some text → text ≠ [] →
    eosReason = some (py "stop_string")
deriving DecidableEq

structure BackendResult where
  stage : ResultStage
  text : Option PyStr
  tokenIds : List Nat
  eos : Option EosData
deriving DecidableEq

def BackendResult.textOrEmpty (result : BackendResult) : PyStr := result.text.getD []

/-- What a job's queue can hold; the backend marks a cancellation with an item that is no
mapping. -/
inductive QueueItem
  | result (result : BackendResult)
  | exception
  | sentinel
deriving DecidableEq

inductive RuntimeRaise
  | backend
  | valueError (message : String)
deriving DecidableEq, Repr

/-! ## Translation -/

def measuredNonNegativeInt (value : Option Int) : Option Nat :=
  match value with
  | some (.ofNat measured) => some measured
  | _ => none

def measuredSeconds (value : Option PyFloat) : Option PyFloat :=
  value.filter fun measured => !measured.negative || measured.mantissa == 0

def translateUsage (request : RuntimeGenerationRequest) (eos : EosData) : TokenUsage :=
  let inputCount := request.inputIds.length
  let promptIsConsistent : Bool := measuredNonNegativeInt eos.promptTokens == some inputCount
  { inputTokens := some inputCount
    cachedInputTokens :=
      if promptIsConsistent then
        (measuredNonNegativeInt eos.cachedTokens).filter fun cached => decide (cached ≤ inputCount)
      else none
    outputTokens := if promptIsConsistent then measuredNonNegativeInt eos.newTokens else none
    reasoningTokens := none
    cachedWithinInput := by
      intro input isInput cached isCached
      cases isInput
      rw [Option.mem_def] at isCached
      split at isCached
      · exact of_decide_eq_true (Option.filter_eq_some_iff.mp isCached).2
      · cases isCached }

def translateTiming (eos : EosData) : RuntimeTiming :=
  ⟨measuredSeconds eos.timeEnqueued, measuredSeconds eos.timePrefill,
    measuredSeconds eos.timeGenerate⟩

def translateStopReason (reason : Option PyStr) : RuntimeStopReason :=
  if reason = some (py "stop_token") then .eos
  else if reason = some (py "stop_string") then .stopString
  else if reason = some (py "max_new_tokens") then .length
  else if reason = some (py "end_filter") then .filter
  else if reason = some (py "loop_detected") then .loop
  else .other

def nonEmptyText (text : Option PyStr) : Option PyStr := text.filter fun text => decide (text ≠ [])

theorem nonEmptyText_ne (text : Option PyStr) : nonEmptyText text ≠ some [] := fun found =>
  of_decide_eq_true (Option.filter_eq_some_iff.mp found).2 rfl

def translateEos (request : RuntimeGenerationRequest) (eos : EosData) : RuntimeFinished where
  requestId := request.requestId
  reason := translateStopReason eos.eosReason
  usage := translateUsage request eos
  timing := translateTiming eos
  stopSequence := nonEmptyText eos.eosTriggeringString
  backendReason := eos.eosReason
  eosTokenId := measuredNonNegativeInt eos.eosTriggeringTokenId
  eosTokenText := nonEmptyText eos.eosTriggeringTokenStr
  hardConstraintInstalled := false
  hardConstraintActivated := false
  effectiveGenerationGuarantee := .none
  stopSequenceValid text found := by
    have nonempty := of_decide_eq_true (Option.filter_eq_some_iff.mp found).2
    have reason := eos.stopStringReason text (Option.filter_eq_some_iff.mp found).1 nonempty
    refine ⟨nonempty, ?_⟩
    rw [reason]
    decide
  backendReasonNonempty := eos.reasonNonempty
  eosTokenTextNonempty := nonEmptyText_ne _
  activatedInstalled := id
  guaranteeActivated guaranteed := absurd rfl guaranteed

/-- The two tables of `_output_token_provenance_metadata`. -/
structure ProvenanceTables where
  idToPiece : Option (List PyStr)
  nativePieceIds : Option (Finset Nat)
deriving DecidableEq

def ProvenanceTables.enabled (tables : ProvenanceTables) : Bool :=
  tables.idToPiece.isSome && tables.nativePieceIds.isSome

def textDeltaOf (request : RuntimeGenerationRequest) (tables : ProvenanceTables)
    (tokenIds : List Nat) (text : PyStr) (nonempty : text ≠ []) : RuntimeTextDelta where
  requestId := request.requestId
  text := text
  tokenIds := tokenIds
  nativeTokenSpans := nativeTokenSpans text tokenIds tables.idToPiece tables.nativePieceIds
  nativeTokenProvenance := tables.enabled
  textNonempty := nonempty
  spansNeedProvenance present := by
    rcases Option.isSome_iff_exists.mp present with ⟨spans, found⟩
    rcases nativeTokenSpans_eq_some found with ⟨_, _, _, hasPieces, hasNative, _⟩
    rw [ProvenanceTables.enabled, hasPieces, hasNative]
    rfl
  spansFit _ found := nativeTokenSpans_fit found

def translateExllamav3Result (request : RuntimeGenerationRequest) (tables : ProvenanceTables)
    (result : BackendResult) : List SessionEvent :=
  if result.stage = .started then [.started request.requestId]
  else
    let delta :=
      if nonempty : result.textOrEmpty ≠ [] then
        [SessionEvent.textDelta
          (textDeltaOf request tables result.tokenIds result.textOrEmpty nonempty)]
      else []
    match result.eos with
    | none => delta
    | some eos => delta ++ [.finished (translateEos request eos)]

/-! ## Draining and merging -/

def readyStreamDrainMaxResults : Nat := 16

/-- The loop of `_drain_ready_stream_results`: what it takes and what it leaves. -/
def drainLoop : Nat → List QueueItem → Except RuntimeRaise (List BackendResult × List QueueItem)
  | 0, queue => .ok ([], queue)
  | _ + 1, [] => .ok ([], [])
  | _ + 1, .exception :: _ => .error .backend
  | _ + 1, .sentinel :: queue => .ok ([], queue)
  | turns + 1, .result item :: queue =>
      if item.stage ≠ .streaming then drainLoop turns queue
      else if item.eos.isSome then .ok ([item], queue)
      else (drainLoop turns queue).map fun drained => (item :: drained.1, drained.2)

/-- `queue` is what is in the job's queue; a job without one drains as from an empty
queue. -/
def drainReadyStreamResults (first : BackendResult) (queue : List QueueItem) :
    Except RuntimeRaise (List BackendResult × List QueueItem) :=
  if first.stage ≠ .streaming ∨ first.eos.isSome then .ok ([first], queue)
  else
    (drainLoop (readyStreamDrainMaxResults - 1) queue).map fun drained =>
      (first :: drained.1, drained.2)

/-- The part of `_merge_ready_stream_results` behind the draining. -/
def mergeResults (first : BackendResult) (others : List BackendResult) : BackendResult :=
  let ready := first :: others
  let last := others.getLastD first
  let streamIds := ready.flatMap BackendResult.tokenIds
  if others = [] then first
  else
    { last with
      text := some (ready.flatMap BackendResult.textOrEmpty)
      tokenIds := if streamIds = [] then last.tokenIds else streamIds }

/-! ## Coalescing -/

def verifiedProvenanceDelta (event : RuntimeTextDelta) : Bool :=
  event.nativeTokenProvenance && event.nativeTokenSpans.isSome

def shiftSpan (offset : Nat) (span : NativeTokenSpan) : NativeTokenSpan where
  start := span.start + offset
  stop := span.stop + offset
  tokenId := span.tokenId
  text := span.text
  ordered := Nat.add_lt_add_right span.ordered offset
  textNonempty := span.textNonempty

theorem slice_append_left {text : PyStr} (more : PyStr) {start stop : Nat}
    (inside : stop ≤ text.length) : (text ++ more).slice start stop = text.slice start stop := by
  rw [PyStr.slice, PyStr.slice, List.take_append_of_le_length inside]

theorem slice_append_right (before text : PyStr) (start stop : Nat) :
    (before ++ text).slice (start + before.length) (stop + before.length) =
      text.slice start stop := by
  rw [PyStr.slice, PyStr.slice, Nat.add_comm stop, List.take_length_add_append,
    Nat.add_comm start, ← List.drop_drop, List.drop_left]

theorem SpansFit.append {first second : PyStr} {firstSpans secondSpans : List NativeTokenSpan}
    (fit : SpansFit first firstSpans) (fit' : SpansFit second secondSpans) :
    SpansFit (first ++ second) (firstSpans ++ secondSpans.map (shiftSpan first.length)) := by
  constructor
  · rw [List.pairwise_append]
    refine ⟨fit.ordered, ?_, ?_⟩
    · rw [List.pairwise_map]
      exact fit'.ordered.imp fun ordered => Nat.add_le_add_right ordered _
    · intro span member next memberNext
      rcases List.mem_map.mp memberNext with ⟨shifted, _, rfl⟩
      exact Nat.le_trans (fit.inside span member) (Nat.le_add_left _ _)
  · intro span member
    rw [List.length_append]
    rcases List.mem_append.mp member with member | member
    · exact Nat.le_trans (fit.inside span member) (Nat.le_add_right _ _)
    · rcases List.mem_map.mp member with ⟨shifted, inSecond, rfl⟩
      have inside := fit'.inside shifted inSecond
      rw [shiftSpan]
      dsimp only
      omega
  · intro span member
    rcases List.mem_append.mp member with member | member
    · rw [slice_append_left second (fit.inside span member)]
      exact fit.exact span member
    · rcases List.mem_map.mp member with ⟨shifted, inSecond, rfl⟩
      exact (slice_append_right first second _ _).trans (fit'.exact shifted inSecond)

def joinDeltas (first second : RuntimeTextDelta) : RuntimeTextDelta where
  requestId := first.requestId
  text := first.text ++ second.text
  tokenIds := first.tokenIds ++ second.tokenIds
  nativeTokenSpans := first.nativeTokenSpans.bind fun spans =>
    second.nativeTokenSpans.map fun others => spans ++ others.map (shiftSpan first.text.length)
  nativeTokenProvenance := true
  textNonempty := List.append_ne_nil_of_left_ne_nil first.textNonempty _
  spansNeedProvenance _ := rfl
  spansFit := by
    intro spans found
    rcases Option.bind_eq_some_iff.mp found with ⟨firstSpans, inFirst, found⟩
    rcases Option.map_eq_some_iff.mp found with ⟨secondSpans, inSecond, rfl⟩
    exact (first.spansFit _ inFirst).append (second.spansFit _ inSecond)

def mergeVerifiedTextDeltas (first second : RuntimeTextDelta) :
    Except RuntimeRaise RuntimeTextDelta :=
  if first.requestId ≠ second.requestId then
    .error (.valueError "cannot merge runtime text deltas from different requests")
  else if !verifiedProvenanceDelta first || !verifiedProvenanceDelta second then
    .error (.valueError "runtime text deltas must have verified provenance before merging")
  else .ok (joinDeltas first second)

/-- One turn of the coalescing loop; the last event so far stands first. -/
def coalesceNext (coalesced : List SessionEvent) (event : SessionEvent) :
    Except RuntimeRaise (List SessionEvent) :=
  match event, coalesced with
  | .textDelta delta, .textDelta previous :: earlier =>
      if verifiedProvenanceDelta delta && verifiedProvenanceDelta previous then
        (mergeVerifiedTextDeltas previous delta).map fun merged => .textDelta merged :: earlier
      else .ok (event :: coalesced)
  | _, _ => .ok (event :: coalesced)

def coalesceVerifiedRuntimeTextDeltas (events : List SessionEvent) :
    Except RuntimeRaise (List SessionEvent) :=
  (events.foldlM coalesceNext []).map List.reverse

/-! ## Constraints -/

structure ConstraintEnforcementState where
  installed : Bool
  triggerToken : Option Nat
  activated : Bool
  guarantee : GenerationGuarantee
  activatedInstalled : activated = true → installed = true
deriving DecidableEq

namespace ConstraintEnforcementState

def absent : ConstraintEnforcementState := ⟨false, none, false, .none, id⟩

def installedWithTrigger (triggerToken : Option Nat) (guarantee : GenerationGuarantee) :
    ConstraintEnforcementState := ⟨true, triggerToken, triggerToken.isNone, guarantee, fun _ => rfl⟩

def effectiveGuarantee (state : ConstraintEnforcementState) : GenerationGuarantee :=
  if state.installed && state.activated then state.guarantee else .none

def observeTokenIds (state : ConstraintEnforcementState) (tokenIds : List Nat) :
    ConstraintEnforcementState :=
  match state.triggerToken with
  | none => state
  | some trigger =>
      if installed : state.installed = true then
        if trigger ∈ tokenIds then
          { state with activated := true, activatedInstalled := fun _ => installed }
        else state
      else state

end ConstraintEnforcementState

end ExQServe.Runtime
