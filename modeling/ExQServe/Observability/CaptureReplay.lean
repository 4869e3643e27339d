import ExQServe.Foundation.Failing
import ExQServe.Observability.Capture

/-! # Captures that are replayed

Every decoder reads what its encoder wrote, so a full record replays the request and the
events that it was made of. -/

namespace ExQServe.Observability

open ExQServe.Model ExQServe.Serving

theorem get?_nil (key : PyStr) : JsonObject.get? [] key = none := rfl

@[simp] theorem ok_bind {α β : Type} (value : α) (next : α → Replayed β) :
    ((.ok value : Replayed α) >>= next) = next value := rfl

@[simp] theorem ok_map {α β : Type} (value : α) (next : α → β) :
    next <$> (.ok value : Replayed α) = .ok (next value) := rfl

@[simp] theorem ok_mapped {α β : Type} (value : α) (next : α → β) :
    (.ok value : Replayed α).map next = .ok (next value) := rfl

theorem mapM_encoded {α β : Type} {encode : α → β} {decode : β → Replayed α} {values : List α}
    (each : ∀ value ∈ values, decode (encode value) = .ok value) :
    (values.map encode).mapM decode = .ok values := by
  induction values with
  | nil => rfl
  | cons value values induction =>
      have later := induction fun other member => each other (List.mem_cons_of_mem _ member)
      rw [List.map_cons, List.mapM_cons, each value List.mem_cons_self, later]
      rfl

/-! ## Enumerations -/

theorem enumMember_value {α : Type} [DecidableEq α] {value : α → PyStr} {members : List α}
    (distinct : Function.Injective value) {member : α} (inside : member ∈ members) :
    enumMember value members (some (.str (value member))) = .ok member := by
  have found : members.find? (fun other => decide (value other = value member)) = some member := by
    induction members with
    | nil => cases inside
    | cons head members induction =>
        by_cases same : head = member
        · simp [same]
        · have apart : value head ≠ value member := fun equal => same (distinct equal)
          rw [List.find?_cons_of_neg (by simpa using apart)]
          exact induction ((List.mem_cons.mp inside).resolve_left (Ne.symm same))
  rw [enumMember, found]

@[simp] theorem enumMember_role (role : MessageRole) :
    enumMember MessageRole.value MessageRole.members (some (.str role.value)) = .ok role := by
  apply enumMember_value
  · intro first second same
    cases first <;> cases second <;> simp_all [MessageRole.value, py_inj]
  · cases role <;> simp [MessageRole.members]

@[simp] theorem enumMember_reason (reason : CompletionReason) :
    enumMember CompletionReason.value CompletionReason.members (some (.str reason.value)) =
      .ok reason := by
  apply enumMember_value
  · intro first second same
    cases first <;> cases second <;> simp_all [CompletionReason.value, py_inj]
  · cases reason <;> simp [CompletionReason.members]

@[simp] theorem enumMember_category (category : ErrorCategory) :
    enumMember ErrorCategory.value ErrorCategory.members (some (.str category.value)) =
      .ok category := by
  apply enumMember_value
  · intro first second same
    cases first <;> cases second <;> simp_all [ErrorCategory.value, py_inj]
  · cases category <;> simp [ErrorCategory.members]

@[simp] theorem enumMember_cause (cause : FailureCause) :
    enumMember FailureCause.value FailureCause.members (some (.str cause.value)) = .ok cause := by
  apply enumMember_value
  · intro first second same
    cases first <;> cases second <;> simp_all [FailureCause.value, py_inj]
  · cases cause <;> simp [FailureCause.members]

/-! ## Fields -/

@[simp] theorem requireObject_dict (message : String) (entries : JsonObject) :
    requireObject message (some (.dict entries)) = .ok entries := rfl

@[simp] theorem requireText_str (message : String) (text : PyStr) :
    requireText message (some (.str text)) = .ok text := rfl

@[simp] theorem requireKind_str (message : String) (kind : PyStr) :
    requireKind message (some (.str kind)) = .ok kind := rfl

@[simp] theorem requireBool_bool (message : String) (flag : Bool) :
    requireBool message (some (.bool flag)) = .ok flag := rfl

@[simp] theorem flagOrFalse_bool (message : String) (flag : Bool) :
    flagOrFalse message (some (.bool flag)) = .ok flag := rfl

@[simp] theorem requireList_list (message : String) (items : List JsonValue) :
    requireList message (some (.list items)) = .ok items := rfl

@[simp] theorem requireNonBlank_str (message : String) {text : PyStr}
    (nonBlank : NonBlank text) :
    requireNonBlank message (some (.str text)) = .ok ⟨text, nonBlank⟩ :=
  dif_pos nonBlank

@[simp] theorem requireDelta_str (message : String) {text : PyStr} (nonEmpty : text ≠ []) :
    requireDelta message (some (.str text)) = .ok text := if_neg nonEmpty

@[simp] theorem requireIndex_nat (index : Nat) :
    requireIndex (some (encodeNat index)) = .ok index := by
  simp [requireIndex, encodeNat]

@[simp] theorem measuredCount_encoded (name : String) (count : Option Nat) :
    measuredCount name (some (encodeOptional encodeNat count)) = .ok count := by
  cases count with
  | none => rfl
  | some count => simp [encodeOptional, encodeNat, measuredCount]

theorem measured_encoded (name : String) {seconds : Option PyFloat}
    (positive : ∀ value ∈ seconds, value.isNegative = false) :
    measured name (some (encodeOptional .float seconds)) = .ok seconds := by
  cases seconds with
  | none => rfl
  | some value => simp [encodeOptional, measured, positive value rfl]

@[simp] theorem withRequestId_ok {requestId : PyStr} (nonBlank : NonBlank requestId)
    (event : ServingEvent) : withRequestId requestId event = .ok event := if_pos nonBlank

/-! ## Parts of events -/

theorem decodeTiming_encodeTiming {timing : GenerationTiming} (built : timing.Constructed) :
    decodeTiming (some (.dict (encodeTiming timing))) = .ok timing := by
  have queue := measured_encoded "queue_seconds" (built timing.queueSeconds (by simp))
  have prefill := measured_encoded "prefill_seconds" (built timing.prefillSeconds (by simp))
  have generation :=
    measured_encoded "generation_seconds" (built timing.generationSeconds (by simp))
  simp [decodeTiming, encodeTiming, JsonObject.get?_cons, py_inj, queue, prefill, generation]

@[simp] theorem usageOf_fields (usage : TokenUsage) :
    usageOf usage.inputTokens usage.cachedInputTokens usage.outputTokens usage.reasoningTokens =
      .ok usage := dif_pos usage.cachedWithinInput

@[simp] theorem decodeUsage_encodeUsage (usage : TokenUsage) :
    decodeUsage (some (.dict (encodeUsage usage))) = .ok usage := by
  simp [decodeUsage, encodeUsage, JsonObject.get?_cons, py_inj]

@[simp] theorem optionalUsage_encoded (usage : Option TokenUsage) :
    optionalUsage (some (encodeOptional (fun usage => .dict (encodeUsage usage)) usage)) =
      .ok usage := by
  cases usage with
  | none => rfl
  | some usage => simp [encodeOptional, optionalUsage]

@[simp] theorem decodeError_encodeErrorFull (error : CanonicalError) :
    decodeError (some (.dict (encodeErrorFull error))) = .ok error := by
  have code := requireNonBlank_str "code must not be empty" error.codeNonBlank
  rcases error with ⟨category, code, message, retryable, cause, codeNonBlank⟩
  cases cause with
  | none =>
      simp [decodeError, encodeErrorFull, encodeErrorMetadata, JsonObject.get?_cons, get?_nil,
        py_inj, optionalText, codeNonBlank]
  | some cause =>
      simp [decodeError, encodeErrorFull, encodeErrorMetadata, JsonObject.get?_cons, py_inj,
        optionalText, codeNonBlank]

/-! ## Items -/

@[simp] theorem imagePartOf_fields (part : ImageContentPart) :
    imagePartOf part.source part.detail = .ok (.image part) := by
  rw [imagePartOf, dif_pos part.sourceNonBlank, dif_pos part.detailKnown]

theorem decodeContentPart_encoded (part : MessageContentPart) :
    decodeContentPart (encodeContentPart part) = .ok part := by
  cases part with
  | text part =>
      simp [encodeContentPart, decodeContentPart, decodeContentPartOf, decodeTextPart,
        JsonObject.get?_cons, py_inj]
  | image part =>
      have fields := imagePartOf_fields part
      cases detail : part.detail with
      | none =>
          rw [detail] at fields
          simp [encodeContentPart, decodeContentPart, decodeContentPartOf, decodeImagePart,
            JsonObject.get?_cons, get?_nil, py_inj, optionalText, detail, fields]
      | some known =>
          rw [detail] at fields
          simp [encodeContentPart, decodeContentPart, decodeContentPartOf, decodeImagePart,
            JsonObject.get?_cons, py_inj, optionalText, detail, fields]

@[simp] theorem decodeContentParts_encoded {parts : List MessageContentPart}
    (someImage : parts.any MessageContentPart.isImage = true) :
    decodeContentParts (some (encodeContentParts parts)) = .ok parts := by
  cases parts with
  | nil => cases someImage
  | cons part parts =>
      rw [encodeContentParts, List.map_cons, decodeContentParts, ← List.map_cons]
      exact mapM_encoded fun part _ => decodeContentPart_encoded part

@[simp] theorem multimodalMessageOf_fields (item : MultimodalMessageItem) :
    multimodalMessageOf item.role item.parts = .ok (.multimodalMessage item) := by
  rw [multimodalMessageOf, dif_pos item.fromUser, dif_pos item.someImage]

@[simp] theorem multimodalToolResultOf_fields (item : MultimodalToolResultItem) :
    multimodalToolResultOf ⟨item.callId, item.callIdNonBlank⟩ item.parts
      (some (.bool item.isError)) = .ok (.multimodalToolResult item) := by
  rw [multimodalToolResultOf, dif_pos item.someImage]
  rfl

@[simp] theorem decodeToolCall_encoded (call : ToolCallItem) :
    decodeItem (some (encodeToolCall call)) = .ok (.canonical (.toolCall call)) := by
  simp [decodeItem, encodeToolCall, decodeItemOf, decodeToolCall, JsonObject.get?_cons, py_inj,
    call.callIdNonBlank, call.nameNonBlank]

theorem requireInt_encoded (tokenIds : List Nat) :
    (tokenIds.map encodeNat).mapM requireInt = .ok (tokenIds.map Int.ofNat) := by
  induction tokenIds with
  | nil => rfl
  | cons tokenId tokenIds induction =>
      rw [List.map_cons, List.mapM_cons, induction]
      rfl

@[simp] theorem decodeRawTokens_encoded {tokenIds : List Nat} (nonEmpty : tokenIds ≠ []) :
    decodeRawTokens (some (.list (tokenIds.map encodeNat))) =
      .ok (.tokenIds tokenIds nonEmpty) := by
  have some : tokenIds.map Int.ofNat ≠ [] := by simpa using nonEmpty
  have positive : ∀ tokenId ∈ tokenIds.map Int.ofNat, 0 ≤ tokenId := by simp
  rw [decodeRawTokens, requireInt_encoded, ok_bind, rawTokensOf, dif_pos some, if_pos positive]
  simp [Function.comp_def]

theorem decodeItem_encodeItem (item : CapturedItem) :
    decodeItem (some (encodeItem item)) = .ok item := by
  cases item with
  | canonical item =>
      cases item with
      | message item =>
          simp [decodeItem, encodeItem, decodeItemOf, decodeMessage, JsonObject.get?_cons, py_inj]
      | multimodalMessage item =>
          have parts := decodeContentParts_encoded item.someImage
          simp [decodeItem, encodeItem, decodeItemOf, decodeMultimodalMessage,
            JsonObject.get?_cons, py_inj, parts]
      | reasoning item =>
          simp [decodeItem, encodeItem, decodeItemOf, decodeReasoning, JsonObject.get?_cons,
            py_inj]
      | toolCall item => exact decodeToolCall_encoded item
      | toolResult item =>
          simp [decodeItem, encodeItem, decodeItemOf, decodeToolResult, JsonObject.get?_cons,
            py_inj, item.callIdNonBlank]
      | multimodalToolResult item =>
          have parts := decodeContentParts_encoded item.someImage
          simp [decodeItem, encodeItem, decodeItemOf, decodeMultimodalToolResult,
            JsonObject.get?_cons, py_inj, parts, item.callIdNonBlank]
  | rawPrompt item =>
      cases item with
      | text text =>
          simp [decodeItem, encodeItem, decodeItemOf, decodeRawPrompt, JsonObject.get?_cons,
            py_inj]
      | tokenIds tokenIds nonEmpty =>
          simp [decodeItem, encodeItem, decodeItemOf, decodeRawPrompt, JsonObject.get?_cons,
            py_inj, nonEmpty]

/-! ## Events -/

theorem decodeEvent_encodeEvent {event : ServingEvent} (built : event.Constructed) :
    decodeEvent (.dict (encodeEvent event)) = .ok event := by
  cases event with
  | generationStarted requestId =>
      have nonBlank : NonBlank requestId := built
      simp [decodeEvent, encodeEvent, eventBase, decodeEventOf, JsonObject.get?_cons, py_inj,
        nonBlank]
  | generationCompleted requestId reason usage stopSequence =>
      rcases built with ⟨nonBlank, stops⟩
      have stopped : stopSequenceOf reason (some (encodeOptional .str stopSequence)) =
          .ok stopSequence := by
        cases stopSequence with
        | none => rfl
        | some stop =>
            rcases stops stop rfl with ⟨nonEmpty, same⟩
            simp [encodeOptional, stopSequenceOf, nonEmpty, same]
      simp [decodeEvent, encodeEvent, eventBase, decodeEventOf, decodeGenerationCompleted,
        JsonObject.get?_cons, py_inj, nonBlank, stopped]
  | generationCancelled requestId =>
      have nonBlank : NonBlank requestId := built
      simp [decodeEvent, encodeEvent, eventBase, decodeEventOf, JsonObject.get?_cons, py_inj,
        nonBlank]
  | generationFailed requestId error =>
      have nonBlank : NonBlank requestId := built
      simp [decodeEvent, encodeEvent, eventBase, decodeEventOf, decodeGenerationFailed,
        JsonObject.get?_cons, py_inj, nonBlank]
  | timingUpdated requestId timing =>
      rcases built with ⟨nonBlank, positive⟩
      simp [decodeEvent, encodeEvent, eventBase, decodeEventOf, decodeTimingUpdated,
        JsonObject.get?_cons, py_inj, nonBlank, decodeTiming_encodeTiming positive]
  | usageUpdated requestId usage =>
      have nonBlank : NonBlank requestId := built
      simp [decodeEvent, encodeEvent, eventBase, decodeEventOf, decodeUsageUpdated,
        JsonObject.get?_cons, py_inj, nonBlank]
  | semantic event =>
      cases event with
      | textStarted requestId | reasoningStarted requestId =>
          have nonBlank : NonBlank requestId := built
          simp [decodeEvent, encodeEvent, encodeGenerationEvent, eventBase, decodeEventOf,
            JsonObject.get?_cons, py_inj, nonBlank]
      | textDelta requestId text | reasoningDelta requestId text =>
          rcases built with ⟨nonBlank, nonEmpty⟩
          simp [decodeEvent, encodeEvent, encodeGenerationEvent, eventBase, decodeEventOf,
            decodeDelta, JsonObject.get?_cons, py_inj, nonBlank, nonEmpty]
      | textCompleted requestId text | reasoningCompleted requestId text =>
          have nonBlank : NonBlank requestId := built
          simp [decodeEvent, encodeEvent, encodeGenerationEvent, eventBase, decodeEventOf,
            decodeText, JsonObject.get?_cons, py_inj, nonBlank]
      | toolCallStarted requestId callId name index =>
          rcases built with ⟨nonBlank, callIdNonBlank, nameNonBlank⟩
          simp [decodeEvent, encodeEvent, encodeGenerationEvent, eventBase, decodeEventOf,
            decodeToolCallStarted, startedName, JsonObject.get?_cons, py_inj, nonBlank,
            callIdNonBlank, nameNonBlank]
      | toolCallArgumentsDelta requestId callId delta index =>
          rcases built with ⟨nonBlank, callIdNonBlank, nonEmpty⟩
          simp [decodeEvent, encodeEvent, encodeGenerationEvent, eventBase, decodeEventOf,
            decodeToolCallArgumentsDelta, JsonObject.get?_cons, py_inj, nonBlank,
            callIdNonBlank, nonEmpty]
      | toolCallCompleted requestId call =>
          have nonBlank : NonBlank requestId := built
          simp [decodeEvent, encodeEvent, encodeGenerationEvent, eventBase, decodeEventOf,
            decodeToolCallCompleted, JsonObject.get?_cons, py_inj, nonBlank]

/-! ## Records -/

theorem requestOf_items (request : CapturedRequest) :
    requestOf request.requestId request.model request.items = .ok request := by
  cases request with
  | canonical request =>
      have noRaw : (request.items.map CapturedItem.canonical).any CapturedItem.isRaw = false := by
        simp [CapturedItem.isRaw]
      have kept : (request.items.map CapturedItem.canonical).filterMap CapturedItem.canonical? =
          request.items := by
        simp [List.filterMap_map, Function.comp_def, CapturedItem.canonical?]
      simp [requestOf, CapturedRequest.requestId, CapturedRequest.model, CapturedRequest.items,
        noRaw, kept, request.requestIdNonBlank, request.modelNonBlank]
  | rawPrompt request =>
      simp [requestOf, CapturedRequest.requestId, CapturedRequest.model, CapturedRequest.items,
        CapturedItem.isRaw, request.requestIdNonBlank, request.modelNonBlank]

structure Replays (capture : TerminalCapture) (record : JsonObject) : Prop where
  request : replayRequest record = .ok capture.request
  events : replayEvents record = .ok capture.events

def fullRecord (capture : TerminalCapture) : JsonObject :=
  recordMetadata .full capture ++
    (match capture.execution with
    | none => []
    | some execution => [(py "execution", .dict execution)]) ++ recordContent capture

theorem recordTerminal_eq_some {capture : TerminalCapture} {record : JsonObject}
    (written : recordTerminal .full capture = .ok (some record)) : record = fullRecord capture := by
  rw [recordTerminal, if_neg (by decide)] at written
  split at written
  · cases written
  · split at written
    · cases written
    · cases written
      rfl

/-- What a full record has under the names that a replay looks up. -/
theorem fullRecord_get? (capture : TerminalCapture) :
    (fullRecord capture).get? (py "schema_version") = some (.int 1) ∧
    (fullRecord capture).get? (py "mode") = some (.str (py "full")) ∧
    (fullRecord capture).get? (py "request") = some (.dict (encodeRequest capture.request)) ∧
    (fullRecord capture).get? (py "events") =
      some (.list (capture.events.map fun event => .dict (encodeEvent event))) := by
  cases execution : capture.execution with
  | none =>
      simp [fullRecord, recordMetadata, recordContent, execution, JsonObject.get?_cons, py_inj,
        CaptureMode.value, schemaVersion]
  | some entries =>
      simp [fullRecord, recordMetadata, recordContent, execution, JsonObject.get?_cons, py_inj,
        CaptureMode.value, schemaVersion]

theorem fullRecord_replays {capture : TerminalCapture}
    (built : ∀ event ∈ capture.events, event.Constructed) :
    Replays capture (fullRecord capture) := by
  rcases fullRecord_get? capture with ⟨version, mode, request, events⟩
  have full : requireFull (fullRecord capture) = .ok () := by
    simp [requireFull, hasSchemaVersion, version, isOne, mode, CaptureMode.value]
  have items : (capture.request.items.map encodeItem).mapM (fun item => decodeItem (some item)) =
      .ok capture.request.items :=
    mapM_encoded fun item _ => decodeItem_encodeItem item
  constructor
  · simp [replayRequest, full, request, encodeRequest, decodeRequest, decodeItems,
      JsonObject.get?_cons, py_inj, items, requestOf_items]
  · have decoded : (capture.events.map fun event => JsonValue.dict (encodeEvent event)).mapM
        decodeEvent = .ok capture.events :=
      mapM_encoded fun event member => decodeEvent_encodeEvent (built event member)
    simp [replayEvents, full, events, decoded]

end ExQServe.Observability
