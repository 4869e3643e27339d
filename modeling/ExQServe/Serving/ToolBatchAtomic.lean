import ExQServe.Serving.ToolBatch

/-! # Atomic publication of a tool-call batch

Every event that the gate takes is either passed on at once, behind nothing that is held
back, or held back behind the rest. So while the gate is open the accepted events are those
returned followed by those held back. -/

namespace ExQServe.Serving

open ExQServe.Model ToolCallBatchGate

variable {outside : ValidationSurroundings} {config : ToolBatchConfig}

/-! ## What one event does -/

inductive Progress (outside : ValidationSurroundings) (config : ToolBatchConfig)
    (gate : ToolCallBatchGate) : List PyStr → List ToolCallItem → Prop
  | same : Progress outside config gate gate.acceptedCallIds gate.completedCalls
  | started (callId : PyStr) (new : callId ∉ gate.acceptedCallIds)
      (room : gate.acceptedCallIds.length < config.effectiveLimit) :
      Progress outside config gate (gate.acceptedCallIds ++ [callId]) gate.completedCalls
  | completed (call : ToolCallItem) (validation : ToolCallsValidation)
      (started : call.callId ∈ gate.acceptedCallIds)
      (validated : validateToolCallsWithCanonicalArguments outside (gate.completedCalls ++ [call])
        config.policy = some validation)
      (valid : validation.result.isValid = true) :
      Progress outside config gate gate.acceptedCallIds (gate.completedCalls ++ [call])

inductive Answer (outside : ValidationSurroundings) (config : ToolBatchConfig)
    (gate : ToolCallBatchGate) (event : ServingEvent) :
    Option (BatchDecision × ToolCallBatchGate) → Prop
  | raised : Answer outside config gate event none
  | refused (failure : BatchFailure) :
      Answer outside config gate event (some (⟨[], some failure⟩, gate))
  | passed (ids : List PyStr) (isOpen : gate.lifecycle = .opened)
      (nothingHeld : gate.bufferedEvents = []) (notCompleted : event.isToolCallCompleted = false)
      (progress : Progress outside config gate ids gate.completedCalls) :
      Answer outside config gate event
        (some (⟨[event], none⟩, ⟨ids, gate.completedCalls, gate.bufferedEvents, gate.lifecycle⟩))
  | held (ids : List PyStr) (calls : List ToolCallItem) (isOpen : gate.lifecycle = .opened)
      (progress : Progress outside config gate ids calls) :
      Answer outside config gate event
        (some (⟨[], none⟩, ⟨ids, calls, gate.bufferedEvents ++ [event], gate.lifecycle⟩))

theorem answer_acceptEvent {gate : ToolCallBatchGate} {ids : List PyStr} {event : ServingEvent}
    (isOpen : gate.lifecycle = .opened) (notCompleted : event.isToolCallCompleted = false)
    (progress : Progress outside config gate ids gate.completedCalls) :
    Answer outside config gate event
      (some ({ gate with acceptedCallIds := ids }.acceptEvent config event)) := by
  rw [acceptEvent]
  by_cases holds : (config.atomicParallelTools || !gate.bufferedEvents.isEmpty) = true
  · rw [if_pos holds]
    exact .held ids gate.completedCalls isOpen progress
  · rw [if_neg holds]
    have nothingHeld : gate.bufferedEvents = [] := by
      simp only [Bool.or_eq_true, Bool.not_eq_true', not_or, Bool.not_eq_false,
        List.isEmpty_iff] at holds
      exact holds.2
    exact .passed ids isOpen nothingHeld notCompleted progress

theorem answer_onStarted (gate : ToolCallBatchGate) (requestId callId name : PyStr) (index : Nat) :
    Answer outside config gate (.semantic (.toolCallStarted requestId callId name index))
      (some (gate.onStarted config requestId callId name index)) := by
  rw [onStarted]
  by_cases isOpen : gate.lifecycle = .opened
  · rw [if_neg (not_not.mpr isOpen)]
    by_cases again : callId ∈ gate.acceptedCallIds
    · rw [if_pos again]
      exact .refused _
    rw [if_neg again]
    by_cases full : config.effectiveLimit ≤ gate.acceptedCallIds.length
    · rw [if_pos full]
      exact .refused _
    · rw [if_neg full]
      exact answer_acceptEvent isOpen rfl (.started callId again (Nat.lt_of_not_le full))
  · rw [if_pos isOpen]
    exact .refused _

theorem answer_onArgumentsDelta (gate : ToolCallBatchGate) (requestId callId delta : PyStr)
    (index : Nat) :
    Answer outside config gate (.semantic (.toolCallArgumentsDelta requestId callId delta index))
      (some (gate.onArgumentsDelta config requestId callId delta index)) := by
  rw [onArgumentsDelta]
  by_cases isOpen : gate.lifecycle = .opened
  · rw [if_neg (not_not.mpr isOpen)]
    by_cases known : callId ∈ gate.acceptedCallIds
    · rw [if_neg (not_not.mpr known)]
      have kept : Progress outside config gate gate.acceptedCallIds gate.completedCalls := .same
      exact answer_acceptEvent isOpen rfl kept
    · rw [if_pos known]
      exact .refused _
  · rw [if_pos isOpen]
    exact .refused _

theorem answer_onCompleted (gate : ToolCallBatchGate) (requestId : PyStr) (call : ToolCallItem) :
    Answer outside config gate (.semantic (.toolCallCompleted requestId call))
      (gate.onCompleted outside config requestId call) := by
  rw [onCompleted]
  by_cases isOpen : gate.lifecycle = .opened
  · rw [if_neg (not_not.mpr isOpen)]
    by_cases known : call.callId ∈ gate.acceptedCallIds
    · rw [if_neg (not_not.mpr known)]
      dsimp only
      cases validated : validateToolCallsWithCanonicalArguments outside
          (gate.completedCalls ++ [call]) config.policy with
      | none => exact .raised
      | some validation =>
          rw [Option.map_some]
          by_cases valid : validation.result.isValid = true
          · rw [if_pos valid]
            exact .held _ _ isOpen (.completed call validation known validated valid)
          · rw [if_neg valid]
            exact .refused _
    · rw [if_pos known]
      exact .refused _
  · rw [if_pos isOpen]
    exact .refused _

theorem answer_onPassthrough (gate : ToolCallBatchGate) {event : ServingEvent}
    (notCompleted : event.isToolCallCompleted = false) :
    Answer outside config gate event (some (gate.onPassthrough event)) := by
  rw [onPassthrough]
  by_cases isOpen : gate.lifecycle = .opened
  · rw [if_neg (not_not.mpr isOpen)]
    by_cases nothingHeld : gate.bufferedEvents.isEmpty = true
    · rw [if_pos nothingHeld]
      exact .passed _ isOpen (List.isEmpty_iff.mp nothingHeld) notCompleted .same
    · rw [if_neg nothingHeld]
      exact .held _ _ isOpen .same
  · rw [if_pos isOpen]
    exact .refused _

theorem answer_process (gate : ToolCallBatchGate) (event : ServingEvent) :
    Answer outside config gate event (gate.process outside config event) := by
  cases event with
  | semantic event =>
      cases event with
      | toolCallStarted requestId callId name index => exact answer_onStarted gate _ _ _ _
      | toolCallArgumentsDelta requestId callId delta index =>
          exact answer_onArgumentsDelta gate _ _ _ _
      | toolCallCompleted requestId call => exact answer_onCompleted gate _ _
      | _ => exact answer_onPassthrough gate rfl
  | _ => exact answer_onPassthrough gate rfl

theorem answer_serve (gate : ToolCallBatchGate) (event : GateEvent) :
    Answer outside config gate event.event (event.serve outside config gate) := by
  cases event with
  | dispatched event => exact answer_process gate event
  | passthrough event other => exact answer_onPassthrough gate other

/-! ## The completed calls -/

/-- The ids are within the limit, and the completed calls are valid and have such ids. -/
structure GateSound (outside : ValidationSurroundings) (config : ToolBatchConfig)
    (gate : ToolCallBatchGate) : Prop where
  idsNodup : gate.acceptedCallIds.Nodup
  idsWithin : gate.acceptedCallIds.length ≤ config.effectiveLimit
  started : ∀ call ∈ gate.completedCalls, call.callId ∈ gate.acceptedCallIds
  valid : gate.completedCalls ≠ [] → ∃ validation,
    validateToolCallsWithCanonicalArguments outside gate.completedCalls config.policy =
      some validation ∧ validation.result.isValid = true

namespace GateSound

theorem initial : GateSound outside config .initial := by
  constructor
  · exact List.nodup_nil
  · exact Nat.zero_le _
  · exact fun call inside => absurd inside List.not_mem_nil
  · exact fun some => absurd rfl some

theorem progress {gate : ToolCallBatchGate} (sound : GateSound outside config gate)
    {ids : List PyStr} {calls : List ToolCallItem}
    (progress : Progress outside config gate ids calls)
    (events : List ServingEvent) (lifecycle : BatchLifecycle) :
    GateSound outside config ⟨ids, calls, events, lifecycle⟩ := by
  cases progress with
  | same => exact ⟨sound.idsNodup, sound.idsWithin, sound.started, sound.valid⟩
  | started callId new room =>
      constructor
      · apply List.nodup_append.mpr
        refine ⟨sound.idsNodup, List.nodup_singleton callId, ?_⟩
        intro old inside other isNew equal
        cases List.mem_singleton.mp isNew
        exact new (equal ▸ inside)
      · rw [List.length_append, List.length_singleton]
        exact room
      · exact fun call inside => List.mem_append_left _ (sound.started call inside)
      · exact sound.valid
  | completed call validation known validated valid =>
      constructor
      · exact sound.idsNodup
      · exact sound.idsWithin
      · intro other inside
        rcases List.mem_append.mp inside with old | new
        · exact sound.started other old
        · cases List.mem_singleton.mp new
          exact known
      · exact fun _ => ⟨validation, validated, valid⟩

theorem served {gate next : ToolCallBatchGate} {event : GateEvent} {decision : BatchDecision}
    (sound : GateSound outside config gate)
    (served : event.serve outside config gate = some (decision, next)) :
    GateSound outside config next := by
  have answer : Answer outside config gate event.event _ := answer_serve gate event
  rw [served] at answer
  cases answer with
  | refused failure => exact sound
  | passed ids isOpen nothingHeld notCompleted progress => exact sound.progress progress _ _
  | held ids calls isOpen progress => exact sound.progress progress _ _

theorem serve {run : GateRun} (sound : GateSound outside config run.gate) (call : GateCall) :
    GateSound outside config (run.serve outside config call).gate := by
  cases call with
  | event event =>
      rw [GateRun.serve]
      cases served : event.serve outside config run.gate with
      | none => exact sound
      | some answer => exact sound.served served
  | commitEvents =>
      rw [GateRun.serve, commitEvents]
      split
      · exact sound
      · exact ⟨sound.idsNodup, sound.idsWithin, sound.started, sound.valid⟩
  | abort =>
      rw [GateRun.serve, abort]
      split
      · exact sound
      · exact ⟨sound.idsNodup, sound.idsWithin, sound.started, sound.valid⟩

theorem serveAll {run : GateRun} (sound : GateSound outside config run.gate)
    (calls : List GateCall) :
    GateSound outside config (run.serveAll outside config calls).gate := by
  induction calls generalizing run with
  | nil => exact sound
  | cons call calls induction => exact induction (sound.serve call)

/-- There is a started call for every completed one. -/
theorem within {gate : ToolCallBatchGate} (sound : GateSound outside config gate)
    (nodup : (gate.completedCalls.map ToolCallItem.callId).Nodup) :
    gate.completedCalls.length ≤ config.effectiveLimit := by
  have inside : gate.completedCalls.map ToolCallItem.callId ⊆ gate.acceptedCallIds := by
    intro callId found
    rcases List.mem_map.mp found with ⟨call, member, rfl⟩
    exact sound.started call member
  calc gate.completedCalls.length
      = (gate.completedCalls.map ToolCallItem.callId).length := by rw [List.length_map]
    _ ≤ gate.acceptedCallIds.length := (List.subperm_of_subset nodup inside).length_le
    _ ≤ config.effectiveLimit := sound.idsWithin

end GateSound

/-! ## The events -/

/-- While the gate is open, what it accepted is what it returned and what it holds. -/
structure OpenRun (run : GateRun) : Prop where
  isOpen : run.gate.lifecycle = .opened
  inOrder : run.accepted = run.returned ++ run.gate.bufferedEvents
  noneCompleted : ∀ event ∈ run.returned, event.isToolCallCompleted = false

namespace OpenRun

theorem initial : OpenRun .initial :=
  ⟨rfl, rfl, fun _ inside => absurd inside List.not_mem_nil⟩

theorem serve {run : GateRun} (holds : OpenRun run) (event : GateEvent) :
    OpenRun (run.serve outside config (.event event)) := by
  have answer : Answer outside config run.gate event.event _ := answer_serve run.gate event
  rw [GateRun.serve]
  cases served : event.serve outside config run.gate with
  | none => exact holds
  | some found =>
      rw [served] at answer
      cases answer with
      | refused failure =>
          refine ⟨holds.isOpen, ?_, ?_⟩
          · simpa using holds.inOrder
          · simpa using holds.noneCompleted
      | passed ids isOpen nothingHeld notCompleted progress =>
          refine ⟨isOpen, ?_, ?_⟩
          · simpa [nothingHeld] using holds.inOrder
          · intro other inside
            rcases List.mem_append.mp inside with old | new
            · exact holds.noneCompleted other old
            · cases List.mem_singleton.mp new
              exact notCompleted
      | held ids calls isOpen progress =>
          refine ⟨isOpen, ?_, ?_⟩
          · simp [holds.inOrder]
          · simpa using holds.noneCompleted

theorem events {run : GateRun} (holds : OpenRun run) (events : List GateEvent) :
    OpenRun (run.serveAll outside config (events.map .event)) := by
  induction events generalizing run with
  | nil => exact holds
  | cons event events induction => exact induction (holds.serve event)

end OpenRun

/-- An aborted gate returns nothing and stays aborted. -/
theorem serve_aborted (outside : ValidationSurroundings) (config : ToolBatchConfig) {run : GateRun}
    (aborted : run.gate.lifecycle = .aborted) (call : GateCall) :
    (run.serve outside config call).gate.lifecycle = .aborted ∧
      (run.serve outside config call).returned = run.returned := by
  cases call with
  | event event =>
      have answer : Answer outside config run.gate event.event _ := answer_serve run.gate event
      rw [GateRun.serve]
      cases served : event.serve outside config run.gate with
      | none => exact ⟨aborted, rfl⟩
      | some found =>
          rw [served] at answer
          cases answer with
          | refused failure => exact ⟨aborted, List.append_nil _⟩
          | passed ids isOpen nothingHeld notCompleted progress =>
              rw [aborted] at isOpen
              cases isOpen
          | held ids calls isOpen progress =>
              rw [aborted] at isOpen
              cases isOpen
  | commitEvents =>
      rw [GateRun.serve, commitEvents, if_pos (by rw [aborted]; decide)]
      exact ⟨aborted, List.append_nil _⟩
  | abort =>
      rw [GateRun.serve, abort, if_neg (by rw [aborted]; decide)]
      exact ⟨rfl, rfl⟩

theorem serveAll_aborted {run : GateRun} (aborted : run.gate.lifecycle = .aborted)
    (calls : List GateCall) : (run.serveAll outside config calls).returned = run.returned := by
  induction calls generalizing run with
  | nil => rfl
  | cons call calls induction =>
      rcases serve_aborted outside config aborted call with
        ⟨still, returned⟩
      rw [GateRun.serveAll, List.foldl_cons, ← GateRun.serveAll, induction still, returned]

/-! ## The gate -/

structure PublishesAtomically (outside : ValidationSurroundings) (config : ToolBatchConfig) :
    Prop where
  noneCompleted : ∀ events : List GateEvent,
    ∀ event ∈ (GateRun.initial.serveAll outside config (events.map .event)).returned,
      event.isToolCallCompleted = false
  inOrder : ∀ events : List GateEvent,
    (GateRun.initial.serveAll outside config (events.map .event ++ [.commitEvents])).returned =
      (GateRun.initial.serveAll outside config (events.map .event)).accepted
  aborted : ∀ (events : List GateEvent) (calls : List GateCall),
    (GateRun.initial.serveAll outside config (events.map .event ++ .abort :: calls)).returned =
      (GateRun.initial.serveAll outside config (events.map .event)).returned
  completed : ∀ calls : List GateCall,
    let gate := (GateRun.initial.serveAll outside config calls).gate
    gate.completedCalls ≠ [] →
      (∃ result, validateToolCalls outside gate.completedCalls config.policy = some result ∧
        result.isValid = true) ∧
      (gate.completedCalls.map ToolCallItem.callId).Nodup ∧
      gate.completedCalls.length ≤ config.effectiveLimit

/-- The gate publishes its batch at once and in order. -/
theorem gate_publishes_atomically (outside : ValidationSurroundings) (config : ToolBatchConfig) :
    PublishesAtomically outside config := by
  have opened : ∀ events : List GateEvent,
      OpenRun (GateRun.initial.serveAll outside config (events.map .event)) :=
    fun events => OpenRun.initial.events events
  constructor
  case noneCompleted => exact fun events => (opened events).noneCompleted
  case inOrder =>
    intro events
    have holds := opened events
    rw [GateRun.serveAll, List.foldl_append, List.foldl_cons, List.foldl_nil, ← GateRun.serveAll,
      GateRun.serve, commitEvents, if_neg (not_not.mpr holds.isOpen)]
    exact holds.inOrder.symm
  case aborted =>
    intro events calls
    have holds := opened events
    rw [GateRun.serveAll, List.foldl_append, List.foldl_cons, ← GateRun.serveAll,
      ← GateRun.serveAll]
    have isAborted : ((GateRun.initial.serveAll outside config (events.map .event)).serve outside
        config .abort).gate.lifecycle = .aborted := by
      rw [GateRun.serve, abort, if_neg (by rw [holds.isOpen]; decide)]
    rw [serveAll_aborted isAborted]
    rfl
  case completed =>
    intro calls gate some
    have sound : GateSound outside config gate := GateSound.initial.serveAll calls
    rcases sound.valid some with ⟨validation, validated, valid⟩
    have nodup := nodup_of_valid validated valid
    refine ⟨⟨validation.result, ?_, valid⟩, nodup, sound.within nodup⟩
    rw [validateToolCalls, validated, Option.map_some]

/-! A call that is started, completed and committed. -/

theorem anyObject_parsed : ∃ entries : JsonObject,
    py "\x7b\x7d" = canonicalJsonDumps (.dict entries) ∧
      parseJsonStrict (py "\x7b\x7d") = some (.dict []) := ⟨[], rfl, rfl⟩

theorem anyObject_draft (declared : JsonValue)
    (found : JsonObject.get? [] (py "$schema") = some declared) :
    declared = .null ∨ declared = .str draft202012 := by
  cases found

theorem anyObject_local : referencesLocal (.dict []) = true := rfl

def anyObject : JsonSchema :=
  ⟨py "\x7b\x7d", [], anyObject_parsed, anyObject_draft, anyObject_local⟩

theorem lookTool_name : NonBlank (py "look") := by decide

def lookTool : FunctionTool := ⟨py "look", none, anyObject, false, lookTool_name⟩

def lookPolicy : ToolPolicy := .automatic [lookTool] (List.nodup_singleton _)

theorem lookCall_id : NonBlank (py "c") := by decide

def lookCall : ToolCallItem := ⟨py "c", py "look", py "\x7b\x7d", 0, lookCall_id, lookTool_name⟩

def acceptingOutside : ValidationSurroundings where
  repr := id
  decoderDepth := 1
  jsonFault _ := ⟨false, py "invalid JSON"⟩
  iterErrors _ _ := some []

theorem acceptingOutside_violations (schema : JsonSchema) (value : JsonObject) :
    schemaViolations acceptingOutside schema value = some [] := by
  rw [schemaViolations, acceptingOutside, Option.map_some, List.mergeSort_nil]

theorem lookCall_arguments (path : List PathPart) :
    checkArguments acceptingOutside lookTool path (py "\x7b\x7d") =
      some ([], some (py "\x7b\x7d")) := by
  have parsed : parseJsonStrictWithin acceptingOutside.decoderDepth (py "\x7b\x7d") =
      some (.dict []) := parseJsonStrictWithin_eq_some.mpr ⟨rfl, Nat.le_refl 1⟩
  rw [checkArguments, parsed]
  simp only [acceptingOutside_violations]
  rfl

theorem lookCall_valid :
    validateToolCallsWithCanonicalArguments acceptingOutside [lookCall] lookPolicy =
      some ⟨⟨[]⟩, [some (py "\x7b\x7d")]⟩ := by
  have found : lookPolicy.getTool lookCall.name = some lookTool := rfl
  have checked (path : List PathPart) :
      checkArguments acceptingOutside lookTool path lookCall.argumentsJson =
        some ([], some (py "\x7b\x7d")) := lookCall_arguments path
  simp only [validateToolCallsWithCanonicalArguments, checkCalls, checkCall, found, checked]
  rfl

theorem lookConfig_limits : 0 < 8 := by decide

def lookConfig : ToolBatchConfig := ⟨lookPolicy, 8, true, 8, lookConfig_limits, lookConfig_limits⟩

def lookStarted : ServingEvent := .semantic (.toolCallStarted (py "r") (py "c") (py "look") 0)

def lookCompleted : ServingEvent := .semantic (.toolCallCompleted (py "r") lookCall)

theorem lookCall_accepted :
    ToolCallBatchGate.onCompleted acceptingOutside lookConfig ⟨[py "c"], [], [lookStarted], .opened⟩
        (py "r") lookCall =
      some (⟨[], none⟩, ⟨[py "c"], [lookCall], [lookStarted, lookCompleted], .opened⟩) := by
  have opened : ¬BatchLifecycle.opened ≠ .opened := fun other => other rfl
  have accepted : ¬lookCall.callId ∉ [py "c"] := fun other => other List.mem_cons_self
  rw [ToolCallBatchGate.onCompleted, if_neg opened, if_neg accepted]
  simp only [List.nil_append, lookConfig, lookCall_valid]
  rfl

example :
    (GateRun.initial.serveAll acceptingOutside lookConfig
      [.event (.dispatched lookStarted), .event (.dispatched lookCompleted),
        .commitEvents]).returned = [lookStarted, lookCompleted] := by
  have started :
      GateRun.initial.serve acceptingOutside lookConfig (.event (.dispatched lookStarted)) =
      ⟨⟨[py "c"], [], [lookStarted], .opened⟩, [lookStarted], []⟩ := rfl
  rw [GateRun.serveAll, List.foldl_cons, started, List.foldl_cons]
  simp only [GateRun.serve, GateEvent.serve, lookCompleted, ToolCallBatchGate.process,
    lookCall_accepted]
  rfl

end ExQServe.Serving
