import ExQServe.Model.Contracts

/-! # Content and calls

What the stream parsers of the dialects share: the deltas of the two channels, how a channel is
opened, filled and completed, the events of a call, and how a reader follows the events. -/

namespace ExQServe.Model

open ExQServe.Search ExQServe.Emission

/-! ## Merging deltas -/

/-- The request and the text of a delta; the kind tells whether it is reasoning. -/
def deltaPiece : GenerationEvent → Option ((Bool × PyStr) × PyStr)
  | .textDelta requestId text => some ((false, requestId), text)
  | .reasoningDelta requestId text => some ((true, requestId), text)
  | _ => none

def wholeDelta (kind : Bool × PyStr) (text : PyStr) : GenerationEvent :=
  if kind.1 then .reasoningDelta kind.2 text else .textDelta kind.2 text

theorem deltaPiece_wholeDelta (kind : Bool × PyStr) (text : PyStr) :
    deltaPiece (wholeDelta kind text) = some (kind, text) := by
  rcases kind with ⟨reasoning, requestId⟩
  cases reasoning <;> rfl

/-- Two neighbouring deltas of one channel are the delta of their texts. -/
def deltaJoining : Joining GenerationEvent := .ofPieces _ _ deltaPiece_wholeDelta

def mergeDeltas (events : List GenerationEvent) : List GenerationEvent :=
  deltaJoining.merge events

/-- What a run shows: its events with adjacent deltas merged, and what `finish` returns; or what
it raises. -/
def observed {σ β : Type} (ended : ParserResult (Ending σ GenerationEvent β)) :
    ParserResult (List GenerationEvent × β) :=
  ended.map fun ending => (mergeDeltas ending.log, ending.value)

theorem observed_of_alike {σ β : Type} {left right : ParserResult (Ending σ GenerationEvent β)}
    (alike : Alike deltaJoining left right) : observed left = observed right := by
  cases left with
  | error failure =>
      cases right with
      | error failure' => exact congrArg Except.error alike
      | ok ending => cases alike
  | ok ending =>
      cases right with
      | error failure => cases alike
      | ok ending' => exact congrArg Except.ok (Prod.ext alike.2.2 alike.1)

/-! ## Channels -/

inductive Channel
  | text
  | reasoning
deriving DecidableEq, Repr

structure ContentChannels where
  textOpen : Bool
  textValue : PyStr
  reasoningOpen : Bool
  reasoningValue : PyStr
deriving DecidableEq

namespace ContentChannels

def closed : ContentChannels := ⟨false, [], false, []⟩

def emitContent (requestId : PyStr) (channel : Channel) (text : PyStr)
    (channels : ContentChannels) : ContentChannels × List GenerationEvent :=
  if text = [] then (channels, [])
  else
    match channel with
    | .reasoning =>
        ({ channels with
            reasoningOpen := true
            reasoningValue := channels.reasoningValue ++ text },
          (if channels.reasoningOpen then [] else [.reasoningStarted requestId]) ++
            [.reasoningDelta requestId text])
    | .text =>
        ({ channels with textOpen := true, textValue := channels.textValue ++ text },
          (if channels.textOpen then [] else [.textStarted requestId]) ++
            [.textDelta requestId text])

def closeChannel (requestId : PyStr) (channel : Channel) (channels : ContentChannels) :
    ContentChannels × List GenerationEvent :=
  match channel with
  | .reasoning =>
      if channels.reasoningOpen then
        ({ channels with reasoningOpen := false, reasoningValue := [] },
          [.reasoningCompleted requestId channels.reasoningValue])
      else (channels, [])
  | .text =>
      if channels.textOpen then
        ({ channels with textOpen := false, textValue := [] },
          [.textCompleted requestId channels.textValue])
      else (channels, [])

variable {requestId : PyStr} {channel : Channel} {channels : ContentChannels}

@[simp] theorem emitContent_nil : emitContent requestId channel [] channels = (channels, []) := rfl

theorem emitContent_append_fst (first second : PyStr) :
    (emitContent requestId channel (first ++ second) channels).1 =
      (emitContent requestId channel second
        (emitContent requestId channel first channels).1).1 := by
  cases first with
  | nil => rfl
  | cons char first =>
      cases second with
      | nil => rw [List.append_nil, emitContent_nil]
      | cons other second =>
          cases channel with
          | text => simp [emitContent]
          | reasoning => simp [emitContent]

/-- Content in two pieces differs from the whole by the cut of a delta. -/
theorem emitContent_append_snd (first second : PyStr) :
    deltaJoining.merge (emitContent requestId channel (first ++ second) channels).2 =
      deltaJoining.merge ((emitContent requestId channel first channels).2 ++
        (emitContent requestId channel second
          (emitContent requestId channel first channels).1).2) := by
  cases first with
  | nil => rfl
  | cons char first =>
      cases second with
      | nil => rw [List.append_nil, emitContent_nil, List.append_nil]
      | cons other second =>
          cases channel with
          | text =>
              have joins : deltaJoining.join (.textDelta requestId (char :: first))
                  (.textDelta requestId (other :: second)) =
                    some (.textDelta requestId (char :: first ++ other :: second)) := by
                simp [deltaJoining, Joining.ofPieces, Joining.joinPieces, deltaPiece, wholeDelta]
              have merged := (deltaJoining.merge_join joins).symm
              simp only [emitContent, reduceCtorEq, if_false, if_true, List.nil_append,
                List.append_assoc, List.cons_append]
              exact deltaJoining.merge_append_congr rfl merged
          | reasoning =>
              have joins : deltaJoining.join (.reasoningDelta requestId (char :: first))
                  (.reasoningDelta requestId (other :: second)) =
                    some (.reasoningDelta requestId (char :: first ++ other :: second)) := by
                simp [deltaJoining, Joining.ofPieces, Joining.joinPieces, deltaPiece, wholeDelta]
              have merged := (deltaJoining.merge_join joins).symm
              simp only [emitContent, reduceCtorEq, if_false, if_true, List.nil_append,
                List.append_assoc, List.cons_append]
              exact deltaJoining.merge_append_congr rfl merged

end ContentChannels

/-! ## Calls -/

@[ext] structure ParsedCall where
  name : PyStr
  argumentsJson : PyStr
  nameNonBlank : NonBlank name

instance : DecidableEq ParsedCall := fun _ _ => decidable_of_iff' _ ParsedCall.ext_iff

structure DialectRequest where
  requestId : PyStr
  tag : PyStr
  sha256Hexdigest : PyStr → PyStr
  requestIdNonBlank : NonBlank requestId

namespace DialectRequest

def deterministicCallId (request : DialectRequest) (index : Nat) : PyStr :=
  py "call_" ++ (request.sha256Hexdigest
    (request.requestId ++ chr '\x00' :: request.tag ++ chr '\x00' :: pyNat index)).take 24

theorem deterministicCallId_nonBlank (request : DialectRequest) (index : Nat) :
    NonBlank (request.deterministicCallId index) :=
  nonBlank_iff.mpr ⟨chr 'c', by simp [deterministicCallId, py], by decide⟩

def callEvents (request : DialectRequest) (index : Nat) (call : ParsedCall) :
    List GenerationEvent :=
  let callId := request.deterministicCallId index
  [.toolCallStarted request.requestId callId call.name index,
    .toolCallArgumentsDelta request.requestId callId call.argumentsJson index,
    .toolCallCompleted request.requestId
      ⟨callId, call.name, call.argumentsJson, index, request.deterministicCallId_nonBlank index,
        call.nameNonBlank⟩]

/-- The events of a call; the digest of its id needs the encoded request id. -/
def publishCall (request : DialectRequest) (index : Nat) (call : ParsedCall) :
    ParserResult (List GenerationEvent) :=
  if request.requestId.utf8Encodable then .ok (request.callEvents index call)
  else .error .unicodeEncode

theorem publishCall_ok {request : DialectRequest} {index : Nat} {call : ParsedCall}
    {events : List GenerationEvent} (published : request.publishCall index call = .ok events) :
    events = request.callEvents index call := by
  rw [publishCall] at published
  split at published
  · exact (Except.ok.inj published).symm
  · cases published

end DialectRequest

/-! ## Following the events -/

abbrev OpenChannel := Option (Channel × PyStr)

/-- One event; `none` for an event that does not belong here. -/
def readEvent : OpenChannel → GenerationEvent → Option OpenChannel
  | none, .textStarted _ => some (some (.text, []))
  | none, .reasoningStarted _ => some (some (.reasoning, []))
  | some (.text, value), .textDelta _ text => some (some (.text, value ++ text))
  | some (.reasoning, value), .reasoningDelta _ text => some (some (.reasoning, value ++ text))
  | some (.text, value), .textCompleted _ text => if text = value then some none else none
  | some (.reasoning, value), .reasoningCompleted _ text =>
      if text = value then some none else none
  | none, .toolCallStarted _ _ _ _ => some none
  | none, .toolCallArgumentsDelta _ _ _ _ => some none
  | none, .toolCallCompleted _ _ => some none
  | _, _ => none

/-- A channel at a time, each completed with the text of its deltas, and calls between them. -/
def readEvents (opened : OpenChannel) (events : List GenerationEvent) : Option OpenChannel :=
  events.foldlM readEvent opened

theorem readEvents_append (opened : OpenChannel) (first second : List GenerationEvent) :
    readEvents opened (first ++ second) =
      (readEvents opened first).bind fun reached => readEvents reached second :=
  List.foldlM_append

namespace ContentChannels

def opened (channels : ContentChannels) : OpenChannel :=
  if channels.textOpen then some (.text, channels.textValue)
  else if channels.reasoningOpen then some (.reasoning, channels.reasoningValue)
  else none

/-- Only the current channel is open, and a closed one has no text. -/
structure Coherent (channel : Channel) (channels : ContentChannels) : Prop where
  text : channel ≠ .text → channels.textOpen = false
  reasoning : channel ≠ .reasoning → channels.reasoningOpen = false
  textEmpty : channels.textOpen = false → channels.textValue = []
  reasoningEmpty : channels.reasoningOpen = false → channels.reasoningValue = []

variable {requestId : PyStr} {channel : Channel} {channels : ContentChannels}

theorem closed_coherent : Coherent channel closed :=
  ⟨fun _ => rfl, fun _ => rfl, fun _ => rfl, fun _ => rfl⟩

theorem Coherent.emit (coherent : Coherent channel channels) (text : PyStr) :
    Coherent channel (emitContent requestId channel text channels).1 ∧
      readEvents channels.opened (emitContent requestId channel text channels).2 =
        some (emitContent requestId channel text channels).1.opened := by
  cases text with
  | nil => exact ⟨coherent, rfl⟩
  | cons char text =>
      cases channel with
      | text =>
          have other := coherent.reasoning (by decide)
          constructor
          · exact ⟨fun differs => absurd rfl differs, fun _ => other,
              fun shut => Bool.noConfusion shut, coherent.reasoningEmpty⟩
          · cases isOpen : channels.textOpen with
            | true => simp [emitContent, opened, isOpen, readEvents, readEvent]
            | false =>
                simp [emitContent, opened, isOpen, other, readEvents, readEvent,
                  coherent.textEmpty isOpen]
      | reasoning =>
          have other := coherent.text (by decide)
          constructor
          · exact ⟨fun _ => other, fun differs => absurd rfl differs, coherent.textEmpty,
              fun shut => Bool.noConfusion shut⟩
          · cases isOpen : channels.reasoningOpen with
            | true => simp [emitContent, opened, isOpen, other, readEvents, readEvent]
            | false =>
                simp [emitContent, opened, isOpen, other, readEvents, readEvent,
                  coherent.reasoningEmpty isOpen]

/-- Closing the current channel closes everything. -/
theorem Coherent.close (coherent : Coherent channel channels) :
    (closeChannel requestId channel channels).1 = closed ∧
      readEvents channels.opened (closeChannel requestId channel channels).2 = some none := by
  rcases channels with ⟨textOpen, textValue, reasoningOpen, reasoningValue⟩
  cases channel with
  | text =>
      have other := coherent.reasoning (by decide)
      have otherEmpty := coherent.reasoningEmpty other
      cases textOpen with
      | true =>
          dsimp only at other otherEmpty
          simp [closeChannel, closed, opened, other, otherEmpty, readEvents, readEvent]
      | false =>
          have empty := coherent.textEmpty rfl
          dsimp only at other otherEmpty empty
          simp [closeChannel, closed, opened, other, otherEmpty, empty, readEvents]
  | reasoning =>
      have other := coherent.text (by decide)
      have otherEmpty := coherent.textEmpty other
      cases reasoningOpen with
      | true =>
          dsimp only at other otherEmpty
          simp [closeChannel, closed, opened, other, otherEmpty, readEvents, readEvent]
      | false =>
          have empty := coherent.reasoningEmpty rfl
          dsimp only at other otherEmpty empty
          simp [closeChannel, closed, opened, other, otherEmpty, empty, readEvents]

end ContentChannels

theorem readEvents_callEvents (request : DialectRequest) (index : Nat) (call : ParsedCall) :
    readEvents none (request.callEvents index call) = some none := rfl

end ExQServe.Model
