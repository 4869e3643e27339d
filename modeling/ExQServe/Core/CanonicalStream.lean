import ExQServe.Core.Events

/-! # Canonical event streams

What the events of a generation say, apart from any protocol: pieces in the order in which
they were started. The assumptions on a stream that differ from reader to reader are its
rules. -/

namespace ExQServe.Canonical

open ExQServe.Model

inductive SegmentKind
  | reasoning
  | message
deriving DecidableEq, Repr

namespace SegmentKind

def started : SegmentKind → PyStr → GenerationEvent
  | .reasoning => .reasoningStarted
  | .message => .textStarted

def delta : SegmentKind → PyStr → PyStr → GenerationEvent
  | .reasoning => .reasoningDelta
  | .message => .textDelta

def completed : SegmentKind → PyStr → PyStr → GenerationEvent
  | .reasoning => .reasoningCompleted
  | .message => .textCompleted

end SegmentKind

inductive Piece
  | segment (channel : SegmentKind) (text : PyStr) (done : Bool)
  | call (callId name : PyStr) (index : Nat) (arguments : PyStr) (done : Bool)
deriving DecidableEq

namespace Piece

def done : Piece → Bool
  | .segment _ _ done => done
  | .call _ _ _ _ done => done

def callId? : Piece → Option PyStr
  | .segment _ _ _ => none
  | .call callId _ _ _ _ => some callId

def index? : Piece → Option Nat
  | .segment _ _ _ => none
  | .call _ _ index _ _ => some index

def text : Piece → PyStr
  | .segment _ text _ => text
  | .call _ _ _ arguments _ => arguments

end Piece

/-- The pieces, and which of them is the open segment of a channel. -/
structure Output where
  pieces : List Piece
  openAt : SegmentKind → Option Nat

namespace Output

def start : Output := ⟨[], fun _ => none⟩

def Closed (output : Output) : Prop := ∀ piece ∈ output.pieces, piece.done = true

def callIds (output : Output) : List PyStr := output.pieces.filterMap Piece.callId?

def callIndices (output : Output) : List Nat := output.pieces.filterMap Piece.index?

def append (output : Output) (piece : Piece) : Output :=
  { output with pieces := output.pieces ++ [piece] }

def set (output : Output) (position : Nat) (piece : Piece) : Output :=
  { output with pieces := output.pieces.set position piece }

/-- The open segment of a channel is somewhere else, or nowhere. -/
def point (output : Output) (channel : SegmentKind) (position : Option Nat) : Output :=
  { output with openAt := Function.update output.openAt channel position }

variable (output : Output) (channel : SegmentKind) (piece : Piece) (position : Nat)

@[simp] theorem append_pieces : (output.append piece).pieces = output.pieces ++ [piece] := rfl

@[simp] theorem append_openAt : (output.append piece).openAt = output.openAt := rfl

@[simp] theorem set_pieces : (output.set position piece).pieces =
    output.pieces.set position piece :=
  rfl

@[simp] theorem set_openAt : (output.set position piece).openAt = output.openAt := rfl

@[simp] theorem point_pieces (target : Option Nat) :
    (output.point channel target).pieces = output.pieces := rfl

@[simp] theorem point_openAt (target : Option Nat) :
    (output.point channel target).openAt = Function.update output.openAt channel target := rfl

end Output

/-! ## Positions -/

theorem getElem?_snoc_of_ne {pieces : List Piece} {last piece : Piece} {position : Nat}
    (found : (pieces ++ [last])[position]? = some piece) (other : last ≠ piece) :
    pieces[position]? = some piece := by
  by_cases inside : position < pieces.length
  · rwa [List.getElem?_append_left inside] at found
  · rw [List.getElem?_append_right (Nat.le_of_not_lt inside), List.getElem?_singleton] at found
    split at found
    · exact absurd (Option.some.inj found) other
    · cases found

/-- The values of pieces when one of the pieces has become another one. -/
theorem modify_map {α : Type} {pieces : List Piece} {read : Piece → α} {change : α → α}
    {position : Nat} {old new : Piece} (found : pieces[position]? = some old)
    (same : change (read old) = read new) :
    (pieces.map read).modify position change = (pieces.set position new).map read := by
  apply List.ext_getElem?
  intro other
  rw [List.getElem?_modify, List.getElem?_map, List.getElem?_map, List.getElem?_set]
  by_cases here : position = other
  · subst here
    rcases List.getElem?_eq_some_iff.mp found with ⟨inside, piece⟩
    simp [inside, piece, same]
  · simp [here]

/-- A value that is the same for both pieces stays. -/
theorem set_map {α : Type} {pieces : List Piece} {read : Piece → α} {position : Nat}
    {old new : Piece} (found : pieces[position]? = some old) (same : read old = read new) :
    (pieces.set position new).map read = pieces.map read := by
  have modified : (pieces.map read).modify position id = (pieces.set position new).map read :=
    modify_map found same
  rw [← modified, List.modify_id]

theorem callIndices_set {output : Output} {position : Nat} {old : Piece}
    (found : output.pieces[position]? = some old) (new : Piece) (same : old.index? = new.index?) :
    (output.set position new).callIndices = output.callIndices := by
  have indices (pieces : List Piece) :
      pieces.filterMap Piece.index? = (pieces.map Piece.index?).filterMap id := by
    rw [List.filterMap_map]
    rfl
  rw [Output.callIndices, Output.callIndices, indices, indices, Output.set_pieces,
    set_map found same]

theorem callIndices_append (output : Output) (piece : Piece) :
    (output.append piece).callIndices = output.callIndices ++ piece.index?.toList := by
  rw [Output.callIndices, Output.append_pieces, List.filterMap_append]
  cases piece <;> rfl

/-- What a reader assumes of a stream besides the order within each piece. -/
structure Rules where
  /-- Segments of different channels do not overlap. -/
  apart : Prop
  /-- Which call may be started, by its id and its index. -/
  starts : Output → PyStr → Nat → Prop
  /-- Which piece may be continued, by a delta or by the Completed event of a segment. -/
  continues : Output → Nat → Prop
  /-- Which call may be completed, and with which arguments behind the given deltas. -/
  completes : Output → Nat → PyStr → PyStr → Prop

inductive Step (rules : Rules) : Output → ServingEvent → Output → Prop
  | started {output : Output} (channel : SegmentKind) (requestId : PyStr)
      (closed : output.openAt channel = none)
      (apart : rules.apart → ∀ other, output.openAt other = none) :
      Step rules output (.semantic (channel.started requestId))
        ((output.append (.segment channel [] false)).point channel output.pieces.length)
  | delta {output : Output} (channel : SegmentKind) (requestId text : PyStr) {position : Nat}
      {before : PyStr} (current : output.openAt channel = some position)
      (piece : output.pieces[position]? = some (.segment channel before false))
      (continues : rules.continues output position) :
      Step rules output (.semantic (channel.delta requestId text))
        (output.set position (.segment channel (before ++ text) false))
  | completed {output : Output} (channel : SegmentKind) (requestId text : PyStr) {position : Nat}
      (current : output.openAt channel = some position)
      (piece : output.pieces[position]? = some (.segment channel text false))
      (continues : rules.continues output position) :
      Step rules output (.semantic (channel.completed requestId text))
        ((output.set position (.segment channel text true)).point channel none)
  | callStarted {output : Output} (requestId callId name : PyStr) (index : Nat)
      (callIdNonBlank : NonBlank callId) (nameNonBlank : NonBlank name)
      (starts : rules.starts output callId index) :
      Step rules output (.semantic (.toolCallStarted requestId callId name index))
        (output.append (.call callId name index [] false))
  | callDelta {output : Output} (requestId : PyStr) {callId name : PyStr} (text : PyStr)
      {index position : Nat} {before : PyStr}
      (piece : output.pieces[position]? = some (.call callId name index before false))
      (continues : rules.continues output position) :
      Step rules output (.semantic (.toolCallArgumentsDelta requestId callId text index))
        (output.set position (.call callId name index (before ++ text) false))
  | callCompleted {output : Output} (requestId : PyStr) (call : ToolCallItem) {position : Nat}
      {before : PyStr}
      (piece : output.pieces[position]? =
        some (.call call.callId call.name call.index before false))
      (completes : rules.completes output position before call.argumentsJson) :
      Step rules output (.semantic (.toolCallCompleted requestId call))
        (output.set position (.call call.callId call.name call.index call.argumentsJson true))
  | usageUpdated {output : Output} (requestId : PyStr) (usage : TokenUsage) :
      Step rules output (.usageUpdated requestId usage) output
  | timingUpdated {output : Output} (requestId : PyStr) (timing : GenerationTiming) :
      Step rules output (.timingUpdated requestId timing) output

/-- The events between the first and the terminal one, and what they say. -/
inductive Run (rules : Rules) : List ServingEvent → Output → Prop
  | start : Run rules [] .start
  | step {events : List ServingEvent} {output next : Output} {event : ServingEvent}
      (run : Run rules events output) (step : Step rules output event next) :
      Run rules (events ++ [event]) next

/-! ## Fewer assumptions -/

/-- Whoever keeps the first rules keeps the second ones. -/
structure Rules.Implies (strict mild : Rules) : Prop where
  apart : mild.apart → strict.apart
  starts : ∀ output callId index, strict.starts output callId index →
    mild.starts output callId index
  continues : ∀ output position, strict.continues output position → mild.continues output position
  completes : ∀ output position before arguments,
    strict.completes output position before arguments →
      mild.completes output position before arguments

variable {strict mild : Rules} {output next : Output}

theorem Step.weaken (implies : strict.Implies mild) {event : ServingEvent}
    (step : Step strict output event next) : Step mild output event next := by
  cases step with
  | started channel requestId closed apart =>
      exact .started channel requestId closed fun mild => apart (implies.apart mild)
  | delta channel requestId text current piece continues =>
      exact .delta channel requestId text current piece (implies.continues _ _ continues)
  | completed channel requestId text current piece continues =>
      exact .completed channel requestId text current piece (implies.continues _ _ continues)
  | callStarted requestId callId name index callIdNonBlank nameNonBlank starts =>
      exact .callStarted requestId callId name index callIdNonBlank nameNonBlank
        (implies.starts _ _ _ starts)
  | callDelta requestId text piece continues =>
      exact .callDelta requestId text piece (implies.continues _ _ continues)
  | callCompleted requestId call piece completes =>
      exact .callCompleted requestId call piece (implies.completes _ _ _ _ completes)
  | usageUpdated requestId usage => exact .usageUpdated requestId usage
  | timingUpdated requestId timing => exact .timingUpdated requestId timing

theorem Run.weaken (implies : strict.Implies mild) {events : List ServingEvent}
    (run : Run strict events output) : Run mild events output := by
  induction run with
  | start => exact .start
  | step run step induction => exact .step induction (step.weaken implies)

end ExQServe.Canonical
