import ExQServe.Protocol.ResponsesRuns

/-! # Items of the Responses stream

What a client sees of one output index: the item is added, its deltas follow, and its text is
repeated when it is done. -/

namespace ExQServe.OpenAI

open ExQServe.Model ExQServe.Canonical

/-- Calls have ids of their own and are completed with what their deltas say. -/
def responseRules : Rules where
  apart := False
  starts output callId _ := callId ∉ output.callIds
  continues _ _ := True
  completes _ _ before arguments := before = arguments

/-! ## The events of one item -/

def kindOf : Piece → ItemKind
  | .segment channel _ _ => .segment channel
  | .call callId name _ _ _ => .functionCall callId name

section

variable (identity : Nat → PyStr) (position : Nat)

def idOf (piece : Piece) : PyStr := itemPrefix (kindOf piece) ++ identity position

def doneItem (piece : Piece) : Option OutputItem :=
  match piece with
  | .segment channel text true =>
      some ⟨idOf identity position piece, true, segmentBody channel (some text)⟩
  | .call callId name _ arguments true =>
      some ⟨idOf identity position piece, true, .functionCall callId name arguments⟩
  | _ => none

def opening (piece : Piece) : List StreamPayload :=
  let id := idOf identity position piece
  match piece with
  | .segment channel _ _ =>
      [.itemAdded position (ResponsesStreamSerializer.openedSegment channel id),
        .partAdded id position channel]
  | .call callId name _ _ _ => [.itemAdded position ⟨id, false, .functionCall callId name []⟩]

def deltaEvent (piece : Piece) (text : PyStr) : StreamPayload :=
  let id := idOf identity position piece
  match piece with
  | .segment channel _ _ => .textDelta channel id position text
  | .call _ _ _ _ _ => .argumentsDelta id position text

def closing (piece : Piece) : List StreamPayload :=
  let id := idOf identity position piece
  match piece with
  | .segment channel text true =>
      [.textDone channel id position text, .partDone channel id position text,
        .itemDone position (doneItem identity position piece)]
  | .call _ _ _ arguments true =>
      [.argumentsDone id position arguments,
        .itemDone position (doneItem identity position piece)]
  | _ => []

def ItemEvents (piece : Piece) (payloads : List StreamPayload) : Prop :=
  ∃ deltas : List PyStr, deltas.flatten = piece.text ∧
    payloads = opening identity position piece ++
      deltas.map (deltaEvent identity position piece) ++ closing identity position piece

structure Represents (piece : Piece) (state : OutputState) : Prop where
  itemId : state.itemId = idOf identity position piece
  kind : state.kind = kindOf piece
  finalItem : state.finalItem = doneItem identity position piece

variable {identity position}

theorem ItemEvents.segmentDelta {channel : SegmentKind} {before : PyStr} {old : List StreamPayload}
    (events : ItemEvents identity position (.segment channel before false) old) (text : PyStr) :
    ItemEvents identity position (.segment channel (before ++ text) false)
      (old ++ [deltaEvent identity position (.segment channel before false) text]) := by
  rcases events with ⟨deltas, said, rfl⟩
  refine ⟨deltas ++ [text], by simp [said, Piece.text], ?_⟩
  rw [List.map_append]
  simp only [closing, List.append_nil, List.append_assoc]
  rfl

theorem ItemEvents.segmentDone {channel : SegmentKind} {text : PyStr} {old : List StreamPayload}
    (events : ItemEvents identity position (.segment channel text false) old) :
    ItemEvents identity position (.segment channel text true)
      (old ++ closing identity position (.segment channel text true)) := by
  rcases events with ⟨deltas, said, rfl⟩
  refine ⟨deltas, said, ?_⟩
  rw [show closing identity position (.segment channel text false) = [] from rfl, List.append_nil]
  rfl

theorem ItemEvents.callDelta {callId name before : PyStr} {index : Nat} {old : List StreamPayload}
    (events : ItemEvents identity position (.call callId name index before false) old)
    (text : PyStr) :
    ItemEvents identity position (.call callId name index (before ++ text) false)
      (old ++ [deltaEvent identity position (.call callId name index before false) text]) := by
  rcases events with ⟨deltas, said, rfl⟩
  refine ⟨deltas ++ [text], by simp [said, Piece.text], ?_⟩
  rw [List.map_append]
  simp only [closing, List.append_nil, List.append_assoc]
  rfl

theorem ItemEvents.callDone {callId name arguments : PyStr} {index : Nat}
    {old : List StreamPayload}
    (events : ItemEvents identity position (.call callId name index arguments false) old) :
    ItemEvents identity position (.call callId name index arguments true)
      (old ++ closing identity position (.call callId name index arguments true)) := by
  rcases events with ⟨deltas, said, rfl⟩
  refine ⟨deltas, said, ?_⟩
  rw [show closing identity position (.call callId name index arguments false) = [] from rfl,
    List.append_nil]
  rfl

end

/-! ## All items -/

/-- The states of the items and the events so far, beside the pieces. -/
structure Framed (identity : Nat → PyStr) (pieces : List Piece) (states : List OutputState)
    (payloads : List StreamPayload) : Prop where
  size : states.length = pieces.length
  represented : ∀ position piece, pieces[position]? = some piece → ∃ state,
    states[position]? = some state ∧ Represents identity position piece state
  events : ∀ position piece, pieces[position]? = some piece → ItemEvents identity position piece
    (payloads.filter fun payload => payload.outputIndex? = some position)
  inside : ∀ payload ∈ payloads, ∃ position < pieces.length, payload.outputIndex? = some position

namespace Framed

variable {identity : Nat → PyStr} {pieces : List Piece} {states : List OutputState}
  {payloads new : List StreamPayload} {position : Nat}

theorem nil : Framed identity [] [] [] := ⟨rfl, by simp, by simp, by simp⟩

theorem filter_elsewhere {other : Nat}
    (here : ∀ payload ∈ new, payload.outputIndex? = some position) (apart : position ≠ other) :
    (payloads ++ new).filter (fun payload => payload.outputIndex? = some other) =
      payloads.filter fun payload => payload.outputIndex? = some other := by
  have none : new.filter (fun payload => payload.outputIndex? = some other) = [] := by
    rw [List.filter_eq_nil_iff]
    intro payload member
    simp [here payload member, apart]
  rw [List.filter_append, none, List.append_nil]

theorem filter_here (here : ∀ payload ∈ new, payload.outputIndex? = some position) :
    (payloads ++ new).filter (fun payload => payload.outputIndex? = some position) =
      payloads.filter (fun payload => payload.outputIndex? = some position) ++ new := by
  have all : new.filter (fun payload => payload.outputIndex? = some position) = new := by
    rw [List.filter_eq_self]
    intro payload member
    simp [here payload member]
  rw [List.filter_append, all]

/-- A new item at the next output index. -/
theorem append (framed : Framed identity pieces states payloads) {piece : Piece}
    {state : OutputState} (represents : Represents identity pieces.length piece state)
    (events : ItemEvents identity pieces.length piece new)
    (here : ∀ payload ∈ new, payload.outputIndex? = some pieces.length) :
    Framed identity (pieces ++ [piece]) (states ++ [state]) (payloads ++ new) where
  size := by
    rw [List.length_append, List.length_append, framed.size]
    rfl
  represented := by
    intro position other found
    rcases Nat.lt_trichotomy position pieces.length with inside | rfl | outside
    · rw [List.getElem?_append_left inside] at found
      rw [List.getElem?_append_left (framed.size ▸ inside)]
      exact framed.represented position other found
    · rw [List.getElem?_concat_length] at found
      cases found
      rw [← framed.size, List.getElem?_concat_length]
      exact ⟨state, rfl, framed.size ▸ represents⟩
    · rw [List.getElem?_eq_none (by simp; omega)] at found
      cases found
  events := by
    intro position other found
    rcases Nat.lt_trichotomy position pieces.length with inside | rfl | outside
    · rw [List.getElem?_append_left inside] at found
      rw [filter_elsewhere here (by omega)]
      exact framed.events position other found
    · rw [List.getElem?_concat_length] at found
      cases found
      have before : payloads.filter (fun payload => payload.outputIndex? = some pieces.length) =
          [] := by
        rw [List.filter_eq_nil_iff]
        intro payload member
        rcases framed.inside payload member with ⟨position, inside, index⟩
        rw [index, decide_eq_true_eq, Option.some.injEq]
        omega
      rwa [filter_here here, before, List.nil_append]
    · rw [List.getElem?_eq_none (by simp; omega)] at found
      cases found
  inside := by
    intro payload member
    rcases List.mem_append.mp member with early | late
    · rcases framed.inside payload early with ⟨position, inside, index⟩
      exact ⟨position, by simp; omega, index⟩
    · exact ⟨pieces.length, by simp, here payload late⟩

/-- More events of an item that is there. -/
theorem set (framed : Framed identity pieces states payloads) {piece next : Piece}
    (found : pieces[position]? = some piece) {change : OutputState → OutputState}
    (represents : ∀ state, Represents identity position piece state →
      Represents identity position next (change state))
    (grows : ∀ old, ItemEvents identity position piece old →
      ItemEvents identity position next (old ++ new))
    (here : ∀ payload ∈ new, payload.outputIndex? = some position) :
    Framed identity (pieces.set position next) (states.modify position change)
      (payloads ++ new) where
  size := by
    rw [List.length_modify, List.length_set, framed.size]
  represented := by
    intro other piece' found'
    rw [List.getElem?_modify]
    rw [List.getElem?_set] at found'
    by_cases same : position = other
    · subst same
      rw [if_pos rfl, if_pos (List.getElem?_eq_some_iff.mp found).choose] at found'
      cases found'
      rcases framed.represented position piece found with ⟨state, stands, old⟩
      exact ⟨change state, by simp [stands], represents state old⟩
    · rw [if_neg same] at found'
      rcases framed.represented other piece' found' with ⟨state, stands, old⟩
      exact ⟨state, by simp [stands, same], old⟩
  events := by
    intro other piece' found'
    rw [List.getElem?_set] at found'
    by_cases same : position = other
    · subst same
      rw [if_pos rfl, if_pos (List.getElem?_eq_some_iff.mp found).choose] at found'
      cases found'
      rw [filter_here here]
      exact grows _ (framed.events position piece found)
    · rw [if_neg same] at found'
      rw [filter_elsewhere here same]
      exact framed.events other piece' found'
  inside := by
    intro payload member
    rw [List.length_set]
    rcases List.mem_append.mp member with early | late
    · exact framed.inside payload early
    · exact ⟨position, (List.getElem?_eq_some_iff.mp found).choose, here payload late⟩

/-- The output of the states: the completed items in their order. -/
theorem output (framed : Framed identity pieces states payloads) :
    states.filterMap (·.finalItem) =
      (pieces.mapIdx fun position piece => doneItem identity position piece).filterMap id := by
  have final : states.map (·.finalItem) =
      pieces.mapIdx fun position piece => doneItem identity position piece := by
    apply List.ext_getElem
    · simp [framed.size]
    · intro position inside _
      have there : position < pieces.length := by simpa [framed.size] using inside
      rcases framed.represented position pieces[position] (List.getElem?_eq_getElem there) with
        ⟨state, stands, represents⟩
      rcases List.getElem?_eq_some_iff.mp stands with ⟨_, value⟩
      simp [value, represents.finalItem]
  rw [← final, List.filterMap_map]
  rfl

end Framed

/-! ## The states of a stream -/

@[simp] theorem ResponseState.current_setCurrent (state : ResponseState) (position : Option Nat)
    (channel : SegmentKind) :
    (state.setCurrent position channel).current =
      Function.update state.current channel position := by
  cases channel
  · ext other
    cases other <;> rfl
  · ext other
    cases other <;> rfl

@[simp] theorem ResponseState.states_setCurrent (state : ResponseState) (position : Option Nat)
    (channel : SegmentKind) : (state.setCurrent position channel).states = state.states := by
  cases channel <;> rfl

@[simp] theorem ResponseState.tools_setCurrent (state : ResponseState) (position : Option Nat)
    (channel : SegmentKind) : (state.setCurrent position channel).tools = state.tools := by
  cases channel <;> rfl

/-- The state of a stream between two terminal events, beside what was said. -/
structure Tracks (identity : Nat → PyStr) (output : Output) (state : ResponseState)
    (payloads : List StreamPayload) : Prop where
  framed : Framed identity output.pieces state.states payloads
  current : state.current = output.openAt
  calls : ∀ callId position, state.tools.get? callId = some position ↔
    ∃ piece, output.pieces[position]? = some piece ∧ piece.callId? = some callId

namespace Tracks

variable {identity : Nat → PyStr} {output : Output} {state : ResponseState}
  {payloads : List StreamPayload}

theorem initial : Tracks identity .start .initial [] where
  framed := .nil
  current := by
    ext channel
    cases channel <;> rfl
  calls := by simp [ResponseState.initial, Output.start]

/-- The place of a call is that of the piece with its id. -/
theorem place (tracks : Tracks identity output state payloads) {position : Nat} {piece : Piece}
    {callId : PyStr} (found : output.pieces[position]? = some piece)
    (named : piece.callId? = some callId) : state.tools.get? callId = some position :=
  (tracks.calls callId position).mpr ⟨piece, found, named⟩

theorem fresh (tracks : Tracks identity output state payloads) {callId : PyStr}
    (new : callId ∉ output.callIds) : state.tools.get? callId = none := by
  rw [Option.eq_none_iff_forall_not_mem]
  intro position found
  rcases (tracks.calls callId position).mp found with ⟨piece, stands, named⟩
  exact new (List.mem_filterMap.mpr ⟨piece, List.mem_of_getElem? stands, named⟩)

/-- The place of a call stays when a piece is replaced by one of the same call. -/
theorem calls_set (tracks : Tracks identity output state payloads) {position : Nat}
    {piece next : Piece} (found : output.pieces[position]? = some piece)
    (same : next.callId? = piece.callId?) (callId : PyStr) (other : Nat) :
    state.tools.get? callId = some other ↔
      ∃ piece, (output.pieces.set position next)[other]? = some piece ∧
        piece.callId? = some callId := by
  rw [tracks.calls, List.getElem?_set]
  by_cases here : position = other
  · subst here
    rcases List.getElem?_eq_some_iff.mp found with ⟨inside, value⟩
    simp [inside, value, same]
  · simp [here]

/-! One event of each kind. -/

theorem started (tracks : Tracks identity output state payloads) {channel : SegmentKind}
    (closed : output.openAt channel = none) {piece : Piece}
    (new : piece = .segment channel [] false) :
    ∃ next, state.startSegment identity channel = (next, output.pieces.length) ∧
      next.itemId output.pieces.length = idOf identity output.pieces.length piece ∧
      Tracks identity ((output.append piece).point channel output.pieces.length) next
        (payloads ++ opening identity output.pieces.length piece) := by
  subst new
  have none : state.current channel = none := by rw [tracks.current, closed]
  have size := tracks.framed.size
  refine ⟨(state.new identity (.segment channel)).setCurrent (some output.pieces.length) channel,
    ?_, ?_, ?_, ?_, ?_⟩
  · simp [ResponseState.startSegment, none, size]
  · simp [ResponseState.itemId, ResponseState.new, ← size, idOf, kindOf]
  · simp only [Output.point_pieces, Output.append_pieces, ResponseState.states_setCurrent,
      ResponseState.new]
    apply tracks.framed.append
    · exact ⟨by rw [size]; rfl, rfl, rfl⟩
    · exact ⟨[], rfl, by simp [closing]⟩
    · simp [opening, StreamPayload.outputIndex?]
  · simp [ResponseState.new, ← tracks.current]
    rfl
  · intro callId position
    rw [ResponseState.tools_setCurrent]
    refine (tracks.calls callId position).trans ?_
    simp only [Output.point_pieces, Output.append_pieces]
    constructor
    · rintro ⟨piece, found, named⟩
      exact ⟨piece, by rw [List.getElem?_append_left (List.getElem?_eq_some_iff.mp found).choose,
        found], named⟩
    · rintro ⟨piece, found, named⟩
      refine ⟨piece, getElem?_snoc_of_ne found ?_, named⟩
      rintro rfl
      cases named

theorem startSegment_current (tracks : Tracks identity output state payloads)
    {channel : SegmentKind} {position : Nat} (current : output.openAt channel = some position) :
    state.startSegment identity channel = (state, position) := by
  rw [ResponseState.startSegment, tracks.current, current]

theorem delta (tracks : Tracks identity output state payloads) {channel : SegmentKind}
    {position : Nat} {before : PyStr} (current : output.openAt channel = some position)
    (found : output.pieces[position]? = some (.segment channel before false)) (text : PyStr) :
    ∃ next, state.addText identity channel text = (next, position) ∧
      next.itemId position = idOf identity position (.segment channel before false) ∧
      Tracks identity (output.set position (.segment channel (before ++ text) false)) next
        (payloads ++ [deltaEvent identity position (.segment channel before false) text]) := by
  refine ⟨state.modify position fun item => { item with textParts := item.textParts ++ [text] },
    ?_, ?_, ?_, tracks.current, tracks.calls_set found rfl⟩
  · rw [ResponseState.addText, tracks.startSegment_current current]
  · rcases tracks.framed.represented position _ found with ⟨item, stands, represents⟩
    simp [ResponseState.itemId, ResponseState.modify, stands, represents.itemId]
  · apply tracks.framed.set found
    · exact fun item represents => ⟨represents.itemId, represents.kind, represents.finalItem⟩
    · exact fun old events => events.segmentDelta text
    · simp [deltaEvent, StreamPayload.outputIndex?]

theorem completed (tracks : Tracks identity output state payloads) {channel : SegmentKind}
    {position : Nat} {text : PyStr} (current : output.openAt channel = some position)
    (found : output.pieces[position]? = some (.segment channel text false)) :
    ∃ next, state.finishSegment identity channel text = (next, position) ∧
      next.itemId position = idOf identity position (.segment channel text true) ∧
      ResponsesStreamSerializer.finalItem next position =
        doneItem identity position (.segment channel text true) ∧
      Tracks identity ((output.set position (.segment channel text true)).point channel none) next
        (payloads ++ closing identity position (.segment channel text true)) := by
  rcases tracks.framed.represented position _ found with ⟨item, stands, represents⟩
  have id : item.itemId = idOf identity position (.segment channel text true) := represents.itemId
  refine ⟨(state.modify position fun item =>
    { item with
      textParts := [text]
      finalItem := some ⟨item.itemId, true, segmentBody channel (some text)⟩ }).setCurrent none
        channel, ?_, ?_, ?_, ?_, ?_, ?_⟩
  · rw [ResponseState.finishSegment, tracks.startSegment_current current]
  · simp [ResponseState.itemId, ResponseState.modify, stands, id]
  · simp [ResponsesStreamSerializer.finalItem, ResponseState.modify, stands, id, doneItem]
  · rw [ResponseState.states_setCurrent, Output.point_pieces, Output.set_pieces]
    apply tracks.framed.set found
    · intro item represents
      have id : item.itemId = idOf identity position (.segment channel text true) :=
        represents.itemId
      exact ⟨id, represents.kind, by simp [id, doneItem]⟩
    · exact fun old events => events.segmentDone
    · simp [closing, StreamPayload.outputIndex?]
  · rw [ResponseState.current_setCurrent, Output.point_openAt, Output.set_openAt,
      ← tracks.current]
    rfl
  · rw [ResponseState.tools_setCurrent]
    exact tracks.calls_set found rfl

theorem callStarted (tracks : Tracks identity output state payloads) {callId : PyStr}
    (new : callId ∉ output.callIds) (name : PyStr) (index : Nat) :
    ∃ next, state.startTool identity callId name = (next, output.pieces.length) ∧
      next.itemId output.pieces.length =
        idOf identity output.pieces.length (.call callId name index [] false) ∧
      Tracks identity (output.append (.call callId name index [] false)) next
        (payloads ++ opening identity output.pieces.length (.call callId name index [] false)) := by
  have size := tracks.framed.size
  refine ⟨{ state.new identity (.functionCall callId name) with
    tools := state.tools.set callId output.pieces.length }, ?_, ?_, ?_, tracks.current, ?_⟩
  · rw [ResponseState.startTool, tracks.fresh new, size]
  · simp [ResponseState.itemId, ResponseState.new, ← size, idOf, kindOf]
  · apply tracks.framed.append
    · exact ⟨by rw [size]; rfl, rfl, rfl⟩
    · exact ⟨[], rfl, by simp [closing]⟩
    · simp [opening, StreamPayload.outputIndex?]
  · intro other position
    rw [Dict.get?_set, Output.append_pieces]
    split
    · rename_i same
      subst same
      constructor
      · intro here
        cases here
        exact ⟨_, List.getElem?_concat_length, rfl⟩
      · rintro ⟨piece, found, named⟩
        rcases Nat.lt_trichotomy position output.pieces.length with inside | rfl | outside
        · rw [List.getElem?_append_left inside] at found
          exact absurd (List.mem_filterMap.mpr ⟨piece, List.mem_of_getElem? found, named⟩) new
        · rfl
        · rw [List.getElem?_eq_none (by simp; omega)] at found
          cases found
    · rename_i apart
      refine (tracks.calls other position).trans ?_
      constructor
      · rintro ⟨piece, found, named⟩
        exact ⟨piece, by rw [List.getElem?_append_left (List.getElem?_eq_some_iff.mp found).choose,
          found], named⟩
      · rintro ⟨piece, found, named⟩
        refine ⟨piece, getElem?_snoc_of_ne found ?_, named⟩
        rintro rfl
        exact apart (Option.some.inj named).symm

theorem callDelta (tracks : Tracks identity output state payloads) {callId name before : PyStr}
    {index position : Nat}
    (found : output.pieces[position]? = some (.call callId name index before false))
    (text : PyStr) :
    (state.addArguments position text).itemId position =
        idOf identity position (.call callId name index before false) ∧
      Tracks identity (output.set position (.call callId name index (before ++ text) false))
        (state.addArguments position text)
        (payloads ++
          [deltaEvent identity position (.call callId name index before false) text]) := by
  refine ⟨?_, ?_, tracks.current, tracks.calls_set found rfl⟩
  · rcases tracks.framed.represented position _ found with ⟨item, stands, represents⟩
    simp [ResponseState.itemId, ResponseState.addArguments, ResponseState.modify, stands,
      represents.itemId]
  · apply tracks.framed.set found
    · exact fun item represents => ⟨represents.itemId, represents.kind, represents.finalItem⟩
    · exact fun old events => events.callDelta text
    · simp [deltaEvent, StreamPayload.outputIndex?]

theorem callCompleted (tracks : Tracks identity output state payloads) (call : ToolCallItem)
    {position : Nat} (found : output.pieces[position]? =
      some (.call call.callId call.name call.index call.argumentsJson false)) {piece : Piece}
    (done : piece = .call call.callId call.name call.index call.argumentsJson true) :
    ∃ next, state.finishTool identity call = (next, position) ∧
      next.itemId position = idOf identity position piece ∧
      ResponsesStreamSerializer.finalItem next position = doneItem identity position piece ∧
      Tracks identity (output.set position piece) next
        (payloads ++ closing identity position piece) := by
  subst done
  rcases tracks.framed.represented position _ found with ⟨item, stands, represents⟩
  have id : item.itemId = idOf identity position
      (.call call.callId call.name call.index call.argumentsJson true) := represents.itemId
  refine ⟨state.modify position fun item =>
    { item with
      argumentParts := [call.argumentsJson]
      finalItem := some ⟨item.itemId, true,
        .functionCall call.callId call.name call.argumentsJson⟩ }, ?_, ?_, ?_, ?_,
    tracks.current, tracks.calls_set found rfl⟩
  · rw [ResponseState.finishTool, ResponseState.startTool, tracks.place found rfl]
  · simp [ResponseState.itemId, ResponseState.modify, stands, id]
  · simp [ResponsesStreamSerializer.finalItem, ResponseState.modify, stands, id, doneItem]
  · apply tracks.framed.set found
    · intro item represents
      have id : item.itemId = idOf identity position
        (.call call.callId call.name call.index call.argumentsJson true) := represents.itemId
      exact ⟨id, represents.kind, by simp [id, doneItem]⟩
    · exact fun old events => events.callDone
    · simp [closing, StreamPayload.outputIndex?]

end Tracks

/-! ## Runs -/

variable {config : ResponseConfig} {output next : Output} {serializer : ResponsesStreamSerializer}
  {payloads : List StreamPayload}

/-- One event between the first and the terminal one. -/
theorem Tracks.feed {event : ServingEvent}
    (tracks : Tracks config.identity output serializer.state payloads)
    (running : serializer.terminal = false) (step : Step responseRules output event next) :
    ∃ after emitted, serializer.feed config event = some (after, emitted) ∧
      after.terminal = false ∧
      Tracks config.identity next after.state (payloads ++ emitted.map (·.payload)) := by
  have opened : serializer.feed config event = serializer.feedOpen config event := by
    simp [ResponsesStreamSerializer.feed, running]
  have moves {state : ResponseState} {new : List StreamPayload}
      (fed : serializer.feedOpen config event = some (serializer.moved state new))
      (tracked : Tracks config.identity next state (payloads ++ new)) :
      ∃ after emitted, serializer.feed config event = some (after, emitted) ∧
        after.terminal = false ∧
        Tracks config.identity next after.state (payloads ++ emitted.map (·.payload)) := by
    refine ⟨(serializer.moved state new).1, (serializer.moved state new).2, opened.trans fed,
      running, ?_⟩
    have moved : (serializer.moved state new).2.map (·.payload) = new :=
      ResponsesStreamSerializer.emit_payloads _ _
    rw [moved]
    exact tracked
  cases step with
  | started channel requestId closed apart =>
      rcases tracks.started closed rfl with ⟨state, started, id, tracked⟩
      have fed : serializer.feedOpen config (.semantic (channel.started requestId)) =
          some (serializer.startSegment config channel) := by
        cases channel <;> rfl
      apply moves ?_ tracked
      rw [fed, ResponsesStreamSerializer.startSegment, started, opening, ← id]
  | @delta channel requestId text position before current piece continues =>
      rcases tracks.delta current piece text with ⟨state, added, id, tracked⟩
      have fed : serializer.feedOpen config (.semantic (channel.delta requestId text)) =
          some (serializer.segmentDelta config channel text) := by
        cases channel <;> rfl
      apply moves ?_ tracked
      rw [fed, ResponsesStreamSerializer.segmentDelta, added, deltaEvent, ← id]
  | @completed channel requestId text position current piece continues =>
      rcases tracks.completed current piece with ⟨state, finished, id, done, tracked⟩
      have fed : serializer.feedOpen config (.semantic (channel.completed requestId text)) =
          some (serializer.finishSegment config channel text) := by
        cases channel <;> rfl
      apply moves ?_ tracked
      rw [fed, ResponsesStreamSerializer.finishSegment, finished, closing, ← id, ← done]
  | callStarted requestId callId name index callIdNonBlank nameNonBlank starts =>
      rcases tracks.callStarted starts name index with ⟨state, started, id, tracked⟩
      apply moves ?_ tracked
      rw [ResponsesStreamSerializer.feedOpen, ResponsesStreamSerializer.startTool, started, opening,
        ← id]
  | @callDelta requestId callId name text index position before piece continues =>
      rcases tracks.callDelta piece text with ⟨id, tracked⟩
      apply moves ?_ tracked
      rw [ResponsesStreamSerializer.feedOpen, ResponsesStreamSerializer.toolDelta,
        tracks.place piece rfl, deltaEvent, ← id]
  | @callCompleted requestId call position before piece completes =>
      cases completes
      rcases tracks.callCompleted call piece rfl with ⟨state, finished, id, done, tracked⟩
      apply moves ?_ tracked
      rw [ResponsesStreamSerializer.feedOpen, ResponsesStreamSerializer.finishTool, finished,
        closing, ← id, ← done]
  | usageUpdated requestId usage =>
      exact ⟨_, _, opened, running, by simpa using tracks⟩
  | timingUpdated requestId timing =>
      exact ⟨_, _, opened, running, by simpa using tracks⟩

theorem Tracks.run {events : List ServingEvent} (run : Run responseRules events output)
    (tracks : Tracks config.identity .start serializer.state [])
    (running : serializer.terminal = false) :
    ∃ after emitted, serializer.feedAll config events = some (after, emitted) ∧
      after.terminal = false ∧
      Tracks config.identity output after.state (emitted.map (·.payload)) := by
  induction run with
  | start => exact ⟨_, _, rfl, running, tracks⟩
  | @step events output next event run step induction =>
      rcases induction with ⟨middle, first, fed, middleRuns, middleTracks⟩
      rcases middleTracks.feed middleRuns step with ⟨after, second, fedLast, afterRuns, afterTracks⟩
      refine ⟨after, first ++ second, ?_, afterRuns, ?_⟩
      · rw [ResponsesStreamSerializer.feedAll_append, fed]
        simp [ResponsesStreamSerializer.feedAll, fedLast]
      · rwa [List.map_append]

/-- The terminal event has the items that are completed by then. -/
theorem ResponsesStreamSerializer.feed_terminal {last : ServingEvent}
    (running : serializer.terminal = false) (terminal : last.isTerminal = true)
    (mappable : Mappable last) :
    ∃ after emitted event response, serializer.feed config last = some (after, emitted) ∧
      emitted.map (·.payload) = [.response event response] ∧ event ≠ .created ∧
      response.output = serializer.state.output := by
  have opened : serializer.feed config last = serializer.feedOpen config last := by
    simp [feed, running]
  rw [opened]
  cases last with
  | generationStarted requestId => cases terminal
  | timingUpdated requestId timing => cases terminal
  | usageUpdated requestId usage => cases terminal
  | semantic event => cases terminal
  | generationCancelled requestId => exact ⟨_, _, _, _, rfl, rfl, by simp, rfl⟩
  | generationFailed requestId error =>
      rcases Option.isSome_iff_exists.mp ((mapCanonicalError_isSome error).mpr mappable) with
        ⟨mapped, made⟩
      exact ⟨_, _, _, _, by rw [feedOpen, made]; rfl, rfl, by simp, rfl⟩
  | generationCompleted requestId reason usage stopSequence =>
      rw [feedOpen, complete]
      split
      · exact ⟨_, _, _, _, rfl, rfl, by simp, rfl⟩
      · exact ⟨_, _, _, _, rfl, rfl, by simp, rfl⟩

def doneItems (identity : Nat → PyStr) (output : Output) : List OutputItem :=
  (output.pieces.mapIdx fun position piece => doneItem identity position piece).filterMap id

def lookupOutput : Output :=
  ⟨[.segment .message (py "hi") true, .call (py "c") (py "look") 0 (py "\x7b\x7d") true],
    fun _ => none⟩

theorem lookup_closed (channel : SegmentKind) : Function.update (Function.update
    (fun _ => none) .message (some 0)) .message none channel = (none : Option Nat) := by
  cases channel <;> rfl

theorem lookupRun : Run responseRules lookupEvents lookupOutput := by
  have started : Run responseRules [.semantic (.textStarted (py "r"))] _ :=
    .step .start (.started .message (py "r") rfl False.elim)
  have called := Run.step started (.callStarted (py "r") (py "c") (py "look") 0 lookup_callId
    lookup_name (by rintro ⟨⟩))
  have spoken := Run.step called (@Step.delta _ _ .message (py "r") (py "hi") 0 _ rfl rfl trivial)
  have argued := Run.step spoken (@Step.callDelta _ _ (py "r") _ _ (py "\x7b") _ 1 _ rfl trivial)
  have ended := Run.step argued (@Step.completed _ _ .message (py "r") _ 0 rfl rfl trivial)
  have closed := Run.step ended (@Step.callDelta _ _ (py "r") _ _ (py "\x7d") _ 1 _ rfl trivial)
  have made := Run.step closed (@Step.callCompleted _ _ (py "r") lookupCall 1 _ rfl rfl)
  have same : lookupOutput.openAt = Function.update (Function.update (fun _ => none) .message
      (some 0)) .message none := by
    funext channel
    exact (lookup_closed channel).symm
  have whole : lookupOutput = ⟨lookupOutput.pieces, lookupOutput.openAt⟩ := rfl
  rw [whole, same]
  exact made

end ExQServe.OpenAI
