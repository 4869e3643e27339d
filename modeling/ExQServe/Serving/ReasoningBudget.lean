import ExQServe.Foundation.Machines
import ExQServe.Runtime.BackendResults

/-! # The reasoning budget

The budget part of a `ServingSession` in `serving/engine.py`: counting the tokens of the
reasoning, forcing its close, and keeping a second close token, which the model may have
written at the same time, from the parser. -/

namespace ExQServe.Serving.ReasoningBudget

open ExQServe.Model ExQServe.Runtime

inductive ReasoningBudgetSource
  | request
  | serverDefault
deriving DecidableEq, Repr

@[ext] structure ReasoningControlSpec where
  closeSequence : PyStr
  initiallyInReasoning : Bool
  closeNonempty : closeSequence ≠ []

instance : DecidableEq ReasoningControlSpec := fun _ _ =>
  decidable_of_iff' _ ReasoningControlSpec.ext_iff

structure EffectiveReasoningBudget where
  maxTokens : Nat
  message : PyStr
  source : ReasoningBudgetSource
  control : ReasoningControlSpec
  closeTokenId : Nat
deriving DecidableEq

/-! ## Close spans -/

variable (budget : EffectiveReasoningBudget)

def closeSpans (event : RuntimeTextDelta) : List NativeTokenSpan :=
  if !event.nativeTokenProvenance then []
  else
    (event.nativeTokenSpans.getD []).filter fun span =>
      span.tokenId = budget.closeTokenId && span.text = budget.control.closeSequence

/-- The number of spans with the token before the target. The spans of a delta are disjoint,
so an equal span is the same span. -/
def targetOccurrence (tokenId : Nat) (target : NativeTokenSpan) :
    List NativeTokenSpan → Option Nat
  | [] => none
  | span :: spans =>
      if span.tokenId ≠ tokenId then targetOccurrence tokenId target spans
      else if span = target then some 0
      else (targetOccurrence tokenId target spans).map (· + 1)

def removeOccurrence (tokenId : Nat) : Nat → List Nat → Option (List Nat)
  | _, [] => none
  | before, first :: ids =>
      if first ≠ tokenId then (removeOccurrence tokenId before ids).map (first :: ·)
      else
        match before with
        | 0 => some ids
        | before + 1 => (removeOccurrence tokenId before ids).map (first :: ·)

def closeUp (target span : NativeTokenSpan) : NativeTokenSpan :=
  if behind : target.stop ≤ span.start then
    { span with
      start := span.start - (target.stop - target.start)
      stop := span.stop - (target.stop - target.start)
      ordered := by
        have := target.ordered
        have := span.ordered
        omega }
  else span

def adjustedSpans (target : NativeTokenSpan) (spans : List NativeTokenSpan) :
    List NativeTokenSpan :=
  (spans.filter fun span => span ≠ target).map (closeUp target)

def withoutTarget (text : PyStr) (target : NativeTokenSpan) : PyStr :=
  text.take target.start ++ text.drop target.stop

/-! ## Removing a span -/

theorem closeUp_before {target span : NativeTokenSpan} (before : span.stop ≤ target.start) :
    closeUp target span = span := by
  have := span.ordered
  have := target.ordered
  rw [closeUp, dif_neg (by omega)]

theorem closeUp_start {target span : NativeTokenSpan} (behind : target.stop ≤ span.start) :
    (closeUp target span).start = span.start - (target.stop - target.start) := by
  rw [closeUp, dif_pos behind]

theorem closeUp_stop {target span : NativeTokenSpan} (behind : target.stop ≤ span.start) :
    (closeUp target span).stop = span.stop - (target.stop - target.start) := by
  rw [closeUp, dif_pos behind]

@[simp] theorem closeUp_text (target span : NativeTokenSpan) :
    (closeUp target span).text = span.text := by
  unfold closeUp
  split <;> rfl

/-- The spans around a target, apart. -/
theorem spans_around {text : PyStr} {spans : List NativeTokenSpan} {target : NativeTokenSpan}
    (fit : SpansFit text spans) (member : target ∈ spans) :
    ∃ before after, spans = before ++ target :: after ∧
      (∀ span ∈ before, span.stop ≤ target.start) ∧
      (∀ span ∈ after, target.stop ≤ span.start) ∧
      adjustedSpans target spans = before ++ after.map (closeUp target) := by
  rcases List.append_of_mem member with ⟨before, after, rfl⟩
  have parts := List.pairwise_append.mp fit.ordered
  have left : ∀ span ∈ before, span.stop ≤ target.start :=
    fun span inside => parts.2.2 span inside target List.mem_cons_self
  have right : ∀ span ∈ after, target.stop ≤ span.start := (List.pairwise_cons.mp parts.2.1).1
  refine ⟨before, after, rfl, left, right, ?_⟩
  have keepsLeft : before.filter (fun span => span ≠ target) = before := by
    rw [List.filter_eq_self]
    intro span inside
    have early := left span inside
    have := span.ordered
    apply decide_eq_true
    rintro rfl
    omega
  have keepsRight : after.filter (fun span => span ≠ target) = after := by
    rw [List.filter_eq_self]
    intro span inside
    have late := right span inside
    have := span.ordered
    apply decide_eq_true
    rintro rfl
    omega
  have unmoved : before.map (closeUp target) = before := by
    conv_rhs => rw [← List.map_id before]
    apply List.map_congr_left
    intro span inside
    exact closeUp_before (left span inside)
  rw [adjustedSpans, List.filter_append, List.filter_cons_of_neg (by simp), keepsLeft, keepsRight,
    List.map_append, unmoved]

theorem slice_take {text : PyStr} {start stop limit : Nat} (inside : stop ≤ limit) :
    PyStr.slice (text.take limit) start stop = PyStr.slice text start stop := by
  rw [PyStr.slice, PyStr.slice, List.take_take, Nat.min_eq_left inside]

theorem slice_drop (text : PyStr) (start stop skipped : Nat) :
    PyStr.slice (text.drop skipped) start stop =
      PyStr.slice text (start + skipped) (stop + skipped) := by
  rw [PyStr.slice, PyStr.slice, List.take_drop, List.drop_drop, Nat.add_comm skipped,
    Nat.add_comm skipped]

/-- The text around a target, and the spans that keep fitting it. -/
theorem adjustedSpans_fit {text : PyStr} {spans : List NativeTokenSpan}
    {target : NativeTokenSpan} (fit : SpansFit text spans) (member : target ∈ spans) :
    SpansFit (withoutTarget text target) (adjustedSpans target spans) := by
  rcases spans_around fit member with ⟨before, after, rfl, left, right, adjusted⟩
  have parts := List.pairwise_append.mp fit.ordered
  have targetInside := fit.inside target member
  have := target.ordered
  have length : (withoutTarget text target).length =
      text.length - (target.stop - target.start) := by
    rw [withoutTarget, List.length_append, List.length_take, List.length_drop]
    omega
  have takeLength : (text.take target.start).length = target.start := by
    rw [List.length_take]
    omega
  rw [adjusted]
  constructor
  · rw [List.pairwise_append]
    refine ⟨parts.1, ?_, ?_⟩
    · rw [List.pairwise_map]
      apply (List.pairwise_cons.mp parts.2.1).2.imp_of_mem
      intro span next here there ordered
      rw [closeUp_stop (right span here), closeUp_start (right next there)]
      omega
    · intro span inside next memberNext
      rcases List.mem_map.mp memberNext with ⟨original, inAfter, rfl⟩
      have early := left span inside
      have late := right original inAfter
      rw [closeUp_start late]
      omega
  · intro span inside
    rw [length]
    rcases List.mem_append.mp inside with inside | inside
    · have early := left span inside
      omega
    · rcases List.mem_map.mp inside with ⟨original, inAfter, rfl⟩
      have late := right original inAfter
      have bounded := fit.inside original
        (List.mem_append_right _ (List.mem_cons_of_mem _ inAfter))
      rw [closeUp_stop late]
      have := original.ordered
      omega
  · intro span inside
    rcases List.mem_append.mp inside with inside | inside
    · have early := left span inside
      rw [withoutTarget, slice_append_left _ (by omega), slice_take early]
      exact fit.exact span (List.mem_append_left _ inside)
    · rcases List.mem_map.mp inside with ⟨original, inAfter, rfl⟩
      have late := right original inAfter
      have := original.ordered
      have same := fit.exact original (List.mem_append_right _ (List.mem_cons_of_mem _ inAfter))
      have starts : original.start - (target.stop - target.start) =
          (original.start - target.stop) + (text.take target.start).length := by omega
      have stops : original.stop - (target.stop - target.start) =
          (original.stop - target.stop) + (text.take target.start).length := by omega
      rw [closeUp_text, closeUp_start late, closeUp_stop late, ← same, starts, stops,
        withoutTarget, slice_append_right, slice_drop, Nat.sub_add_cancel late,
        Nat.sub_add_cancel (by omega)]

theorem mem_of_targetOccurrence {tokenId : Nat} {target : NativeTokenSpan}
    {spans : List NativeTokenSpan} {before : Nat}
    (found : targetOccurrence tokenId target spans = some before) : target ∈ spans := by
  induction spans generalizing before with
  | nil => cases found
  | cons span spans induction =>
      rw [targetOccurrence] at found
      split at found
      · exact List.mem_cons_of_mem _ (induction found)
      · split at found
        · rename_i same
          exact same ▸ List.mem_cons_self
        · rcases Option.map_eq_some_iff.mp found with ⟨earlier, found, _⟩
          exact List.mem_cons_of_mem _ (induction found)

/-- `_strip_reasoning_budget_close`; `none` stands for a delta of which nothing is left. -/
def stripReasoningBudgetClose (event : RuntimeTextDelta) (target : NativeTokenSpan) :
    Option RuntimeTextDelta :=
  match spansOf : event.nativeTokenSpans with
  | none => some event
  | some spans =>
      match found : targetOccurrence budget.closeTokenId target spans with
      | none => some event
      | some before =>
          match removeOccurrence budget.closeTokenId before event.tokenIds with
          | none => some event
          | some tokenIds =>
              if empty : withoutTarget event.text target = [] then none
              else
                some {
                  requestId := event.requestId
                  text := withoutTarget event.text target
                  tokenIds
                  nativeTokenSpans := some (adjustedSpans target spans)
                  nativeTokenProvenance := true
                  textNonempty := empty
                  spansNeedProvenance := fun _ => rfl
                  spansFit := by
                    intro adjusted same
                    cases same
                    exact adjustedSpans_fit (event.spansFit spans spansOf)
                      (mem_of_targetOccurrence found) }

/-! ## The session -/

inductive ReasoningBudgetState
  | disabled
  | counting
  | forceRequested
  | done
deriving DecidableEq, Repr

inductive BudgetRecord
  /-- A delta that came while counting was processed: its tokens, and whether the reasoning
  ended in it. -/
  | seen (tokens : Nat) (ended : Bool)
  | completed
  | injected
  | handed (event given : RuntimeTextDelta)
  | suppressed (event : RuntimeTextDelta)
deriving DecidableEq

/-- `log` is not in the code. -/
structure BudgetSession where
  state : ReasoningBudgetState
  tokenCount : Nat
  overshootLowerBound : Nat
  duplicateClosePending : Bool
  duplicateCloseConsumedInDelta : Bool
  postForceReasoningTail : PyStr
  terminal : Bool
  log : List BudgetRecord
deriving DecidableEq

inductive InjectAnswer
  | accepted
  | terminating
  | conflict
  | raised
deriving DecidableEq, Repr

/-- What the session makes of the terminal issue a parser shows early. -/
inductive EarlyIssue
  | clear
  /-- It is outside the tools and may still become literal text. -/
  | staged
  /-- It ends the session. -/
  | refused
deriving DecidableEq, Repr

inductive ParserAnswer
  | failed
  | answered (events : List GenerationEvent) (issue : EarlyIssue)
deriving DecidableEq

def isReasoningCompleted : GenerationEvent → Bool
  | .reasoningCompleted _ _ => true
  | _ => false

def takeLast (count : Nat) (text : PyStr) : PyStr := text.drop (text.length - count)

namespace BudgetSession

def record (session : BudgetSession) (entry : BudgetRecord) : BudgetSession :=
  { session with log := session.log ++ [entry] }

def fail (session : BudgetSession) : BudgetSession :=
  if session.terminal then session else { session with state := .done, terminal := true }

/-- An injection that cannot be applied, and an account that cannot be kept. -/
def giveUp (session : BudgetSession) : BudgetSession :=
  match budget.source with
  | .serverDefault => { session with state := .disabled }
  | .request => session.fail

def forceReasoningClose (answer : InjectAnswer) (session : BudgetSession) : BudgetSession :=
  if session.state ≠ .counting then session
  else
    let session := session.record .injected
    match answer with
    | .accepted => { session with state := .forceRequested }
    | .terminating => { session with state := .done }
    | .conflict | .raised => session.giveUp budget

def initializeReasoningBudget (answer : InjectAnswer) (session : BudgetSession) : BudgetSession :=
  if budget.maxTokens = 0 then session.forceReasoningClose budget answer else session

/-- `_prepare_reasoning_budget_delta`; `none` stands for a delta that is suppressed. -/
def prepareReasoningBudgetDelta (event : RuntimeTextDelta) (session : BudgetSession) :
    Option RuntimeTextDelta × BudgetSession :=
  let session := { session with duplicateCloseConsumedInDelta := false }
  match session.state, closeSpans budget event with
  | .forceRequested, _ :: second :: _ =>
      (stripReasoningBudgetClose budget event second,
        { session with duplicateCloseConsumedInDelta := true })
  | _, spans =>
      if !session.duplicateClosePending then (some event, session)
      else
        match spans with
        | first :: _ =>
            (stripReasoningBudgetClose budget event first,
              { session with duplicateClosePending := false })
        | [] =>
            if event.text = budget.control.closeSequence ∧
                event.tokenIds = [budget.closeTokenId] then
              (none, { session with duplicateClosePending := false })
            else (some event, session)

def followTail (events : List GenerationEvent) (session : BudgetSession) : BudgetSession :=
  if session.state = .forceRequested ∧ budget.message ≠ [] then
    { session with
      postForceReasoningTail := events.foldl
        (fun tail semantic =>
          match semantic with
          | .reasoningDelta _ text => takeLast budget.message.length (tail ++ text)
          | _ => tail)
        session.postForceReasoningTail }
  else session

def completeReasoning (session : BudgetSession) : BudgetSession :=
  if session.state = .forceRequested then
    if budget.message ≠ [] ∧ ¬ budget.message <:+ session.postForceReasoningTail then
      session.fail
    else
      { session with
        duplicateClosePending :=
          budget.message.isEmpty && !session.duplicateCloseConsumedInDelta
        state := .done
        postForceReasoningTail := [] }
  else { session with state := .done, postForceReasoningTail := [] }

def applyReasoningBudget (event : RuntimeTextDelta) (events : List GenerationEvent)
    (answer : InjectAnswer) (session : BudgetSession) : BudgetSession :=
  if session.state = .disabled ∨ session.state = .done then session
  else
    let session := session.followTail budget events
    if events.any isReasoningCompleted then session.completeReasoning budget
    else if session.state = .forceRequested then
      { session with
        overshootLowerBound := session.overshootLowerBound + event.tokenIds.length }
    else if event.tokenIds = [] then session.giveUp budget
    else
      let session := { session with tokenCount := session.tokenCount + event.tokenIds.length }
      if budget.maxTokens ≤ session.tokenCount then session.forceReasoningClose budget answer
      else session

def observe (events : List GenerationEvent) (session : BudgetSession) : BudgetSession :=
  if events.any isReasoningCompleted then session.record .completed else session

def account (before : ReasoningBudgetState) (event : RuntimeTextDelta)
    (events : List GenerationEvent) (session : BudgetSession) : BudgetSession :=
  if before = .counting then
    session.record (.seen event.tokenIds.length (events.any isReasoningCompleted))
  else session

/-- The part of `_handle_runtime_event` for a text delta. `ends` says whether the session is
terminal after the events were processed. -/
def handleTextDelta (event : RuntimeTextDelta) (answer : ParserAnswer) (inject : InjectAnswer)
    (ends : Bool) (session : BudgetSession) : BudgetSession :=
  let prepared := session.prepareReasoningBudgetDelta budget event
  if prepared.2.terminal then prepared.2
  else
    match prepared.1 with
    | none => prepared.2.record (.suppressed event)
    | some given =>
        let session := prepared.2.record (.handed event given)
        match answer with
        | .failed => { session with terminal := true }
        | .answered events issue =>
            let before := session.state
            let session := session.observe events
            match issue with
            | .refused => { session with terminal := true }
            | .staged => { session with terminal := ends }.account before given events
            | .clear =>
                let session := (session.applyReasoningBudget budget given events inject).account
                  before given events
                { session with terminal := session.terminal || ends }

end BudgetSession

/-! ## Runs -/

structure DeltaAction where
  event : RuntimeTextDelta
  answer : ParserAnswer
  inject : InjectAnswer
  ends : Bool
deriving DecidableEq

def newBudgetSession : BudgetSession := ⟨.counting, 0, 0, false, false, [], false, []⟩

def budgetMachine (first : InjectAnswer) : Machine BudgetSession DeltaAction where
  initial := newBudgetSession.initializeReasoningBudget budget first
  step session action :=
    some (session.handleTextDelta budget action.event action.answer action.inject action.ends)

/-! ## What a session keeps -/

/-- The delta without one close span, and without the token of that span. -/
structure RemovesClose (event given : RuntimeTextDelta) : Prop where
  sameRequest : given.requestId = event.requestId
  spans : ∃ before target after, event.nativeTokenSpans = some (before ++ target :: after) ∧
    target.tokenId = budget.closeTokenId ∧ target.text = budget.control.closeSequence ∧
    event.text = event.text.take target.start ++ (target.text ++ event.text.drop target.stop) ∧
    given.text = event.text.take target.start ++ event.text.drop target.stop ∧
    given.nativeTokenSpans = some (before ++ after.map (closeUp target)) ∧
    ∃ left right, event.tokenIds = left ++ budget.closeTokenId :: right ∧
      left.count budget.closeTokenId =
        before.countP (fun span => span.tokenId = budget.closeTokenId) ∧
      given.tokenIds = left ++ right

def BudgetRecord.isRemoval : BudgetRecord → Bool
  | .handed event given => given ≠ event
  | .suppressed _ => true
  | _ => false

def BudgetRecord.tokens : BudgetRecord → Nat
  | .seen tokens _ => tokens
  | _ => 0

def seenTokens (log : List BudgetRecord) : Nat := (log.map BudgetRecord.tokens).sum

/-- The close is forced at most once and in time, and the stream is edited at most once. -/
structure BudgetKept (log : List BudgetRecord) : Prop where
  injectedOnce : log.count .injected ≤ 1
  injectedBefore : ∀ before after, log = before ++ .injected :: after → .completed ∉ before
  injectedAtOnce : budget.maxTokens = 0 → log.head? = some .injected
  injectedInTime : ∀ before tokens after, log = before ++ .seen tokens false :: after →
    budget.maxTokens ≤ seenTokens before + tokens → .injected ∈ before
  edits : ∀ event given, .handed event given ∈ log →
    given = event ∨ RemovesClose budget event given
  suppressions : ∀ event, .suppressed event ∈ log → event.text = budget.control.closeSequence
  editedOnce : log.countP BudgetRecord.isRemoval ≤ 1

/-- The step takes the path that keeps no account: a terminal issue is staged while counting;
or the parser does not report the end of the reasoning in the delta in which a merged second
close was found. -/
def BudgetFault (session : BudgetSession) (action : DeltaAction) : Prop :=
  session.terminal = false ∧ ∃ events issue, action.answer = .answered events issue ∧
    issue ≠ .refused ∧
    ((session.state = .counting ∧ issue = .staged ∧
        (events.any isReasoningCompleted = true ∨ action.event.tokenIds ≠ [])) ∨
      (session.state = .forceRequested ∧ 2 ≤ (closeSpans budget action.event).length ∧
        action.ends = false ∧ ¬ (issue = .clear ∧ events.any isReasoningCompleted = true)))

variable {budget}

/-! ## Edits -/

theorem removeOccurrence_eq {tokenId before : Nat} {ids rest : List Nat}
    (removed : removeOccurrence tokenId before ids = some rest) :
    ∃ left right, ids = left ++ tokenId :: right ∧ left.count tokenId = before ∧
      rest = left ++ right := by
  induction ids generalizing before rest with
  | nil => cases removed
  | cons first ids induction =>
      unfold removeOccurrence at removed
      split at removed
      · rename_i other
        rcases Option.map_eq_some_iff.mp removed with ⟨rest, inner, rfl⟩
        rcases induction inner with ⟨left, right, rfl, count, rfl⟩
        exact ⟨first :: left, right, rfl, by rw [List.count_cons_of_ne other, count], rfl⟩
      · rename_i same
        rw [not_not] at same
        subst same
        cases before with
        | zero =>
            cases removed
            exact ⟨[], ids, rfl, rfl, rfl⟩
        | succ before =>
            rcases Option.map_eq_some_iff.mp removed with ⟨rest, inner, rfl⟩
            rcases induction inner with ⟨left, right, rfl, count, rfl⟩
            exact ⟨first :: left, right, rfl, by rw [List.count_cons_self, count], rfl⟩

theorem targetOccurrence_eq {tokenId occurrence : Nat} {target : NativeTokenSpan}
    {before after : List NativeTokenSpan} (matching : target.tokenId = tokenId)
    (fresh : target ∉ before)
    (found : targetOccurrence tokenId target (before ++ target :: after) = some occurrence) :
    occurrence = before.countP fun span => span.tokenId = tokenId := by
  induction before generalizing occurrence with
  | nil =>
      rw [List.nil_append, targetOccurrence] at found
      rw [if_neg (not_not.mpr matching), if_pos rfl] at found
      cases found
      rfl
  | cons span before induction =>
      rcases not_or.mp (mt List.mem_cons.mpr fresh) with ⟨other, fresh⟩
      rw [List.cons_append, targetOccurrence] at found
      split at found
      · rename_i foreign
        rw [List.countP_cons_of_neg (by simpa using foreign)]
        exact induction fresh found
      · rename_i same
        rw [if_neg (Ne.symm other)] at found
        rcases Option.map_eq_some_iff.mp found with ⟨earlier, inner, rfl⟩
        rw [List.countP_cons_of_pos (by simpa using same), induction fresh inner]

theorem mem_closeSpans {event : RuntimeTextDelta} {target : NativeTokenSpan}
    (member : target ∈ closeSpans budget event) :
    ∃ spans, event.nativeTokenSpans = some spans ∧ target ∈ spans ∧
      target.tokenId = budget.closeTokenId ∧ target.text = budget.control.closeSequence := by
  unfold closeSpans at member
  split at member
  · cases member
  · rcases List.mem_filter.mp member with ⟨inside, matching⟩
    cases given : event.nativeTokenSpans with
    | none =>
        rw [given] at inside
        cases inside
    | some spans =>
        rw [given] at inside
        exact ⟨spans, rfl, inside, by simpa using matching⟩

/-- The text around a span that fits it. -/
theorem text_around {text : PyStr} {spans : List NativeTokenSpan} {target : NativeTokenSpan}
    (fit : SpansFit text spans) (member : target ∈ spans) :
    text = text.take target.start ++ (target.text ++ text.drop target.stop) := by
  have inside := fit.inside target member
  have ordered := target.ordered
  have reaches : target.start ≤ (text.take target.stop).length := by
    rw [List.length_take]
    omega
  rw [← fit.exact target member, PyStr.slice, ← List.drop_append_of_le_length reaches,
    List.take_append_drop, List.take_append_drop]

/-- A close span that is stripped is removed, or was all of the delta. -/
theorem stripReasoningBudgetClose_edits {event : RuntimeTextDelta} {target : NativeTokenSpan}
    (member : target ∈ closeSpans budget event) :
    (∀ given, stripReasoningBudgetClose budget event target = some given →
        given = event ∨ RemovesClose budget event given) ∧
      (stripReasoningBudgetClose budget event target = none →
        event.text = budget.control.closeSequence) := by
  rcases mem_closeSpans member with ⟨spans, present, inside, sameToken, sameText⟩
  have fit := event.spansFit spans present
  have around := text_around fit inside
  have unchanged : (∀ given, some event = some given →
      given = event ∨ RemovesClose budget event given) ∧
        (some event = none → event.text = budget.control.closeSequence) :=
    ⟨fun given same => .inl (Option.some.inj same).symm, by simp⟩
  unfold stripReasoningBudgetClose
  split
  · exact unchanged
  rename_i others listed
  cases present.symm.trans listed
  split
  · exact unchanged
  rename_i occurrence found
  split
  · exact unchanged
  rename_i tokenIds removed
  split
  · rename_i empty
    constructor
    · intro given impossible
      cases impossible
    · intro _
      rcases List.append_eq_nil_iff.mp empty with ⟨before, after⟩
      rw [around, before, after, List.nil_append, List.append_nil, sameText]
  · refine ⟨?_, by simp⟩
    intro given same
    cases same
    rcases spans_around fit inside with ⟨before, after, rfl, left, right, adjusted⟩
    have fresh : target ∉ before := by
      intro twice
      have early := left target twice
      have := target.ordered
      omega
    rcases removeOccurrence_eq removed with ⟨first, last, split, count, rest⟩
    rw [targetOccurrence_eq sameToken fresh found] at count
    right
    refine ⟨rfl, before, target, after, present, sameToken, sameText, around, rfl, ?_, first,
      last, split, count, rest⟩
    dsimp only
    rw [adjusted]

/-- Of two close spans one is left. -/
theorem stripReasoningBudgetClose_ne_none {event : RuntimeTextDelta}
    {first second : NativeTokenSpan} {rest : List NativeTokenSpan}
    (listed : closeSpans budget event = first :: second :: rest) :
    stripReasoningBudgetClose budget event second ≠ none := by
  have here : first ∈ closeSpans budget event := listed ▸ List.mem_cons_self
  have there : second ∈ closeSpans budget event :=
    listed ▸ List.mem_cons_of_mem _ List.mem_cons_self
  rcases mem_closeSpans here with ⟨spans, present, firstInside, _⟩
  rcases mem_closeSpans there with ⟨others, alike, secondInside, _⟩
  cases present.symm.trans alike
  have fit := event.spansFit spans present
  have apart : first ≠ second := by
    have chosen : (closeSpans budget event).Pairwise fun span next => span.stop ≤ next.start := by
      unfold closeSpans
      split
      · exact .nil
      · rw [present]
        exact fit.ordered.filter _
    rw [listed] at chosen
    have ordered := (List.pairwise_cons.mp chosen).1 second List.mem_cons_self
    have := first.ordered
    rintro rfl
    omega
  have remains : withoutTarget event.text second ≠ [] := by
    intro empty
    have adjusted := adjustedSpans_fit fit secondInside
    have kept : closeUp second first ∈ adjustedSpans second spans :=
      List.mem_map_of_mem (List.mem_filter.mpr ⟨firstInside, decide_eq_true apart⟩)
    have inside := adjusted.inside _ kept
    have := (closeUp second first).ordered
    rw [empty, List.length_nil] at inside
    omega
  unfold stripReasoningBudgetClose
  split
  · simp
  rename_i others listed
  split
  · simp
  split
  · simp
  rw [dif_neg remains]
  simp

/-! ## One delta -/

structure Prepared (budget : EffectiveReasoningBudget) (event : RuntimeTextDelta)
    (session : BudgetSession) (given : Option RuntimeTextDelta) (next : BudgetSession) : Prop where
  sameState : next.state = session.state
  sameCount : next.tokenCount = session.tokenCount
  sameTerminal : next.terminal = session.terminal
  sameLog : next.log = session.log
  edits : ∀ delta, given = some delta → delta = event ∨ RemovesClose budget event delta
  suppresses : given = none → event.text = budget.control.closeSequence
  kind : (given = some event ∧ next.duplicateClosePending = session.duplicateClosePending ∧
      next.duplicateCloseConsumedInDelta = false) ∨
    (given ≠ none ∧ session.state = .forceRequested ∧ 2 ≤ (closeSpans budget event).length ∧
      next.duplicateClosePending = session.duplicateClosePending ∧
      next.duplicateCloseConsumedInDelta = true) ∨
    (session.duplicateClosePending = true ∧ next.duplicateClosePending = false ∧
      next.duplicateCloseConsumedInDelta = false)

theorem prepare_prepared (event : RuntimeTextDelta) (session : BudgetSession) :
    Prepared budget event session (session.prepareReasoningBudgetDelta budget event).1
      (session.prepareReasoningBudgetDelta budget event).2 := by
  have plain : Prepared budget event session (some event)
      { session with duplicateCloseConsumedInDelta := false } :=
    ⟨rfl, rfl, rfl, rfl, fun _ same => .inl (Option.some.inj same).symm, by simp,
      .inl ⟨rfl, rfl, rfl⟩⟩
  have queued (spans : List NativeTokenSpan) (listed : closeSpans budget event = spans)
      (pending : session.duplicateClosePending = true) :
      let result := match spans with
        | first :: _ =>
            (stripReasoningBudgetClose budget event first,
              { session with
                duplicateCloseConsumedInDelta := false, duplicateClosePending := false })
        | [] =>
            if event.text = budget.control.closeSequence ∧
                event.tokenIds = [budget.closeTokenId] then
              (none, { session with
                duplicateCloseConsumedInDelta := false, duplicateClosePending := false })
            else (some event, { session with duplicateCloseConsumedInDelta := false })
      Prepared budget event session result.1 result.2 := by
    cases spans with
    | nil =>
        dsimp only
        split
        · rename_i whole
          exact ⟨rfl, rfl, rfl, rfl, by simp, fun _ => whole.1,
            .inr (.inr ⟨pending, rfl, rfl⟩)⟩
        · exact plain
    | cons first rest =>
        have edits := stripReasoningBudgetClose_edits (listed ▸ List.mem_cons_self :
          first ∈ closeSpans budget event)
        exact ⟨rfl, rfl, rfl, rfl, edits.1, edits.2, .inr (.inr ⟨pending, rfl, rfl⟩)⟩
  unfold BudgetSession.prepareReasoningBudgetDelta
  dsimp only
  split
  · rename_i forced listed
    have edits := stripReasoningBudgetClose_edits
      (listed ▸ List.mem_cons_of_mem _ List.mem_cons_self :
        _ ∈ closeSpans budget event)
    refine ⟨rfl, rfl, rfl, rfl, edits.1, edits.2, .inr (.inl ⟨?_, forced, ?_, rfl, rfl⟩)⟩
    · exact stripReasoningBudgetClose_ne_none listed
    · rw [listed]
      simp
  · split
    · exact plain
    · rename_i pending
      exact queued _ rfl (by simpa using pending)

end ExQServe.Serving.ReasoningBudget
