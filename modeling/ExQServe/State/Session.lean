import ExQServe.Core.Events
import ExQServe.State.Store

/-! # The state-aware session

The model of `state/session.py`. The store is a parameter: what its `put` gives for a record. -/

namespace ExQServe.State

open ExQServe.Search ExQServe.Model

def ResponseStoreDisposition.value : ResponseStoreDisposition → PyStr
  | .stored => py "stored"
  | .refusedTooLarge => py "refused_too_large"
  | .refusedMissingParent => py "refused_missing_parent"
  | .refusedModelMismatch => py "refused_model_mismatch"
  | .refusedInvalidGraph => py "refused_invalid_graph"
  | .refusedBudget => py "refused_budget"

theorem responseStoreRefused_nonBlank : NonBlank (py "response_store_refused") := by decide

def storeRefusedError (disposition : ResponseStoreDisposition) : CanonicalError where
  category := .internal
  code := py "response_store_refused"
  message := py "Response state could not be stored (" ++ disposition.value ++ py ")."
  retryable := false
  cause := none
  codeNonBlank := responseStoreRefused_nonBlank

/-- `_iterator` and `_session` are the events that come from outside. -/
structure StatefulServingSession where
  responseId : PyStr
  model : PyStr
  parentResponseId : Option PyStr
  currentInput : List CanonicalItem
  storeResponse : Bool
  outputs : List CanonicalItem
  terminal : Bool
  responseIdNonBlank : NonBlank responseId
  modelNonBlank : NonBlank model
  parentNonBlank : ∀ parent ∈ parentResponseId, NonBlank parent

def completedItem : ServingEvent → Option CanonicalItem
  | .semantic (.reasoningCompleted _ text) => some (.reasoning ⟨text, false⟩)
  | .semantic (.textCompleted _ text) => some (.message ⟨.assistant, text⟩)
  | .semantic (.toolCallCompleted _ call) => some (.toolCall call)
  | _ => none

namespace StatefulServingSession

variable {ε : Type}

def record (session : StatefulServingSession) : ResponseRecord where
  responseId := session.responseId
  model := session.model
  parentResponseId := session.parentResponseId
  deltaItems := session.currentInput ++ session.outputs
  responseIdNonBlank := session.responseIdNonBlank
  modelNonBlank := session.modelNonBlank
  parentNonBlank := session.parentNonBlank

/-- `__anext__` behind the event of the inner session; an error is what the store raises. -/
def next (session : StatefulServingSession)
    (put : ResponseRecord → Except ε ResponseStoreDisposition) (event : ServingEvent) :
    Except ε (StatefulServingSession × ServingEvent) :=
  match event with
  | .generationCompleted _ _ _ _ =>
      let ended := { session with terminal := true }
      if session.storeResponse then do
        let disposition ← put session.record
        if disposition = .stored then .ok (ended, event)
        else .ok (ended, .generationFailed session.responseId (storeRefusedError disposition))
      else .ok (ended, event)
  | .generationFailed _ _ | .generationCancelled _ => .ok ({ session with terminal := true }, event)
  | _ => .ok ({ session with outputs := session.outputs ++ (completedItem event).toList }, event)

def nextAll (session : StatefulServingSession)
    (put : ResponseRecord → Except ε ResponseStoreDisposition) (events : List ServingEvent) :
    Except ε StatefulServingSession :=
  events.foldlM (fun session event => (session.next put event).map Prod.fst) session

variable {put : ResponseRecord → Except ε ResponseStoreDisposition}

theorem next_of_running {session : StatefulServingSession} {event : ServingEvent}
    (running : event.isTerminal = false) : session.next put event =
      .ok ({ session with outputs := session.outputs ++ (completedItem event).toList }, event) := by
  cases event with
  | generationCompleted requestId reason usage stopSequence => cases running
  | generationFailed requestId error => cases running
  | generationCancelled requestId => cases running
  | _ => rfl

/-- In front of the terminal event the session collects what is completed. -/
theorem nextAll_of_running {events : List ServingEvent} {session : StatefulServingSession}
    (running : ∀ event ∈ events, event.isTerminal = false) : session.nextAll put events =
      .ok { session with outputs := session.outputs ++ events.filterMap completedItem } := by
  induction events generalizing session with
  | nil => simp [nextAll, pure, Except.pure]
  | cons event events induction =>
      have rest := @induction
        { session with outputs := session.outputs ++ (completedItem event).toList }
        fun other member => running other (.tail _ member)
      rw [nextAll, List.foldlM_cons, next_of_running (running event (.head _))]
      rw [nextAll] at rest
      refine rest.trans ?_
      cases completed : completedItem event with
      | none => simp [completed]
      | some item => simp [completed]

end StatefulServingSession

end ExQServe.State
