import ExQServe.Control.Request
import ExQServe.Runtime.BackendResults

/-! # Terminal evidence

The model of `serving/terminal.py`. Evidence is recorded while a request runs, and one
decision is made of it. A transform of errors comes from the caller. -/

namespace ExQServe.Serving

open ExQServe.Model ExQServe.Runtime ExQServe.Control ExQServe.ToolWire

inductive TerminalDisposition
  | success
  | failure
  | cancellation
deriving DecidableEq, Repr

inductive TerminalPrimaryOwner
  | requestRejection
  | lifecycleTermination
  | runtimeOwnership
  | constraintIntegrity
  | parserIntegrity
  | semanticContract
  | normalRuntimeTerminal
  | unknownInternal
deriving DecidableEq, Repr

inductive LifecycleOrigin
  | user
  | deadline
  | shutdown
  | modelSwitch
deriving DecidableEq, Repr

structure TerminalConstraintEvidence where
  installed : Bool
  activated : Bool
  effectiveGuarantee : GenerationGuarantee
deriving DecidableEq

def TerminalConstraintEvidence.fromRuntimeFinished (event : RuntimeFinished) :
    TerminalConstraintEvidence :=
  ⟨event.hardConstraintInstalled, event.hardConstraintActivated,
    event.effectiveGenerationGuarantee⟩

def Conclusive (disposition : TerminalDisposition) (canonicalError : Option CanonicalError)
    (completionReason : Option CompletionReason) : Prop :=
  match disposition with
  | .success => completionReason ≠ none ∧ canonicalError = none
  | .failure => canonicalError ≠ none ∧ completionReason = none
  | .cancellation => completionReason = none

instance {disposition : TerminalDisposition} {canonicalError : Option CanonicalError}
    {completionReason : Option CompletionReason} :
    Decidable (Conclusive disposition canonicalError completionReason) := by
  unfold Conclusive
  cases disposition <;> infer_instance

structure TerminalDecision where
  disposition : TerminalDisposition
  primaryOwner : TerminalPrimaryOwner
  canonicalError : Option CanonicalError
  completionReason : Option CompletionReason
  underlyingRuntimeStopReason : Option RuntimeStopReason
  runtimeFailure : Option CanonicalError
  semanticFailure : Option CanonicalError
  parserIssue : Option PyStr
  constraintEvidence : Option TerminalConstraintEvidence
  lifecycleOrigin : Option LifecycleOrigin
  conclusive : Conclusive disposition canonicalError completionReason
deriving DecidableEq

theorem timeoutError_code : NonBlank (py "request_timeout") := by decide

def timeoutError : CanonicalError where
  category := .runtimeFailure
  code := py "request_timeout"
  message := py "Inference request exceeded its serving deadline."
  retryable := true
  cause := none
  codeNonBlank := timeoutError_code

def runtimeLoopError : CanonicalError where
  category := .runtimeFailure
  code := py "runtime_loop_detected"
  message := py "Inference runtime terminated after detecting a generation loop."
  retryable := false
  cause := none
  codeNonBlank := by decide

def unknownRuntimeTerminalError : CanonicalError where
  category := .internal
  code := py "runtime_terminal_unknown"
  message := py "Inference runtime ended with an unsupported terminal reason."
  retryable := false
  cause := none
  codeNonBlank := by decide

def unresolvedTerminalError : CanonicalError where
  category := .internal
  code := py "terminal_state_unresolved"
  message := py "Inference ended without an authoritative terminal disposition."
  retryable := false
  cause := none
  codeNonBlank := by decide

/-- Where a reason of request control says that the request was ended from outside. -/
def lifecycleOriginOf : RequestTerminalReason → Option LifecycleOrigin
  | .clientCancelled => some .user
  | .timeout => some .deadline
  | .serverShutdown => some .shutdown
  | .modelSwitch => some .modelSwitch
  | _ => none

structure TerminalEvidence where
  causalOwner : Option TerminalPrimaryOwner
  lifecycleOrigin : Option LifecycleOrigin
  runtimeFailure : Option CanonicalError
  runtimeCancelled : Bool
  runtimeStopReason : Option RuntimeStopReason
  constraintEvidence : Option TerminalConstraintEvidence
  constraintFailure : Option CanonicalError
  parserIntegrityFailure : Option CanonicalError
  semanticFailure : Option CanonicalError
  parserIssue : Option PyStr
  unknownFailure : Option CanonicalError
  decision : Option TerminalDecision
deriving DecidableEq

inductive TerminalRecord
  | controlledReason (reason : Option RequestTerminalReason)
  | runtimeFinished (event : RuntimeFinished)
  | runtimeFailure (error : CanonicalError)
  | runtimeCancelled
  | parserIssue (issue : PyStr)
  | parserIntegrityFailure (error : CanonicalError)
  | constraintFailure (error : CanonicalError)
  | semanticFailure (error : CanonicalError)
  | unknownFailure (error : CanonicalError)
deriving DecidableEq

namespace TerminalEvidence

def initial : TerminalEvidence :=
  ⟨none, none, none, false, none, none, none, none, none, none, none, none⟩

/-- `none` stands for `RuntimeError`. -/
def commitDecision (evidence : TerminalEvidence) (decision : TerminalDecision) :
    Option (TerminalDecision × TerminalEvidence) :=
  match evidence.decision with
  | none => some (decision, { evidence with decision := some decision })
  | some committed => if committed ≠ decision then none else some (committed, evidence)

/-- `_claim_causal_owner`; the first claim stands. -/
def claim (evidence : TerminalEvidence) (owner : TerminalPrimaryOwner) : TerminalEvidence :=
  { evidence with causalOwner := evidence.causalOwner.or (some owner) }

/-- An issue that is blank is a `ValueError` and leaves the evidence as it was. -/
def record (evidence : TerminalEvidence) : TerminalRecord → TerminalEvidence
  | .controlledReason reason =>
      match reason.bind lifecycleOriginOf with
      | none => evidence
      | some origin =>
          { evidence with lifecycleOrigin := evidence.lifecycleOrigin.or (some origin) }.claim
            .lifecycleTermination
  | .runtimeFinished event =>
      { evidence with
        runtimeStopReason := some event.reason
        constraintEvidence := some (.fromRuntimeFinished event) }
  | .runtimeFailure error =>
      { evidence with runtimeFailure := evidence.runtimeFailure.or (some error) }.claim
        .runtimeOwnership
  | .runtimeCancelled => { evidence with runtimeCancelled := true }.claim .runtimeOwnership
  | .parserIssue issue =>
      if NonBlank issue then
        { evidence with parserIssue := evidence.parserIssue.or (some issue) }
      else evidence
  | .parserIntegrityFailure error =>
      { evidence with
        parserIntegrityFailure := evidence.parserIntegrityFailure.or (some error) }
  | .constraintFailure error =>
      { evidence with constraintFailure := evidence.constraintFailure.or (some error) }
  | .semanticFailure error =>
      { evidence with semanticFailure := evidence.semanticFailure.or (some error) }
  | .unknownFailure error =>
      { evidence with unknownFailure := evidence.unknownFailure.or (some error) }

def gather (records : List TerminalRecord) : TerminalEvidence := records.foldl record initial

/-- `TerminalDecision` with all that was recorded; `none` stands for `ValueError`. -/
def conclude (evidence : TerminalEvidence) (disposition : TerminalDisposition)
    (owner : TerminalPrimaryOwner) (canonicalError : Option CanonicalError)
    (completionReason : Option CompletionReason) : Option TerminalDecision :=
  if conclusive : Conclusive disposition canonicalError completionReason then
    some
      { disposition
        primaryOwner := owner
        canonicalError
        completionReason
        underlyingRuntimeStopReason := evidence.runtimeStopReason
        runtimeFailure := evidence.runtimeFailure
        semanticFailure := evidence.semanticFailure
        parserIssue := evidence.parserIssue
        constraintEvidence := evidence.constraintEvidence
        lifecycleOrigin := evidence.lifecycleOrigin
        conclusive }
  else none

def failure (evidence : TerminalEvidence) (owner : TerminalPrimaryOwner) (error : CanonicalError) :
    Option TerminalDecision :=
  evidence.conclude .failure owner (some error) none

def resolveLifecycle (evidence : TerminalEvidence)
    (errorTransform : CanonicalError → CanonicalError) : Option TerminalDecision :=
  if evidence.lifecycleOrigin = some .deadline then
    evidence.failure .lifecycleTermination (errorTransform timeoutError)
  else evidence.conclude .cancellation .lifecycleTermination none none

/-- `resolve` for a request that the runtime has ended. A cancellation leaves out what the
runtime and the lifecycle said. -/
def resolveRuntime (evidence : TerminalEvidence) : Option TerminalDecision :=
  match evidence.runtimeFailure with
  | some error => evidence.failure .runtimeOwnership error
  | none =>
      if evidence.runtimeCancelled then
        { evidence with runtimeFailure := none, lifecycleOrigin := none }.conclude .cancellation
          .runtimeOwnership none none
      else evidence.failure .unknownInternal unresolvedTerminalError

def completionOf (reason : RuntimeStopReason) : CompletionReason :=
  match reason with
  | .length => .length
  | .filter => .filter
  | _ => .stop

def resolveStopped (evidence : TerminalEvidence) (successReason : Option CompletionReason) :
    Option TerminalDecision :=
  match evidence.runtimeStopReason with
  | none => evidence.failure .unknownInternal unresolvedTerminalError
  | some reason =>
      evidence.conclude .success .normalRuntimeTerminal none
        (some (successReason.getD (completionOf reason)))

def resolveUnclaimed (evidence : TerminalEvidence) (successReason : Option CompletionReason) :
    Option TerminalDecision :=
  if evidence.runtimeStopReason = some .loop then
    evidence.failure .runtimeOwnership runtimeLoopError
  else if evidence.runtimeStopReason = some .other then
    evidence.failure .unknownInternal unknownRuntimeTerminalError
  else
    match evidence.constraintFailure, evidence.parserIntegrityFailure, evidence.semanticFailure,
      evidence.unknownFailure with
    | some error, _, _, _ => evidence.failure .constraintIntegrity error
    | none, some error, _, _ => evidence.failure .parserIntegrity error
    | none, none, some error, _ => evidence.failure .semanticContract error
    | none, none, none, some error => evidence.failure .unknownInternal error
    | none, none, none, none => evidence.resolveStopped successReason

/-- `none` stands for `ValueError`. -/
def resolve (evidence : TerminalEvidence) (successReason : Option CompletionReason)
    (errorTransform : Option (CanonicalError → CanonicalError)) : Option TerminalDecision :=
  match evidence.decision with
  | some decision => some decision
  | none =>
      match evidence.causalOwner with
      | some .lifecycleTermination => evidence.resolveLifecycle (errorTransform.getD id)
      | some .runtimeOwnership => evidence.resolveRuntime
      | _ => evidence.resolveUnclaimed successReason


end TerminalEvidence

/-! ## What was recorded -/

inductive TerminalRecordKind
  | controlledReason
  | runtimeFinished
  | runtimeFailure
  | runtimeCancelled
  | parserIssue
  | parserIntegrityFailure
  | constraintFailure
  | semanticFailure
  | unknownFailure
deriving DecidableEq, Repr

namespace TerminalRecord

def kind : TerminalRecord → TerminalRecordKind
  | .controlledReason _ => .controlledReason
  | .runtimeFinished _ => .runtimeFinished
  | .runtimeFailure _ => .runtimeFailure
  | .runtimeCancelled => .runtimeCancelled
  | .parserIssue _ => .parserIssue
  | .parserIntegrityFailure _ => .parserIntegrityFailure
  | .constraintFailure _ => .constraintFailure
  | .semanticFailure _ => .semanticFailure
  | .unknownFailure _ => .unknownFailure

def origin : TerminalRecord → Option LifecycleOrigin
  | .controlledReason reason => reason.bind lifecycleOriginOf
  | _ => none

def claim : TerminalRecord → Option TerminalPrimaryOwner
  | .controlledReason reason =>
      (reason.bind lifecycleOriginOf).map fun _ => .lifecycleTermination
  | .runtimeFailure _ | .runtimeCancelled => some .runtimeOwnership
  | _ => none

def stopReason : TerminalRecord → Option RuntimeStopReason
  | .runtimeFinished event => some event.reason
  | _ => none

def constraintEvidence : TerminalRecord → Option TerminalConstraintEvidence
  | .runtimeFinished event => some (.fromRuntimeFinished event)
  | _ => none

def issue : TerminalRecord → Option PyStr
  | .parserIssue issue => if NonBlank issue then some issue else none
  | _ => none

def errorOf (kind : TerminalRecordKind) : TerminalRecord → Option CanonicalError
  | .runtimeFailure error => if kind = .runtimeFailure then some error else none
  | .parserIntegrityFailure error => if kind = .parserIntegrityFailure then some error else none
  | .constraintFailure error => if kind = .constraintFailure then some error else none
  | .semanticFailure error => if kind = .semanticFailure then some error else none
  | .unknownFailure error => if kind = .unknownFailure then some error else none
  | _ => none

end TerminalRecord

/-- What is found in the head comes first. -/
theorem findSome?_cons_or {β : Type} (value : TerminalRecord → Option β) (item : TerminalRecord)
    (records : List TerminalRecord) :
    (item :: records).findSome? value = (value item).or (records.findSome? value) := by
  rw [List.findSome?_cons]
  cases value item <;> rfl

/-- What is found behind the head comes last. -/
theorem findSome?_reverse_cons {β : Type} (value : TerminalRecord → Option β)
    (item : TerminalRecord) (records : List TerminalRecord) :
    (item :: records).reverse.findSome? value =
      (records.reverse.findSome? value).or (value item) := by
  rw [List.reverse_cons, List.findSome?_append, findSome?_cons_or, List.findSome?_nil,
    Option.or_none]

namespace TerminalEvidence

/-- What one call does, field by field: all but the runtime's end keep their first value. -/
theorem record_eq (evidence : TerminalEvidence) (item : TerminalRecord) :
    evidence.record item =
      { causalOwner := evidence.causalOwner.or item.claim
        lifecycleOrigin := evidence.lifecycleOrigin.or item.origin
        runtimeFailure := evidence.runtimeFailure.or (item.errorOf .runtimeFailure)
        runtimeCancelled := evidence.runtimeCancelled || item.kind = .runtimeCancelled
        runtimeStopReason := item.stopReason.or evidence.runtimeStopReason
        constraintEvidence := item.constraintEvidence.or evidence.constraintEvidence
        constraintFailure := evidence.constraintFailure.or (item.errorOf .constraintFailure)
        parserIntegrityFailure :=
          evidence.parserIntegrityFailure.or (item.errorOf .parserIntegrityFailure)
        semanticFailure := evidence.semanticFailure.or (item.errorOf .semanticFailure)
        parserIssue := evidence.parserIssue.or item.issue
        unknownFailure := evidence.unknownFailure.or (item.errorOf .unknownFailure)
        decision := evidence.decision } := by
  cases item with
  | controlledReason reason =>
      cases found : reason.bind lifecycleOriginOf with
      | none => simp [record, found, TerminalRecord.claim, TerminalRecord.origin,
          TerminalRecord.kind, TerminalRecord.errorOf, TerminalRecord.stopReason,
          TerminalRecord.constraintEvidence, TerminalRecord.issue]
      | some origin => simp [record, claim, found, TerminalRecord.claim, TerminalRecord.origin,
          TerminalRecord.kind, TerminalRecord.errorOf, TerminalRecord.stopReason,
          TerminalRecord.constraintEvidence, TerminalRecord.issue]
  | parserIssue issue =>
      by_cases visible : NonBlank issue
      · simp [record, visible, TerminalRecord.claim, TerminalRecord.origin, TerminalRecord.kind,
          TerminalRecord.errorOf, TerminalRecord.stopReason, TerminalRecord.constraintEvidence,
          TerminalRecord.issue]
      · simp [record, visible, TerminalRecord.claim, TerminalRecord.origin, TerminalRecord.kind,
          TerminalRecord.errorOf, TerminalRecord.stopReason, TerminalRecord.constraintEvidence,
          TerminalRecord.issue]
  | _ =>
      simp [record, claim, TerminalRecord.claim, TerminalRecord.origin, TerminalRecord.kind,
        TerminalRecord.errorOf, TerminalRecord.stopReason, TerminalRecord.constraintEvidence,
        TerminalRecord.issue]

/-- What a list of calls does, field by field. -/
theorem foldl_record (records : List TerminalRecord) (evidence : TerminalEvidence) :
    records.foldl record evidence =
      { causalOwner := evidence.causalOwner.or (records.findSome? TerminalRecord.claim)
        lifecycleOrigin := evidence.lifecycleOrigin.or (records.findSome? TerminalRecord.origin)
        runtimeFailure :=
          evidence.runtimeFailure.or (records.findSome? (TerminalRecord.errorOf .runtimeFailure))
        runtimeCancelled :=
          evidence.runtimeCancelled || records.any (·.kind = .runtimeCancelled)
        runtimeStopReason :=
          (records.reverse.findSome? TerminalRecord.stopReason).or evidence.runtimeStopReason
        constraintEvidence :=
          (records.reverse.findSome? TerminalRecord.constraintEvidence).or
            evidence.constraintEvidence
        constraintFailure := evidence.constraintFailure.or
          (records.findSome? (TerminalRecord.errorOf .constraintFailure))
        parserIntegrityFailure := evidence.parserIntegrityFailure.or
          (records.findSome? (TerminalRecord.errorOf .parserIntegrityFailure))
        semanticFailure :=
          evidence.semanticFailure.or (records.findSome? (TerminalRecord.errorOf .semanticFailure))
        parserIssue := evidence.parserIssue.or (records.findSome? TerminalRecord.issue)
        unknownFailure :=
          evidence.unknownFailure.or (records.findSome? (TerminalRecord.errorOf .unknownFailure))
        decision := evidence.decision } := by
  induction records generalizing evidence with
  | nil => simp
  | cons item records induction =>
      rw [List.foldl_cons, induction, record_eq]
      simp only [findSome?_cons_or, findSome?_reverse_cons, Option.or_assoc, List.any_cons,
        Bool.or_assoc]

end TerminalEvidence

/-! ## The decision -/

/-- The same calls in another order, which keeps the order of the claims and the order of
the calls of each kind. -/
structure TerminalRecord.Reordered (records others : List TerminalRecord) : Prop where
  claims : records.filter (·.claim.isSome) = others.filter (·.claim.isSome)
  kinds : ∀ kind, records.filter (·.kind = kind) = others.filter (·.kind = kind)

/-- The owner of a decision: the first claim, or else the fixed precedence. -/
def primaryOwnerOf (records : List TerminalRecord) : TerminalPrimaryOwner :=
  match records.findSome? TerminalRecord.claim with
  | some owner => owner
  | none =>
      let stopped := records.reverse.findSome? TerminalRecord.stopReason
      if stopped = some .loop then .runtimeOwnership
      else if stopped = some .other then .unknownInternal
      else if records.any (·.kind = .constraintFailure) then .constraintIntegrity
      else if records.any (·.kind = .parserIntegrityFailure) then .parserIntegrity
      else if records.any (·.kind = .semanticFailure) then .semanticContract
      else if records.any (·.kind = .unknownFailure) then .unknownInternal
      else if stopped = none then .unknownInternal
      else .normalRuntimeTerminal

/-- What only calls of one sort answer is found among them. -/
theorem findSome?_filter_of {β : Type} {value : TerminalRecord → Option β}
    {sort : TerminalRecord → Bool} (only : ∀ item, value item ≠ none → sort item = true)
    (records : List TerminalRecord) :
    (records.filter sort).findSome? value = records.findSome? value := by
  induction records with
  | nil => rfl
  | cons item records induction =>
      by_cases sorted : sort item = true
      · rw [List.filter_cons_of_pos sorted, findSome?_cons_or, findSome?_cons_or, induction]
      · have silent : value item = none := by
          by_contra answers
          exact sorted (only item answers)
        rw [List.filter_cons_of_neg sorted, findSome?_cons_or, silent, Option.none_or, induction]

/-- Only the lifecycle and the runtime claim a request. -/
theorem TerminalRecord.claim_cases {item : TerminalRecord} {owner : TerminalPrimaryOwner}
    (claims : item.claim = some owner) :
    owner = .lifecycleTermination ∨ owner = .runtimeOwnership := by
  cases item with
  | controlledReason reason =>
      rcases Option.map_eq_some_iff.mp claims with ⟨_, _, rfl⟩
      exact .inl rfl
  | runtimeFailure | runtimeCancelled =>
      cases claims
      exact .inr rfl
  | _ => cases claims

namespace TerminalRecord.Reordered

variable {records others : List TerminalRecord} (same : Reordered records others)
include same

theorem claim : records.findSome? TerminalRecord.claim = others.findSome? TerminalRecord.claim := by
  have only (item : TerminalRecord) (claims : item.claim ≠ none) : item.claim.isSome = true :=
    Option.isSome_iff_ne_none.mpr claims
  rw [← findSome?_filter_of only records, same.claims, findSome?_filter_of only]

theorem first {β : Type} (value : TerminalRecord → Option β) (kind : TerminalRecordKind)
    (only : ∀ item, value item ≠ none → item.kind = kind) :
    records.findSome? value = others.findSome? value := by
  have sorted (item : TerminalRecord) (answers : value item ≠ none) :
      decide (item.kind = kind) = true := decide_eq_true (only item answers)
  rw [← findSome?_filter_of sorted records, same.kinds kind, findSome?_filter_of sorted]

theorem last {β : Type} (value : TerminalRecord → Option β) (kind : TerminalRecordKind)
    (only : ∀ item, value item ≠ none → item.kind = kind) :
    records.reverse.findSome? value = others.reverse.findSome? value := by
  have sorted (item : TerminalRecord) (answers : value item ≠ none) :
      decide (item.kind = kind) = true := decide_eq_true (only item answers)
  rw [← findSome?_filter_of sorted records.reverse, List.filter_reverse, same.kinds kind,
    ← List.filter_reverse, findSome?_filter_of sorted]

theorem any (kind : TerminalRecordKind) :
    records.any (·.kind = kind) = others.any (·.kind = kind) := by
  have nonempty (list : List TerminalRecord) :
      list.any (·.kind = kind) = (list.filter (·.kind = kind)).any fun _ => true := by
    rw [List.any_filter]
    simp
  rw [nonempty, nonempty, same.kinds kind]

theorem error (kind : TerminalRecordKind) :
    records.findSome? (errorOf kind) = others.findSome? (errorOf kind) := by
  apply same.first (errorOf kind) kind
  intro item answers
  cases item <;> simp_all [errorOf, TerminalRecord.kind]

theorem gather : TerminalEvidence.gather records = TerminalEvidence.gather others := by
  have origin := same.first origin .controlledReason fun item answers => by
    cases item <;> simp_all [TerminalRecord.origin, TerminalRecord.kind]
  have stopReason := same.last stopReason .runtimeFinished fun item answers => by
    cases item <;> simp_all [TerminalRecord.stopReason, TerminalRecord.kind]
  have constraint := same.last constraintEvidence .runtimeFinished fun item answers => by
    cases item <;> simp_all [TerminalRecord.constraintEvidence, TerminalRecord.kind]
  have issue := same.first issue .parserIssue fun item answers => by
    cases item <;> simp_all [TerminalRecord.issue, TerminalRecord.kind]
  rw [TerminalEvidence.gather, TerminalEvidence.gather, TerminalEvidence.foldl_record,
    TerminalEvidence.foldl_record, same.claim, origin, same.error, same.any, stopReason,
    constraint, same.error, same.error, same.error, issue, same.error]

end TerminalRecord.Reordered

namespace TerminalEvidence

open TerminalRecord

variable {records : List TerminalRecord}

/-- A runtime that claimed the request has failed or was cancelled. -/
theorem runtime_of_claim
    (claimed : records.findSome? TerminalRecord.claim = some .runtimeOwnership) :
    records.findSome? (errorOf .runtimeFailure) ≠ none ∨
      records.any (·.kind = .runtimeCancelled) = true := by
  rcases List.exists_of_findSome?_eq_some claimed with ⟨item, member, claims⟩
  cases item with
  | controlledReason reason =>
      rcases Option.map_eq_some_iff.mp claims with ⟨origin, found, wrong⟩
      cases wrong
  | runtimeFailure error =>
      left
      intro missing
      cases List.findSome?_eq_none_iff.mp missing _ member
  | runtimeCancelled => exact .inr (List.any_eq_true.mpr ⟨_, member, rfl⟩)
  | _ => cases claims

/-- A failure of this kind was recorded if there is one. -/
theorem findSome?_errorOf_eq_none {kind : TerminalRecordKind}
    (failure : kind = .constraintFailure ∨ kind = .parserIntegrityFailure ∨
      kind = .semanticFailure ∨ kind = .unknownFailure) :
    records.findSome? (errorOf kind) = none ↔ records.any (·.kind = kind) = false := by
  rw [List.findSome?_eq_none_iff, List.any_eq_false]
  apply forall₂_congr
  intro item _
  rcases failure with rfl | rfl | rfl | rfl <;>
    cases item <;> simp [errorOf, TerminalRecord.kind]

theorem conclude_eq (evidence : TerminalEvidence) {disposition : TerminalDisposition}
    {owner : TerminalPrimaryOwner} {canonicalError : Option CanonicalError}
    {completionReason : Option CompletionReason}
    (conclusive : Conclusive disposition canonicalError completionReason) :
    ∃ decision, evidence.conclude disposition owner canonicalError completionReason =
      some decision ∧ decision.primaryOwner = owner := by
  unfold conclude
  rw [dif_pos conclusive]
  exact ⟨_, rfl, rfl⟩

theorem failure_eq (evidence : TerminalEvidence) (owner : TerminalPrimaryOwner)
    (error : CanonicalError) :
    ∃ decision, evidence.failure owner error = some decision ∧ decision.primaryOwner = owner :=
  conclude_eq evidence ⟨Option.some_ne_none _, rfl⟩

/-- Without a claim the evidence is weighed in a fixed order. -/
theorem resolveUnclaimed_eq (records : List TerminalRecord)
    (successReason : Option CompletionReason)
    (unclaimed : records.findSome? TerminalRecord.claim = none) :
    ∃ decision, (gather records).resolveUnclaimed successReason = some decision ∧
      decision.primaryOwner = primaryOwnerOf records := by
  have recorded {kind : TerminalRecordKind} {error : CanonicalError}
      (failure : kind = .constraintFailure ∨ kind = .parserIntegrityFailure ∨
        kind = .semanticFailure ∨ kind = .unknownFailure)
      (found : records.findSome? (errorOf kind) = some error) :
      records.any (·.kind = kind) = true := by
    rw [← Bool.not_eq_false, ← findSome?_errorOf_eq_none failure, found]
    exact Option.some_ne_none error
  have absent {kind : TerminalRecordKind}
      (failure : kind = .constraintFailure ∨ kind = .parserIntegrityFailure ∨
        kind = .semanticFailure ∨ kind = .unknownFailure)
      (found : records.findSome? (errorOf kind) = none) :
      ¬ records.any (·.kind = kind) = true := by
    rw [(findSome?_errorOf_eq_none failure).mp found]
    exact Bool.false_ne_true
  rw [gather, foldl_record]
  simp only [initial, Option.none_or, Bool.false_or, Option.or_none, resolveUnclaimed,
    primaryOwnerOf, unclaimed]
  by_cases loop : records.reverse.findSome? stopReason = some .loop
  · rw [if_pos loop, if_pos loop]
    exact failure_eq ..
  by_cases other : records.reverse.findSome? stopReason = some .other
  · rw [if_neg loop, if_neg loop, if_pos other, if_pos other]
    exact failure_eq ..
  rw [if_neg loop, if_neg loop, if_neg other, if_neg other]
  cases constraint : records.findSome? (errorOf .constraintFailure) with
  | some error =>
      rw [if_pos (recorded (.inl rfl) constraint)]
      exact failure_eq ..
  | none =>
  rw [if_neg (absent (.inl rfl) constraint)]
  cases integrity : records.findSome? (errorOf .parserIntegrityFailure) with
  | some error =>
      rw [if_pos (recorded (.inr (.inl rfl)) integrity)]
      exact failure_eq ..
  | none =>
  rw [if_neg (absent (.inr (.inl rfl)) integrity)]
  cases semantic : records.findSome? (errorOf .semanticFailure) with
  | some error =>
      rw [if_pos (recorded (.inr (.inr (.inl rfl))) semantic)]
      exact failure_eq ..
  | none =>
  rw [if_neg (absent (.inr (.inr (.inl rfl))) semantic)]
  cases unknown : records.findSome? (errorOf .unknownFailure) with
  | some error =>
      rw [if_pos (recorded (.inr (.inr (.inr rfl))) unknown)]
      exact failure_eq ..
  | none =>
  rw [if_neg (absent (.inr (.inr (.inr rfl))) unknown)]
  simp only [resolveStopped]
  cases records.reverse.findSome? stopReason with
  | none => exact failure_eq ..
  | some reason => exact conclude_eq _ ⟨Option.some_ne_none _, rfl⟩

/-- A runtime that claimed the request owns the decision. -/
theorem resolveRuntime_eq {records : List TerminalRecord}
    (claimed : records.findSome? TerminalRecord.claim = some .runtimeOwnership) :
    ∃ decision, (gather records).resolveRuntime = some decision ∧
      decision.primaryOwner = .runtimeOwnership := by
  have either := runtime_of_claim claimed
  rw [gather, foldl_record]
  simp only [initial, Option.none_or, Bool.false_or, resolveRuntime]
  cases failed : records.findSome? (errorOf .runtimeFailure) with
  | some error => exact failure_eq ..
  | none =>
      rw [failed] at either
      have cancelled := either.resolve_left fun absurdly => absurdly rfl
      simp only [cancelled, if_true]
      exact conclude_eq _ rfl

theorem resolve_eq (records : List TerminalRecord) (successReason : Option CompletionReason)
    (errorTransform : Option (CanonicalError → CanonicalError)) :
    ∃ decision, (gather records).resolve successReason errorTransform = some decision ∧
      decision.primaryOwner = primaryOwnerOf records := by
  have owner : (gather records).causalOwner = records.findSome? TerminalRecord.claim := by
    rw [gather, foldl_record]
    rfl
  have undecided : (gather records).decision = none := by
    rw [gather, foldl_record]
    rfl
  simp only [resolve, undecided, owner]
  cases claimed : records.findSome? TerminalRecord.claim with
  | none => exact resolveUnclaimed_eq records successReason claimed
  | some owner =>
      have named : primaryOwnerOf records = owner := by rw [primaryOwnerOf, claimed]
      rw [named]
      rcases List.exists_of_findSome?_eq_some claimed with ⟨item, _, claims⟩
      rcases claim_cases claims with rfl | rfl
      · simp only [resolveLifecycle]
        split
        · exact failure_eq ..
        · exact conclude_eq _ rfl
      · exact resolveRuntime_eq claimed

/-- Whatever was recorded, in whatever order: `resolve` makes one decision, which has the
owner that the first claim or the fixed precedence says, and it makes the same decision
when the evidence that is independent of each other arrives in another order. -/
theorem terminal_outcome {records others : List TerminalRecord} (same : Reordered records others)
    (successReason : Option CompletionReason)
    (errorTransform : Option (CanonicalError → CanonicalError)) :
    ∃ decision, (gather records).resolve successReason errorTransform = some decision ∧
      (gather others).resolve successReason errorTransform = some decision ∧
      decision.primaryOwner = primaryOwnerOf records := by
  rcases resolve_eq records successReason errorTransform with ⟨decision, resolved, owner⟩
  exact ⟨decision, resolved, same.gather ▸ resolved, owner⟩

/-- An output fails a check before or after the deadline passes, and the runtime fails then. -/
theorem terminal_outcome_example :
    ∃ decision,
      (gather [.controlledReason (some .timeout), .semanticFailure unresolvedTerminalError,
        .runtimeFailure runtimeLoopError]).resolve none none = some decision ∧
      (gather [.semanticFailure unresolvedTerminalError, .controlledReason (some .timeout),
        .runtimeFailure runtimeLoopError]).resolve none none = some decision ∧
      decision.primaryOwner = .lifecycleTermination := by
  have same : Reordered
      [.controlledReason (some .timeout), .semanticFailure unresolvedTerminalError,
        .runtimeFailure runtimeLoopError]
      [.semanticFailure unresolvedTerminalError, .controlledReason (some .timeout),
        .runtimeFailure runtimeLoopError] := by
    refine ⟨rfl, ?_⟩
    intro kind
    cases kind <;> rfl
  exact terminal_outcome same none none

theorem decision_of_commit {evidence after : TerminalEvidence}
    {decision committed : TerminalDecision}
    (commits : evidence.commitDecision decision = some (committed, after)) :
    after.decision = some decision := by
  rw [commitDecision] at commits
  cases earlier : evidence.decision with
  | none =>
      rw [earlier] at commits
      cases commits
      rfl
  | some first =>
      rw [earlier] at commits
      dsimp only at commits
      by_cases differs : first ≠ decision
      · rw [if_pos differs] at commits
        cases commits
      · rw [if_neg differs] at commits
        cases commits
        rw [earlier, not_not.mp differs]

/-- Whatever is recorded behind a commit: `resolve` gives the committed decision, and no other
one can be committed. -/
theorem committed_decision_stands {evidence after : TerminalEvidence}
    {decision committed : TerminalDecision}
    (commits : evidence.commitDecision decision = some (committed, after))
    (later : List TerminalRecord) (successReason : Option CompletionReason)
    (errorTransform : Option (CanonicalError → CanonicalError)) :
    (later.foldl record after).resolve successReason errorTransform = some decision ∧
      ∀ other ≠ decision, (later.foldl record after).commitDecision other = none := by
  have kept : (later.foldl record after).decision = some decision := by
    rw [foldl_record, decision_of_commit commits]
  constructor
  · rw [resolve, kept]
  · intro other differs
    rw [commitDecision, kept]
    exact if_pos differs.symm

end TerminalEvidence
end ExQServe.Serving
