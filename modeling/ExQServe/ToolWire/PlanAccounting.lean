import ExQServe.Agent.JsonCanonical
import ExQServe.ToolWire.PlanPreparation

/-! # The accounts of the plan compiler

The last reservation is the one that the selection has already tried, candidates that are
not selected leave nothing behind, and a plan covers what its tools require. -/

namespace ExQServe.ToolWire

open Failing

/-! ## What a branch covers -/

/-- The branch has every argument that a call of the tool has to carry. -/
structure Covers (spec : ToolWireSpec) (tool : ExposedTool) (branch : ToolBranchPlan) : Prop where
  named : branch.toolName = tool.name
  strict : branch.strict = tool.strict
  argument : ∀ name, WireRequired spec tool name →
    ∃ argument ∈ branch.arguments, argument.name = name ∧ argument.wireRequired = true
  ordered : ∀ name, WireRequired spec tool name →
    (∀ order ∈ branch.orderPlan.orders, name ∈ order) ∧ name ∉ branch.orderPlan.optionalNames

/-- Every order of the plan has the names, and none of them is optional. -/
def Orders (names : List PyStr) (plan : ArgumentOrderPlan) : Prop :=
  ∀ name ∈ names, (∀ order ∈ plan.orders, name ∈ order) ∧ name ∉ plan.optionalNames

theorem orders_minimalOrderPlan {evidence names : List PyStr} (declared : names ⊆ evidence)
    (ordering : ArgumentOrderingMode) :
    Orders names (minimalOrderPlan (prepareOrders evidence names) ordering) := by
  intro name member
  constructor
  · intro order single
    rw [minimalOrderPlan, List.mem_singleton] at single
    rw [single, prepareOrders, List.mem_filter]
    exact ⟨declared member, List.contains_iff_mem.mpr member⟩
  · exact List.not_mem_nil

theorem orders_declaredOrderPlan {evidence names : List PyStr} (declared : names ⊆ evidence)
    (ordering : ArgumentOrderingMode) :
    Orders names (declaredOrderPlan evidence names ordering) := by
  intro name member
  constructor
  · intro order single
    rw [declaredOrderPlan, List.mem_singleton] at single
    rw [single]
    exact declared member
  · intro optional
    have absent := List.of_mem_filter optional
    rw [List.contains_iff_mem.mpr member] at absent
    cases absent

namespace SemanticsFor

variable {spec : ToolWireSpec} {tool : ExposedTool} {semantics : CompiledToolSemantics}

theorem onWireDeclared (whole : SemanticsFor spec tool semantics) :
    semantics.wireRequiredNames ⊆ semantics.prepared.orderEvidence := by
  rw [whole.onWire]
  exact List.filter_subset_self _

theorem mem_onWire (whole : SemanticsFor spec tool semantics) {name : PyStr}
    (required : WireRequired spec tool name) : name ∈ semantics.wireRequiredNames := by
  rw [whole.onWire]
  exact whole.prepared.wireRequired required

theorem argument (whole : SemanticsFor spec tool semantics) {name : PyStr}
    (onWire : name ∈ semantics.wireRequiredNames) :
    ∃ argument ∈ semantics.arguments, argument.name = name ∧ argument.wireRequired = true := by
  rw [whole.onWire, ← namesOnWire whole.arguments, List.mem_map] at onWire
  rcases onWire with ⟨argument, member, named⟩
  rw [List.mem_filter] at member
  exact ⟨argument, member.1, named, member.2⟩

end SemanticsFor

/-- Candidates stand for optional names only, so that the arguments on the wire stay. -/
theorem materializeToolBranch_eq_ok {spec : ToolWireSpec} {tool : ExposedTool}
    {semantics : CompiledToolSemantics} {prepared : PreparedTool}
    {candidates : Dict PyStr ArgumentBranchPlan} {orderPlan : ArgumentOrderPlan}
    {branch : ToolBranchPlan} (whole : SemanticsFor spec tool semantics)
    (same : SameTool semantics.prepared prepared)
    (optional : ∀ name ∈ semantics.wireRequiredNames, candidates.get? name = none)
    (orders : Orders semantics.wireRequiredNames orderPlan)
    (ended : materializeToolBranch
      { semantics with prepared, optionalArgumentCandidates := candidates } orderPlan =
        .ok branch) :
    Covers spec tool branch := by
  have sameTool := (same.preparedFor whole.prepared).sameTool
  rw [materializeToolBranch] at ended
  split at ended
  · split at ended
    · cases ended
      constructor
      · exact congrArg ExposedTool.name sameTool
      · exact congrArg ExposedTool.strict sameTool
      · intro name required
        have onWire := whole.mem_onWire required
        rcases whole.argument onWire with ⟨argument, member, named, flagged⟩
        use argument
        constructor
        · apply List.mem_map.mpr
          use argument
          constructor
          · exact member
          · rw [named, optional name onWire, Option.getD_none, ite_self]
        · exact ⟨named, flagged⟩
      · intro name required
        exact orders name (whole.mem_onWire required)
    · cases ended
  · cases ended

/-! ## Candidates -/

section Candidates

variable {π : Type} {libraries : PlanLibraries π} {spec : ToolWireSpec}
  {capabilities : ConstraintCompilerCapabilities}

/-- What the loop over the optional names leaves of its variables: the tool aside from its
caches, the nodes or more, and candidates under the names only. -/
structure CandidatesFrom (names : List PyStr) (start final : CandidateLoop) : Prop where
  tool : SameTool start.prepared final.prepared
  nodes : NodesGrow start.envelope final.envelope
  keys : ∀ name ∉ names, final.candidates.get? name = start.candidates.get? name

theorem compileCandidates_eq_ok {mode : ToolConstraintMode} {limit : Int}
    {start final : CandidateLoop} {names : List (PyStr × Nat)} {whole : Bool}
    (ended : compileCandidates libraries spec capabilities mode limit start names =
      .ok (whole, final)) :
    CandidatesFrom (names.map Prod.fst) start final := by
  induction names generalizing start with
  | nil =>
      cases ended
      exact ⟨.refl _, .refl _, fun _ _ => rfl⟩
  | cons entry names induction =>
      rw [compileCandidates] at ended
      split at ended
      · split at ended
        · cases ended
          exact ⟨.refl _, .refl _, fun _ _ => rfl⟩
        · cases ended
      · rename_i schema prepared envelope resolved
        have first := resolvedPreparedPropertySchema_eq_ok resolved
        split at ended
        · split at ended
          · cases ended
            exact ⟨first.1, first.2, fun _ _ => rfl⟩
          · cases ended
        · rename_i candidate _
          split at ended
          · cases ended
            exact ⟨first.1, first.2, fun _ _ => rfl⟩
          · rcases bind_eq_ok ended with ⟨payloadBytes, _, ended⟩
            rcases bind_eq_ok ended with ⟨productBytes, _, ended⟩
            have rest := induction ended
            constructor
            · exact first.1.trans rest.tool
            · exact first.2.trans rest.nodes
            · intro name absent
              rw [List.map_cons, List.mem_cons, not_or] at absent
              rw [rest.keys name absent.2, Dict.get?_set, if_neg absent.1]

structure AttemptOf (semantics : CompiledToolSemantics) (envelope : HardEnvelopeBudget)
    (attempt : OptionalAttempt) : Prop where
  tool : SameTool semantics.prepared attempt.prepared
  nodes : NodesGrow envelope attempt.envelope
  optional : ∀ cost candidates, attempt.outcome = some (cost, candidates) →
    ∀ name ∈ semantics.wireRequiredNames, candidates.get? name = none

theorem compileOptionalArgumentCandidates_eq_ok {semantics : CompiledToolSemantics} {limit : Int}
    {envelope : HardEnvelopeBudget} {attempt : OptionalAttempt}
    (ended : compileOptionalArgumentCandidates libraries spec capabilities semantics limit
      envelope = .ok attempt) :
    AttemptOf semantics envelope attempt := by
  rw [compileOptionalArgumentCandidates] at ended
  split at ended
  · cases ended
    exact ⟨.refl _, .refl _, nofun⟩
  · rcases bind_eq_ok ended with ⟨⟨whole, loop⟩, compiled, ended⟩
    have kept := compileCandidates_eq_ok compiled
    dsimp only at ended
    split at ended
    · rw [finishAttempt] at ended
      rcases bind_eq_ok ended with ⟨_, _, ended⟩
      rcases bind_eq_ok ended with ⟨_, _, ended⟩
      rcases bind_eq_ok ended with ⟨_, _, ended⟩
      cases ended
      constructor
      · exact kept.tool
      · exact kept.nodes
      · intro cost candidates outcome name onWire
        cases outcome
        rw [kept.keys name]
        · rfl
        · intro listed
          rcases List.mem_map.mp listed with ⟨entry, member, named⟩
          have absent := List.of_mem_filter member
          rw [named, List.contains_iff_mem.mpr onWire] at absent
          cases absent
    · cases ended
      exact ⟨kept.tool, kept.nodes, nofun⟩

end Candidates

/-! ## Enrichment -/

def EnrichmentAttempt.charged : EnrichmentAttempt → Nat
  | .selected schemaNodes => schemaNodes
  | .skipped | .refused _ => 0

def chargedNodes (attempts : List EnrichmentAttempt) : Nat :=
  (attempts.map EnrichmentAttempt.charged).sum

def EnrichmentAttempt.isSelected : EnrichmentAttempt → Bool
  | .selected _ => true
  | .skipped | .refused _ => false

section Enriching

variable {π : Type} {libraries : PlanLibraries π} {request : PlanRequest}

/-- What the state of the enrichment has selected fits in the budget beside the ledger. -/
def Affordable (ledger : CompileBudgetLedger) (state : Enrichment π) : Prop :=
  ∃ order payloadBytes, orderProductCost state.selectedTools = .ok order ∧
    candidateProductsFit ledger order state.selectedArtifact payloadBytes
      (ProductCost.sum state.selectedOptionalSemanticCosts) = true

structure TurnOf (ledger : CompileBudgetLedger) (index : Nat) (semantics : CompiledToolSemantics)
    (state : Enrichment π) (attempt : EnrichmentAttempt) (next : Enrichment π) : Prop where
  nodes : next.envelope.schemaNodesUsed = state.envelope.schemaNodesUsed + attempt.charged
  untouched : attempt.isSelected = false → state.semantics[index]? = some semantics →
    semantics.optionalArgumentCandidates = .empty → next = state
  elsewhere : ∀ other, other ≠ index → next.semantics[other]? = state.semantics[other]?
  affordable : Affordable ledger state → Affordable ledger next
  covered : ∀ spec tools tool, tools[index]? = some tool → SemanticsFor spec tool semantics →
    List.Forall₂ (Covers spec) tools state.selectedTools →
    List.Forall₂ (Covers spec) tools next.selectedTools

theorem restoreSchemaNodes_eq {envelope next : HardEnvelopeBudget}
    (grown : NodesGrow envelope next) : next.restoreSchemaNodes envelope = envelope := by
  cases envelope
  cases next
  have bytes := grown.bytes
  dsimp only at bytes
  subst bytes
  rfl

def refusedState (index : Nat) (semantics : CompiledToolSemantics) (attempt : OptionalAttempt)
    (state : Enrichment π) : Enrichment π :=
  { state with
    envelope := attempt.envelope.restoreSchemaNodes state.envelope
    semantics := state.semantics.set index
      (semantics.settle (attempt.prepared.restoreCaches semantics.prepared)) }

theorem set_of_getElem? {α : Type} {items : List α} {index : Nat} {item : α}
    (stands : items[index]? = some item) : items.set index item = items := by
  rcases List.getElem?_eq_some_iff.mp stands with ⟨inside, rfl⟩
  exact List.set_getElem_self inside

theorem refusedState_eq {index : Nat} {semantics : CompiledToolSemantics}
    {attempt : OptionalAttempt} {state : Enrichment π}
    (kept : AttemptOf semantics state.envelope attempt)
    (stands : state.semantics[index]? = some semantics)
    (noCandidates : semantics.optionalArgumentCandidates = .empty) :
    refusedState index semantics attempt state = state := by
  have settled : semantics.settle (attempt.prepared.restoreCaches semantics.prepared) =
      semantics := by
    rw [kept.tool, CompiledToolSemantics.settle, ← noCandidates]
  rw [refusedState, settled, set_of_getElem? stands, restoreSchemaNodes_eq kept.nodes]

theorem turnOf_refused {ledger : CompileBudgetLedger} {index : Nat}
    {semantics : CompiledToolSemantics} {attempt : OptionalAttempt} {state : Enrichment π}
    (schemaNodes : Nat) (kept : AttemptOf semantics state.envelope attempt) :
    TurnOf ledger index semantics state (.refused schemaNodes)
      (refusedState index semantics attempt state) := by
  constructor
  · rfl
  · intro _ stands noCandidates
    exact refusedState_eq kept stands noCandidates
  · intro other different
    exact List.getElem?_set_ne (Ne.symm different)
  · exact id
  · intro _ _ _ _ _ covered
    exact covered

theorem enrichTool_eq_ok {ledger : CompileBudgetLedger} {triggers : List String} {index : Nat}
    {semantics : CompiledToolSemantics} {state next : Enrichment π} {turn : EnrichmentAttempt}
    (ended : enrichTool libraries request ledger triggers index semantics state =
      .ok (turn, next)) :
    TurnOf ledger index semantics state turn next := by
  rw [enrichTool] at ended
  dsimp only at ended
  split at ended
  · cases ended
    constructor
    · rfl
    · exact fun _ _ _ => rfl
    · exact fun _ _ => rfl
    · exact id
    · intro _ _ _ _ _ covered
      exact covered
  · rcases bind_eq_ok ended with ⟨selectedBytes, _, ended⟩
    rcases bind_eq_ok ended with ⟨attempt, tried, ended⟩
    have kept := compileOptionalArgumentCandidates_eq_ok tried
    split at ended
    · cases ended
      exact turnOf_refused _ kept
    · rename_i cost candidates outcome
      rcases bind_eq_ok ended with ⟨branch, materialized, ended⟩
      rcases bind_eq_ok ended with ⟨payloadBytes, _, ended⟩
      rcases bind_eq_ok ended with ⟨order, costed, ended⟩
      rcases bind_eq_ok ended with ⟨artifact, _, ended⟩
      split at ended
      · rename_i fits
        rcases bind_eq_ok ended with ⟨envelope, consumed, ended⟩
        cases ended
        constructor
        · exact (consumeSchemaNodes_eq_ok consumed).1
        · exact nofun
        · intro other different
          exact List.getElem?_set_ne (Ne.symm different)
        · intro _
          exact ⟨order, payloadBytes, costed, fits⟩
        · intro spec tools tool stands whole covered
          apply forall₂_set covered stands
          apply materializeToolBranch_eq_ok whole _ (kept.optional cost candidates outcome) _
            materialized
          · rw [kept.tool]
            exact .refl _
          · exact orders_declaredOrderPlan whole.onWireDeclared _
      · cases ended
        exact turnOf_refused _ kept

/-- The entries that the loop still has to go through stand in the state as they are. -/
structure Pending (entries : List (CompiledToolSemantics × Nat)) (state : Enrichment π) :
    Prop where
  distinct : (entries.map Prod.snd).Nodup
  stand : ∀ entry ∈ entries, state.semantics[entry.2]? = some entry.1
  noCandidates : ∀ entry ∈ entries, entry.1.optionalArgumentCandidates = .empty

theorem Pending.next {ledger : CompileBudgetLedger} {entry : CompiledToolSemantics × Nat}
    {entries : List (CompiledToolSemantics × Nat)} {state next : Enrichment π}
    {turn : EnrichmentAttempt} (pending : Pending (entry :: entries) state)
    (whole : TurnOf ledger entry.2 entry.1 state turn next) : Pending entries next := by
  have distinct := List.nodup_cons.mp pending.distinct
  constructor
  · exact distinct.2
  · intro other member
    rw [whole.elsewhere]
    · exact pending.stand other (List.mem_cons_of_mem _ member)
    · intro same
      exact distinct.1 (same ▸ List.mem_map_of_mem member)
  · intro other member
    exact pending.noCandidates other (List.mem_cons_of_mem _ member)

structure TurnIn (libraries : PlanLibraries π) (request : PlanRequest)
    (ledger : CompileBudgetLedger) (triggers : List String)
    (entries : List (CompiledToolSemantics × Nat)) (start final : Enrichment π)
    (tried : List EnrichmentAttempt) (turn : EnrichmentAttempt) (others : List EnrichmentAttempt)
    (state next : Enrichment π) : Prop where
  before : enrichTools libraries request ledger triggers (entries.take tried.length) start =
    .ok (tried, state)
  turn : ∃ entry, entries[tried.length]? = some entry ∧
    enrichTool libraries request ledger triggers entry.2 entry.1 state = .ok (turn, next)
  after : enrichTools libraries request ledger triggers (entries.drop (tried.length + 1)) next =
    .ok (others, final)

/-- A tool is charged with the nodes of the selected attempts before it, and its own attempt
leaves the state as it was when it is not selected. -/
theorem enrichTools_turn {ledger : CompileBudgetLedger} {triggers : List String}
    {entries : List (CompiledToolSemantics × Nat)} {start final : Enrichment π}
    {tried others : List EnrichmentAttempt} {turn : EnrichmentAttempt}
    (ended : enrichTools libraries request ledger triggers entries start =
      .ok (tried ++ turn :: others, final)) (pending : Pending entries start) :
    ∃ state next,
      TurnIn libraries request ledger triggers entries start final tried turn others state next ∧
        state.envelope.schemaNodesUsed = start.envelope.schemaNodesUsed + chargedNodes tried ∧
        (turn.isSelected = false → next = state) := by
  induction tried generalizing start entries with
  | nil =>
      cases entries with
      | nil => cases ended
      | cons entry entries =>
          rw [enrichTools] at ended
          rcases bind_eq_ok ended with ⟨⟨found, next⟩, first, ended⟩
          rcases bind_eq_ok ended with ⟨⟨rest, _⟩, last, ended⟩
          cases ended
          use start, next
          constructor
          · constructor
            · rfl
            · exact ⟨entry, rfl, first⟩
            · exact last
          · constructor
            · rfl
            · intro unselected
              exact (enrichTool_eq_ok first).untouched unselected
                (pending.stand entry List.mem_cons_self)
                (pending.noCandidates entry List.mem_cons_self)
  | cons earlier tried induction =>
      cases entries with
      | nil => cases ended
      | cons entry entries =>
          rw [enrichTools] at ended
          rcases bind_eq_ok ended with ⟨⟨found, between⟩, first, ended⟩
          rcases bind_eq_ok ended with ⟨⟨rest, _⟩, last, ended⟩
          cases ended
          have whole := enrichTool_eq_ok first
          rcases induction last (pending.next whole) with ⟨state, next, run, nodes, untouched⟩
          use state, next
          constructor
          · constructor
            · rw [List.length_cons, List.take_succ_cons, enrichTools, first]
              change (enrichTools libraries request ledger triggers
                (entries.take tried.length) between >>= _) = _
              rw [run.before]
              rfl
            · exact run.turn
            · exact run.after
          · constructor
            · rw [nodes, whole.nodes, chargedNodes, chargedNodes, List.map_cons, List.sum_cons]
              omega
            · exact untouched

theorem enrichTools_affordable {ledger : CompileBudgetLedger} {triggers : List String}
    {tools : List (CompiledToolSemantics × Nat)} {start final : Enrichment π}
    {attempts : List EnrichmentAttempt}
    (ended : enrichTools libraries request ledger triggers tools start = .ok (attempts, final))
    (affordable : Affordable ledger start) : Affordable ledger final := by
  induction tools generalizing start attempts with
  | nil =>
      cases ended
      exact affordable
  | cons entry tools induction =>
      rw [enrichTools] at ended
      rcases bind_eq_ok ended with ⟨⟨turn, between⟩, first, ended⟩
      rcases bind_eq_ok ended with ⟨⟨rest, _⟩, last, ended⟩
      cases ended
      exact induction last ((enrichTool_eq_ok first).affordable affordable)

theorem enrichTools_covered {ledger : CompileBudgetLedger} {triggers : List String}
    {entries : List (CompiledToolSemantics × Nat)} {start final : Enrichment π}
    {attempts : List EnrichmentAttempt} {spec : ToolWireSpec} {tools : List ExposedTool}
    (ended : enrichTools libraries request ledger triggers entries start = .ok (attempts, final))
    (whole : ∀ entry ∈ entries, ∃ tool, tools[entry.2]? = some tool ∧
      SemanticsFor spec tool entry.1)
    (covered : List.Forall₂ (Covers spec) tools start.selectedTools) :
    List.Forall₂ (Covers spec) tools final.selectedTools := by
  induction entries generalizing start attempts with
  | nil =>
      cases ended
      exact covered
  | cons entry entries induction =>
      rw [enrichTools] at ended
      rcases bind_eq_ok ended with ⟨⟨turn, between⟩, first, ended⟩
      rcases bind_eq_ok ended with ⟨⟨rest, _⟩, last, ended⟩
      cases ended
      rcases whole entry List.mem_cons_self with ⟨tool, stands, semantics⟩
      apply induction last
      · intro other member
        exact whole other (List.mem_cons_of_mem _ member)
      · exact (enrichTool_eq_ok first).covered spec tools tool stands semantics covered

theorem minimalTools_eq_ok {tools : List ExposedTool} {semantics : List CompiledToolSemantics}
    {spec : ToolWireSpec} {branches : List ToolBranchPlan}
    (whole : List.Forall₂ (SemanticsFor spec) tools semantics)
    (ended : minimalTools request semantics = .ok branches) :
    List.Forall₂ (Covers spec) tools branches := by
  have materialized := mapM_eq_ok ended
  clear ended
  induction whole generalizing branches with
  | nil =>
      cases materialized
      exact .nil
  | @cons tool semantics tools others head tail induction =>
      cases materialized with
      | cons first rest =>
          apply List.Forall₂.cons _ (induction rest)
          apply materializeToolBranch_eq_ok head (.refl _) _
            (orders_minimalOrderPlan head.onWireDeclared _) first
          intro name _
          rw [head.noCandidates]
          rfl

theorem sum_zeros (semantics : List CompiledToolSemantics) :
    ProductCost.sum (semantics.map fun _ => .zero) = .zero := by
  rw [ProductCost.sum]
  induction semantics with
  | nil => rfl
  | cons semantics others induction => exact induction

/-- The state the loop starts from: the minimal language of the exposed tools, without an
optional argument. -/
structure MinimalStart (libraries : PlanLibraries π) (request : PlanRequest)
    (selection : Selection π) (start : Enrichment π) : Prop where
  minimal : ∃ root,
    reserve ⟨1, request.spec.specId.utf8ByteSize, (exposedTools request.policy).length⟩ 0
        (.initial request.budget) = .ok () root ∧
      minimalSemantics libraries request (exposedTools request.policy) root =
        .ok (start.semantics, selection.base) selection.ledger
  envelope : start.envelope = selection.base
  tools : minimalTools request start.semantics = .ok start.selectedTools
  artifact : buildArtifactCandidate libraries request (selection.triggerIds.getD [])
    start.selectedTools = .ok start.selectedArtifact
  uncharged : start.selectedOptionalSemanticCosts = start.semantics.map fun _ => .zero

structure SelectionOf (libraries : PlanLibraries π) (request : PlanRequest)
    (selection : Selection π) : Prop where
  budget : selection.ledger.budget = request.budget
  unreserved : selection.ledger.permutationsReserved = 0
  affordable : Affordable selection.ledger selection.enriched
  covered : List.Forall₂ (Covers request.spec) (exposedTools request.policy)
    selection.enriched.selectedTools
  run : ∃ start, MinimalStart libraries request selection start ∧
    Pending start.semantics.zipIdx start ∧
    enrichTools libraries request selection.ledger (selection.triggerIds.getD [])
      start.semantics.zipIdx start = .ok (selection.attempts, selection.enriched)

theorem pending_zipIdx {spec : ToolWireSpec} {tools : List ExposedTool}
    {semantics : List CompiledToolSemantics} {state : Enrichment π}
    (whole : List.Forall₂ (SemanticsFor spec) tools semantics)
    (loaded : state.semantics = semantics) : Pending semantics.zipIdx state := by
  subst loaded
  constructor
  · rw [List.zipIdx_map_snd]
    exact List.nodup_range'
  · intro entry member
    exact List.mk_mem_zipIdx_iff_getElem?.mp member
  · intro entry member
    have stands := List.mk_mem_zipIdx_iff_getElem?.mp member
    rcases List.getElem?_eq_some_iff.mp stands with ⟨inside, same⟩
    have whole := whole.get (by rw [whole.length_eq]; exact inside) inside
    rw [List.get_eq_getElem, List.get_eq_getElem] at whole
    rw [← same]
    exact whole.noCandidates

theorem selectFrom_eq_ok {ledger : CompileBudgetLedger} {triggers : Option (List String)}
    {semantics : List CompiledToolSemantics} {envelope : HardEnvelopeBudget}
    {selection : Selection π} {root : CompileBudgetLedger}
    (reserved :
      reserve ⟨1, request.spec.specId.utf8ByteSize, (exposedTools request.policy).length⟩ 0
        (.initial request.budget) = .ok () root)
    (compiled : minimalSemantics libraries request (exposedTools request.policy) root =
      .ok (semantics, envelope) ledger)
    (limits : SameLimits (.initial request.budget) ledger)
    (whole : List.Forall₂ (SemanticsFor request.spec) (exposedTools request.policy) semantics)
    (ended : selectFrom libraries request ledger triggers semantics envelope =
      .ok (.selected selection)) :
    SelectionOf libraries request selection := by
  rw [selectFrom] at ended
  rcases bind_eq_ok ended with ⟨tools, minimal, ended⟩
  rcases bind_eq_ok ended with ⟨payloadBytes, _, ended⟩
  rcases bind_eq_ok ended with ⟨order, costed, ended⟩
  rcases bind_eq_ok ended with ⟨artifact, built, ended⟩
  split at ended
  · rename_i fits
    rcases bind_eq_ok ended with ⟨⟨attempts, enriched⟩, run, ended⟩
    cases ended
    constructor
    · exact limits.budget
    · exact limits.permutations
    · apply enrichTools_affordable run
      use order, payloadBytes, costed
      rw [sum_zeros]
      exact fits
    · apply enrichTools_covered run
      · intro entry member
        have stands := List.mk_mem_zipIdx_iff_getElem?.mp member
        rcases List.getElem?_eq_some_iff.mp stands with ⟨inside, same⟩
        have within : entry.2 < (exposedTools request.policy).length := by
          rw [whole.length_eq]
          exact inside
        use (exposedTools request.policy)[entry.2], List.getElem?_eq_getElem within
        rw [← same]
        exact whole.get within inside
      · exact minimalTools_eq_ok whole minimal
    · use ⟨envelope, semantics, tools, artifact, semantics.map fun _ => .zero⟩
      exact ⟨⟨⟨root, reserved, compiled⟩, rfl, minimal, built, rfl⟩, pending_zipIdx whole rfl,
        run⟩
  · cases ended

theorem selectProducts_eq_ok {selection : Selection π}
    (ended : selectProducts libraries request = .ok (.selected selection)) :
    SelectionOf libraries request selection := by
  rw [selectProducts] at ended
  rcases bind_eq_ok ended with ⟨_, _, ended⟩
  dsimp only at ended
  split at ended
  · cases ended
  · split at ended
    · cases ended
    · rename_i reserved
      rw [selectWithin] at ended
      rcases bind_eq_ok ended with ⟨_, _, ended⟩
      rcases bind_eq_ok ended with ⟨_, _, ended⟩
      rcases bind_eq_ok ended with ⟨_, _, ended⟩
      split at ended
      · split at ended
        · cases ended
        · cases ended
      · rename_i compiled
        have limits := minimalSemantics_eq_ok compiled
        exact selectFrom_eq_ok reserved compiled ((frames_reserve _ _ _ _ reserved).trans limits.2)
          limits.1 ended

/-! ## The last reservation -/

theorem candidateProductsFit_eq_true {ledger : CompileBudgetLedger} {order : OrderProductCost}
    {artifact : Option (ConstraintArtifactCandidate π)} {payloadBytes : Nat}
    {semantic : ProductCost} (unreserved : ledger.permutationsReserved = 0)
    (fits : candidateProductsFit ledger order artifact payloadBytes semantic = true) :
    (ledger.charged ((semantic.add order.cost).add (artifactCost artifact))
      order.permutations).withinBudget = true := by
  simp only [candidateProductsFit, Bool.and_eq_true, decide_eq_true_eq] at fits
  simp only [CompileBudgetLedger.withinBudget, CompileBudgetLedger.charged, unreserved,
    Nat.zero_add, Bool.and_eq_true, decide_eq_true_eq]
  exact ⟨⟨⟨fits.1.1.1.2, fits.1.1.2⟩, fits.1.2⟩, fits.2⟩

/-- The last reservation succeeds. -/
theorem SelectionOf.reserved {selection : Selection π}
    (whole : SelectionOf libraries request selection) :
    ∃ final, finalCost selection = .ok final ∧
      reserve final.cost final.permutations selection.ledger =
        .ok () (selection.ledger.charged final.cost final.permutations) ∧
      (selection.ledger.charged final.cost final.permutations).withinBudget = true := by
  rcases whole.affordable with ⟨order, payloadBytes, costed, fits⟩
  have within := candidateProductsFit_eq_true whole.unreserved fits
  rw [finalCost, costed]
  use ⟨((ProductCost.sum selection.enriched.selectedOptionalSemanticCosts).add order.cost).add
    (artifactCost selection.enriched.selectedArtifact), order.permutations⟩
  constructor
  · rfl
  · rw [reserve, if_pos within]
    exact ⟨rfl, within⟩

structure Within (budget : CompileBudget) (result : CompileBudgetResult) : Prop where
  rules : result.estimatedRules ≤ budget.maxEstimatedRules
  bytes : result.estimatedBytes ≤ budget.maxEstimatedBytes
  work : result.workUnits ≤ budget.maxWorkUnits
  permutations : result.permutationsReserved ≤ budget.maxPermutations
  reported : result.withinBudget = true

theorem within_snapshot {ledger : CompileBudgetLedger} (within : ledger.withinBudget = true) :
    Within ledger.budget ledger.snapshot := by
  have limits := within
  simp only [CompileBudgetLedger.withinBudget, Bool.and_eq_true, decide_eq_true_eq] at limits
  exact ⟨limits.1.1.1, limits.1.1.2, limits.1.2, limits.2, within⟩

theorem buildPlan_eq_ok {tools : List ToolBranchPlan} {disposition : PlanCompileDisposition}
    {result : CompileBudgetResult} {fingerprint : Option PyStr} {activation : Option (List String)}
    {compiled : PlanCompilation}
    (ended : buildPlan request tools disposition result fingerprint activation = .ok compiled) :
    compiled.plan.tools = tools ∧ compiled.plan.disposition = disposition ∧
      compiled.budgetResult = result := by
  rw [buildPlan] at ended
  split at ended
  · rcases bind_eq_ok ended with ⟨_, _, ended⟩
    cases ended
    exact ⟨rfl, rfl, rfl⟩
  · cases ended

theorem within_markNarrowed {ledger : CompileBudgetLedger} (narrowed : Bool)
    (within : ledger.withinBudget = true) :
    Within ledger.budget (if narrowed then ledger.markNarrowed else ledger).snapshot := by
  split
  · have narrowed : ledger.markNarrowed.withinBudget = true := within
    exact within_snapshot narrowed
  · exact within_snapshot within

theorem finishPlan_eq_ok {selection : Selection π} {compiled : PlanCompilation}
    {finalized : Option (ConstraintArtifactCandidate π)}
    (whole : SelectionOf libraries request selection)
    (ended : finishPlan libraries request selection = .ok (compiled, finalized)) :
    Within request.budget compiled.budgetResult ∧
      List.Forall₂ (Covers request.spec) (exposedTools request.policy) compiled.plan.tools := by
  rcases whole.reserved with ⟨final, costed, reserved, within⟩
  rw [finishPlan] at ended
  rcases bind_eq_ok ended with ⟨found, same, ended⟩
  rw [costed] at same
  cases same
  rw [reserved] at ended
  rcases bind_eq_ok ended with ⟨fingerprint, _, ended⟩
  rcases bind_eq_ok ended with ⟨plan, built, ended⟩
  cases ended
  rcases buildPlan_eq_ok built with ⟨tools, _, result⟩
  rw [tools, result, ← whole.budget]
  exact ⟨within_markNarrowed _ within, whole.covered⟩

end Enriching

/-! ## Main result -/

/-- The budget of the plan compiler is neither exceeded nor misreported: the last
reservation of a compilation succeeds, an attempt that is not selected leaves the state as it
was and a tool is charged with the nodes of the selected attempts only, and the budget result
of a plan that is not rejected is within the limits while the plan has every argument that
its tools require. -/
theorem plan_budget_kept {π : Type} (libraries : PlanLibraries π) (request : PlanRequest) :
    (∀ selection, selectProducts libraries request = .ok (.selected selection) →
      (∃ final ledger, finalCost selection = .ok final ∧
        reserve final.cost final.permutations selection.ledger = .ok () ledger) ∧
      ∀ tried turn others, selection.attempts = tried ++ turn :: others →
        ∃ start state next, MinimalStart libraries request selection start ∧
          TurnIn libraries request selection.ledger (selection.triggerIds.getD [])
            start.semantics.zipIdx start selection.enriched tried turn others state next ∧
          state.envelope.schemaNodesUsed = selection.base.schemaNodesUsed + chargedNodes tried ∧
          (turn.isSelected = false → next = state)) ∧
    ∀ compiled finalized, compileToolWirePlan libraries request = .ok (compiled, finalized) →
      compiled.plan.disposition ≠ .rejected →
      Within request.budget compiled.budgetResult ∧
        List.Forall₂ (Covers request.spec) (exposedTools request.policy)
          compiled.plan.tools := by
  apply And.intro
  · intro selection selected
    have whole := selectProducts_eq_ok selected
    apply And.intro
    · rcases whole.reserved with ⟨final, costed, reserved, _⟩
      exact ⟨final, _, costed, reserved⟩
    · intro tried turn others split
      rcases whole.run with ⟨start, minimal, pending, run⟩
      rw [split] at run
      rcases enrichTools_turn run pending with ⟨state, next, within, nodes, untouched⟩
      exact ⟨start, state, next, minimal, within, minimal.envelope ▸ nodes, untouched⟩
  · intro compiled finalized ended accepted
    rw [compileToolWirePlan] at ended
    rcases bind_eq_ok ended with ⟨products, selected, ended⟩
    cases products with
    | rejected ledger =>
        rcases bind_eq_ok ended with ⟨plan, rejected, ended⟩
        cases ended
        rw [rejectedBudgetPlan] at rejected
        exact absurd (buildPlan_eq_ok rejected).2.1 accepted
    | selected selection => exact finishPlan_eq_ok (selectProducts_eq_ok selected) ended

/-! A tool `f` whose optional argument is too expensive, and a tool `g` whose optional argument
is not. -/

def textSchema : JsonObject := [(py "type", .str (py "string"))]

def optionalSchema (name : PyStr) : JsonObject :=
  [(py "properties", .dict [(name, .dict textSchema)]), (py "type", .str (py "object"))]

theorem optionalSchema_sorted (name : PyStr) :
    (JsonValue.dict (optionalSchema name)).sorted = .dict (optionalSchema name) := rfl

theorem optionalSchema_undeclared (name : PyStr) :
    (optionalSchema name).get? (py "$schema") = none := rfl

theorem optionalSchema_local (name : PyStr) :
    referencesLocal (.dict (optionalSchema name)) = true := rfl

theorem optionalSchema_portable {name : PyStr} (encodable : name.utf8Encodable = true) :
    (JsonValue.dict (optionalSchema name)).portable = true := by
  simp [optionalSchema, textSchema, JsonValue.portable, JsonValue.portableEntries, encodable]
  decide

def optionalTool (name argument : PyStr) (named : name.strip ≠ [])
    (encodable : argument.utf8Encodable = true) : FunctionTool :=
  ⟨name, none, .ofSorted (optionalSchema argument) (optionalSchema_portable encodable)
    (optionalSchema_sorted argument) (optionalSchema_undeclared argument)
    (optionalSchema_local argument), false, named⟩

theorem pairNames : PyStr.strip (py "f") ≠ [] ∧ PyStr.strip (py "g") ≠ [] := by decide

theorem pairArguments :
    (py "a").utf8Encodable = true ∧ (py "b").utf8Encodable = true := by decide

def pairTools : List FunctionTool :=
  [optionalTool (py "f") (py "a") pairNames.1 pairArguments.1,
    optionalTool (py "g") (py "b") pairNames.2 pairArguments.2]

theorem pairTools_names : (pairTools.map FunctionTool.name).Nodup := by decide

theorem textProof_unstructured : (none : Option PyStr).isSome = true ↔
    true = true ∧ (ConstraintValueMode.anySafeRaw = .structuredFormat ∨
      ConstraintValueMode.anySafeRaw = .structuredSchema) := by
  simp

theorem textProof_payloads :
    (none : Option (List PyStr)).isSome = true →
      ConstraintValueMode.anySafeRaw = .finiteValues := by
  simp

theorem textProof_format :
    true = true ↔ GenerationGuarantee.format = .format ∨ GenerationGuarantee.format = .schema := by
  simp

def textProof : ArgumentProof where
  framingVariantId := some qwenRawString
  generated := true
  generationSchemaJson := none
  valueMode := .anySafeRaw
  admittedWirePayloads := none
  guarantee := .format
  generationSchemaIff := textProof_unstructured
  payloadsFinite := textProof_payloads
  guaranteeIff := textProof_format

def pairLibraries : PlanLibraries Unit where
  argumentProof _ _ name _ _ _ _ :=
    if name = py "a" then .error .branchBudgetExceeded else .ok textProof
  objectSchemaProof _ _ _ _ := true
  propertySchemaResolver := some fun _ property _ _ => .ok (.detached (.dict property))
  constraintArtifacts := none

theorem pairPermutations_positive : 0 < 8 := by decide

theorem pairWork_positive : 0 < 64 := by decide

theorem pairBytes_positive : 0 < 4096 := by decide

def pairRequest : PlanRequest where
  spec := qwenProductionToolWireSpec
  policy := .automatic pairTools pairTools_names
  mode := .format
  compilerCapabilities := ⟨"text", [], [], .none, false⟩
  presentationOrders := (Dict.empty.set (py "f") [py "a"]).set (py "g") [py "b"]
  budget := ⟨8, 64, 4096, 64, pairPermutations_positive, pairWork_positive, pairBytes_positive,
    pairWork_positive⟩
  constraintFingerprint := some (py "0")
  activationTriggerIds := some ["tool-open"]
  effectiveToolModes := none
  allowFormatFallbackTools := none

def attemptsOf {π : Type} (products : Except CompileFailure (ProductSelection π)) :
    List EnrichmentAttempt :=
  match products with
  | .ok (.selected selection) => selection.attempts
  | _ => []

example : attemptsOf (selectProducts pairLibraries pairRequest) = [.refused 2, .selected 2] := by
  decide +kernel

end ExQServe.ToolWire
