import ExQServe.Agent.JsonCanonical
import ExQServe.Foundation.Caching
import ExQServe.Foundation.Failing
import ExQServe.ToolWire.QwenCompile

/-! # The cache of Qwen compilations

The key of a call is a projection of its policy, with digests in place of the schemas. It
decides the result of the compilation, so that calls may share one. -/

namespace ExQServe.ToolWire

open Caching Failing

/-! ## Keys -/

def qwenCompileCacheMaxsize : Nat := 128

def qwenCompileCacheMaxSourceChars : Nat := 65536

def qwenCompileCacheMaxWeightBytes : Nat := 16777216

def qwenCompileCacheLimits : Limits := ⟨qwenCompileCacheMaxsize, qwenCompileCacheMaxWeightBytes⟩

structure QwenCompileKey (δ : Type) where
  mode : ToolConstraintMode
  choiceMode : ToolChoiceMode
  choiceName : Option PyStr
  allowParallel : Bool
  tools : List (PyStr × δ × Bool)
  budget : Option (Nat × Nat × Nat × Nat)
  maxParallelCalls : Int
deriving DecidableEq

def unencodable : CompileFailure := .raised (plain "surrogates not allowed")

def encodedLength (text : PyStr) : Except CompileFailure Nat :=
  if text.utf8Encodable then .ok text.utf8Length else .error unencodable

section Keys

variable {δ : Type} (digest : PyStr → δ)

/-- The loop over the exposed tools; `none` where a call is not cached. -/
def qwenToolKeys : Nat → List ExposedTool →
    Except CompileFailure (Option (List (PyStr × δ × Bool)))
  | _, [] => .ok (some [])
  | aggregate, tool :: tools =>
      let source := tool.parameters.canonicalJson
      let aggregate := aggregate + source.length
      if hardMaxNameChars < tool.name.length ∨
          hardMaxSchemaSourceCharsPerTool < source.length ∨
          hardMaxSchemaSourceCharsTotal < aggregate then .ok none
      else if qwenCompileCacheMaxSourceChars < aggregate then .ok none
      else if !tool.name.utf8Encodable then .ok none
      else if !source.utf8Encodable then .error unencodable
      else
        (qwenToolKeys aggregate tools).map
          (Option.map ((tool.name, digest source, tool.strict) :: ·))

def budgetKey (budget : CompileBudget) : Nat × Nat × Nat × Nat :=
  (budget.maxPermutations, budget.maxEstimatedRules, budget.maxEstimatedBytes, budget.maxWorkUnits)

/-- `_qwen_compile_cache_key`; the digest is that of the encoded source. -/
def qwenCompileCacheKey (call : QwenCompileCall) :
    Except CompileFailure (Option (QwenCompileKey δ)) :=
  let exposed := exposedTools call.policy
  if hardMaxExposedTools < exposed.length then .ok none
  else
    (qwenToolKeys digest 0 exposed).map <| Option.map fun tools =>
      { mode := call.mode
        choiceMode := call.policy.choice.mode
        choiceName := call.policy.choice.name
        allowParallel := call.policy.allowParallel
        tools
        budget := call.budget.map budgetKey
        maxParallelCalls := call.maxParallelCalls }

end Keys

/-! ## The cache -/

def qwenCompileCacheWeight (policy : ToolPolicy) (compiled : QwenToolWireCompilation) :
    Except CompileFailure Nat := do
  let sources ← (exposedTools policy).mapM fun tool => encodedLength tool.parameters.canonicalJson
  let grammar ← match compiled.constraint with
    | none => .ok 0
    | some constraint => encodedLength constraint.larkGrammar
  return sources.sum + compiled.plan.budgetResult.estimatedBytes + grammar

structure QwenCompileCache (δ : Type) where
  cache : Cache (QwenCompileKey δ) QwenToolWireCompilation
  hits : Nat
  misses : Nat

namespace QwenCompileCache

variable {δ π : Type} [DecidableEq δ] (digest : PyStr → δ) (libraries : QwenLibraries π)

def initial : QwenCompileCache δ := ⟨.empty, 0, 0⟩

/-- A call keeps what it has counted and stored when it fails. -/
abbrev Call (δ : Type) := EStateM CompileFailure (QwenCompileCache δ)

def pureResult {α : Type} (result : Except CompileFailure α) : Call δ α := fun state =>
  match result with
  | .ok value => .ok value state
  | .error failure => .error failure state

/-- The first visit to the cache: a hit becomes the latest entry. -/
def lookUp (key : QwenCompileKey δ) : Call δ (Option QwenToolWireCompilation) := fun state =>
  match state.cache.fetch key with
  | some (cached, cache) => .ok (some cached) { state with cache, hits := state.hits + 1 }
  | none => .ok none { state with misses := state.misses + 1 }

/-- The second visit; `popitem` on an empty cache raises. -/
def store (key : QwenCompileKey δ) (compiled : QwenToolWireCompilation) (weight : Nat) :
    Call δ Unit := fun state =>
  if weight ≤ qwenCompileCacheMaxWeightBytes then
    match state.cache.remember qwenCompileCacheLimits key compiled weight with
    | some cache => .ok () { state with cache }
    | none => .error (.raised (plain "dictionary is empty")) state
  else .ok () state

def compileAndStore (call : QwenCompileCall) (key : QwenCompileKey δ) :
    Call δ QwenToolWireCompilation := do
  let compiled ← pureResult (compileQwenToolWireUncached libraries call)
  let weight ← pureResult (qwenCompileCacheWeight call.policy compiled)
  store key compiled weight
  pure compiled

def compileQwenToolWire (call : QwenCompileCall) : Call δ QwenToolWireCompilation := do
  pureResult (demand (decide (0 < call.maxParallelCalls))
    (.raised (plain "max_parallel_calls must be a positive integer")))
  let key ← pureResult (qwenCompileCacheKey digest call)
  match key with
  | none => pureResult (compileQwenToolWireUncached libraries call)
  | some key =>
      match ← lookUp key with
      | some cached => pure cached
      | none => compileAndStore libraries call key

def after (call : QwenCompileCall) (state : QwenCompileCache δ) : QwenCompileCache δ :=
  finalState (compileQwenToolWire digest libraries call state)

def afterAll (calls : List QwenCompileCall) : QwenCompileCache δ :=
  calls.foldl (fun state call => after digest libraries call state) initial

end QwenCompileCache

/-! ## What the compilation reads -/

section Policies

variable {π : Type} (libraries : PlanLibraries π) (request : PlanRequest) (policy : ToolPolicy)

def PlanRequest.under (request : PlanRequest) (policy : ToolPolicy) : PlanRequest :=
  { request with policy }

theorem prepareTools_under (exposedCount aggregate : Nat) (envelope : HardEnvelopeBudget)
    (tools : List ExposedTool) :
    prepareTools (request.under policy) exposedCount aggregate envelope tools =
      prepareTools request exposedCount aggregate envelope tools := by
  induction tools generalizing aggregate envelope with
  | nil => rfl
  | cons tool tools induction =>
      rw [prepareTools, prepareTools]
      simp only [induction]
      rfl

theorem compileSemantics_under (envelope : HardEnvelopeBudget) (tools : List PreparedTool) :
    compileSemantics libraries (request.under policy) envelope tools =
      compileSemantics libraries request envelope tools := by
  induction tools generalizing envelope with
  | nil => rfl
  | cons prepared tools induction =>
      rw [compileSemantics, compileSemantics]
      simp only [induction]
      rfl

theorem minimalSemantics_under (exposed : List ExposedTool) :
    minimalSemantics libraries (request.under policy) exposed =
      minimalSemantics libraries request exposed := by
  rw [minimalSemantics, minimalSemantics, prepareTools_under]
  simp only [compileSemantics_under]

theorem enrichTools_under (ledger : CompileBudgetLedger) (triggers : List String)
    (tools : List (CompiledToolSemantics × Nat)) (state : Enrichment π) :
    enrichTools libraries (request.under policy) ledger triggers tools state =
      enrichTools libraries request ledger triggers tools state := by
  induction tools generalizing state with
  | nil => rfl
  | cons entry tools induction =>
      rw [enrichTools, enrichTools]
      simp only [induction]
      rfl

theorem selectWithin_under (exposed : List ExposedTool) (ledger : CompileBudgetLedger) :
    selectWithin libraries (request.under policy) exposed ledger =
      selectWithin libraries request exposed ledger := by
  have rest (ledger : CompileBudgetLedger) (triggers : Option (List String))
      (semantics : List CompiledToolSemantics) (envelope : HardEnvelopeBudget) :
      selectFrom libraries (request.under policy) ledger triggers semantics envelope =
        selectFrom libraries request ledger triggers semantics envelope := by
    rw [selectFrom, selectFrom]
    simp only [enrichTools_under]
    rfl
  rw [selectWithin, selectWithin, minimalSemantics_under]
  simp only [rest]
  rfl

variable {request policy}

theorem compileToolWirePlan_under (exposed : exposedTools policy = exposedTools request.policy)
    (parallel : policy.allowParallel = request.policy.allowParallel) :
    compileToolWirePlan libraries (request.under policy) =
      compileToolWirePlan libraries request := by
  have products : selectProducts libraries (request.under policy) =
      selectProducts libraries request := by
    rw [selectProducts, selectProducts]
    simp only [selectWithin_under]
    rw [PlanRequest.under, exposed]
    rfl
  have built : buildPlan (request.under policy) = buildPlan request := by
    funext tools disposition result fingerprint activation
    rw [buildPlan, buildPlan]
    simp only [PlanRequest.under, parallel]
  rw [compileToolWirePlan, compileToolWirePlan, products]
  have rejected : rejectedBudgetPlan (request.under policy) = rejectedBudgetPlan request := by
    funext ledger
    rw [rejectedBudgetPlan, rejectedBudgetPlan, built]
  have finish : finishPlan libraries (request.under policy) = finishPlan libraries request := by
    funext selection
    rw [finishPlan, finishPlan, rejected, built]
    rfl
  rw [rejected, finish]

end Policies

structure SameView (policy other : ToolPolicy) : Prop where
  exposed : exposedTools policy = exposedTools other
  choiceMode : policy.choice.mode = other.choice.mode
  allowParallel : policy.allowParallel = other.allowParallel

section Views

variable {π : Type} (libraries : QwenLibraries π) {call : QwenCompileCall} {policy : ToolPolicy}

theorem any_strict_exposed {policy : ToolPolicy} (every : policy.choice.mode ≠ .none)
    (unnamed : policy.choice.mode ≠ .named) :
    policy.tools.any FunctionTool.strict = (exposedTools policy).any ExposedTool.strict := by
  rw [exposedTools]
  split
  · rename_i mode
    exact absurd mode every
  · rename_i mode
    exact absurd mode unnamed
  · rw [List.any_map]
    rfl

theorem qwenExposedHasStrict_congr (same : SameView policy call.policy) :
    qwenExposedHasStrict policy (exposedTools policy) =
      qwenExposedHasStrict call.policy (exposedTools call.policy) := by
  rw [qwenExposedHasStrict, qwenExposedHasStrict, same.choiceMode]
  split
  · rfl
  · rw [same.exposed]
  · rename_i every unnamed
    rw [any_strict_exposed every unnamed, ← same.exposed]
    rw [← same.choiceMode] at every unnamed
    exact any_strict_exposed every unnamed

def QwenCompileCall.under (call : QwenCompileCall) (policy : ToolPolicy) : QwenCompileCall :=
  { call with policy }

theorem allowsParallel_under (same : SameView policy call.policy) :
    (call.under policy).allowsParallel = call.allowsParallel := by
  rw [QwenCompileCall.allowsParallel, QwenCompileCall.allowsParallel, QwenCompileCall.under,
    same.allowParallel]

theorem nonconstrained_under (same : SameView policy call.policy) :
    (call.under policy).nonconstrained = call.nonconstrained := by
  funext disposition
  rw [QwenCompileCall.nonconstrained, QwenCompileCall.nonconstrained, nonconstrainedPlan,
    nonconstrainedPlan, QwenCompileCall.under, same.allowParallel]
  rfl

theorem planLibraries_under (same : SameView policy call.policy) :
    planLibraries libraries (call.under policy) = planLibraries libraries call := by
  rw [planLibraries, planLibraries, allowsParallel_under same]
  rfl

theorem bindConstraint_under (same : SameView policy call.policy) :
    bindConstraint (call.under policy) = bindConstraint call := by
  have limit : callLimit (call.under policy) = callLimit call := by
    rw [callLimit, callLimit, allowsParallel_under same]
    rfl
  funext plan constraint fingerprint
  rw [bindConstraint, bindConstraint]
  simp only [limit]

theorem planResult_under (same : SameView policy call.policy) :
    planResult (call.under policy) = planResult call := by
  funext modes plan
  rw [planResult, planResult, parallelNarrowed, parallelNarrowed, allowsParallel_under same]

theorem compilePlan_under (same : SameView policy call.policy) :
    compilePlan libraries (call.under policy) = compilePlan libraries call := by
  funext exposed hasStrict modes envelopes
  have compiled : compileToolWirePlan (planLibraries libraries (call.under policy))
      (planRequest (call.under policy) exposed modes envelopes) =
        compileToolWirePlan (planLibraries libraries call)
          (planRequest call exposed modes envelopes) := by
    have request : planRequest (call.under policy) exposed modes envelopes =
        (planRequest call exposed modes envelopes).under policy := rfl
    rw [planLibraries_under libraries same, request]
    exact compileToolWirePlan_under _ same.exposed same.allowParallel
  have finished : finishCompilation libraries (call.under policy) =
      finishCompilation libraries call := by
    funext modes hasStrict plan finalized
    rw [finishCompilation, finishCompilation, nonconstrained_under same, planResult_under same,
      bindConstraint_under same]
  have answered : answerUnsupported (call.under policy) = answerUnsupported call := by
    funext hasStrict failure
    rw [answerUnsupported, answerUnsupported, nonconstrained_under same]
    rfl
  rw [compilePlan, compilePlan, compiled, finished, answered, nonconstrained_under same]

theorem compileQwenToolWireUncached_under (same : SameView policy call.policy) :
    compileQwenToolWireUncached libraries (call.under policy) =
      compileQwenToolWireUncached libraries call := by
  have exposed : exposedTools (call.under policy).policy = exposedTools call.policy := same.exposed
  have strict : qwenExposedHasStrict (call.under policy).policy
      (exposedTools (call.under policy).policy) =
        qwenExposedHasStrict call.policy (exposedTools call.policy) :=
    qwenExposedHasStrict_congr same
  have answered : answerUnsupported (call.under policy) = answerUnsupported call := by
    funext hasStrict failure
    rw [answerUnsupported, answerUnsupported, nonconstrained_under same]
    rfl
  have limited : hardLimitResult (call.under policy) = hardLimitResult call := by
    funext strictPresent
    rw [hardLimitResult, hardLimitResult, nonconstrained_under same]
  rw [compileQwenToolWireUncached, compileQwenToolWireUncached, compilePlan_under libraries same,
    answered, limited, nonconstrained_under same]
  dsimp only
  rw [strict, exposed]
  rfl

end Views

structure SameCall (call other : QwenCompileCall) : Prop where
  policy : SameView call.policy other.policy
  mode : call.mode = other.mode
  budget : call.budget = other.budget
  maxParallelCalls : call.maxParallelCalls = other.maxParallelCalls

theorem SameCall.uncached {π : Type} (libraries : QwenLibraries π) {call other : QwenCompileCall}
    (same : SameCall call other) :
    compileQwenToolWireUncached libraries call = compileQwenToolWireUncached libraries other := by
  have under : call = other.under call.policy := by
    cases call
    cases other
    cases same.mode
    cases same.budget
    cases same.maxParallelCalls
    rfl
  rw [under]
  exact compileQwenToolWireUncached_under libraries same.policy

/-! ## What a key decides -/

theorem JsonSchema_ext {schema other : JsonSchema}
    (same : schema.canonicalJson = other.canonicalJson) : schema = other := by
  rcases schema.parsed with ⟨_, _, read⟩
  rcases other.parsed with ⟨_, _, readOther⟩
  rw [same, readOther] at read
  cases schema
  cases other
  cases same
  cases read
  rfl

theorem budgetKey_injective : Function.Injective budgetKey := by
  intro budget other same
  cases budget
  cases other
  cases same
  rfl

section Keyed

variable {δ : Type} {digest : PyStr → δ}

def QwenCompileCall.sources (call : QwenCompileCall) : List PyStr :=
  (exposedTools call.policy).map fun tool => tool.parameters.canonicalJson

def InjectiveOn (digest : PyStr → δ) (texts : List PyStr) : Prop :=
  ∀ text ∈ texts, ∀ other ∈ texts, digest text = digest other → text = other

def toolKey (digest : PyStr → δ) (tool : ExposedTool) : PyStr × δ × Bool :=
  (tool.name, digest tool.parameters.canonicalJson, tool.strict)

theorem qwenToolKeys_eq_ok {aggregate : Nat} {tools : List ExposedTool}
    {keys : List (PyStr × δ × Bool)}
    (ended : qwenToolKeys digest aggregate tools = .ok (some keys)) :
    keys = tools.map (toolKey digest) := by
  induction tools generalizing aggregate keys with
  | nil =>
      cases ended
      rfl
  | cons tool tools induction =>
      rw [qwenToolKeys] at ended
      split at ended
      · cases ended
      · split at ended
        · cases ended
        · split at ended
          · cases ended
          · split at ended
            · cases ended
            · rcases map_eq_ok ended with ⟨rest, found, ended⟩
              rcases Option.map_eq_some_iff.mp ended with ⟨others, same, ended⟩
              rw [same] at found
              rw [← ended, induction found, List.map_cons, toolKey]

theorem toolKeys_injective {tools others : List ExposedTool} {texts : List PyStr}
    (injective : InjectiveOn digest texts)
    (inside : ∀ tool ∈ tools, tool.parameters.canonicalJson ∈ texts)
    (othersInside : ∀ tool ∈ others, tool.parameters.canonicalJson ∈ texts)
    (same : tools.map (toolKey digest) = others.map (toolKey digest)) : tools = others := by
  induction tools generalizing others with
  | nil => exact (List.map_eq_nil_iff.mp same.symm).symm
  | cons tool tools induction =>
      cases others with
      | nil => cases same
      | cons other others =>
          rw [List.map_cons, List.map_cons] at same
          rcases List.cons.inj same with ⟨heads, tails⟩
          rcases Prod.mk.inj heads with ⟨names, digests⟩
          rcases Prod.mk.inj digests with ⟨digests, strict⟩
          have texts := injective _ (inside tool List.mem_cons_self) _
            (othersInside other List.mem_cons_self) digests
          have head : tool = other := ExposedTool.ext names (JsonSchema_ext texts) strict
          have tail := induction (fun tool member => inside tool (List.mem_cons_of_mem _ member))
            (fun tool member => othersInside tool (List.mem_cons_of_mem _ member)) tails
          rw [head, tail]

theorem qwenCompileCacheKey_eq_ok {call : QwenCompileCall} {key : QwenCompileKey δ}
    (ended : qwenCompileCacheKey digest call = .ok (some key)) :
    key = ⟨call.mode, call.policy.choice.mode, call.policy.choice.name, call.policy.allowParallel,
      (exposedTools call.policy).map (toolKey digest), call.budget.map budgetKey,
      call.maxParallelCalls⟩ := by
  rw [qwenCompileCacheKey] at ended
  split at ended
  · cases ended
  · rcases map_eq_ok ended with ⟨found, keys, ended⟩
    rcases Option.map_eq_some_iff.mp ended with ⟨tools, same, ended⟩
    rw [same] at keys
    rw [← ended, qwenToolKeys_eq_ok keys]

/-- Calls under one key are the same to the compiler. -/
theorem sameCall_of_key {call other : QwenCompileCall} {key : QwenCompileKey δ}
    {texts : List PyStr} (injective : InjectiveOn digest texts) (inside : call.sources ⊆ texts)
    (otherInside : other.sources ⊆ texts) (keyed : qwenCompileCacheKey digest call = .ok (some key))
    (otherKeyed : qwenCompileCacheKey digest other = .ok (some key)) : SameCall call other := by
  have same := (qwenCompileCacheKey_eq_ok keyed).symm.trans (qwenCompileCacheKey_eq_ok otherKeyed)
  rcases QwenCompileKey.mk.inj same with ⟨mode, choiceMode, _, parallel, tools, budget, calls⟩
  constructor
  · constructor
    · apply toolKeys_injective injective _ _ tools
      · intro tool member
        exact inside (List.mem_map_of_mem member)
      · intro tool member
        exact otherInside (List.mem_map_of_mem member)
    · exact choiceMode
    · exact parallel
  · exact mode
  · exact Option.map_injective budgetKey_injective budget
  · exact calls

end Keyed

/-! ## Runs -/

namespace QwenCompileCache

variable {δ π : Type} [DecidableEq δ] {digest : PyStr → δ} {libraries : QwenLibraries π}

/-- The compilation is what one of the calls under the key compiles to, and the weight is
that of the compilation for this call. -/
def Served (digest : PyStr → δ) (libraries : QwenLibraries π) (calls : List QwenCompileCall)
    (key : QwenCompileKey δ) (compiled : QwenToolWireCompilation) (weight : Nat) : Prop :=
  ∃ call ∈ calls, qwenCompileCacheKey digest call = .ok (some key) ∧
    compileQwenToolWireUncached libraries call = .ok compiled ∧
    qwenCompileCacheWeight call.policy compiled = .ok weight

structure Kept (digest : PyStr → δ) (libraries : QwenLibraries π) (calls : List QwenCompileCall)
    (state : QwenCompileCache δ) : Prop where
  accounted : state.cache.Accounted qwenCompileCacheLimits
  served : state.cache.Holds (Served digest libraries calls)

variable {calls : List QwenCompileCall} {call : QwenCompileCall} {key : QwenCompileKey δ}

theorem Kept.append {state : QwenCompileCache δ} (kept : Kept digest libraries calls state)
    (more : List QwenCompileCall) : Kept digest libraries (calls ++ more) state := by
  constructor
  · exact kept.accounted
  · intro key compiled weight found
    rcases kept.served key compiled weight found with ⟨call, member, keyed, result⟩
    exact ⟨call, List.mem_append_left more member, keyed, result⟩

theorem kept_initial : Kept digest libraries [] (initial : QwenCompileCache δ) :=
  ⟨Cache.accounted_empty _, Cache.holds_empty _⟩

omit [DecidableEq δ] in
theorem keeps_pureResult_then {α β : Type} {invariant : QwenCompileCache δ → Prop}
    {result : Except CompileFailure α} {next : α → Call δ β}
    (there : ∀ value, result = .ok value → Keeps invariant (next value)) :
    Keeps invariant (pureResult result >>= next) := by
  intro state kept
  cases result with
  | error failure => exact kept
  | ok value => exact there value rfl state kept

omit [DecidableEq δ] in
theorem keeps_pureResult {α : Type} {invariant : QwenCompileCache δ → Prop}
    (result : Except CompileFailure α) : Keeps invariant (pureResult result : Call δ α) := by
  intro state kept
  cases result with
  | error failure => exact kept
  | ok value => exact kept

theorem keeps_lookUp (key : QwenCompileKey δ) :
    Keeps (Kept digest libraries calls) (lookUp key) := by
  intro state kept
  rw [lookUp]
  split
  · rename_i hit
    exact ⟨Cache.fetch_accounted kept.accounted hit, (kept.served.of_fetch hit).2⟩
  · exact ⟨kept.accounted, kept.served⟩

theorem keeps_store {compiled : QwenToolWireCompilation} {weight : Nat}
    (served : Served digest libraries calls key compiled weight) :
    Keeps (Kept digest libraries calls) (store key compiled weight) := by
  intro state kept
  rw [store]
  split
  · rcases Cache.remember_accounted kept.accounted key compiled weight with
      ⟨next, stored, accounted⟩
    rw [stored]
    exact ⟨accounted, kept.served.of_remember served stored⟩
  · exact kept

theorem keeps_compileQwenToolWire (member : call ∈ calls) :
    Keeps (Kept digest libraries calls) (compileQwenToolWire digest libraries call) := by
  rw [compileQwenToolWire]
  apply keeps_pureResult_then
  intro _ _
  apply keeps_pureResult_then
  intro key keyed
  cases key with
  | none => exact keeps_pureResult _
  | some key =>
      apply keeps_bind (keeps_lookUp key)
      intro cached
      cases cached with
      | some cached => exact keeps_pure cached
      | none =>
          apply keeps_pureResult_then
          intro compiled result
          apply keeps_pureResult_then
          intro weight weighed
          apply keeps_bind (keeps_store ⟨call, member, keyed, result, weighed⟩)
          intro _
          exact keeps_pure compiled

theorem kept_afterAll (calls : List QwenCompileCall) :
    Kept digest libraries calls (afterAll digest libraries calls) := by
  induction calls using List.reverseRecOn with
  | nil => exact kept_initial
  | append_singleton calls call induction =>
      rw [afterAll, List.foldl_append]
      apply keeps_compileQwenToolWire (List.mem_append_right calls List.mem_cons_self)
      exact induction.append [call]

omit [DecidableEq δ] in
theorem pureResult_eq_ok {α : Type} {result : Except CompileFailure α} {value : α}
    {state next : QwenCompileCache δ} (ended : pureResult result state = .ok value next) :
    result = .ok value ∧ next = state := by
  cases result with
  | error failure => cases ended
  | ok found =>
      cases ended
      exact ⟨rfl, rfl⟩

theorem compileAndStore_eq_ok {compiled : QwenToolWireCompilation}
    {state next : QwenCompileCache δ}
    (ended : compileAndStore libraries call key state = .ok compiled next) :
    compileQwenToolWireUncached libraries call = .ok compiled := by
  rw [compileAndStore] at ended
  rcases stage_bind_eq_ok ended with ⟨found, _, result, ended⟩
  rcases stage_bind_eq_ok ended with ⟨_, _, _, ended⟩
  rcases stage_bind_eq_ok ended with ⟨_, _, _, ended⟩
  cases ended
  exact (pureResult_eq_ok result).1

theorem compileQwenToolWire_eq_ok {texts : List PyStr} {compiled : QwenToolWireCompilation}
    {state next : QwenCompileCache δ} (injective : InjectiveOn digest texts)
    (inside : ∀ other ∈ calls, other.sources ⊆ texts) (here : call.sources ⊆ texts)
    (kept : Kept digest libraries calls state)
    (ended : compileQwenToolWire digest libraries call state = .ok compiled next) :
    compileQwenToolWireUncached libraries call = .ok compiled := by
  rw [compileQwenToolWire] at ended
  rcases stage_bind_eq_ok ended with ⟨_, _, checked, ended⟩
  rcases stage_bind_eq_ok ended with ⟨key, _, keyed, ended⟩
  rw [(pureResult_eq_ok keyed).2, (pureResult_eq_ok checked).2] at ended
  cases key with
  | none => exact (pureResult_eq_ok ended).1
  | some key =>
      rcases stage_bind_eq_ok ended with ⟨cached, between, looked, ended⟩
      cases cached with
      | none => exact compileAndStore_eq_ok ended
      | some cached =>
          cases ended
          rw [lookUp] at looked
          split at looked
          · rename_i hit
            cases looked
            rcases (kept.served.of_fetch hit).1 with ⟨_, other, member, otherKeyed, result, _⟩
            have same := sameCall_of_key injective here (inside other member)
              (pureResult_eq_ok keyed).1 otherKeyed
            rw [same.uncached]
            exact result
          · cases looked

/-! ## Main result -/

def sourcesOf (calls : List QwenCompileCall) : List PyStr := calls.flatMap QwenCompileCall.sources

/-- The cache is transparent and bounded: where the digest tells the schemas of the calls
apart, a call that returns yields what the compilation without the cache does; after every
call the recorded weight is the weight of the entries, within the limits, and every entry is
the compilation of one of the calls under its key, with its weight. -/
theorem compile_cache_transparent {δ π : Type} [DecidableEq δ] (digest : PyStr → δ)
    (libraries : QwenLibraries π) (calls : List QwenCompileCall) :
    (∀ call, InjectiveOn digest (sourcesOf (calls ++ [call])) → ∀ compiled next,
      compileQwenToolWire digest libraries call (afterAll digest libraries calls) =
        .ok compiled next →
      compileQwenToolWireUncached libraries call = .ok compiled) ∧
    (afterAll digest libraries calls).cache.Accounted qwenCompileCacheLimits ∧
    (afterAll digest libraries calls).cache.Holds (Served digest libraries calls) := by
  refine ⟨?_, (kept_afterAll calls).accounted, (kept_afterAll calls).served⟩
  intro call injective compiled next ended
  apply compileQwenToolWire_eq_ok injective _ _ (kept_afterAll calls) ended
  · intro other member text inside
    exact List.mem_flatMap.mpr ⟨other, List.mem_append_left [call] member, inside⟩
  · intro text inside
    exact List.mem_flatMap.mpr ⟨call, List.mem_append_right calls List.mem_cons_self, inside⟩

def objectDocument : JsonObject := [(py "type", .str (py "object"))]

theorem objectDocument_portable : (JsonValue.dict objectDocument).portable = true := rfl

theorem objectDocument_sorted : (JsonValue.dict objectDocument).sorted = .dict objectDocument := rfl

theorem objectDocument_undeclared : objectDocument.get? (py "$schema") = none := rfl

theorem objectDocument_local : referencesLocal (.dict objectDocument) = true := rfl

def objectSchema : JsonSchema :=
  .ofSorted objectDocument objectDocument_portable objectDocument_sorted
    objectDocument_undeclared objectDocument_local

def sampleCall (name : PyStr) (named : name.strip ≠ []) : QwenCompileCall where
  policy := .automatic [⟨name, none, objectSchema, false, named⟩] (List.nodup_singleton _)
  mode := .format
  budget := none
  maxParallelCalls := 4

theorem firstCall_named : PyStr.strip (py "f") ≠ [] := by decide

theorem otherCall_named : PyStr.strip (py "g") ≠ [] := by decide

def firstCall : QwenCompileCall := sampleCall (py "f") firstCall_named

def otherCall : QwenCompileCall := sampleCall (py "g") otherCall_named

def sampleLibraries : QwenLibraries Unit where
  argumentProof := fun _ _ _ _ _ _ _ => .error .hardComplexityExceeded
  objectSchemaProof := fun _ _ _ _ => false
  qwenResolvePropertySchema := fun _ _ _ _ => .ok .same
  buildLarkToolConstraintCandidate := fun _ _ _ _ _ => .ok ⟨⟨1, 8, 1⟩, ()⟩
  finalizeLarkToolConstraintCandidate := fun _ =>
    .ok (⟨toolOpenText, py "start: f", true, none, none, none⟩, py "0")

def answered {δ : Type} :
    EStateM.Result CompileFailure (QwenCompileCache δ) QwenToolWireCompilation →
      Option (Nat × Bool)
  | .ok compiled next => some (next.hits, compiled.constraint.isSome)
  | .error _ _ => none

theorem firstCall_again :
    answered (compileQwenToolWire id sampleLibraries firstCall
      (afterAll id sampleLibraries [firstCall, otherCall])) = some (1, true) := by
  decide +kernel

theorem compile_cache_transparent_again :
    ∃ compiled next,
      compileQwenToolWire id sampleLibraries firstCall
        (afterAll id sampleLibraries [firstCall, otherCall]) = .ok compiled next ∧
      next.hits = 1 ∧ compiled.constraint.isSome = true ∧
      compileQwenToolWireUncached sampleLibraries firstCall = .ok compiled := by
  have whole := compile_cache_transparent id sampleLibraries [firstCall, otherCall]
  have again := firstCall_again
  cases ended : compileQwenToolWire id sampleLibraries firstCall
      (afterAll id sampleLibraries [firstCall, otherCall]) with
  | error failure next =>
      rw [ended] at again
      cases again
  | ok compiled next =>
      rw [ended] at again
      rcases Prod.mk.inj (Option.some.inj again) with ⟨hits, constrained⟩
      have same := whole.1 firstCall (fun _ _ _ _ same => same) compiled next ended
      exact ⟨compiled, next, rfl, hits, constrained, same⟩

end QwenCompileCache

end ExQServe.ToolWire
