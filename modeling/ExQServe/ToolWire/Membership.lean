import ExQServe.Foundation.Dict
import ExQServe.ToolWire.QwenSpec
import ExQServe.ToolWire.Engine

/-! # Membership in the compiled language

What `validate_decoded_sequence_membership` of `tool_wire/engine.py` accepts on a wire that
permits any order, and the order plans of `tool_wire/compiler.py`. A call is sorted by the
first order of its branch, so the orders of a branch have to be rearrangements of it. -/

namespace ExQServe.ToolWire

/-! ## One order -/

/-- A declared order is matched by its names in their order, with all that are not optional. -/
theorem acceptsOrder_iff {optionalNames order names : List PyStr} (distinct : order.Nodup) :
    ArgumentOrderPlan.acceptsOrder optionalNames order names = true ↔
      names.Sublist order ∧ ∀ name ∈ order, name ∉ optionalNames → name ∈ names := by
  induction order generalizing names with
  | nil =>
      rw [ArgumentOrderPlan.acceptsOrder, List.isEmpty_iff, List.sublist_nil]
      simp
  | cons head order induction =>
      have fresh : head ∉ order := (List.nodup_cons.mp distinct).1
      have inner {names : List PyStr} :=
        @induction names (List.nodup_cons.mp distinct).2
      rw [ArgumentOrderPlan.acceptsOrder]
      by_cases takes : names.head? = some head
      · rcases List.head?_eq_some_iff.mp takes with ⟨rest, rfl⟩
        rw [if_pos takes, List.tail_cons, inner, List.cons_sublist_cons]
        apply and_congr_right
        intro _
        constructor
        · intro covers name member required
          rcases List.mem_cons.mp member with rfl | member
          · exact List.mem_cons_self
          · exact List.mem_cons_of_mem _ (covers name member required)
        · intro covers name member required
          rcases List.mem_cons.mp (covers name (List.mem_cons_of_mem _ member) required) with
            same | found
          · exact absurd (same ▸ member) fresh
          · exact found
      · rw [if_neg takes]
        have skips : names.Sublist (head :: order) ↔ names.Sublist order := by
          cases names with
          | nil => simp
          | cons first rest =>
              constructor
              · intro whole
                cases whole with
                | cons _ inside => exact inside
                | cons_cons _ inside => exact absurd rfl takes
              · exact List.Sublist.cons head
        rw [skips]
        by_cases optional : optionalNames.contains head = true
        · rw [if_pos optional, inner]
          apply and_congr_right
          intro _
          constructor
          · intro covers name member required
            rcases List.mem_cons.mp member with rfl | member
            · exact absurd (List.contains_iff_mem.mp optional) required
            · exact covers name member required
          · intro covers name member required
            exact covers name (List.mem_cons_of_mem _ member) required
        · rw [if_neg optional]
          constructor
          · intro impossible
            cases impossible
          · intro accepted
            have required : head ∉ optionalNames := mt List.contains_iff_mem.mpr optional
            have found := accepted.2 head List.mem_cons_self required
            exact absurd (accepted.1.subset found) fresh

/-! ## Positions -/

theorem orderPosition_concat (order : List PyStr) (last name : PyStr) :
    orderPosition (order ++ [last]) name =
      if last = name then order.length + 1 else orderPosition order name := by
  unfold orderPosition
  rw [List.reverse_append, List.reverse_singleton, List.singleton_append, List.findIdx?_cons,
    List.length_append, List.length_singleton]
  by_cases same : last = name
  · simp [same]
  · simp only [same, decide_false, Bool.false_eq_true, if_false]
    cases order.reverse.findIdx? (· = name) with
    | none => rfl
    | some distance =>
        simp only [Option.map_some]
        omega

theorem orderPosition_le (order : List PyStr) (name : PyStr) :
    orderPosition order name ≤ order.length := by
  unfold orderPosition
  split
  · exact Nat.zero_le _
  · exact Nat.sub_le _ _

def Ascending (first order : List PyStr) : Prop :=
  order.Pairwise fun left right => orderPosition first left < orderPosition first right

theorem ascending_self {order : List PyStr} (distinct : order.Nodup) : Ascending order order := by
  induction order using List.reverseRecOn with
  | nil => exact .nil
  | append_singleton order last induction =>
      have parts := List.nodup_append.mp distinct
      have earlier {name : PyStr} (member : name ∈ order) :
          orderPosition (order ++ [last]) name = orderPosition order name := by
        rw [orderPosition_concat, if_neg]
        exact fun same => parts.2.2 name member last (List.mem_singleton_self last) same.symm
      rw [Ascending, List.pairwise_append]
      refine ⟨?_, List.pairwise_singleton _ _, ?_⟩
      · apply (induction parts.1).imp_of_mem
        intro left right here there before
        rw [earlier here, earlier there]
        exact before
      · intro left here right there
        cases List.mem_singleton.mp there
        rw [earlier here, orderPosition_concat, if_pos rfl]
        exact Nat.lt_succ_of_le (orderPosition_le order left)

theorem Ascending.injective {first order : List PyStr} (ascending : Ascending first order) :
    (order.map (orderPosition first)).Nodup := by
  apply List.Pairwise.imp (fun before => Nat.ne_of_lt before)
  exact List.pairwise_map.mpr ascending

theorem Ascending.nodup {first order : List PyStr} (ascending : Ascending first order) :
    order.Nodup :=
  ascending.injective.of_map _

section Sorting

variable (order : List PyStr)

instance : Std.Total fun left right => orderPosition order left ≤ orderPosition order right :=
  ⟨fun left right => Nat.le_total (orderPosition order left) (orderPosition order right)⟩

instance : IsTrans PyStr fun left right =>
    orderPosition order left ≤ orderPosition order right :=
  ⟨fun _ _ _ => Nat.le_trans⟩

theorem sortByOrder_perm (names : List PyStr) : (sortByOrder order names).Perm names :=
  List.perm_insertionSort _ _

/-- Distinct names of an ascending order are sorted into the order. -/
theorem sortByOrder_eq {first order names : List PyStr} (ascending : Ascending first order)
    (unique : names.Nodup) (known : ∀ name ∈ names, name ∈ order) :
    sortByOrder first names = order.filter fun name => name ∈ names := by
  have same : (sortByOrder first names).Perm (order.filter fun name => name ∈ names) := by
    refine (sortByOrder_perm first names).trans ?_
    rw [List.perm_ext_iff_of_nodup unique (ascending.nodup.filter _)]
    intro name
    rw [List.mem_filter, decide_eq_true_iff]
    exact ⟨fun member => ⟨known name member, member⟩, fun member => member.2⟩
  have sorted : order.Pairwise fun left right =>
      orderPosition first left ≤ orderPosition first right :=
    List.Pairwise.imp (fun before => Nat.le_of_lt before) ascending
  apply same.eq_of_pairwise _ (List.pairwise_insertionSort _ _) (sorted.filter _)
  intro left right here there before after
  have here := known left ((sortByOrder_perm first names).mem_iff.mp here)
  exact List.inj_on_of_nodup_map ascending.injective here (List.mem_filter.mp there).1
    (Nat.le_antisymm before after)

end Sorting

/-! ## The orders of a branch -/

/-- The names of every order stand in one of the orders as the first order sorts them. -/
def ArgumentOrderPlan.Sortable (plan : ArgumentOrderPlan) : Prop :=
  ∀ order ∈ plan.orders, ∃ ascending ∈ plan.orders,
    ascending.Perm order ∧ Ascending plan.firstOrder ascending

/-- The names are distinct, cover one of the orders and stay inside it. -/
def ArgumentOrderPlan.Covers (plan : ArgumentOrderPlan) (names : List PyStr) : Prop :=
  names.Nodup ∧ ∃ order ∈ plan.orders,
    (∀ name ∈ order, name ∉ plan.optionalNames → name ∈ names) ∧ ∀ name ∈ names, name ∈ order

theorem ArgumentOrderPlan.Covers.perm {plan : ArgumentOrderPlan} {names other : List PyStr}
    (covers : plan.Covers names) (same : names.Perm other) : plan.Covers other := by
  rcases covers with ⟨unique, order, member, required, known⟩
  refine ⟨same.nodup_iff.mp unique, order, member, ?_, ?_⟩
  · intro name present must
    exact same.mem_iff.mp (required name present must)
  · intro name present
    exact known name (same.mem_iff.mpr present)

/-- Sorted by the first order, a call is accepted exactly where it covers an order. -/
theorem accepts_sorted_iff {plan : ArgumentOrderPlan} (sortable : plan.Sortable)
    (names : List PyStr) :
    plan.accepts (sortByOrder plan.firstOrder names) = true ↔ plan.Covers names := by
  have sorted := sortByOrder_perm plan.firstOrder names
  have distinct {order : List PyStr} (member : order ∈ plan.orders) : order.Nodup := by
    rcases sortable order member with ⟨ascending, _, same, rises⟩
    exact same.nodup_iff.mp rises.nodup
  rw [ArgumentOrderPlan.accepts, List.any_eq_true]
  constructor
  · intro accepted
    rcases accepted with ⟨order, member, accepted⟩
    rcases (acceptsOrder_iff (distinct member)).mp accepted with ⟨inside, covers⟩
    have covered : plan.Covers (sortByOrder plan.firstOrder names) :=
      ⟨inside.nodup (distinct member), order, member, covers, fun _ => (inside.subset ·)⟩
    exact covered.perm sorted
  · intro covered
    rcases covered with ⟨unique, order, member, covers, known⟩
    rcases sortable order member with ⟨ascending, present, same, rises⟩
    refine ⟨ascending, present, (acceptsOrder_iff rises.nodup).mpr ⟨?_, ?_⟩⟩
    · rw [sortByOrder_eq rises unique fun name inside => same.mem_iff.mpr (known name inside)]
      exact List.filter_sublist
    · intro name inside required
      exact sorted.mem_iff.mpr (covers name (same.mem_iff.mp inside) required)

/-! ## The orders of the compiler -/

structure PreparedOrderState where
  presentationOrder : List PyStr
  required : List PyStr
  optional : List PyStr

def prepareOrders (presentationOrder requiredNames : List PyStr) : PreparedOrderState where
  presentationOrder := presentationOrder
  required := presentationOrder.filter fun name => requiredNames.contains name
  optional := presentationOrder.filter fun name => !requiredNames.contains name

def orderCount (narrowed : Bool) : Option Nat := if narrowed then none else some 1

def minimalOrderPlan (prepared : PreparedOrderState) (ordering : ArgumentOrderingMode) :
    ArgumentOrderPlan :=
  let narrowed := !prepared.optional.isEmpty ||
    (decide (ordering = .permutable) && decide (1 < prepared.required.length))
  { orders := [prepared.required]
    fullOrderCount := orderCount narrowed
    narrowed
    optionalNames := []
    ordersNonempty := List.cons_ne_nil _ _
    optionalDeclared := by simp }

/-- One compact declared order; optional parameters do not require subset enumeration. -/
def declaredOrderPlan (presentationOrder requiredNames : List PyStr)
    (ordering : ArgumentOrderingMode) : ArgumentOrderPlan :=
  let prepared := prepareOrders presentationOrder requiredNames
  let narrowed := decide (ordering = .permutable) && decide (1 < presentationOrder.length)
  { orders := [prepared.presentationOrder]
    fullOrderCount := orderCount narrowed
    narrowed
    optionalNames := prepared.optional
    ordersNonempty := List.cons_ne_nil _ _
    optionalDeclared := by
      intro name optional
      exact ⟨presentationOrder, List.mem_singleton_self _, List.mem_of_mem_filter optional⟩ }

theorem sortable_of_single {plan : ArgumentOrderPlan} {order : List PyStr}
    (single : plan.orders = [order]) (distinct : order.Nodup) : plan.Sortable := by
  have first : plan.firstOrder = order := by simp [ArgumentOrderPlan.firstOrder, single]
  intro other member
  rw [single] at member
  cases List.mem_singleton.mp member
  refine ⟨order, single ▸ List.mem_singleton_self order, .refl order, ?_⟩
  rw [first]
  exact ascending_self distinct

/-- Both plans the compiler selects from a presentation order are sortable. -/
theorem compiled_orders_sortable {presentationOrder : List PyStr} (requiredNames : List PyStr)
    (ordering : ArgumentOrderingMode) (distinct : presentationOrder.Nodup) :
    (minimalOrderPlan (prepareOrders presentationOrder requiredNames) ordering).Sortable ∧
      (declaredOrderPlan presentationOrder requiredNames ordering).Sortable :=
  ⟨sortable_of_single rfl (distinct.filter _), sortable_of_single rfl distinct⟩

/-! ## The sequence -/

def OccurrenceAdmitted (arguments : List ArgumentBranchPlan)
    (occurrence : WireArgumentOccurrence) : Prop :=
  ∃ argument ∈ arguments, argument.name = occurrence.name ∧ argument.generated = true ∧
    occurrence.framingVariantId = argument.framingVariantId ∧
    ∀ payloads, argument.admittedWirePayloads = some payloads →
      ∃ value ∈ payloads, parseJsonStrict occurrence.canonicalValueJson = some (.str value)

def CallAdmitted (plan : CompiledToolWirePlan) (call : WireToolCall) : Prop :=
  ∃ branch ∈ plan.tools, branch.toolName = call.name ∧ branch.representable = true ∧
    branch.orderPlan.Covers (call.occurrences.map WireArgumentOccurrence.name) ∧
    ∀ occurrence ∈ call.occurrences, OccurrenceAdmitted branch.arguments occurrence

def SequenceAdmitted (plan : CompiledToolWirePlan) (sequence : WireToolSequence) : Prop :=
  (plan.allowParallel = false → sequence.calls.length ≤ 1) ∧
    (∀ limit, plan.maxCallsPerSequence = some limit → sequence.calls.length ≤ limit) ∧
    ∀ call ∈ sequence.calls, CallAdmitted plan call

def SameUpToOrder (left right : WireToolCall) : Prop :=
  left.name = right.name ∧ left.occurrences.Perm right.occurrences

theorem occurrenceIssues_eq_nil {arguments : List ArgumentBranchPlan}
    (unique : (arguments.map ArgumentBranchPlan.name).Nodup)
    (occurrence : WireArgumentOccurrence) :
    occurrenceIssues arguments occurrence = [] ↔ OccurrenceAdmitted arguments occurrence := by
  have named {argument : ArgumentBranchPlan} :=
    @find?_name _ _ _ ArgumentBranchPlan.name arguments unique occurrence.name argument
  rw [occurrenceIssues]
  cases found : (arguments.find? (·.name = occurrence.name)).filter (·.generated) with
  | none =>
      apply iff_of_false (List.cons_ne_nil _ _)
      intro admitted
      rcases admitted with ⟨argument, member, same, generated, _⟩
      rw [named.mpr ⟨member, same⟩] at found
      simp [generated] at found
  | some argument =>
      rcases Option.filter_eq_some_iff.mp found with ⟨found, generated⟩
      have only : OccurrenceAdmitted arguments occurrence ↔
          occurrence.framingVariantId = argument.framingVariantId ∧
            ∀ payloads, argument.admittedWirePayloads = some payloads →
              ∃ value ∈ payloads,
                parseJsonStrict occurrence.canonicalValueJson = some (.str value) := by
        constructor
        · intro admitted
          rcases admitted with ⟨other, member, same, _, rest⟩
          cases found.symm.trans (named.mpr ⟨member, same⟩)
          exact rest
        · intro rest
          exact ⟨argument, (named.mp found).1, (named.mp found).2, generated, rest⟩
      rw [only]
      dsimp only
      rw [List.append_eq_nil_iff]
      apply and_congr
      · by_cases framed : occurrence.framingVariantId = argument.framingVariantId
        · simp [framed]
        · simp [framed]
      · cases argument.admittedWirePayloads with
        | none => simp
        | some payloads =>
            cases parseJsonStrict occurrence.canonicalValueJson with
            | none => simp
            | some parsed => cases parsed <;> simp

theorem callIssues_eq_nil {spec : ToolWireSpec} {plan : CompiledToolWirePlan}
    (permutable : spec.ordering = .permutable)
    (sortable : ∀ branch ∈ plan.tools, branch.orderPlan.Sortable) (call : WireToolCall) :
    callIssues spec plan call = [] ↔ CallAdmitted plan call := by
  have named {branch : ToolBranchPlan} :=
    @find?_name _ _ _ ToolBranchPlan.toolName plan.tools plan.toolNamesUnique call.name branch
  rw [callIssues, CompiledToolWirePlan.tool]
  cases found : plan.tools.find? (·.toolName = call.name) with
  | none =>
      apply iff_of_false (List.cons_ne_nil _ _)
      intro admitted
      rcases admitted with ⟨branch, member, same, _⟩
      rw [named.mpr ⟨member, same⟩] at found
      cases found
  | some branch =>
      have only : CallAdmitted plan call ↔ branch.representable = true ∧
          branch.orderPlan.Covers (call.occurrences.map WireArgumentOccurrence.name) ∧
            ∀ occurrence ∈ call.occurrences, OccurrenceAdmitted branch.arguments occurrence := by
        constructor
        · intro admitted
          rcases admitted with ⟨other, member, same, rest⟩
          cases found.symm.trans (named.mpr ⟨member, same⟩)
          exact rest
        · intro rest
          exact ⟨branch, (named.mp found).1, (named.mp found).2, rest⟩
      rw [only]
      dsimp only
      cases branch.representable with
      | false => simp
      | true =>
          rw [if_neg (by simp), if_pos permutable, List.append_eq_nil_iff,
            List.flatMap_eq_nil_iff, eq_self, true_and]
          apply and_congr
          · rw [← accepts_sorted_iff (sortable branch (named.mp found).1)]
            simp
          · apply forall₂_congr
            intro occurrence _
            exact occurrenceIssues_eq_nil branch.argumentNamesUnique occurrence

theorem validateDecodedSequenceMembership_eq_nil {spec : ToolWireSpec}
    {plan : CompiledToolWirePlan} (permutable : spec.ordering = .permutable)
    (sortable : ∀ branch ∈ plan.tools, branch.orderPlan.Sortable)
    (sequence : WireToolSequence) :
    validateDecodedSequenceMembership spec plan sequence = [] ↔
      SequenceAdmitted plan sequence := by
  rw [validateDecodedSequenceMembership, SequenceAdmitted, List.append_eq_nil_iff,
    List.append_eq_nil_iff, List.flatMap_eq_nil_iff, and_assoc]
  apply and_congr
  · cases plan.allowParallel with
    | true => simp
    | false => simp
  apply and_congr
  · cases plan.maxCallsPerSequence with
    | none => simp
    | some limit => simp
  · apply forall₂_congr
    intro call _
    exact callIssues_eq_nil permutable sortable call

theorem CallAdmitted.reordered {plan : CompiledToolWirePlan} {left right : WireToolCall}
    (admitted : CallAdmitted plan left) (same : SameUpToOrder left right) :
    CallAdmitted plan right := by
  rcases admitted with ⟨branch, member, named, representable, covers, each⟩
  refine ⟨branch, member, named.trans same.1, representable, covers.perm (same.2.map _), ?_⟩
  intro occurrence present
  exact each occurrence (same.2.mem_iff.mpr present)

theorem SameUpToOrder.symm {left right : WireToolCall} (same : SameUpToOrder left right) :
    SameUpToOrder right left :=
  ⟨same.1.symm, same.2.symm⟩

theorem CallAdmitted.all_reordered {plan : CompiledToolWirePlan} {left right : List WireToolCall}
    (same : List.Forall₂ SameUpToOrder left right)
    (each : ∀ call ∈ left, CallAdmitted plan call) : ∀ call ∈ right, CallAdmitted plan call := by
  induction same with
  | nil => exact each
  | cons head _ induction =>
      rcases List.forall_mem_cons.mp each with ⟨first, rest⟩
      exact List.forall_mem_cons.mpr ⟨first.reordered head, induction rest⟩

theorem SequenceAdmitted.reordered {plan : CompiledToolWirePlan} {left right : WireToolSequence}
    (admitted : SequenceAdmitted plan left)
    (same : List.Forall₂ SameUpToOrder left.calls right.calls) :
    SequenceAdmitted plan right := by
  rcases admitted with ⟨alone, bounded, each⟩
  rw [SequenceAdmitted, ← same.length_eq]
  exact ⟨alone, bounded, CallAdmitted.all_reordered same each⟩

/-- On a wire that permits any order, membership is the compiled language up to the order of
each call's arguments. -/
theorem membership_iff {spec : ToolWireSpec} {plan : CompiledToolWirePlan}
    (permutable : spec.ordering = .permutable)
    (sortable : ∀ branch ∈ plan.tools, branch.orderPlan.Sortable) (sequence : WireToolSequence) :
    (validateDecodedSequenceMembership spec plan sequence = [] ↔
        SequenceAdmitted plan sequence) ∧
      ∀ reordered : WireToolSequence,
        List.Forall₂ SameUpToOrder sequence.calls reordered.calls →
          (validateDecodedSequenceMembership spec plan reordered = [] ↔
            validateDecodedSequenceMembership spec plan sequence = []) := by
  have exact := validateDecodedSequenceMembership_eq_nil permutable sortable
  refine ⟨exact sequence, ?_⟩
  intro reordered same
  rw [exact reordered, exact sequence]
  constructor
  · intro admitted
    have back : List.Forall₂ SameUpToOrder reordered.calls sequence.calls :=
      (same.imp fun _ _ forth => forth.symm).flip
    exact admitted.reordered back
  · intro admitted
    exact admitted.reordered same

theorem plainArgument_wire : false = true → false = true := id

def plainArgument (name : PyStr) (nonempty : name ≠ []) : ArgumentBranchPlan where
  name := name
  required := false
  wireRequired := false
  generated := true
  schemaJson := py "\x7b\x7d"
  generationSchemaJson := none
  presentationIndex := 0
  framingVariantId := some qwenRawString
  valueMode := .anySafeRaw
  admittedWirePayloads := none
  guarantee := .format
  nameNonempty := nonempty
  requiredOnWire := plainArgument_wire
  generationSchemaIff := by simp
  payloadsFinite := by simp
  guaranteeIff := by simp

def pairPlan (orderPlan : ArgumentOrderPlan) : CompiledToolWirePlan where
  specFingerprint := qwenProductionToolWireSpec
  allowParallel := false
  tools := [{
    toolName := py "f"
    strict := false
    representable := true
    arguments := [plainArgument (py "b") (by decide), plainArgument (py "c") (by decide)]
    orderPlan
    guarantee := .format
    nameNonempty := by decide
    argumentNamesUnique := by decide }]
  disposition := .constrainedExecutable
  maxCallsPerSequence := none
  maxCallsPositive := by simp
  toolNamesUnique := List.nodup_singleton _

def pairCall (first second : String) : WireToolSequence :=
  ⟨[⟨py "f", 0, [⟨py first, py "1", some qwenRawString⟩, ⟨py second, py "1", some qwenRawString⟩]⟩]⟩

theorem membership_iff_pair :
    let plan := pairPlan (declaredOrderPlan [py "b", py "c"] [] .permutable)
    (validateDecodedSequenceMembership qwenProductionToolWireSpec plan (pairCall "b" "c") = [] ↔
        SequenceAdmitted plan (pairCall "b" "c")) ∧
      (validateDecodedSequenceMembership qwenProductionToolWireSpec plan (pairCall "c" "b") = [] ↔
        validateDecodedSequenceMembership qwenProductionToolWireSpec plan
          (pairCall "b" "c") = []) := by
  intro plan
  have sortable : ∀ branch ∈ plan.tools, branch.orderPlan.Sortable := by
    intro branch member
    cases List.mem_singleton.mp member
    exact (compiled_orders_sortable [] .permutable (by decide)).2
  have general := @membership_iff qwenProductionToolWireSpec plan rfl sortable
    (pairCall "b" "c")
  have swapped : List.Forall₂ SameUpToOrder (pairCall "b" "c").calls (pairCall "c" "b").calls :=
    .cons ⟨rfl, .swap _ _ _⟩ .nil
  exact ⟨general.1, general.2 _ swapped⟩

def foreignOrders : ArgumentOrderPlan where
  orders := [[py "a"], [py "b", py "c"]]
  fullOrderCount := none
  narrowed := true
  optionalNames := []
  ordersNonempty := List.cons_ne_nil _ _
  optionalDeclared := by simp

/-- Sorted by an order that does not name them, two arguments keep the order of the call. -/
theorem foreign_order_reordering_refused :
    SequenceAdmitted (pairPlan foreignOrders) (pairCall "c" "b") ∧
      validateDecodedSequenceMembership qwenProductionToolWireSpec (pairPlan foreignOrders)
        (pairCall "c" "b") ≠ [] := by
  constructor
  · refine ⟨by decide, by simp [pairPlan], ?_⟩
    intro call present
    cases List.mem_singleton.mp present
    refine ⟨_, List.mem_singleton_self _, rfl, rfl, ⟨by decide, [py "b", py "c"], by decide,
      by decide, by decide⟩, ?_⟩
    intro occurrence present
    rcases List.mem_pair.mp present with rfl | rfl
    · exact ⟨plainArgument (py "c") (by decide), by simp, rfl, rfl, rfl, by simp [plainArgument]⟩
    · exact ⟨plainArgument (py "b") (by decide), by simp, rfl, rfl, rfl, by simp [plainArgument]⟩
  · decide

end ExQServe.ToolWire
