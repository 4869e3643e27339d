import ExQServe.Foundation.Stream
import ExQServe.ToolWire.Engine

/-! # Bounds of the Tool-wire parser

Every function of the parser moves its cursor forward and stays inside the
source; an issue's offset lies inside the source or at its end; and no loop of
the parser meets the bound on its turns. -/

namespace ExQServe.ToolWire

open ExQServe.Search ExQServe.Stream

def EngineFailure.Within (length : Nat) : EngineFailure → Prop
  | .malformed _ _ offset => offset ≤ length
  | .fuelExhausted => False
  | .needMore | .keyError _ => True

/-- The result stops between `low` and the end of the source. -/
def Advances (source : PyStr) (low : Nat) (stop : α → Nat) : EngineResult α → Prop :=
  Outcome (EngineFailure.Within source.length)
    fun value => low ≤ stop value ∧ stop value ≤ source.length

namespace Advances

variable {source : PyStr} {low : Nat}

theorem bind {stop : α → Nat} {stop' : β → Nat} {low' : Nat} {result : EngineResult α}
    {next : α → EngineResult β} (first : Advances source low stop result)
    (second : ∀ value, result = .ok value → low ≤ stop value → stop value ≤ source.length →
      Advances source low' stop' (next value)) :
    Advances source low' stop' (result >>= next) :=
  Outcome.bind first fun value equal bounds => second value equal bounds.1 bounds.2

theorem weaken {stop : α → Nat} {low' : Nat} {result : EngineResult α}
    (advances : Advances source low stop result) (lower : low' ≤ low) :
    Advances source low' stop result := by
  cases result with
  | error failure => exact advances
  | ok value => exact ⟨lower.trans advances.1, advances.2⟩

theorem ok {stop : α → Nat} {value : α} (lower : low ≤ stop value)
    (upper : stop value ≤ source.length) : Advances source low stop (.ok value) :=
  ⟨lower, upper⟩

theorem malformed {stop : α → Nat} {code : String} {message : Message} {offset : Nat}
    (within : offset ≤ source.length) :
    Advances source low stop (.error (.malformed code message offset)) := within

theorem needMore {stop : α → Nat} :
    Advances source low stop (.error .needMore : EngineResult α) := trivial

end Advances

/-! ## Terminals -/

variable {source : PyStr} {cursor : Nat}

theorem le_skipStructuralWs : cursor ≤ skipStructuralWs source cursor := Nat.le_add_right _ _

theorem skipStructuralWs_le (inside : cursor ≤ source.length) :
    skipStructuralWs source cursor ≤ source.length := by
  have skipped := ((List.takeWhile_sublist isStructuralWs).trans
    (List.take_sublist structuralWsMax (source.drop cursor))).length_le
  rw [List.length_drop] at skipped
  unfold skipStructuralWs
  omega

theorem expectLiteral_advances (inside : cursor ≤ source.length) (literal : PyStr)
    (code : String) :
    Advances source (cursor + literal.length) id
      (expectLiteral source cursor literal code) := by
  unfold expectLiteral
  simp only
  split
  · rename_i found
    have bound := found.length_le
    rw [List.length_drop] at bound
    exact .ok (Nat.le_refl _) (by simp only [id_eq]; omega)
  · split
    · exact .needMore
    · exact .malformed inside

theorem longestLength_le {texts : List PyStr} {bound : Nat}
    (each : ∀ text ∈ texts, text.length ≤ bound) : longestLength texts ≤ bound := by
  unfold longestLength
  induction texts with
  | nil => exact Nat.zero_le _
  | cons text texts induction =>
      rw [List.map_cons, List.foldr_cons]
      exact Nat.max_le.mpr ⟨each text (by simp),
        induction fun other member => each other (by simp [member])⟩

theorem longestPrefix_le (forms : List PyStr) (text : PyStr) :
    longestLength (forms.filter fun form => form <+: text) ≤ text.length :=
  longestLength_le fun form member => by
    have found : form <+: text := by simpa using (List.mem_filter.mp member).2
    exact found.length_le

theorem matchClose_advances (forms : List PyStr) (eos : Bool)
    (inside : cursor ≤ source.length) :
    Advances source cursor (·.getD cursor) (matchClose source cursor forms eos) := by
  unfold matchClose
  simp only
  split
  · split
    · exact .needMore
    · have upper := longestPrefix_le forms (source.drop cursor)
      rw [List.length_drop] at upper
      refine .ok (Nat.le_add_right _ _) ?_
      exact (Nat.add_le_add_left upper cursor).trans (by omega)
  · split
    · exact .needMore
    · exact .ok (Nat.le_refl _) inside

theorem parseNamed_advances (terminal : NamedTerminal) (code : String)
    (inside : cursor ≤ source.length) :
    Advances source (cursor + 1) NamedMatch.stop (parseNamed source cursor terminal code) := by
  unfold parseNamed
  refine (expectLiteral_advances inside terminal.prefixText code).bind ?_
  intro nameStart _ lower upper
  have positive := List.length_pos_iff.mpr terminal.prefixNonempty
  simp only [id_eq] at lower upper
  cases found : findFrom terminal.nameTerminator source nameStart with
  | none => exact .needMore
  | some nameEnd =>
      have facts := findFrom_eq_some found
      have stop := facts.2.1.end_le terminal.terminatorNonempty
      simp only
      split
      · exact .malformed upper
      · split
        · exact .ok (by simp only; omega) stop
        · refine (expectLiteral_advances stop terminal.suffixRemainder code).bind ?_
          intro suffixEnd _ lower' upper'
          simp only [id_eq] at lower' upper'
          exact .ok (by simp only; omega) upper'

theorem matchVariants_bounds (inside : cursor ≤ source.length)
    (variants : List ArgumentFramingVariant) :
    ∀ found ∈ (matchVariants source cursor variants).1,
      cursor + 1 ≤ found.2.stop ∧ found.2.stop ≤ source.length := by
  induction variants with
  | nil => simp [matchVariants]
  | cons variant variants induction =>
      unfold matchVariants
      have named := parseNamed_advances variant.argumentOpen argumentOpenMalformed inside
      intro found member
      revert member
      cases result : parseNamed source cursor variant.argumentOpen argumentOpenMalformed with
      | ok value =>
          rw [result] at named
          intro member
          rcases List.mem_cons.mp member with rfl | member
          · exact named
          · exact induction found member
      | error failure => cases failure <;> exact induction found

theorem parseVariantNamedTerminal_advances (inside : cursor ≤ source.length)
    (variants : List ArgumentFramingVariant) :
    Advances source (cursor + 1) (·.2.stop)
      (parseVariantNamedTerminal source cursor variants) := by
  have bounds := matchVariants_bounds inside variants
  unfold parseVariantNamedTerminal
  cases matched : (matchVariants source cursor variants).1 with
  | nil =>
      simp only [matched]
      split
      · exact .needMore
      · exact .malformed inside
  | cons first others =>
      simp only [matched]
      split
      · exact .malformed inside
      · split
        · exact .needMore
        · exact bounds first (by simp [matched])

/-! ## Values -/

theorem scanQuoted_advances (text : PyStr) :
    ∀ (escaped : Bool) (position : Nat), position + text.length = source.length →
      Advances source position id (scanQuoted text escaped position) := by
  induction text with
  | nil => exact fun _ _ _ => .needMore
  | cons char rest induction =>
      intro escaped position whole
      rw [List.length_cons] at whole
      have later := fun escaped => (induction escaped (position + 1) (by omega)).weaken
        (Nat.le_succ position)
      unfold scanQuoted
      split
      · exact later false
      · split
        · exact later true
        · split
          · exact .ok (Nat.le_succ position) (by simp only [id_eq]; omega)
          · exact later false

theorem scanContainer_advances (text : PyStr) :
    ∀ (state : ContainerState) (position : Nat), position + text.length = source.length →
      Advances source position id (scanContainer text state position) := by
  induction text with
  | nil => exact fun _ _ _ => .needMore
  | cons char rest induction =>
      intro state position whole
      rw [List.length_cons] at whole
      have later := fun state => (induction state (position + 1) (by omega)).weaken
        (Nat.le_succ position)
      have mismatch : Advances source position id
          (.error (mismatchedClose position) : EngineResult Nat) := .malformed (by omega)
      rcases state with ⟨stack, inString, escaped⟩
      unfold scanContainer
      cases inString with
      | true =>
          simp only [if_true]
          repeat' split
          all_goals exact later _
      | false =>
          simp only [Bool.false_eq_true, if_false]
          split
          · exact later _
          · split
            · exact later _
            · split
              · cases stack with
                | nil => exact mismatch
                | cons innermost outer =>
                    simp only
                    repeat' split
                    all_goals first
                      | exact mismatch
                      | exact later _
                      | exact .ok (Nat.le_succ position) (by simp only [id_eq]; omega)
              · exact later _

theorem matchJsonName_advances (remaining : PyStr) (literals : List PyStr) :
    match matchJsonName remaining literals with
    | .ok (some length) => length ≤ remaining.length
    | .ok none => True
    | .error failure => failure = .needMore := by
  induction literals with
  | nil => trivial
  | cons literal literals induction =>
      unfold matchJsonName
      by_cases found : literal <+: remaining
      · rw [if_pos found]
        exact found.length_le
      · rw [if_neg found]
        by_cases partial_ : remaining <+: literal
        · rw [if_pos partial_]
        · rw [if_neg partial_]
          exact induction

theorem jsonValueEnd_advances {start : Nat} (inside : start ≤ source.length) :
    Advances source start id (jsonValueEnd source start) := by
  unfold jsonValueEnd
  cases text : source.drop start with
  | nil => exact .needMore
  | cons first rest =>
      have length : start + (rest.length + 1) = source.length := by
        have dropped := congrArg List.length text
        rw [List.length_drop, List.length_cons] at dropped
        omega
      have quoted : Advances source (start + 1) id (scanQuoted rest false (start + 1)) :=
        scanQuoted_advances rest false (start + 1) (by omega)
      have container : Advances source (start + 1) id
          (scanContainer rest ⟨[first], false, false⟩ (start + 1)) :=
        scanContainer_advances rest _ (start + 1) (by omega)
      have name := matchJsonName_advances (first :: rest) [py "true", py "false", py "null"]
      simp only
      split
      · exact container.weaken (Nat.le_succ start)
      · split
        · exact quoted.weaken (Nat.le_succ start)
        · split
          · rename_i failure equal
            rw [equal] at name
            cases name
            exact .needMore
          · rename_i nameLength equal
            rw [equal, List.length_cons] at name
            exact .ok (Nat.le_add_right _ _) (by simp only [id_eq]; omega)
          · have digits := (List.takeWhile_sublist isNumberChar (l := rest)).length_le
            split
            · split
              · exact .needMore
              · exact .ok (by simp only [id_eq]; omega) (by simp only [id_eq]; omega)
            · exact .malformed inside

theorem scanJsonValue_advances (inside : cursor ≤ source.length) :
    Advances source cursor Prod.snd (scanJsonValue source cursor) := by
  refine (jsonValueEnd_advances (skipStructuralWs_le inside)).bind ?_
  intro stop _ lower upper
  exact .ok (le_skipStructuralWs.trans lower) upper

theorem scanJsonValue_start {value : Nat × Nat}
    (scanned : scanJsonValue source cursor = .ok value) :
    value.1 = skipStructuralWs source cursor := by
  unfold scanJsonValue at scanned
  cases stop : jsonValueEnd source (skipStructuralWs source cursor) with
  | error failure => simp [stop, bind, Except.bind] at scanned
  | ok stop' =>
      simp only [stop, bind, Except.bind] at scanned
      cases scanned
      rfl

theorem parseStructuredValue_advances (variant : ArgumentFramingVariant) (eos : Bool)
    (inside : cursor ≤ source.length) :
    Advances source cursor Prod.snd (parseStructuredValue variant source cursor eos) := by
  unfold parseStructuredValue
  refine (scanJsonValue_advances inside).bind ?_
  intro value valueEq lower upper
  unfold canonicalStructuredValue
  split
  · rw [scanJsonValue_start valueEq]
    exact .malformed (skipStructuralWs_le inside)
  · refine (matchClose_advances variant.argumentClose.texts eos upper).bind ?_
    intro found foundEq foundLower foundUpper
    cases found with
    | some closeEnd =>
        exact .ok (by simp only [Option.getD_some] at foundLower ⊢; omega) foundUpper
    | none =>
        have skipped := skipStructuralWs_le upper
        refine (matchClose_advances variant.argumentClose.texts eos skipped).bind ?_
        intro late _ lateLower lateUpper
        have leSkipped : value.2 ≤ skipStructuralWs source value.2 := le_skipStructuralWs
        cases late with
        | some closeEnd =>
            exact .ok (by simp only [Option.getD_some] at lateLower ⊢; omega) lateUpper
        | none => exact .malformed skipped

/-! ## Raw values -/

theorem closeOccurrences_bounds {close : PyStr} (nonempty : close ≠ []) :
    ∀ (fuel start : Nat), ∀ position ∈ closeOccurrences source close fuel start,
      start ≤ position ∧ position + close.length ≤ source.length
  | 0, _ => by simp [closeOccurrences]
  | fuel + 1, start => by
      intro position member
      unfold closeOccurrences at member
      cases found : findFrom close source start with
      | none => simp [found] at member
      | some first =>
          have facts := findFrom_eq_some found
          have firstEnd := facts.2.1.end_le nonempty
          rw [found] at member
          rcases List.mem_cons.mp member with rfl | member
          · exact ⟨facts.1, firstEnd⟩
          · have later := closeOccurrences_bounds nonempty fuel _ position member
            omega

theorem liftEngine_eq (result : EngineResult α) :
    (liftEngine result : EngineResult α) = result := by
  cases result <;> rfl

theorem fullRawToolCloseEnd_nil (stop : Nat) (toolCloses : List PyStr) :
    fullRawToolCloseEnd source stop [] toolCloses = none := rfl

theorem classifiedCloses_bounds {m : Type → Type} (boundary : RawBoundary m)
    (close : CloseLanguage) :
    ∀ found ∈ classifiedCloses boundary source cursor close.texts,
      cursor ≤ found.1 ∧ found.1 ≤ found.2.1 ∧ found.2.1 ≤ source.length := by
  intro found member
  rcases List.mem_flatMap.mp member with ⟨form, formMember, member⟩
  rcases List.mem_map.mp member with ⟨position, positionMember, rfl⟩
  have bounds := closeOccurrences_bounds (close.text_ne_nil formMember) _ _ position
    positionMember
  exact ⟨bounds.1, Nat.le_add_right _ _, bounds.2⟩

/-- What holds of spans and of their joins holds of the merged spans. -/
theorem mergeSpans_forall {property : Nat × Nat → Prop}
    (join : ∀ left right, property left → property right →
      property (left.1, max left.2 right.2)) (spans : List (Nat × Nat)) :
    ∀ current, property current → (∀ span ∈ spans, property span) →
      ∀ span ∈ mergeSpans current spans, property span := by
  induction spans with
  | nil =>
      intro current holds _ span member
      rw [mergeSpans, List.mem_singleton] at member
      exact member ▸ holds
  | cons next rest induction =>
      intro current holds each
      have nextHolds := each next (by simp)
      have restHold := fun span member => each span (List.mem_cons_of_mem next member)
      unfold mergeSpans
      split
      · exact induction _ (join current next holds nextHolds) restHold
      · intro span member
        rcases List.mem_cons.mp member with rfl | member
        · exact holds
        · exact induction next nextHolds restHold span member

/-- Without compatibility boundaries the value ends at the first close. -/
theorem scanRawUntil_advances {boundary : RawBoundary EngineResult}
    (plainBoundary : boundary.ambiguityFunctionCloses = []) (close : CloseLanguage) :
    Advances source cursor Prod.snd (scanRawUntil boundary source cursor close.texts) := by
  have bounds : ∀ found ∈ classifiedCloses boundary source cursor close.texts, _ :=
    classifiedCloses_bounds boundary close
  let Inside := fun span : Nat × Nat =>
    cursor ≤ span.1 ∧ span.1 ≤ span.2 ∧ span.2 ≤ source.length
  unfold scanRawUntil
  simp only [plainBoundary, fullRawToolCloseEnd_nil]
  split
  · exact .needMore
  · rename_i earliest others sorted
    have each : ∀ span ∈ earliest :: others, Inside span := by
      intro span member
      rw [← sorted, List.mem_insertionSort] at member
      rcases List.mem_map.mp member with ⟨found, foundMember, rfl⟩
      exact bounds found (List.mem_filter.mp foundMember).1
    have first : Inside ((mergeSpans earliest others).headD earliest) := by
      have merged : ∀ span ∈ mergeSpans earliest others, Inside span :=
        mergeSpans_forall (fun left right leftInside rightInside => by
          simp only [Inside] at leftInside rightInside ⊢
          omega) others earliest (each earliest (by simp))
        fun span member => each span (by simp [member])
      cases spans : mergeSpans earliest others with
      | nil => exact each earliest (by simp)
      | cons head tail => exact merged head (by simp [spans])
    split
    · rename_i quotedAt quoted
      have member := List.min?_mem quoted
      rcases List.mem_map.mp member with ⟨found, foundMember, rfl⟩
      have inside := bounds found (List.mem_filter.mp foundMember).1
      exact .malformed (by omega)
    · split
      · exact .malformed (first.2.1.trans first.2.2)
      · exact .ok (first.1.trans first.2.1) first.2.2

theorem decodeRawValue_advances (codec : ValueCodecKind) (rawValue : PyStr)
    (inside : cursor ≤ source.length) :
    Advances source 0 (fun _ => 0) (decodeRawValue codec rawValue cursor) := by
  unfold decodeRawValue
  split
  · simp only
    split
    · exact .ok (Nat.le_refl _) (Nat.zero_le _)
    · exact .malformed inside
  · split
    · exact .ok (Nat.le_refl _) (Nat.zero_le _)
    · exact .malformed inside

/-! ## Sequences

The options of the production session: no compatibility boundaries. -/

section Sequence

variable {options : ParseOptions EngineResult} {spec : ToolWireSpec}
  {plan : CompiledToolWirePlan} {toolName : PyStr}

theorem parseArgumentValue_advances (production : options.compatibilityRawBoundaries = false)
    (variant : ArgumentFramingVariant) (argumentName : PyStr)
    (occurrences : List WireArgumentOccurrence) (inside : cursor ≤ source.length)
    {valueStart : Nat} (valueInside : valueStart ≤ source.length) :
    Advances source valueStart Prod.snd
      (parseArgumentValue options spec variant toolName argumentName occurrences source
        cursor valueStart) := by
  unfold parseArgumentValue
  simp only [liftEngine_eq]
  split
  · exact parseStructuredValue_advances variant options.eos valueInside
  · split
    · refine (scanRawUntil_advances ?_ variant.argumentClose).bind ?_
      · simp [rawBoundary, production]
      · intro raw _ lower upper
        refine (decodeRawValue_advances variant.valueFraming.codec raw.1 valueInside).bind ?_
        intro canonicalValueJson _ _ _
        exact .ok lower upper
    · exact .malformed inside

theorem selectVariant_advances (plannedVariant : Option String)
    (candidates : List ArgumentFramingVariant) (inside : cursor ≤ source.length) :
    Advances source 0 (fun _ => 0)
      (selectVariant spec plannedVariant candidates cursor) := by
  unfold selectVariant
  repeat' split
  all_goals first
    | exact .malformed inside
    | exact .ok (Nat.le_refl _) (Nat.zero_le _)
    | trivial

theorem parseArgument_advances (production : options.compatibilityRawBoundaries = false)
    (occurrences : List WireArgumentOccurrence) (inside : cursor ≤ source.length) :
    Advances source (cursor + 1) Prod.snd
      (parseArgument options spec plan toolName occurrences source cursor) := by
  unfold parseArgument
  simp only [liftEngine_eq]
  refine (parseVariantNamedTerminal_advances inside spec.argumentFramings).bind ?_
  rintro ⟨candidates, found⟩ _ lower upper
  simp only at lower upper ⊢
  split
  · exact .malformed inside
  · refine (selectVariant_advances _ candidates inside).bind ?_
    intro variant _ _ _
    split
    · exact .malformed inside
    · refine (parseArgumentValue_advances production variant _ occurrences inside upper).bind ?_
      rintro ⟨canonicalValueJson, argumentCloseEnd⟩ _ lower' upper'
      exact .ok (lower.trans lower') upper'

theorem parseArguments_advances (production : options.compatibilityRawBoundaries = false) :
    ∀ (fuel : Nat) (occurrences : List WireArgumentOccurrence) (cursor : Nat),
      cursor ≤ source.length → source.length - cursor < fuel →
      Advances source cursor Prod.snd
        (parseArguments options spec plan toolName source fuel occurrences cursor)
  | fuel + 1, occurrences, cursor, inside, enough => by
      have skipped := skipStructuralWs_le inside
      have leSkipped : cursor ≤ skipStructuralWs source cursor := le_skipStructuralWs
      unfold parseArguments
      simp only [liftEngine_eq]
      refine (matchClose_advances spec.functionClose.texts options.eos skipped).bind ?_
      intro close _ closeLower closeUpper
      cases close with
      | some functionCloseEnd => exact .ok (leSkipped.trans closeLower) closeUpper
      | none =>
          refine (parseArgument_advances production occurrences skipped).bind ?_
          rintro ⟨occurrence, argumentCloseEnd⟩ _ lower upper
          simp only at lower upper
          exact (parseArguments_advances production fuel (occurrences ++ [occurrence])
            argumentCloseEnd upper (by omega)).weaken (by omega)

theorem parseFunctionOpen_advances (inside : cursor ≤ source.length) :
    Advances source (cursor + 1) Prod.snd (parseFunctionOpen spec source cursor) := by
  unfold parseFunctionOpen
  refine (parseNamed_advances spec.functionOpen _ inside).bind ?_
  intro function _ lower upper
  split
  · exact .malformed inside
  · split
    · exact .ok lower upper
    · exact .malformed inside

theorem finishSequence_advances (inside : cursor ≤ source.length) {toolCloseEnd : Nat}
    (closeInside : toolCloseEnd ≤ source.length) (calls : List WireToolCall) :
    Advances source toolCloseEnd Prod.snd
      (finishSequence options spec source cursor toolCloseEnd calls) := by
  have skipped := skipStructuralWs_le closeInside
  unfold finishSequence
  simp only
  split
  · exact .malformed inside
  · split
    · exact .ok (Nat.le_refl _) closeInside
    · split
      · exact .malformed skipped
      · exact .ok le_skipStructuralWs skipped

theorem parseCalls_advances (production : options.compatibilityRawBoundaries = false) :
    ∀ (fuel : Nat) (calls : List WireToolCall) (cursor : Nat),
      cursor ≤ source.length → source.length - cursor < fuel →
      Advances source cursor Prod.snd (parseCalls options spec plan source fuel calls cursor)
  | fuel + 1, calls, cursor, inside, enough => by
      have skipped := skipStructuralWs_le inside
      have leSkipped : cursor ≤ skipStructuralWs source cursor := le_skipStructuralWs
      unfold parseCalls
      simp only [liftEngine_eq]
      refine (matchClose_advances spec.toolClose.texts options.eos skipped).bind ?_
      intro close _ closeLower closeUpper
      cases close with
      | some toolCloseEnd =>
          exact (finishSequence_advances skipped closeUpper calls).weaken
            (leSkipped.trans closeLower)
      | none =>
          refine (parseFunctionOpen_advances skipped).bind ?_
          rintro ⟨toolName, bodyStart⟩ _ lower upper
          simp only at lower upper
          refine (parseArguments_advances production (source.length + 1) [] bodyStart upper
            (by omega)).bind ?_
          rintro ⟨occurrences, functionCloseEnd⟩ _ lower' upper'
          simp only at lower' upper'
          exact (parseCalls_advances production fuel _ functionCloseEnd upper'
            (by omega)).weaken (by omega)

end Sequence

/-- A parsed sequence ends inside its source, an issue points into it, and the
loops of the parser do not run out of turns. -/
theorem parseSequence_advances (source : PyStr) (spec : ToolWireSpec)
    (plan : CompiledToolWirePlan) :
    Advances source 0 Prod.snd (parseSequence source spec plan) := by
  have skipped := skipStructuralWs_le (Nat.zero_le source.length)
  unfold parseSequence parseSequenceM
  simp only [liftEngine_eq]
  refine (expectLiteral_advances skipped spec.toolOpen.text _).bind ?_
  intro cursor _ _ upper
  exact (parseCalls_advances rfl _ [] cursor upper (by omega)).weaken (Nat.zero_le _)

end ExQServe.ToolWire
