import ExQServe.Agent.JsonText
import ExQServe.ToolWire.EngineBounds
import ExQServe.ToolWire.QwenSpec

/-! # Raw values on the wire

The model of `encode_lossless_raw_string` in `tool_wire/contracts.py`, and what the scan of
a raw argument reads of a value that it has admitted. A close form may begin inside a value
and end in the close behind it; and a value may open a JSON string that hides its close. -/

namespace ExQServe.ToolWire

open ExQServe.Search

def ValueCodecKind.IsRawString (codec : ValueCodecKind) : Prop :=
  codec = .rawString ∨ codec = .rawStringStripJsonStringOrText

instance (codec : ValueCodecKind) : Decidable codec.IsRawString :=
  inferInstanceAs (Decidable (_ ∨ _))

/-- The native spelling of a value when it round-trips and avoids every reserved close;
`.error` stands for `ValueError`. -/
def encodeLosslessRawString (value : PyStr) (framing : ValueFraming) :
    Except String (Option PyStr) :=
  match framing.forbiddenCloseLanguage with
  | none =>
      .error "lossless raw-string encoding requires RAW_UNTIL framing with close language"
  | some close =>
      if ¬ framing.codec.IsRawString then
        .error "lossless raw-string encoding requires a raw-string codec"
      else if close.texts.any (contains · value) then .ok none
      else
        match framing.codec.decodeRawPayload value with
        | none => .error "decoded raw string contains a non-UTF8 surrogate scalar"
        | some decoded => .ok (if decoded = value then some value else none)

/-! ## The scan of a raw value -/

/-- The scan of a session whose constraint is installed, which knows no compatibility
boundaries. -/
def constrainedBoundary (codec : ValueCodecKind) : RawBoundary EngineResult where
  protectJsonString :=
    decide (codec = .rawStringStripJsonStringOrText ∨ codec = .rawJsonOrText)
  protectBalancedLiterals := false
  ambiguityFunctionCloses := []
  ambiguityToolCloses := []
  toolOpen := none
  closeCandidateAcceptor := none
  fullCloseSemanticAcceptor := none

def protectedEnd (codec : ValueCodecKind) (source : PyStr) (cursor : Nat) : Option Nat :=
  if codec = .rawStringStripJsonStringOrText ∨ codec = .rawJsonOrText then
    completeJsonStringEnd source cursor
  else none

theorem classifyClose_constrained {codec : ValueCodecKind} {source : PyStr}
    {cursor position stop : Nat} {guard : Option Nat} :
    classifyClose (constrainedBoundary codec) source cursor guard position stop =
      if guard.any (position < ·) then .ignored else .candidate := by
  unfold classifyClose
  split
  · rfl
  · rfl

def closeCandidates (codec : ValueCodecKind) (source : PyStr) (cursor : Nat)
    (texts : List PyStr) : List (Nat × Nat) :=
  ((classifiedCloses (constrainedBoundary codec) source cursor texts).filter
    fun close => close.2.2 = .candidate).map fun close => (close.1, close.2.1)

theorem mem_classifiedCloses {codec : ValueCodecKind} {source : PyStr} {cursor : Nat}
    {texts : List PyStr} {found : Nat × Nat × CloseOccurrence} :
    found ∈ classifiedCloses (constrainedBoundary codec) source cursor texts ↔
      ∃ form ∈ texts, found.1 ∈ closeOccurrences source form (source.length + 1) cursor ∧
        found.2.1 = found.1 + form.length ∧
        found.2.2 = if (protectedEnd codec source cursor).any (found.1 < ·) then .ignored
          else .candidate := by
  have guard : (if (constrainedBoundary codec).protectJsonString = true then
      completeJsonStringEnd source cursor else none) = protectedEnd codec source cursor := by
    simp only [constrainedBoundary, protectedEnd, decide_eq_true_eq]
  simp only [classifiedCloses, classifyClose_constrained, guard, List.mem_flatMap, List.mem_map]
  rcases found with ⟨position, stop, occurrence⟩
  constructor
  · intro member
    rcases member with ⟨form, present, start, occurs, same⟩
    cases same
    exact ⟨form, present, occurs, rfl, rfl⟩
  · intro member
    rcases member with ⟨form, present, occurs, stopped, classified⟩
    dsimp only at occurs stopped classified
    subst stopped
    exact ⟨form, present, position, occurs, by rw [classified]⟩

theorem mem_closeCandidates {codec : ValueCodecKind} {source : PyStr} {cursor : Nat}
    {texts : List PyStr} {candidate : Nat × Nat} :
    candidate ∈ closeCandidates codec source cursor texts ↔
      ∃ form ∈ texts, candidate.1 ∈ closeOccurrences source form (source.length + 1) cursor ∧
        candidate.2 = candidate.1 + form.length ∧
        ∀ stop ∈ protectedEnd codec source cursor, stop ≤ candidate.1 := by
  have free {position : Nat} : (if (protectedEnd codec source cursor).any (position < ·) then
      CloseOccurrence.ignored else .candidate) = .candidate ↔
        ∀ stop ∈ protectedEnd codec source cursor, stop ≤ position := by
    cases protectedEnd codec source cursor with
    | none => simp
    | some stop => by_cases early : position < stop <;> simp [early]; omega
  simp only [closeCandidates, List.mem_map, List.mem_filter, mem_classifiedCloses,
    decide_eq_true_eq]
  constructor
  · intro member
    rcases member with ⟨found, ⟨⟨form, present, occurs, stopped, classified⟩, kept⟩, rfl⟩
    exact ⟨form, present, occurs, stopped, free.mp (classified ▸ kept)⟩
  · intro member
    rcases member with ⟨form, present, occurs, stopped, unprotected⟩
    exact ⟨(candidate.1, candidate.2, .candidate),
      ⟨⟨form, present, occurs, stopped, (free.mpr unprotected).symm⟩, rfl⟩, rfl⟩

theorem occurs_of_mem_closeOccurrences {source close : PyStr} {position : Nat} :
    ∀ (fuel start : Nat), position ∈ closeOccurrences source close fuel start →
      Occurs close source position ∧ start ≤ position
  | 0, _, member => by cases member
  | fuel + 1, start, member => by
      unfold closeOccurrences at member
      cases found : findFrom close source start with
      | none =>
          rw [found] at member
          cases member
      | some first =>
          have facts := findFrom_eq_some found
          rw [found] at member
          rcases List.mem_cons.mp member with rfl | member
          · exact ⟨facts.2.1, facts.1⟩
          · have later := occurs_of_mem_closeOccurrences fuel _ member
            exact ⟨later.1, by omega⟩

/-- An occurrence that no other precedes is found. -/
theorem mem_closeOccurrences_of_first {source close : PyStr} {start position fuel : Nat}
    (nonempty : close ≠ []) (behind : start ≤ position) (occurs : Occurs close source position)
    (first : ∀ earlier, start ≤ earlier → Occurs close source earlier → position ≤ earlier) :
    position ∈ closeOccurrences source close (fuel + 1) start := by
  have found : findFrom close source start = some position := by
    have here : find close (source.drop start) = some (position - start) := by
      rw [find_eq_some_iff nonempty]
      refine ⟨?_, ?_⟩
      · rw [occurs_drop, Nat.add_sub_cancel' behind]
        exact occurs
      · intro earlier before again
        have later := first _ (Nat.le_add_right start earlier) (occurs_drop.mp again)
        omega
    rw [findFrom, here, Option.map_some, Nat.add_sub_cancel' behind]
  unfold closeOccurrences
  rw [found]
  exact List.mem_cons_self

/-- Joining spans leaves the beginning of the first one. -/
theorem mergeSpans_head (current : Nat × Nat) (spans : List (Nat × Nat)) :
    ∃ stop later, mergeSpans current spans = (current.1, stop) :: later := by
  induction spans generalizing current with
  | nil => exact ⟨current.2, [], rfl⟩
  | cons next rest induction =>
      unfold mergeSpans
      split
      · exact induction (current.1, max current.2 next.2)
      · exact ⟨current.2, mergeSpans next rest, rfl⟩

theorem quotedFullCloses_constrained {codec : ValueCodecKind} {source : PyStr} {cursor : Nat}
    {texts : List PyStr} :
    (classifiedCloses (constrainedBoundary codec) source cursor texts).filter
      (fun close => close.2.2 = .quotedFullClose) = [] := by
  rw [List.filter_eq_nil_iff]
  intro found member
  rcases mem_classifiedCloses.mp member with ⟨_, _, _, _, classified⟩
  rw [classified]
  split <;> decide

/-- The scan ends at the least candidate. -/
theorem scanRawUntil_constrained (codec : ValueCodecKind) (source : PyStr) (cursor : Nat)
    (texts : List PyStr) :
    match (closeCandidates codec source cursor texts).insertionSort pairLe with
    | [] => scanRawUntil (constrainedBoundary codec) source cursor texts = .error .needMore
    | earliest :: _ => ∃ stop, scanRawUntil (constrainedBoundary codec) source cursor texts =
        .ok (source.slice cursor earliest.1, stop) := by
  have every (candidate : Nat × Nat)
      (member : candidate ∈ (closeCandidates codec source cursor texts).insertionSort pairLe) :
      texts.any (fun form => form <+: source.drop candidate.1) = true := by
    rw [List.mem_insertionSort] at member
    rcases mem_closeCandidates.mp member with ⟨form, present, occurs, _, _⟩
    rw [List.any_eq_true]
    exact ⟨form, present, decide_eq_true (occurs_of_mem_closeOccurrences _ _ occurs).1⟩
  have candidates : ((classifiedCloses (constrainedBoundary codec) source cursor texts).filter
      fun close => close.2.2 = .candidate).map (fun close => (close.1, close.2.1)) =
        closeCandidates codec source cursor texts := rfl
  unfold scanRawUntil
  simp only [candidates, quotedFullCloses_constrained, List.map_nil, List.min?_nil]
  revert every
  cases (closeCandidates codec source cursor texts).insertionSort pairLe with
  | nil =>
      intro _
      rfl
  | cons earliest others =>
      intro every
      rcases mergeSpans_head earliest others with ⟨stop, later, merged⟩
      have closed := every earliest List.mem_cons_self
      refine ⟨stop, ?_⟩
      simp only [merged, List.headD_cons, closed, constrainedBoundary, fullRawToolCloseEnd_nil]
      rfl

/-! ## Values that open a JSON string -/

/-- The value, or the close behind an empty value, begins with a quote that the value does
not close. -/
def OpensQuote (texts : List PyStr) : PyStr → Prop
  | [] => ∃ form ∈ texts, ∀ char ∈ (form.dropWhile PyChar.isSpace).head?, char = chr '"'
  | first :: rest => first = chr '"' ∧ scanQuoted rest false 1 = .error .needMore

theorem scanQuoted_shift (text : PyStr) (escaped : Bool) (shift position : Nat) :
    scanQuoted text escaped (shift + position) =
      (scanQuoted text escaped position).map (shift + ·) := by
  induction text generalizing escaped position with
  | nil => rfl
  | cons char rest induction =>
      unfold scanQuoted
      rw [Nat.add_assoc, induction, induction]
      split
      · rfl
      split
      · rfl
      split <;> rfl

theorem scanQuoted_error {text : PyStr} {escaped : Bool} {position : Nat}
    {failure : EngineFailure} (failed : scanQuoted text escaped position = .error failure) :
    failure = .needMore := by
  induction text generalizing escaped position with
  | nil =>
      cases failed
      rfl
  | cons char rest induction =>
      unfold scanQuoted at failed
      split at failed
      · exact induction failed
      split at failed
      · exact induction failed
      split at failed
      · cases failed
      · exact induction failed

/-- A string that is closed stays closed where it is. -/
theorem scanQuoted_append_ok {text : PyStr} {escaped : Bool} {position stop : Nat}
    (closed : scanQuoted text escaped position = .ok stop) (behind : PyStr) :
    scanQuoted (text ++ behind) escaped position = .ok stop ∧ position < stop ∧
      stop ≤ position + text.length := by
  induction text generalizing escaped position with
  | nil => cases closed
  | cons char rest induction =>
      have later {escaped : Bool} (closed : scanQuoted rest escaped (position + 1) = .ok stop) :
          scanQuoted (rest ++ behind) escaped (position + 1) = .ok stop ∧ position < stop ∧
            stop ≤ position + (rest.length + 1) := by
        have facts := induction closed
        exact ⟨facts.1, by omega, by omega⟩
      rw [List.cons_append, List.length_cons]
      unfold scanQuoted at closed ⊢
      split at closed
      · rename_i escaping
        rw [if_pos escaping]
        exact later closed
      rename_i plain
      rw [if_neg plain]
      split at closed
      · rename_i backslash
        rw [if_pos backslash]
        exact later closed
      rename_i other
      rw [if_neg other]
      split at closed
      · rename_i quote
        rw [if_pos quote]
        cases closed
        exact ⟨rfl, Nat.lt_succ_self position, by omega⟩
      · rename_i inner
        rw [if_neg inner]
        exact later closed

/-- A string that is not closed ends in the text behind it. -/
theorem scanQuoted_append_needMore {text behind : PyStr} {escaped : Bool} {position stop : Nat}
    (unclosed : scanQuoted text escaped position = .error .needMore)
    (closed : scanQuoted (text ++ behind) escaped position = .ok stop) :
    position + text.length < stop := by
  induction text generalizing escaped position with
  | nil => exact (scanQuoted_append_ok closed []).2.1
  | cons char rest induction =>
      have later {escaped : Bool}
          (unclosed : scanQuoted rest escaped (position + 1) = .error .needMore)
          (closed : scanQuoted (rest ++ behind) escaped (position + 1) = .ok stop) :
          position + (rest.length + 1) < stop := by
        have bound := induction unclosed closed
        omega
      rw [List.cons_append] at closed
      unfold scanQuoted at unclosed closed
      rw [List.length_cons]
      split at unclosed
      · rename_i escaping
        rw [if_pos escaping] at closed
        exact later unclosed closed
      rename_i plain
      rw [if_neg plain] at closed
      split at unclosed
      · rename_i backslash
        rw [if_pos backslash] at closed
        exact later unclosed closed
      rename_i other
      rw [if_neg other] at closed
      split at unclosed
      · cases unclosed
      · rename_i inner
        rw [if_neg inner] at closed
        exact later unclosed closed

/-- Two quotes close any string. -/
theorem scanQuoted_closed (text : PyStr) (escaped : Bool) (position : Nat) :
    ∃ stop, scanQuoted (text ++ [chr '"', chr '"']) escaped position = .ok stop := by
  induction text generalizing escaped position with
  | nil =>
      cases escaped with
      | true => exact ⟨position + 1 + 1, rfl⟩
      | false => exact ⟨position + 1, rfl⟩
  | cons char rest induction =>
      rw [List.cons_append]
      unfold scanQuoted
      split
      · exact induction false (position + 1)
      split
      · exact induction true (position + 1)
      split
      · exact ⟨position + 1, rfl⟩
      · exact induction false (position + 1)

theorem drop_length_takeWhile {α : Type} (keep : α → Bool) (list : List α) :
    list.drop (list.takeWhile keep).length = list.dropWhile keep := by
  induction list with
  | nil => rfl
  | cons head tail induction =>
      by_cases keeps : keep head = true
      · rw [List.takeWhile_cons_of_pos keeps, List.dropWhile_cons_of_pos keeps]
        exact induction
      · rw [List.takeWhile_cons_of_neg keeps, List.dropWhile_cons_of_neg keeps]
        rfl

theorem completeJsonStringEnd_zero (text : PyStr) :
    completeJsonStringEnd text 0 =
      match text.dropWhile PyChar.isSpace with
      | [] => none
      | first :: rest =>
          if first = chr '"' then
            (scanQuoted rest false ((text.takeWhile PyChar.isSpace).length + 1)).toOption
          else none := by
  rw [completeJsonStringEnd]
  cases shown : text.dropWhile PyChar.isSpace <;> simp [drop_length_takeWhile, shown]

theorem completeJsonStringEnd_append (before text : PyStr) :
    completeJsonStringEnd (before ++ text) before.length =
      (completeJsonStringEnd text 0).map (before.length + ·) := by
  unfold completeJsonStringEnd
  simp only [List.drop_left, List.drop_zero, Nat.zero_add, List.drop_length_add_append]
  cases text.drop (text.takeWhile PyChar.isSpace).length with
  | nil => rfl
  | cons first rest =>
      simp only
      split
      · rw [Nat.add_assoc, scanQuoted_shift]
        cases scanQuoted rest false _ <;> rfl
      · rfl

/-- A text that begins with a visible quote. -/
theorem completeJsonStringEnd_quote (rest : PyStr) :
    completeJsonStringEnd (chr '"' :: rest) 0 = (scanQuoted rest false 1).toOption := by
  rw [completeJsonStringEnd_zero]
  rfl

/-- Some text behind the value closes a string that the value has opened. -/
theorem opensQuote_iff {texts : List PyStr} (nonempty : texts ≠ []) {value : PyStr}
    (visible : ∀ first ∈ value.head?, first.isSpace = false) :
    OpensQuote texts value ↔ ∃ form ∈ texts, ∃ following,
      ∃ stop ∈ completeJsonStringEnd (value ++ form ++ following) 0, value.length < stop := by
  cases value with
  | nil =>
      constructor
      · intro opens
        rcases opens with ⟨form, present, quote⟩
        refine ⟨form, present, [chr '"', chr '"'], ?_⟩
        rw [List.nil_append, completeJsonStringEnd_zero, List.dropWhile_append]
        generalize ((form ++ [chr '"', chr '"']).takeWhile PyChar.isSpace).length + 1 = position
        cases shown : form.dropWhile PyChar.isSpace with
        | nil => exact ⟨position + 1, rfl, Nat.succ_pos position⟩
        | cons first rest =>
            rw [shown] at quote
            cases quote first rfl
            rcases scanQuoted_closed rest false position with ⟨stop, closed⟩
            have late := (scanQuoted_append_ok closed []).2.1
            refine ⟨stop, ?_, Nat.zero_lt_of_lt late⟩
            show stop ∈ (scanQuoted (rest ++ [chr '"', chr '"']) false position).toOption
            rw [closed]
            rfl
      · intro ends
        rcases ends with ⟨form, present, following, stop, found, _⟩
        refine ⟨form, present, ?_⟩
        intro char first
        rw [List.nil_append, completeJsonStringEnd_zero, List.dropWhile_append] at found
        cases shown : form.dropWhile PyChar.isSpace with
        | nil =>
            rw [shown] at first
            cases first
        | cons head rest =>
            rw [shown] at first found
            cases first
            by_contra other
            rw [List.isEmpty_cons, if_neg Bool.false_ne_true, List.cons_append] at found
            simp only [if_neg other] at found
            cases found
  | cons first rest =>
      have seen : first.isSpace = false := visible first rfl
      constructor
      · intro opens
        rcases opens with ⟨rfl, unclosed⟩
        rcases List.exists_mem_of_ne_nil texts nonempty with ⟨form, present⟩
        rcases scanQuoted_closed (rest ++ form) false 1 with ⟨stop, closed⟩
        refine ⟨form, present, [chr '"', chr '"'], stop, ?_, ?_⟩
        · rw [List.cons_append, List.cons_append, completeJsonStringEnd_quote, closed]
          rfl
        · rw [List.append_assoc] at closed
          have bound := scanQuoted_append_needMore unclosed closed
          rw [List.length_cons]
          omega
      · intro ends
        rcases ends with ⟨form, _, following, stop, found, late⟩
        rw [List.cons_append, List.cons_append, completeJsonStringEnd_zero,
          List.dropWhile_cons_of_neg (by rw [seen]; exact Bool.false_ne_true),
          List.takeWhile_cons_of_neg (by rw [seen]; exact Bool.false_ne_true)] at found
        by_cases quote : first = chr '"'
        · refine ⟨quote, ?_⟩
          cases closed : scanQuoted rest false 1 with
          | error failure => rw [scanQuoted_error closed]
          | ok early =>
              have same := scanQuoted_append_ok closed (form ++ following)
              simp only [if_pos quote, List.append_assoc, List.length_nil, Nat.zero_add, same.1]
                at found
              cases found
              rw [List.length_cons] at late
              omega
        · simp only [if_neg quote] at found
          cases found

/-! ## Lossless values -/

theorem encodeLosslessRawString_eq_some {value payload : PyStr} {framing : ValueFraming}
    {close : CloseLanguage} (closes : framing.forbiddenCloseLanguage = some close)
    (raw : framing.codec.IsRawString) :
    encodeLosslessRawString value framing = .ok (some payload) ↔
      payload = value ∧ ¬ close.texts.any (contains · value) = true ∧
        framing.codec.decodeRawPayload value = some value := by
  unfold encodeLosslessRawString
  rw [closes]
  simp only [raw, not_true_eq_false, if_false]
  split
  · rename_i reserved
    constructor
    · intro same
      cases same
    · intro facts
      exact absurd reserved facts.2.1
  rename_i free
  cases decodes : framing.codec.decodeRawPayload value with
  | none =>
      constructor
      · intro same
        cases same
      · intro facts
        cases facts.2.2
  | some decoded =>
      dsimp only
      by_cases same : decoded = value
      · rw [if_pos same, same]
        constructor
        · intro found
          cases found
          exact ⟨rfl, free, rfl⟩
        · intro facts
          rw [facts.1]
      · rw [if_neg same]
        constructor
        · intro found
          cases found
        · intro facts
          exact absurd (Option.some.inj facts.2.2) same

instance : Std.Total pairLe := ⟨fun left right => by unfold pairLe; omega⟩

instance : IsTrans (Nat × Nat) pairLe := ⟨fun first second third => by unfold pairLe; omega⟩

/-- The least of the candidates, if there is one. -/
theorem head_insertionSort {candidates others : List (Nat × Nat)} {earliest : Nat × Nat}
    (sorted : candidates.insertionSort pairLe = earliest :: others) :
    earliest ∈ candidates ∧ ∀ candidate ∈ candidates, earliest.1 ≤ candidate.1 := by
  have member (candidate : Nat × Nat) :
      candidate ∈ earliest :: others ↔ candidate ∈ candidates := by
    rw [← sorted, List.mem_insertionSort]
  refine ⟨(member earliest).mp List.mem_cons_self, ?_⟩
  intro candidate present
  have ordered := List.pairwise_insertionSort pairLe candidates
  rw [sorted, List.pairwise_cons] at ordered
  rcases List.mem_cons.mp ((member candidate).mpr present) with same | later
  · rw [same]
  · have before := ordered.1 candidate later
    unfold pairLe at before
    omega

theorem protectedEnd_append (codec : ValueCodecKind) (before text : PyStr) :
    protectedEnd codec (before ++ text) before.length =
      (protectedEnd codec text 0).map (before.length + ·) := by
  unfold protectedEnd
  split
  · exact completeJsonStringEnd_append before text
  · rfl

theorem length_slice {text : PyStr} {start stop : Nat} (inside : stop ≤ text.length) :
    (text.slice start stop).length = stop - start := by
  rw [PyStr.slice, List.length_drop, List.length_take, Nat.min_eq_left inside]

/-- Where the first close stands right behind the value, the scan reads the value back if no
JSON string hides that close. -/
theorem reads_back_iff {codec : ValueCodecKind} {close : CloseLanguage} {value rest : PyStr}
    (first : FirstOf close.texts (value ++ rest) value.length) (before : PyStr) :
    (∃ stop, scanRawUntil (constrainedBoundary codec) (before ++ (value ++ rest)) before.length
        close.texts = .ok (value, stop)) ↔
      ∀ stop ∈ protectedEnd codec (value ++ rest) 0, stop ≤ value.length := by
  have whole : (before ++ (value ++ rest)).slice before.length (before.length + value.length) =
      value := by
    rw [PyStr.slice, List.take_length_add_append, List.drop_left, List.take_left]
  have scanned := scanRawUntil_constrained codec (before ++ (value ++ rest)) before.length
    close.texts
  have late (candidate : Nat × Nat)
      (member : candidate ∈ closeCandidates codec (before ++ (value ++ rest)) before.length
        close.texts) : before.length + value.length ≤ candidate.1 := by
    rcases mem_closeCandidates.mp member with ⟨form, present, occurs, _, _⟩
    rcases occurs_of_mem_closeOccurrences _ _ occurs with ⟨occurs, behind⟩
    have split : before.length + (candidate.1 - before.length) = candidate.1 := by omega
    rw [← split, occurs_append_length_add] at occurs
    have bound := first.2 form present _ occurs
    omega
  constructor
  · intro reads stop hides
    rcases reads with ⟨closeEnd, reads⟩
    rw [reads] at scanned
    split at scanned
    · cases scanned
    rename_i earliest others sorted
    rcases scanned with ⟨_, same⟩
    have read : value = (before ++ (value ++ rest)).slice before.length earliest.1 :=
      congrArg Prod.fst (Except.ok.inj same)
    rcases mem_closeCandidates.mp (head_insertionSort sorted).1 with
      ⟨form, present, occurs, _, unprotected⟩
    have inside := (closeOccurrences_bounds (close.text_ne_nil present) _ _ _ occurs).2
    have shifted := unprotected (before.length + stop) (by
      rw [protectedEnd_append, Option.mem_def.mp hides]
      rfl)
    have length := congrArg List.length read
    rw [length_slice (by omega)] at length
    omega
  · intro unprotected
    rcases first.1 with ⟨form, present, occurs⟩
    have candidate : (before.length + value.length, before.length + value.length + form.length) ∈
        closeCandidates codec (before ++ (value ++ rest)) before.length close.texts := by
      refine mem_closeCandidates.mpr ⟨form, present, ?_, rfl, ?_⟩
      · refine mem_closeOccurrences_of_first (close.text_ne_nil present) (Nat.le_add_right _ _)
          (occurs_append_length_add.mpr occurs) ?_
        intro earlier behind again
        have split : before.length + (earlier - before.length) = earlier := by omega
        rw [← split, occurs_append_length_add] at again
        have bound := first.2 form present _ again
        omega
      · intro stop hides
        rw [protectedEnd_append] at hides
        rcases Option.map_eq_some_iff.mp hides with ⟨inner, found, rfl⟩
        exact Nat.add_le_add_left (unprotected inner found) before.length
    split at scanned
    · rename_i empty
      have none := (List.mem_insertionSort pairLe).mpr candidate
      rw [empty] at none
      cases none
    rename_i earliest others sorted
    have least := head_insertionSort sorted
    have exact_ : earliest.1 = before.length + value.length :=
      Nat.le_antisymm (least.2 _ candidate) (late earliest least.1)
    rw [exact_, whole] at scanned
    exact scanned

/-- The payload of a value, whatever close and whatever text stand behind it, ends at its
first close, and the engine reads the value back. -/
def Lossless (framing : ValueFraming) (close : CloseLanguage) (value : PyStr) : Prop :=
  ∀ payload, encodeLosslessRawString value framing = .ok (some payload) →
    framing.codec.decodeRawPayload payload = some value ∧
    ∀ form ∈ close.texts, ∀ following,
      FirstOf close.texts (payload ++ form ++ following) payload.length ∧
      ∀ before, ∃ stop, scanRawUntil (constrainedBoundary framing.codec)
        (before ++ (payload ++ form ++ following)) before.length close.texts = .ok (payload, stop)

/-- The value is refused, or no close form reaches from it into a close behind it and, where
the engine looks for JSON strings, it opens none. -/
def LosslessWhen (codec : ValueCodecKind) (texts : List PyStr) (value : PyStr) : Prop :=
  texts.any (contains · value) = true ∨ codec.decodeRawPayload value ≠ some value ∨
    (∀ form ∈ texts, ¬ Straddles texts value form) ∧
      (codec = .rawStringStripJsonStringOrText → ¬ OpensQuote texts value)

theorem length_joinUnits (units : List Json.StringUnit) :
    (Json.joinUnits units).length ≤ units.length := by
  fun_induction Json.joinUnits units with
  | case1 => exact Nat.le_refl 0
  | case2 unit => exact Nat.le_refl 1
  | case3 high low rest joined induction =>
      simp only [List.length_cons]
      omega
  | case4 high low rest apart induction =>
      simp only [List.length_cons] at induction ⊢
      omega

theorem length_scanStringUnits {text after : PyStr} {units : List Json.StringUnit}
    (read : Json.scanStringUnits text = some (units, after)) : units.length < text.length := by
  fun_induction Json.scanStringUnits text generalizing units with
  | case2 rest =>
      cases read
      exact Nat.succ_pos _
  | case5 a b c d rest unit known noQuote induction =>
      rcases Option.map_eq_some_iff.mp read with ⟨⟨inner, rest⟩, found, same⟩
      cases same
      have bound := induction found
      simp only [List.length_cons]
      omega
  | case8 escape after noHex value known noQuote induction =>
      rcases Option.map_eq_some_iff.mp read with ⟨⟨inner, rest⟩, found, same⟩
      cases same
      have bound := induction found
      simp only [List.length_cons]
      omega
  | case10 char rest noQuote noEscape visible induction =>
      rcases Option.map_eq_some_iff.mp read with ⟨⟨inner, tail⟩, found, same⟩
      cases same
      have bound := induction found
      simp only [List.length_cons]
      omega
  | _ => cases read

/-- A string literal is longer than its string. -/
theorem length_parseJsonStrict {text content : PyStr}
    (parsed : parseJsonStrict text = some (.str content)) : content.length < text.length := by
  rcases parseJsonStrict_eq_some.mp parsed with ⟨gap, front, gap', _, _, written, rfl⟩
  have shorter : content.length < front.length := by
    cases written with
    | name named => simp at named
    | number _ read =>
        have scanned := read [] .nil
        simp only [Json.scanNumber] at scanned
        split at scanned
        · cases scanned
        split at scanned
        · split at scanned <;> cases scanned
        · rcases Option.map_eq_some_iff.mp scanned with ⟨_, _, impossible⟩
          cases impossible
    | str _ read =>
        rcases Option.map_eq_some_iff.mp (read [] trivial) with ⟨⟨units, rest⟩, found, same⟩
        cases same
        have joined := length_joinUnits units
        have bound := length_scanStringUnits found
        rw [List.append_nil] at bound
        show (Json.joinUnits units).length < _
        rw [List.length_cons]
        omega
  rw [List.length_append, List.length_append]
  omega

/-- A value that the stripping codec reads as itself begins visibly. -/
theorem visible_of_decodes {value : PyStr}
    (decodes : ValueCodecKind.decodeRawPayload .rawStringStripJsonStringOrText value = some value) :
    ∀ first ∈ value.head?, first.isSpace = false := by
  have stripped : value.strip.length ≤ (PyStr.lstrip value).length := by
    rw [PyStr.strip]
    exact (List.rdropWhile_prefix _ _).length_le
  have shorter : (PyStr.lstrip value).length ≤ value.length :=
    (List.dropWhile_sublist PyChar.isSpace).length_le
  intro first head
  cases value with
  | nil => cases head
  | cons head' rest =>
      cases head
      by_contra spaces
      have dropped : (PyStr.lstrip (first :: rest)).length ≤ rest.length := by
        rw [PyStr.lstrip, List.dropWhile_cons_of_pos (by simpa using spaces)]
        exact (List.dropWhile_sublist PyChar.isSpace).length_le
      simp only [ValueCodecKind.decodeRawPayload] at decodes
      split at decodes
      · rename_i parsed literal
        have bound := length_parseJsonStrict literal
        split at decodes
        · have same := congrArg List.length (Option.some.inj decodes)
          rw [List.length_cons] at same
          omega
        · cases decodes
      · split at decodes
        · have same := congrArg List.length (Option.some.inj decodes)
          rw [List.length_cons] at same
          omega
        · cases decodes

theorem protectedEnd_of_raw {codec : ValueCodecKind} (raw : codec.IsRawString)
    {close : CloseLanguage}
    {value : PyStr} (decodes : codec.decodeRawPayload value = some value) :
    (∀ form ∈ close.texts, ∀ following, ∀ stop ∈ protectedEnd codec (value ++ form ++ following) 0,
        stop ≤ value.length) ↔
      (codec = .rawStringStripJsonStringOrText → ¬ OpensQuote close.texts value) := by
  rcases raw with rfl | rfl
  · constructor
    · intro _ impossible
      cases impossible
    · intro _ form _ following stop found
      cases found
  · have nonempty : close.texts ≠ [] := fun empty => close.nonempty (List.map_eq_nil_iff.mp empty)
    rw [opensQuote_iff nonempty (visible_of_decodes decodes)]
    constructor
    · intro bounded _ opens
      rcases opens with ⟨form, present, following, stop, found, late⟩
      have bound := bounded form present following stop found
      omega
    · intro closed form present following stop found
      by_contra late
      exact closed rfl ⟨form, present, following, stop, found, by omega⟩

/-- A value that is admitted is lossless exactly if no close form straddles it and its close,
and no JSON string that it opens hides the close. -/
theorem lossless_iff {framing : ValueFraming} {close : CloseLanguage}
    (closes : framing.forbiddenCloseLanguage = some close) (raw : framing.codec.IsRawString)
    (value : PyStr) :
    Lossless framing close value ↔ LosslessWhen framing.codec close.texts value := by
  by_cases reserved : close.texts.any (contains · value) = true
  · refine iff_of_true ?_ (.inl reserved)
    intro payload encodes
    exact absurd reserved ((encodeLosslessRawString_eq_some closes raw).mp encodes).2.1
  by_cases decodes : framing.codec.decodeRawPayload value = some value
  · have encodes : encodeLosslessRawString value framing = .ok (some value) :=
      (encodeLosslessRawString_eq_some closes raw).mpr ⟨rfl, reserved, decodes⟩
    constructor
    · intro lossless
      rcases lossless value encodes with ⟨_, each⟩
      refine .inr (.inr ⟨?_, (protectedEnd_of_raw raw decodes).mp ?_⟩)
      · intro form present
        exact (firstOf_iff present).mp fun following => (each form present following).1
      · intro form present following
        rcases each form present following with ⟨first, reads⟩
        rw [List.append_assoc] at first reads ⊢
        exact (reads_back_iff first []).mp (reads [])
    · intro fits payload encoded
      rw [encodes] at encoded
      cases encoded
      refine ⟨decodes, ?_⟩
      intro form present following
      have fits := (fits.resolve_left reserved).resolve_left fun other => other decodes
      have first := (firstOf_iff present).mpr (fits.1 form present) following
      have unprotected := (protectedEnd_of_raw raw decodes).mpr fits.2 form present following
      refine ⟨first, ?_⟩
      rw [List.append_assoc] at first unprotected ⊢
      exact (reads_back_iff first · |>.mpr unprotected)
  · refine iff_of_true ?_ (.inr (.inl decodes))
    intro payload encodes
    exact absurd ((encodeLosslessRawString_eq_some closes raw).mp encodes).2.2 decodes

/-- In the framing that production compiles, a value that ends in the close without its last
line break makes a close with the first line break of the close behind it. -/
theorem close_without_line_break_lost :
    ¬ Lossless productionRaw.valueFraming nativeClose (py "x\n</parameter>") := by
  intro lossless
  have each := (lossless (py "x\n</parameter>") (by decide)).2 nativeParameterClose (by decide) []
  have late := each.1.2 nativeParameterClose (by decide) 1 (by decide)
  exact absurd late (by decide)

/-- A value with a line break in front of the beginning of a close. -/
theorem lossless_iff_production :
    encodeLosslessRawString (py "x\n</param y") productionRaw.valueFraming =
        .ok (some (py "x\n</param y")) ∧
      Lossless productionRaw.valueFraming nativeClose (py "x\n</param y") := by
  have fits : LosslessWhen .rawStringStripJsonStringOrText nativeClose.texts
      (py "x\n</param y") := by
    refine .inr (.inr ⟨?_, ?_⟩)
    · decide
    · intro _ opens
      exact absurd opens.1 (by decide)
  exact ⟨by decide, (lossless_iff rfl (.inr rfl) _).mpr fits⟩

end ExQServe.ToolWire
