import ExQServe.Foundation.PlaceholderReading
import ExQServe.Runtime.LiteralSentinels

/-! # Literal protection

Markers and their sentinels are words and placeholders. Protection and restoration are the
sequences of replacements of the library, and the encoding loop reads placeholders from left
to right. -/

namespace ExQServe.Runtime

open ExQServe.Search ExQServe.Model.Qwen

abbrev MarkerEntry (sentinels : Dict PyStr PyStr) : Type :=
  {entry : PyStr × PyStr // entry ∈ sentinels.entries}

/-! ## Markers as placeholders -/

section Entries

variable {services : TextServices} {source : PyStr} {bound : Nat} {sentinels : Dict PyStr PyStr}

theorem MarkerEntry.found (entry : MarkerEntry sentinels) :
    sentinels.get? entry.1.1 = some entry.1.2 := Dict.get?_eq_some.mpr entry.2

theorem SentinelsSound.sentinel_leads (sound : SentinelsSound services source bound sentinels)
    (entry : MarkerEntry sentinels) : ∃ rest, entry.1.2 = chr '_' :: rest := by
  rcases sound.numbered _ _ entry.found with ⟨number, -, marker, pad, same⟩
  rw [same]
  exact ⟨_, rfl⟩

theorem SentinelsSound.sentinel_closed (sound : SentinelsSound services source bound sentinels)
    (entry : MarkerEntry sentinels) : chr '<' ∉ entry.1.2 := by
  rcases sound.numbered _ _ entry.found with ⟨number, -, isSentinel⟩
  intro inside
  have isWord := isSentinel.wordChars _ inside
  exact absurd isWord (by decide)

theorem SentinelsSound.separate (sound : SentinelsSound services source bound sentinels)
    {inner outer : MarkerEntry sentinels} (inside : inner.1.2 <:+: outer.1.2) : inner = outer := by
  rcases sound.numbered _ _ inner.found with ⟨number, -, isInner⟩
  rcases sound.numbered _ _ outer.found with ⟨other, -, isOuter⟩
  cases isInner.unique isOuter inside
  have marker := sound.apart _ _ _ _ inner.found outer.found number isInner isOuter
  apply Subtype.ext
  apply Prod.ext marker
  have found := outer.found
  rw [← marker, inner.found] at found
  exact Option.some.inj found

end Entries

def StructuralMarker (marker : PyStr) : Prop :=
  2 ≤ marker.length ∧ ∃ rest, marker = chr '<' :: rest

section Protection

variable {services : TextServices} {messages tools : PyValue} {markers : List PyStr}
  {sentinels : Dict PyStr PyStr}

def markerPlaceholders (valid : ∀ marker ∈ markers, StructuralMarker marker)
    (computed : markerSentinels services messages tools markers = .ok sentinels) :
    Placeholders PyChar (MarkerEntry sentinels) where
  word entry := entry.1.1
  code entry := entry.1.2
  opening := chr '<'
  lead := chr '_'
  lead_ne_opening := by decide
  word_opens entry := by
    rcases markerSentinels_sound valid computed with ⟨bound, sound⟩
    exact (sound.opens _ _ entry.found).2
  code_leads entry := by
    rcases markerSentinels_sound valid computed with ⟨bound, sound⟩
    exact sound.sentinel_leads entry
  code_closed entry := by
    rcases markerSentinels_sound valid computed with ⟨bound, sound⟩
    exact sound.sentinel_closed entry
  separate inner outer inside := by
    rcases markerSentinels_sound valid computed with ⟨bound, sound⟩
    exact sound.separate inside

def protectionOrder (sentinels : Dict PyStr PyStr) : List (MarkerEntry sentinels) :=
  (longestFirst sentinels).pmap Subtype.mk fun _ inside =>
    (List.mem_insertionSort fun left right : PyStr × PyStr =>
      right.1.length ≤ left.1.length).mp inside

theorem mem_protectionOrder (entry : MarkerEntry sentinels) :
    entry ∈ protectionOrder sentinels := by
  apply List.mem_pmap.mpr
  exact ⟨entry.1, (List.mem_insertionSort _).mpr entry.2, rfl⟩

variable (valid : ∀ marker ∈ markers, StructuralMarker marker)
  (computed : markerSentinels services messages tools markers = .ok sentinels)

theorem protectText_eq (text : PyStr) :
    protectText text sentinels =
      (markerPlaceholders valid computed).protect (protectionOrder sentinels) text := by
  rw [protectText, Placeholders.protect, protectionOrder, List.foldl_pmap, ← List.foldl_attach]
  rfl

theorem restoreText_eq (text : PyStr) :
    restoreText text sentinels =
      (markerPlaceholders valid computed).restore sentinels.entries.attach text := by
  rw [restoreText, Placeholders.restore, ← List.foldl_attach]
  rfl

theorem markers_absent {text : PyStr} (holds : messages.Holds text ∨ tools.Holds text) :
    (markerPlaceholders valid computed).Absent text := by
  intro entry
  rcases markerSentinels_sound valid computed with ⟨bound, sound⟩
  rcases sound.numbered _ _ entry.found with ⟨number, -, isSentinel⟩
  exact isSentinel.absent (sound.fresh _ _ entry.found) holds

end Protection

/-! ## The dictionary from sentinels to markers -/

section Inverted

variable {sentinels : Dict PyStr PyStr}

theorem get?_inverted {entries : List (PyStr × PyStr)} {inverted : Dict PyStr PyStr}
    (apart : ∀ left ∈ entries, ∀ right ∈ entries, left.2 = right.2 → left = right)
    (sentinel marker : PyStr) :
    (entries.foldl (fun inverted entry => inverted.set entry.2 entry.1) inverted).get? sentinel =
        some marker ↔
      (marker, sentinel) ∈ entries ∨
        inverted.get? sentinel = some marker ∧ ∀ entry ∈ entries, entry.2 ≠ sentinel := by
  induction entries generalizing inverted with
  | nil => simp
  | cons first entries induction =>
      have apartLater : ∀ left ∈ entries, ∀ right ∈ entries, left.2 = right.2 → left = right :=
        fun left leftInside right rightInside =>
          apart left (List.mem_cons_of_mem _ leftInside) right
          (List.mem_cons_of_mem _ rightInside)
      rw [List.foldl_cons, induction apartLater, Dict.get?_set, List.mem_cons,
        List.forall_mem_cons]
      by_cases here : sentinel = first.2
      · rw [if_pos here]
        constructor
        · intro either
          rcases either with inside | ⟨same, -⟩
          · exact .inl (.inr inside)
          · exact .inl (.inl (Prod.ext (Option.some.inj same).symm here))
        · intro either
          rcases either with (same | inside) | ⟨-, different, -⟩
          · by_cases again : ∃ entry ∈ entries, entry.2 = sentinel
            · rcases again with ⟨entry, inside, equal⟩
              have isFirst := apart entry (List.mem_cons_of_mem _ inside) first List.mem_cons_self
                (equal.trans here)
              rw [same, ← isFirst]
              exact .inl inside
            · right
              constructor
              · rw [← same]
              · exact fun entry inside equal => again ⟨entry, inside, equal⟩
          · exact .inl inside
          · exact absurd here.symm different
      · rw [if_neg here]
        have notFirst : (marker, sentinel) ≠ first := by
          intro same
          rw [← same] at here
          exact here rfl
        constructor
        · intro either
          rcases either with inside | ⟨found, others⟩
          · exact .inl (.inr inside)
          · exact .inr ⟨found, Ne.symm here, others⟩
        · intro either
          rcases either with (same | inside) | ⟨found, -, others⟩
          · exact absurd same notFirst
          · exact .inl inside
          · exact .inr ⟨found, others⟩

/-- The sentinels lead back to their markers. -/
theorem get?_sentinelToMarker {services : TextServices} {source : PyStr} {bound : Nat}
    (sound : SentinelsSound services source bound sentinels) (sentinel marker : PyStr) :
    (sentinelToMarker sentinels).get? sentinel = some marker ↔
      (marker, sentinel) ∈ sentinels.entries := by
  rw [sentinelToMarker, get?_inverted]
  · simp
  · intro left leftInside right rightInside same
    have inside : left.2 <:+: right.2 := by
      rw [same]
    have equal := @SentinelsSound.separate _ _ _ _ sound ⟨left, leftInside⟩
      ⟨right, rightInside⟩ inside
    exact congrArg Subtype.val equal

end Inverted

/-! ## The next sentinel -/

theorem earliest_eq_none {found : List (Nat × PyStr)} : earliest found = none ↔ found = [] := by
  cases found with
  | nil => simp [earliest]
  | cons first others =>
      rw [earliest]
      cases earliest others with
      | none => simp
      | some other =>
          dsimp only
          split
          · simp
          · simp

theorem earliest_spec {found : List (Nat × PyStr)} {best : Nat × PyStr}
    (isBest : earliest found = some best) :
    best ∈ found ∧ ∀ other ∈ found, best.1 ≤ other.1 := by
  induction found generalizing best with
  | nil => cases isBest
  | cons first others induction =>
      rw [earliest] at isBest
      cases later : earliest others with
      | none =>
          rw [later] at isBest
          cases isBest
          rw [earliest_eq_none.mp later]
          simp
      | some other =>
          rw [later] at isBest
          rcases induction later with ⟨member, least⟩
          dsimp only at isBest
          by_cases earlier : other.1 < first.1
          · rw [if_pos earlier] at isBest
            cases isBest
            constructor
            · exact List.mem_cons_of_mem _ member
            · intro another inside
              rcases List.mem_cons.mp inside with here | inside
              · rw [here]
                exact Nat.le_of_lt earlier
              · exact least another inside
          · rw [if_neg earlier] at isBest
            cases isBest
            constructor
            · exact List.mem_cons_self
            · intro another inside
              rcases List.mem_cons.mp inside with here | inside
              · rw [here]
              · exact Nat.le_trans (Nat.le_of_not_lt earlier) (least another inside)

theorem mem_sentinelMatches {text sentinel : PyStr} {position : Nat} {sentinels : List PyStr} :
    (position, sentinel) ∈ sentinelMatches text sentinels ↔
      sentinel ∈ sentinels ∧ find sentinel text = some position := by
  rw [sentinelMatches, List.mem_filterMap]
  constructor
  · intro some
    rcases some with ⟨other, inside, same⟩
    rcases Option.map_eq_some_iff.mp same with ⟨at_, found, pair⟩
    cases pair
    exact ⟨inside, found⟩
  · intro both
    exact ⟨sentinel, both.1, by rw [both.2]; rfl⟩

/-! ## The encoding of a marked text -/

section Encoding

variable {ε ι : Type}

/-- Ordinary encoding of the characters between the placed markers, literal encoding of these.
The characters in `run` are read already. -/
def markedIds (codec : TextCodec ε) (marker : ι → PyStr) (embeddings : Option ε) :
    PyStr → Marked PyChar ι → Except LiteralFailure (List Nat)
  | run, [] => encodedIds codec run true embeddings
  | run, .inl char :: rest => markedIds codec marker embeddings (run ++ [char]) rest
  | run, .inr index :: rest => do
      let ids ← encodedIds codec run true embeddings
      let literal ← literalIds codec (marker index)
      let behind ← markedIds codec marker embeddings [] rest
      return ids ++ literal ++ behind

def ordinaryRuns : PyStr → Marked PyChar ι → List PyStr
  | run, [] => [run]
  | run, .inl char :: rest => ordinaryRuns (run ++ [char]) rest
  | run, .inr _ :: rest => run :: ordinaryRuns [] rest

variable {codec : TextCodec ε} {marker : ι → PyStr} {embeddings : Option ε}

theorem markedIds_literal (run front : PyStr) (rest : Marked PyChar ι) :
    markedIds codec marker embeddings run (literal front ++ rest) =
      markedIds codec marker embeddings (run ++ front) rest := by
  induction front generalizing run with
  | nil =>
      rw [List.append_nil]
      rfl
  | cons char front induction =>
      have step := induction (run ++ [char])
      rw [List.append_assoc] at step
      exact step

theorem ordinaryRuns_infix (placeholders : Placeholders PyChar ι) {part run : PyStr}
    {marked : Marked PyChar ι} (isRun : part ∈ ordinaryRuns run marked) :
    part <:+: run ++ placeholders.render marked := by
  induction marked generalizing run with
  | nil =>
      cases List.mem_singleton.mp isRun
      exact (List.prefix_append _ _).isInfix
  | cons token marked induction =>
      cases token with
      | inl char =>
          have inside := induction isRun
          rw [List.append_assoc] at inside
          exact inside
      | inr index =>
          rcases List.mem_cons.mp isRun with here | later
          · rw [here]
            exact (List.prefix_append _ _).isInfix
          · have inside := induction later
            rw [List.nil_append] at inside
            rw [Placeholders.render_inr, ← List.append_assoc]
            exact inside.trans (List.suffix_append _ _).isInfix

def silentCodec : TextCodec ε := ⟨fun _ _ _ => .rows [.tokens []]⟩

theorem encodedIds_silent (text : PyStr) (special : Bool) (embeddings : Option ε) :
    encodedIds silentCodec text special embeddings = .ok [] := by
  rw [encodedIds]
  cases text with
  | nil => rfl
  | cons char text => rfl

theorem markedIds_silent (valid : ∀ index, StructuralMarker (marker index)) (run : PyStr)
    (marked : Marked PyChar ι) : markedIds silentCodec marker embeddings run marked = .ok [] := by
  induction marked generalizing run with
  | nil => exact encodedIds_silent run true embeddings
  | cons token marked induction =>
      cases token with
      | inl char => exact induction _
      | inr index =>
          have literal : literalIds (silentCodec (ε := ε)) (marker index) = .ok [] := by
            rcases valid index with ⟨long, rest, opens⟩
            have notShort : ¬((marker index).length < 2 ∨
                (marker index).head? ≠ some (chr '<')) := by
              rw [opens] at long ⊢
              simp only [List.head?_cons, ne_eq, not_true_eq_false, or_false]
              omega
            rw [literalIds, if_neg notShort, encodedIds_silent, encodedIds_silent]
            rfl
          rw [markedIds, encodedIds_silent, literal, induction]
          rfl

end Encoding

section Loop

variable {ε : Type} {services : TextServices} {messages tools : PyValue} {markers : List PyStr}
  {sentinels : Dict PyStr PyStr} (valid : ∀ marker ∈ markers, StructuralMarker marker)
  (computed : markerSentinels services messages tools markers = .ok sentinels)

/-- A pass of the loop stands before the rest of the text, or before its first sentinel. -/
theorem earliest_cases (text : PyStr) :
    (earliest (sentinelMatches text (sentinelToMarker sentinels).keys) = none ∧
        (markerPlaceholders valid computed).scan sentinels.entries.attach text = literal text) ∨
      ∃ (entry : MarkerEntry sentinels) (position : Nat),
        earliest (sentinelMatches text (sentinelToMarker sentinels).keys) =
            some (position, entry.1.2) ∧
          (sentinelToMarker sentinels).get? entry.1.2 = some entry.1.1 ∧
          (markerPlaceholders valid computed).scan sentinels.entries.attach text =
            literal (text.take position) ++ .inr entry ::
              (markerPlaceholders valid computed).scan sentinels.entries.attach
                (text.drop (position + entry.1.2.length)) ∧
          position < text.length := by
  rcases markerSentinels_sound valid computed with ⟨bound, sound⟩
  have nonempty : ∀ entry : MarkerEntry sentinels, entry.1.2 ≠ [] :=
    fun entry => @Placeholders.code_ne_nil _ _ (markerPlaceholders valid computed) entry
  have isKey : ∀ entry : MarkerEntry sentinels, entry.1.2 ∈ (sentinelToMarker sentinels).keys :=
    fun entry => Dict.mem_keys_of_get? ((get?_sentinelToMarker sound _ _).mpr entry.2)
  cases best : earliest (sentinelMatches text (sentinelToMarker sentinels).keys) with
  | none =>
      left
      refine ⟨rfl, ?_⟩
      have noMatch := earliest_eq_none.mp best
      have read := @Placeholders.scan_front _ _ (markerPlaceholders valid computed) _
        sentinels.entries.attach text [] ?_
      · rw [List.append_nil, Placeholders.scan_nil, List.append_nil] at read
        exact read
      · intro entry _ position _ occurs
        rw [List.append_nil] at occurs
        cases found : find entry.1.2 text with
        | none => exact (find_eq_none_iff (nonempty entry)).mp found position occurs
        | some first =>
            have isMatch := mem_sentinelMatches.mpr ⟨isKey entry, found⟩
            rw [noMatch] at isMatch
            exact List.not_mem_nil isMatch
  | some found =>
      right
      rcases found with ⟨position, sentinel⟩
      rcases earliest_spec best with ⟨member, least⟩
      rcases mem_sentinelMatches.mp member with ⟨key, found⟩
      rcases Dict.mem_keys.mp key with ⟨marker, back⟩
      have inside := (get?_sentinelToMarker sound _ _).mp back
      have occurs := (find_eq_some found).1
      have within := occurs.end_le (nonempty ⟨_, inside⟩)
      have short : position < text.length := by
        have positive := List.length_pos_iff.mpr (nonempty ⟨_, inside⟩)
        dsimp only at positive
        omega
      have split : text = text.take position ++
        (sentinel ++ text.drop (position + sentinel.length)) := by
        rcases occurs with ⟨after, equal⟩
        rw [← List.drop_drop, ← equal, List.drop_left, equal, List.take_append_drop]
      refine ⟨⟨(marker, sentinel), inside⟩, position, rfl, back, ?_, short⟩
      have read := @Placeholders.scan_front _ _ (markerPlaceholders valid computed) _
        sentinels.entries.attach (text.take position)
        (sentinel ++ text.drop (position + sentinel.length)) ?_
      · rw [← split] at read
        rw [read]
        exact congrArg _ (@Placeholders.scan_code _ _ (markerPlaceholders valid computed)
          ⟨(marker, sentinel), inside⟩ _ sentinels.entries.attach (List.mem_attach _ _) _)
      · intro entry _ start before occursEarlier
        rw [← split] at occursEarlier
        rw [List.length_take, Nat.min_eq_left (Nat.le_of_lt short)] at before
        cases other : find entry.1.2 text with
        | none => exact (find_eq_none_iff (nonempty entry)).mp other start occursEarlier
        | some first =>
            have notBefore := (find_eq_some other).2.2 start
            have later := least _ (mem_sentinelMatches.mpr ⟨isKey entry, other⟩)
            dsimp only at later
            by_cases earlier : start < first
            · exact notBefore earlier occursEarlier
            · omega

/-- The loop encodes what the sentinels mark. -/
theorem encodeFrom_eq (codec : TextCodec ε) (embeddings : Option ε) {fuel : Nat} {text : PyStr}
    (enough : text.length ≤ fuel) :
    encodeFrom codec (sentinelToMarker sentinels) embeddings fuel text =
      (markedIds codec (fun entry : MarkerEntry sentinels => entry.1.1) embeddings []
        ((markerPlaceholders valid computed).scan sentinels.entries.attach text)).map fun ids =>
          ((markerPlaceholders valid computed).expand
            ((markerPlaceholders valid computed).scan sentinels.entries.attach text), ids) := by
  induction fuel generalizing text with
  | zero =>
      rw [List.length_eq_zero_iff.mp (Nat.le_zero.mp enough), Placeholders.scan_nil]
      rfl
  | succ fuel induction =>
      rw [encodeFrom]
      by_cases empty : text = []
      · rw [if_pos empty, empty, Placeholders.scan_nil]
        rfl
      · rw [if_neg empty]
        rcases earliest_cases valid computed text with
          ⟨none, read⟩ | ⟨entry, position, next, back, read, short⟩
        · rw [none, read]
          have run := @markedIds_literal ε (MarkerEntry sentinels) codec (fun entry => entry.1.1)
            embeddings [] text []
          rw [List.append_nil, List.nil_append] at run
          rw [run, Placeholders.expand_literal, markedIds]
          dsimp only
          cases encodedIds codec text true embeddings with
          | error failure => rfl
          | ok ids => rfl
        · have positive := List.length_pos_iff.mpr
            (@Placeholders.code_ne_nil _ _ (markerPlaceholders valid computed) entry)
          have less : (text.drop (position + entry.1.2.length)).length ≤ fuel := by
            rw [List.length_drop]
            have same : ((markerPlaceholders valid computed).code entry).length =
                entry.1.2.length := rfl
            omega
          rw [next, read, markedIds_literal, Placeholders.expand_append,
            Placeholders.expand_literal, Placeholders.expand_inr, markedIds]
          dsimp only
          rw [back, Option.getD_some, induction less, List.nil_append]
          cases encodedIds codec (text.take position) true embeddings with
          | error failure => rfl
          | ok ids =>
              cases literalIds codec entry.1.1 with
              | error failure => rfl
              | ok literal =>
                  cases markedIds codec (fun entry : MarkerEntry sentinels => entry.1.1) embeddings
                    []
                      ((markerPlaceholders valid computed).scan sentinels.entries.attach
                        (text.drop (position + entry.1.2.length))) with
                  | error failure => rfl
                  | ok behind =>
                      rw [← List.append_assoc]
                      rfl

end Loop

/-! ## Exact protection -/

section Exact

variable {services : TextServices} {messages tools : PyValue} {markers : List PyStr}
  {sentinels : Dict PyStr PyStr}

/-- The text with the markers in place that the protection replaces, the longest first. -/
def longestFirstMarks (valid : ∀ marker ∈ markers, StructuralMarker marker)
    (computed : markerSentinels services messages tools markers = .ok sentinels) (text : PyStr) :
    Marked PyChar (MarkerEntry sentinels) :=
  (markerPlaceholders valid computed).placeAll (protectionOrder sentinels) (literal text)

/-- Protection is undone, hides the markers, and makes the markers in place, and nothing
else, be encoded as literal text. -/
structure ExactProtection (markers : List PyStr) (sentinels : Dict PyStr PyStr) (text : PyStr)
    (marked : Marked PyChar (MarkerEntry sentinels)) : Prop where
  restored : restoreText (protectText text sentinels) sentinels = text
  hidden : ∀ marker ∈ markers, ¬marker <:+: protectText text sentinels
  encoded : ∀ (ε : Type) (codec : TextCodec ε) (embeddings : Option ε),
    encodeProtectedPrompt codec (protectText text sentinels) sentinels embeddings =
      (markedIds codec (fun entry => entry.1.1) embeddings [] marked).map fun ids => (text, ids)
  ordinary : ∀ run ∈ ordinaryRuns [] marked, ∀ marker ∈ markers, ¬marker <:+: run

variable (valid : ∀ marker ∈ markers, StructuralMarker marker)
  (computed : markerSentinels services messages tools markers = .ok sentinels)

theorem hidden_iff (protectedText : PyStr) :
    (∀ marker ∈ markers, ¬marker <:+: protectedText) ↔
      ∀ entry, ¬(markerPlaceholders valid computed).word entry <:+: protectedText := by
  constructor
  · intro hidden entry
    exact hidden entry.1.1 ((markerSentinels_keys computed _).mp ⟨_, entry.found⟩)
  · intro hidden marker inside
    rcases (markerSentinels_keys computed marker).mpr inside with ⟨sentinel, found⟩
    exact hidden ⟨(marker, sentinel), Dict.get?_eq_some.mp found⟩

/-- Literal protection is exact for a text of the messages and tools exactly when the text and
the sentinels do not spell markers or sentinels together. -/
theorem exactProtection_iff_keepsApart {text : PyStr}
    (holds : messages.Holds text ∨ tools.Holds text) :
    ExactProtection markers sentinels text (longestFirstMarks valid computed text) ↔
      (markerPlaceholders valid computed).KeepsApart (protectionOrder sentinels)
        sentinels.entries.attach text := by
  have absent := markers_absent valid computed holds
  have whole := @Placeholders.protection_exact _ _ (markerPlaceholders valid computed) _ _
    (protectionOrder sentinels) sentinels.entries.attach sentinels.entries.attach
    mem_protectionOrder (List.mem_attach _) (List.mem_attach _) text absent
  rw [← protectText_eq, ← restoreText_eq, ← hidden_iff] at whole
  constructor
  · intro exact_
    apply whole.mp
    refine ⟨exact_.restored, exact_.hidden, ?_⟩
    have silent := exact_.encoded Unit silentCodec none
    have words : ∀ entry : MarkerEntry sentinels, StructuralMarker entry.1.1 := fun entry =>
      valid _ ((markerSentinels_keys computed _).mp ⟨_, entry.found⟩)
    rw [encodeProtectedPrompt, encodeFrom_eq valid computed _ _ (Nat.le_refl _),
      markedIds_silent words, markedIds_silent words] at silent
    exact (Prod.mk.inj (Except.ok.inj silent)).1
  · intro apart
    rcases whole.mpr apart with ⟨restored, hidden, read⟩
    have placed := apart.protect_eq
    have marks := apart.scan_eq (List.mem_attach _) absent
    rw [← protectText_eq] at placed marks
    constructor
    · exact restored
    · exact hidden
    · intro ε codec embeddings
      rw [encodeProtectedPrompt, encodeFrom_eq valid computed _ _ (Nat.le_refl _), read, marks]
      rfl
    · intro run isRun marker inside shown
      rw [longestFirstMarks] at isRun
      have part := ordinaryRuns_infix (markerPlaceholders valid computed) isRun
      rw [List.nil_append, ← placed] at part
      exact hidden marker inside (shown.trans part)

def userMessage (text : PyStr) : PyValue :=
  .list [.dict [(.str (py "role"), .str (py "user")), (.str (py "content"), .str text)]]

theorem userMessage_holds (text : PyStr) : (userMessage text).Holds text :=
  .item List.mem_cons_self (.value (List.mem_cons_of_mem _ List.mem_cons_self) .here)

def noTools : PyValue := .scalar (py "None")

def boldServices : TextServices where
  printable char := decide (0x20 ≤ char.val ∧ char.val < 0x7f)
  sha256Hexdigest _ := py "507ca5a2742e533022ed641cb7c8d830d815ea5dcd4f37e470c2cd206ac01875"
  printableAscii char low high := by
    rw [decide_eq_true_eq]
    exact ⟨low, high⟩
  hexadecimal text := by
    have all : (py "507ca5a2742e533022ed641cb7c8d830d815ea5dcd4f37e470c2cd206ac01875").all
        (fun char => (py "0123456789abcdef").contains char) = true := by decide
    rw [List.all_eq_true] at all
    exact fun char inside => List.contains_iff_mem.mp (all char inside)

def boldSentinel : PyStr := py "__EXQSERVE_STRUCTURAL_LITERAL_0_507ca5a2742e5330__"

def boldSentinels : Dict PyStr PyStr := Dict.empty.set (py "<b>") boldSentinel

/-- The text of the message is the only thing the sentinel could be found in. -/
theorem bold_computed {text : PyStr}
    (fresh :
      sentinelTaken (sourceRepr boldServices (userMessage text) noTools) .empty boldSentinel =
      false) :
    markerSentinels boldServices (userMessage text) noTools [py "<b>"] = .ok boldSentinels := by
  have encodable : (!(py "<b>").utf8Encodable) = false := by decide
  have stem : sentinelStem boldServices 0 (py "<b>") = boldSentinel := by decide
  rw [markerSentinels, markerSentinelsFrom, if_neg (by rw [encodable]; decide), stem, padSentinel,
    if_neg (by rw [fresh]; decide)]
  rfl

def breakSentinel : PyStr := py "__EXQSERVE_STRUCTURAL_LITERAL_1_507ca5a2742e5330__"

def markupSentinels : Dict PyStr PyStr := boldSentinels.set (py "<br>") breakSentinel

theorem markup_valid : ∀ marker ∈ [py "<b>", py "<br>"], StructuralMarker marker := by
  intro marker inside
  rcases List.mem_pair.mp inside with rfl | rfl
  · exact ⟨by decide, _, rfl⟩
  · exact ⟨by decide, _, rfl⟩

def markupText : PyStr := py "a<b>c<br>d<b>"

theorem markup_computed : markerSentinels boldServices (userMessage markupText) noTools
    [py "<b>", py "<br>"] = .ok markupSentinels := by
  decide +kernel

/-- Text with two markers, one of them twice, is protected. -/
theorem exactProtection_iff_keepsApart_markup :
    ExactProtection [py "<b>", py "<br>"] markupSentinels markupText
      (longestFirstMarks markup_valid markup_computed markupText) := by
  have holds := userMessage_holds markupText
  rw [exactProtection_iff_keepsApart markup_valid markup_computed (.inl holds)]
  have absent := markers_absent markup_valid markup_computed (.inl holds)
  apply (@Placeholders.protection_exact _ _ (markerPlaceholders markup_valid markup_computed) _ _
    (protectionOrder markupSentinels) markupSentinels.entries.attach markupSentinels.entries.attach
    mem_protectionOrder (List.mem_attach _) (List.mem_attach _) markupText absent).mp
  rw [← protectText_eq, ← restoreText_eq, ← hidden_iff]
  refine ⟨?_, ?_, ?_⟩
  · decide +kernel
  · decide +kernel
  · decide +kernel

/-- The sentinel without its last underscores, and a marker behind it. -/
def splitSentinel : PyStr := py "__EXQSERVE_STRUCTURAL_LITERAL_0_507ca5a2742e5330<b>"

/-- The protected text spells the sentinel across the end of the text, so that the restored
text is another one. -/
theorem splitSentinel_not_protected :
    (userMessage splitSentinel).Holds splitSentinel ∧
      markerSentinels boldServices (userMessage splitSentinel) noTools [py "<b>"] =
        .ok boldSentinels ∧
      ∀ marked, ¬ExactProtection [py "<b>"] boldSentinels splitSentinel marked := by
  refine ⟨userMessage_holds _, bold_computed (by decide +kernel), ?_⟩
  intro marked exact_
  have restored : restoreText (protectText splitSentinel boldSentinels) boldSentinels =
      py "<b>EXQSERVE_STRUCTURAL_LITERAL_0_507ca5a2742e5330__" := by decide +kernel
  rw [exact_.restored] at restored
  exact absurd restored (by decide)

end Exact

end ExQServe.Runtime
