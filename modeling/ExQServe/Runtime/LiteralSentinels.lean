import ExQServe.Runtime.LiteralMarkers

/-! # Sentinels

Sentinels are made of word characters, none is part of another, and none occurs in a text
of the messages and tools they are computed for. -/

namespace ExQServe.Runtime

open ExQServe.Search ExQServe.Model.Qwen

/-! ## Word characters -/

/-- ASCII letters, digits and the underscore, which `repr` shows as they are. -/
def wordChar (char : PyChar) : Bool :=
  decide (48 ≤ char.val ∧ char.val ≤ 57 ∨ 65 ≤ char.val ∧ char.val ≤ 90 ∨ char.val = 95 ∨
    97 ≤ char.val ∧ char.val ≤ 122)

theorem pyNat_digits (value : Nat) : ∀ char ∈ pyNat value, 48 ≤ char.val ∧ char.val ≤ 57 := by
  intro char inside
  rcases List.mem_map.mp inside with ⟨digit, found, rfl⟩
  have isDigit := Nat.isDigit_of_mem_toDigits (by decide) (by decide) found
  rw [Char.isDigit, Bool.and_eq_true, decide_eq_true_eq, decide_eq_true_eq] at isDigit
  exact isDigit

theorem pyNat_injective {left right : Nat} (same : pyNat left = pyNat right) : left = right := by
  have digits : Nat.toDigits 10 left = Nat.toDigits 10 right := by
    apply List.map_injective_iff.mpr ?_ same
    intro first second equal
    have codes := congrArg (fun char : PyChar => char.val) equal
    exact Char.toNat_inj.mp codes
  rw [← @Nat.ofDigitChars_ten_toDigits left, digits, Nat.ofDigitChars_ten_toDigits]

def IsSentinel (services : TextServices) (index : Nat) (sentinel : PyStr) : Prop :=
  ∃ marker pad, sentinel = sentinelStem services index marker ++ List.replicate pad (chr '_')

variable {services : TextServices} {index : Nat} {sentinel : PyStr}

/-- A sentinel around its only `X`, its number and the underscore behind it. -/
theorem IsSentinel.parts (isSentinel : IsSentinel services index sentinel) :
    ∃ rest, sentinel = py "__E" ++ chr 'X' ::
        (py "QSERVE_STRUCTURAL_LITERAL_" ++ (pyNat index ++ chr '_' :: rest)) ∧
      ∀ char ∈ rest, char = chr '_' ∨ char ∈ py "0123456789abcdef" := by
  rcases isSentinel with ⟨marker, pad, rfl⟩
  have hex := services.hexadecimal marker
  refine ⟨(services.sha256Hexdigest marker).take 16 ++ py "__" ++ List.replicate pad (chr '_'), ?_,
    ?_⟩
  · rw [sentinelStem]
    have head : py "__EXQSERVE_STRUCTURAL_LITERAL_" =
        py "__E" ++ chr 'X' :: py "QSERVE_STRUCTURAL_LITERAL_" := rfl
    have underscore : py "_" = [chr '_'] := rfl
    rw [head, underscore]
    simp only [List.append_assoc, List.cons_append, List.nil_append]
  · intro char inside
    simp only [List.mem_append] at inside
    rcases inside with (digit | tail) | padding
    · exact .inr (hex char (List.mem_of_mem_take digit))
    · left
      have both : py "__" = List.replicate 2 (chr '_') := rfl
      rw [both] at tail
      exact List.eq_of_mem_replicate tail
    · exact .inl (List.eq_of_mem_replicate padding)

theorem IsSentinel.wordChars (isSentinel : IsSentinel services index sentinel) :
    ∀ char ∈ sentinel, wordChar char = true := by
  rcases isSentinel.parts with ⟨rest, rfl, plain⟩
  have first : (py "__E").all wordChar = true := by decide
  have second : (py "QSERVE_STRUCTURAL_LITERAL_").all wordChar = true := by decide
  have hex : (py "0123456789abcdef").all wordChar = true := by decide
  rw [List.all_eq_true] at first second hex
  intro char inside
  simp only [List.mem_append, List.mem_cons] at inside
  rcases inside with head | rfl | body | digit | rfl | tail
  · exact first char head
  · decide
  · exact second char body
  · rw [wordChar, decide_eq_true_eq]
    exact .inl (pyNat_digits index char digit)
  · decide
  · rcases plain char tail with rfl | digit
    · decide
    · exact hex char digit

theorem not_x_behind {rest : PyStr}
    (plain : ∀ char ∈ rest, char = chr '_' ∨ char ∈ py "0123456789abcdef") :
    chr 'X' ∉ py "QSERVE_STRUCTURAL_LITERAL_" ++ (pyNat index ++ chr '_' :: rest) := by
  have body : chr 'X' ∉ py "QSERVE_STRUCTURAL_LITERAL_" := by decide
  have hex : chr 'X' ∉ py "0123456789abcdef" := by decide
  have line : chr 'X' ≠ chr '_' := by decide
  intro inside
  simp only [List.mem_append, List.mem_cons] at inside
  rcases inside with early | digit | equal | tail
  · exact body early
  · have bound := (pyNat_digits index _ digit).2
    exact absurd bound (by decide)
  · exact line equal
  · rcases plain _ tail with equal | digit
    · exact line equal
    · exact hex digit

/-- The number of a sentinel ends at the first underscore. -/
theorem number_unique {left right : Nat} {leftRest rightRest : PyStr}
    (same : pyNat left ++ chr '_' :: leftRest = pyNat right ++ chr '_' :: rightRest) :
    left = right := by
  have number : ∀ (value : Nat) (rest : PyStr),
      (pyNat value ++ chr '_' :: rest).takeWhile (fun char => decide (char ≠ chr '_')) =
        pyNat value := by
    intro value rest
    rw [List.takeWhile_append_of_pos]
    · rw [List.takeWhile_cons_of_neg (by decide), List.append_nil]
    · intro char inside
      rw [decide_eq_true_eq]
      rintro rfl
      have bound := (pyNat_digits value _ inside).2
      exact absurd bound (by decide)
  apply pyNat_injective
  rw [← number left leftRest, same, number]

theorem IsSentinel.unique {other : Nat} {outer : PyStr}
    (isInner : IsSentinel services index sentinel) (isOuter : IsSentinel services other outer)
    (inside : sentinel <:+: outer) : index = other := by
  rcases isInner.parts with ⟨rest, rfl, -⟩
  rcases isOuter.parts with ⟨outerRest, rfl, plain⟩
  rcases inside with ⟨before, after, split⟩
  simp only [List.append_assoc, List.cons_append] at split
  rw [← List.append_assoc] at split
  have clean : chr 'X' ∉ py "__E" := by decide
  rcases (List.append_cons_inj_of_notMem clean (not_x_behind plain)).mp split.symm with ⟨-, -, same⟩
  exact number_unique (List.append_cancel_left same).symm

/-! ## Padding -/

theorem IsSentinel.pad (isSentinel : IsSentinel services index sentinel) :
    IsSentinel services index (sentinel ++ py "_") := by
  rcases isSentinel with ⟨marker, pad, rfl⟩
  refine ⟨marker, pad + 1, ?_⟩
  rw [List.replicate_succ', ← List.append_assoc]
  rfl

/-- A sentinel of another number is not among those that are there. -/
theorem sentinelTaken_iff {source : PyStr} {result : Dict PyStr PyStr}
    (numbered : ∀ entry ∈ result.entries, ∃ number < index, IsSentinel services number entry.2)
    (isSentinel : IsSentinel services index sentinel) :
    sentinelTaken source result sentinel = true ↔ sentinel <:+: source := by
  rw [sentinelTaken, Bool.or_eq_true, decide_eq_true_eq]
  constructor
  · intro either
    rcases either with inSource | among
    · exact inSource
    · rw [List.contains_iff_mem] at among
      rcases List.mem_map.mp among with ⟨entry, inside, rfl⟩
      rcases numbered entry inside with ⟨number, less, other⟩
      have same := isSentinel.unique other List.infix_rfl
      exact absurd less (by rw [same]; exact Nat.lt_irrefl _)
  · exact .inl

/-- The padding ends with a sentinel that is not in the source. -/
theorem padSentinel_spec {source : PyStr} {taken : PyStr → Bool} {fuel : Nat}
    (exact_ : ∀ sentinel, IsSentinel services index sentinel →
      (taken sentinel = true ↔ sentinel <:+: source))
    (isSentinel : IsSentinel services index sentinel)
    (enough : source.length < sentinel.length + fuel) :
    IsSentinel services index (padSentinel taken fuel sentinel) ∧
      ¬padSentinel taken fuel sentinel <:+: source := by
  induction fuel generalizing sentinel with
  | zero =>
      refine ⟨isSentinel, ?_⟩
      intro inside
      exact absurd inside.length_le (Nat.not_le_of_lt enough)
  | succ fuel induction =>
      rw [padSentinel]
      by_cases isTaken : taken sentinel = true
      · rw [if_pos isTaken]
        apply induction isSentinel.pad
        have one : (py "_").length = 1 := rfl
        rw [List.length_append, one]
        omega
      · rw [if_neg isTaken]
        exact ⟨isSentinel, fun inside => isTaken ((exact_ sentinel isSentinel).mpr inside)⟩

/-! ## The dictionary -/

/-- Every marker opens, has a sentinel that is not in the source, and no other marker has
one of the same number. -/
structure SentinelsSound (services : TextServices) (source : PyStr) (bound : Nat)
    (result : Dict PyStr PyStr) : Prop where
  opens : ∀ marker sentinel, result.get? marker = some sentinel →
    2 ≤ marker.length ∧ ∃ rest, marker = chr '<' :: rest
  numbered : ∀ marker sentinel, result.get? marker = some sentinel →
    ∃ number < bound, IsSentinel services number sentinel
  fresh : ∀ marker sentinel, result.get? marker = some sentinel → ¬sentinel <:+: source
  apart : ∀ marker sentinel other outer, result.get? marker = some sentinel →
    result.get? other = some outer → ∀ number, IsSentinel services number sentinel →
      IsSentinel services number outer → marker = other

theorem SentinelsSound.set {source : PyStr} {result : Dict PyStr PyStr} {marker : PyStr}
    (sound : SentinelsSound services source index result) (long : 2 ≤ marker.length)
    (opens : ∃ rest, marker = chr '<' :: rest) (isSentinel : IsSentinel services index sentinel)
    (fresh : ¬sentinel <:+: source) :
    SentinelsSound services source (index + 1) (result.set marker sentinel) := by
  have later : ∀ other outer, result.get? other = some outer →
      ¬IsSentinel services index outer := by
    intro other outer found again
    rcases sound.numbered other outer found with ⟨number, less, isOuter⟩
    have same := again.unique isOuter List.infix_rfl
    omega
  constructor
  · intro other outer found
    rw [Dict.get?_set] at found
    by_cases here : other = marker
    · rw [here]
      exact ⟨long, opens⟩
    · rw [if_neg here] at found
      exact sound.opens other outer found
  · intro other outer found
    rw [Dict.get?_set] at found
    by_cases here : other = marker
    · rw [if_pos here] at found
      cases found
      exact ⟨index, Nat.lt_succ_self _, isSentinel⟩
    · rw [if_neg here] at found
      rcases sound.numbered other outer found with ⟨number, less, isOuter⟩
      exact ⟨number, Nat.lt_succ_of_lt less, isOuter⟩
  · intro other outer found
    rw [Dict.get?_set] at found
    by_cases here : other = marker
    · rw [if_pos here] at found
      cases found
      exact fresh
    · rw [if_neg here] at found
      exact sound.fresh other outer found
  · intro left leftSentinel right rightSentinel leftFound rightFound number isLeft isRight
    rw [Dict.get?_set] at leftFound rightFound
    by_cases leftHere : left = marker
    · by_cases rightHere : right = marker
      · rw [leftHere, rightHere]
      · rw [if_pos leftHere] at leftFound
        rw [if_neg rightHere] at rightFound
        cases leftFound
        have same := isSentinel.unique isLeft List.infix_rfl
        rw [← same] at isRight
        exact absurd isRight (later right rightSentinel rightFound)
    · rw [if_neg leftHere] at leftFound
      by_cases rightHere : right = marker
      · rw [if_pos rightHere] at rightFound
        cases rightFound
        have same := isSentinel.unique isRight List.infix_rfl
        rw [← same] at isLeft
        exact absurd isLeft (later left leftSentinel leftFound)
      · rw [if_neg rightHere] at rightFound
        exact sound.apart left leftSentinel right rightSentinel leftFound rightFound number isLeft
          isRight

theorem markerSentinelsFrom_sound {source : PyStr} {markers : List PyStr}
    {result sentinels : Dict PyStr PyStr} (sound : SentinelsSound services source index result)
    (valid : ∀ marker ∈ markers, 2 ≤ marker.length ∧ ∃ rest, marker = chr '<' :: rest)
    (computed : markerSentinelsFrom services source index markers result = .ok sentinels) :
    ∃ bound, SentinelsSound services source bound sentinels := by
  induction markers generalizing index result with
  | nil =>
      cases computed
      exact ⟨index, sound⟩
  | cons marker markers induction =>
      rw [markerSentinelsFrom] at computed
      by_cases encodable : (!marker.utf8Encodable) = true
      · rw [if_pos encodable] at computed
        cases computed
      · rw [if_neg encodable] at computed
        have stem : IsSentinel services index (sentinelStem services index marker) :=
          ⟨marker, 0, (List.append_nil _).symm⟩
        have numbered : ∀ entry ∈ result.entries,
            ∃ number < index, IsSentinel services number entry.2 :=
          fun entry inside => sound.numbered entry.1 entry.2 (Dict.get?_eq_some.mpr inside)
        have enough : source.length <
            (sentinelStem services index marker).length + (source.length + 1) := by omega
        rcases padSentinel_spec (fun _ => sentinelTaken_iff numbered) stem enough with
          ⟨isSentinel, fresh⟩
        rcases valid marker List.mem_cons_self with ⟨long, opens⟩
        exact induction (sound.set long opens isSentinel fresh)
          (fun other inside => valid other (List.mem_cons_of_mem _ inside)) computed

theorem markerSentinels_sound {messages tools : PyValue} {markers : List PyStr}
    {sentinels : Dict PyStr PyStr}
    (valid : ∀ marker ∈ markers, 2 ≤ marker.length ∧ ∃ rest, marker = chr '<' :: rest)
    (computed : markerSentinels services messages tools markers = .ok sentinels) :
    ∃ bound, SentinelsSound services (sourceRepr services messages tools) bound sentinels := by
  apply markerSentinelsFrom_sound ?_ valid computed
  constructor
  · intro marker sentinel found
    cases found
  · intro marker sentinel found
    cases found
  · intro marker sentinel found
    cases found
  · intro marker sentinel other outer found
    cases found

theorem markerSentinelsFrom_keys {source : PyStr} {markers : List PyStr}
    {result sentinels : Dict PyStr PyStr}
    (computed : markerSentinelsFrom services source index markers result = .ok sentinels)
    (marker : PyStr) :
    (∃ sentinel, sentinels.get? marker = some sentinel) ↔
      marker ∈ markers ∨ ∃ sentinel, result.get? marker = some sentinel := by
  induction markers generalizing index result with
  | nil =>
      cases computed
      simp
  | cons first markers induction =>
      rw [markerSentinelsFrom] at computed
      by_cases encodable : (!first.utf8Encodable) = true
      · rw [if_pos encodable] at computed
        cases computed
      · rw [if_neg encodable] at computed
        rw [induction computed, Dict.get?_set, List.mem_cons]
        by_cases here : marker = first
        · rw [if_pos here]
          exact ⟨fun _ => .inl (.inl here), fun _ => .inr ⟨_, rfl⟩⟩
        · rw [if_neg here]
          simp only [here, false_or]

theorem markerSentinels_keys {messages tools : PyValue} {markers : List PyStr}
    {sentinels : Dict PyStr PyStr}
    (computed : markerSentinels services messages tools markers = .ok sentinels) (marker : PyStr) :
    (∃ sentinel, sentinels.get? marker = some sentinel) ↔ marker ∈ markers := by
  rw [markerSentinelsFrom_keys computed]
  simp

/-! ## Texts in the source -/

theorem reprChar_word {quote char : PyChar} (isQuote : wordChar quote = false)
    (isWord : wordChar char = true) : PyValue.reprChar services quote char = [char] := by
  have differs : ∀ other, wordChar other = false → char ≠ other := by
    intro other notWord same
    rw [same, notWord] at isWord
    cases isWord
  have printable : services.printable char = true := by
    rw [wordChar, decide_eq_true_eq] at isWord
    apply services.printableAscii
    · omega
    · omega
  have special : ¬(char = quote ∨ char = chr '\\') := by
    intro either
    rcases either with same | same
    · exact differs _ isQuote same
    · exact differs _ (by decide) same
  rw [PyValue.reprChar, if_neg special, if_neg (differs (chr '\t') (by decide)),
    if_neg (differs (chr '\n') (by decide)), if_neg (differs (chr '\r') (by decide)),
      if_pos printable]

theorem words_in_reprText {words text : PyStr} (isWords : ∀ char ∈ words, wordChar char = true)
    (inside : words <:+: text) : words <:+: PyValue.reprText services text := by
  have isQuote : wordChar (PyValue.reprQuote text) = false := by
    rw [PyValue.reprQuote]
    cases text.contains (chr '\'') && !text.contains (chr '"') with
    | true => decide
    | false => decide
  have shown : words.flatMap (PyValue.reprChar services (PyValue.reprQuote text)) = words := by
    induction words with
    | nil => rfl
    | cons char words induction =>
        rw [List.flatMap_cons, reprChar_word isQuote (isWords char List.mem_cons_self),
          induction (fun other found => isWords other (List.mem_cons_of_mem _ found))
            ((List.suffix_cons _ _).isInfix.trans inside)]
        rfl
  rcases inside with ⟨before, after, rfl⟩
  rw [PyValue.reprText]
  generalize PyValue.reprQuote (before ++ words ++ after) = quote at shown
  rw [List.flatMap_append, List.flatMap_append, shown]
  refine ⟨quote :: before.flatMap (PyValue.reprChar services quote),
    after.flatMap (PyValue.reprChar services quote) ++ [quote], ?_⟩
  simp only [List.append_assoc, List.cons_append]

theorem part_in_joinItems {part : PyStr} {parts : List PyStr} (inside : part ∈ parts) :
    part <:+: PyValue.joinItems parts := by
  induction parts with
  | nil => cases inside
  | cons first parts induction =>
      cases parts with
      | nil =>
          cases List.mem_singleton.mp inside
          exact List.infix_rfl
      | cons second parts =>
          rw [PyValue.joinItems]
          · rcases List.mem_cons.mp inside with here | later
            · rw [here, List.append_assoc]
              exact (List.prefix_append _ _).isInfix
            · exact (induction later).trans (List.suffix_append _ _).isInfix
          · exact fun none => List.cons_ne_nil _ _ none

theorem item_in_reprItems {item : PyValue} {items : List PyValue} (inside : item ∈ items) :
    item.repr services ∈ PyValue.reprItems services items := by
  induction items with
  | nil => cases inside
  | cons first items induction =>
      rw [PyValue.reprItems]
      rcases List.mem_cons.mp inside with here | later
      · rw [here]
        exact List.mem_cons_self
      · exact List.mem_cons_of_mem _ (induction later)

theorem entry_in_reprEntries {key value : PyValue} {entries : List (PyValue × PyValue)}
    (inside : (key, value) ∈ entries) :
    key.repr services ++ py ": " ++ value.repr services ∈ PyValue.reprEntries services entries := by
  induction entries with
  | nil => cases inside
  | cons first entries induction =>
      rw [PyValue.reprEntries]
      rcases List.mem_cons.mp inside with here | later
      · rw [← here]
        exact List.mem_cons_self
      · exact List.mem_cons_of_mem _ (induction later)

/-- What is part of a text in the value, and is made of word characters, is part of its
`repr`. -/
theorem words_in_repr {words text : PyStr} (isWords : ∀ char ∈ words, wordChar char = true)
    (inside : words <:+: text) {value : PyValue} (holds : value.Holds text) :
    words <:+: value.repr services := by
  have around : ∀ left middle right : PyStr, middle <:+: left ++ middle ++ right :=
    fun left middle right => ⟨left, right, rfl⟩
  induction holds with
  | here =>
      rw [PyValue.repr]
      exact words_in_reprText isWords inside
  | item member _ induction =>
      rw [PyValue.repr]
      exact (induction.trans (part_in_joinItems (item_in_reprItems member))).trans (around _ _ _)
  | @key entries key value member _ induction =>
      rw [PyValue.repr]
      have inEntry : words <:+: key.repr services ++ py ": " ++ value.repr services := by
        rw [List.append_assoc]
        exact induction.trans (List.prefix_append _ _).isInfix
      exact (inEntry.trans (part_in_joinItems (entry_in_reprEntries member))).trans (around _ _ _)
  | @value entries key value member _ induction =>
      rw [PyValue.repr]
      have inEntry : words <:+: key.repr services ++ py ": " ++ value.repr services :=
        induction.trans (List.suffix_append _ _).isInfix
      exact (inEntry.trans (part_in_joinItems (entry_in_reprEntries member))).trans (around _ _ _)

/-- A sentinel that is not in the source is in no text of the messages and tools. -/
theorem IsSentinel.absent {messages tools : PyValue} {text : PyStr}
    (isSentinel : IsSentinel services index sentinel)
    (fresh : ¬sentinel <:+: sourceRepr services messages tools)
    (holds : messages.Holds text ∨ tools.Holds text) : ¬sentinel <:+: text := by
  intro inside
  apply fresh
  rw [sourceRepr]
  rcases holds with inMessages | inTools
  · have part := @words_in_repr services _ _ isSentinel.wordChars inside _ inMessages
    simp only [List.append_assoc]
    exact part.trans ⟨py "(", py ", " ++ (tools.repr services ++ py ")"), rfl⟩
  · have part := @words_in_repr services _ _ isSentinel.wordChars inside _ inTools
    exact part.trans ⟨py "(" ++ messages.repr services ++ py ", ", py ")", rfl⟩

end ExQServe.Runtime
