import ExQServe.Model.DeepSeekV4.Scanning

/-! # Closes in a text that grows

What the finders say about a text they say about every longer text, as long as no invoke takes
its payload from behind the close. The state that a search carries on is only a cache. -/

namespace ExQServe.Model.DeepSeekV4

open ExQServe.Search

/-! ## Outside of strings -/

def QuoteState.after (state : QuoteState) (text : PyStr) : QuoteState := text.foldl step state

structure OutsideAt (pattern : PyStr) (state : QuoteState) (text : PyStr) (position : Nat) :
    Prop where
  occurs : Occurs pattern text position
  outside : (state.after (text.take position)).inString = false

theorem outsideAt_zero {pattern text : PyStr} {state : QuoteState} :
    OutsideAt pattern state text 0 ↔ state.inString = false ∧ pattern <+: text :=
  ⟨fun here => ⟨here.outside, here.occurs⟩, fun both => ⟨both.2, both.1⟩⟩

theorem outsideAt_succ {pattern rest : PyStr} {state : QuoteState} {char : PyChar}
    {position : Nat} : OutsideAt pattern state (char :: rest) (position + 1) ↔
      OutsideAt pattern (state.step char) rest position :=
  ⟨fun here => ⟨here.occurs, here.outside⟩, fun here => ⟨here.occurs, here.outside⟩⟩

theorem findOutside_eq_some {pattern text : PyStr} {state : QuoteState} {position : Nat}
    (found : findOutside pattern state text = some position) :
    OutsideAt pattern state text position ∧
      ∀ earlier < position, ¬OutsideAt pattern state text earlier := by
  induction text generalizing state position with
  | nil => cases found
  | cons char rest induction =>
      rw [findOutside] at found
      by_cases here : state.inString = false ∧ pattern <+: char :: rest
      · rw [if_pos here] at found
        cases found
        exact ⟨outsideAt_zero.mpr here, fun _ before => absurd before (Nat.not_lt_zero _)⟩
      · rw [if_neg here] at found
        rcases Option.map_eq_some_iff.mp found with ⟨inner, later, same⟩
        subst same
        rcases induction later with ⟨at_, first⟩
        refine ⟨outsideAt_succ.mpr at_, ?_⟩
        intro earlier before
        cases earlier with
        | zero => exact fun start => here (outsideAt_zero.mp start)
        | succ earlier =>
            exact fun start => first earlier (by omega) (outsideAt_succ.mp start)

theorem findOutside_eq_none {pattern text : PyStr} {state : QuoteState} (nonempty : pattern ≠ [])
    (missing : findOutside pattern state text = none) :
    ∀ position, ¬OutsideAt pattern state text position := by
  induction text generalizing state with
  | nil =>
      intro position here
      have bound := here.occurs.end_le nonempty
      have positive := List.length_pos_iff.mpr nonempty
      simp only [List.length_nil] at bound
      omega
  | cons char rest induction =>
      rw [findOutside] at missing
      by_cases here : state.inString = false ∧ pattern <+: char :: rest
      · rw [if_pos here] at missing
        cases missing
      · rw [if_neg here] at missing
        intro position
        cases position with
        | zero => exact fun start => here (outsideAt_zero.mp start)
        | succ position =>
            exact fun start =>
              induction (Option.map_eq_none_iff.mp missing) position (outsideAt_succ.mp start)

theorem findOutside_eq_some_iff {pattern text : PyStr} {state : QuoteState} {position : Nat}
    (nonempty : pattern ≠ []) : findOutside pattern state text = some position ↔
      OutsideAt pattern state text position ∧
        ∀ earlier < position, ¬OutsideAt pattern state text earlier := by
  constructor
  · exact findOutside_eq_some
  · intro both
    cases found : findOutside pattern state text with
    | none => exact absurd both.1 (findOutside_eq_none nonempty found position)
    | some other =>
        have facts := findOutside_eq_some found
        have notLess : ¬other < position := fun less => both.2 other less facts.1
        have notMore : ¬position < other := fun more => facts.2 position more both.1
        congr
        omega

theorem outsideAt_append {pattern text : PyStr} {state : QuoteState} {position : Nat}
    (nonempty : pattern ≠ []) (rest : PyStr) (inside : position + pattern.length ≤ text.length) :
    OutsideAt pattern state (text ++ rest) position ↔ OutsideAt pattern state text position := by
  have front : (text ++ rest).take position = text.take position :=
    List.take_append_of_le_length (by omega)
  constructor
  · exact fun here => ⟨here.occurs.of_append inside, front ▸ here.outside⟩
  · intro here
    refine ⟨here.occurs.append nonempty rest, ?_⟩
    rw [front]
    exact here.outside

theorem findOutside_append_of_some {pattern text : PyStr} {state : QuoteState} {position : Nat}
    (nonempty : pattern ≠ []) (found : findOutside pattern state text = some position)
    (rest : PyStr) : findOutside pattern state (text ++ rest) = some position := by
  rw [findOutside_eq_some_iff nonempty] at found ⊢
  have bound := found.1.occurs.end_le nonempty
  refine ⟨(outsideAt_append nonempty rest bound).mpr found.1, ?_⟩
  intro earlier before here
  exact found.2 earlier before ((outsideAt_append nonempty rest (by omega)).mp here)

/-- What is found only in the longer text goes on over the end of the shorter one. -/
theorem lt_of_findOutside_append {pattern text rest : PyStr} {state : QuoteState} {position : Nat}
    (nonempty : pattern ≠ []) (missing : findOutside pattern state text = none)
    (found : findOutside pattern state (text ++ rest) = some position) :
    text.length < position + pattern.length := by
  apply Nat.lt_of_not_le
  intro inside
  have here := (findOutside_eq_some found).1
  exact findOutside_eq_none nonempty missing position
    ((outsideAt_append nonempty rest inside).mp here)

theorem drop_append_nonempty {text rest : PyStr} {start : Nat} (inside : start ≤ text.length) :
    (text ++ rest).drop start = text.drop start ++ rest :=
  List.drop_append_of_le_length inside

theorem findOutsideStrings_append_of_some {pattern source : PyStr} {start position : Nat}
    (nonempty : pattern ≠ []) (found : findOutsideStrings pattern source start = some position)
    (rest : PyStr) : findOutsideStrings pattern (source ++ rest) start = some position := by
  rcases Option.map_eq_some_iff.mp found with ⟨inner, here, same⟩
  have within : start ≤ source.length := by
    apply Nat.le_of_not_lt
    intro beyond
    rw [List.drop_eq_nil_of_le (Nat.le_of_lt beyond)] at here
    cases here
  rw [findOutsideStrings, drop_append_nonempty within,
    findOutside_append_of_some nonempty here rest, ← same]
  rfl

theorem findOutsideStrings_bound {pattern source : PyStr} {start position : Nat}
    (nonempty : pattern ≠ []) (found : findOutsideStrings pattern source start = some position) :
    start ≤ position ∧ position + pattern.length ≤ source.length := by
  rcases Option.map_eq_some_iff.mp found with ⟨inner, here, same⟩
  have bound := (findOutside_eq_some here).1.occurs.end_le nonempty
  have positive := List.length_pos_iff.mpr nonempty
  rw [List.length_drop] at bound
  omega

theorem lt_of_findOutsideStrings_append {pattern source rest : PyStr} {start position : Nat}
    (nonempty : pattern ≠ []) (within : start ≤ source.length)
    (missing : findOutsideStrings pattern source start = none)
    (found : findOutsideStrings pattern (source ++ rest) start = some position) :
    source.length < position + pattern.length := by
  rcases Option.map_eq_some_iff.mp found with ⟨inner, here, same⟩
  rw [drop_append_nonempty within] at here
  have beyond := lt_of_findOutside_append nonempty (Option.map_eq_none_iff.mp missing) here
  rw [List.length_drop] at beyond
  omega

/-! ## First occurrences in a text that grows -/

theorem findFrom_bound {pattern source : PyStr} {start position : Nat} (nonempty : pattern ≠ [])
    (found : findFrom pattern source start = some position) :
    start ≤ position ∧ position + pattern.length ≤ source.length := by
  have facts := findFrom_eq_some found
  exact ⟨facts.1, facts.2.1.end_le nonempty⟩

theorem findFrom_append_of_some {pattern source : PyStr} {start position : Nat}
    (nonempty : pattern ≠ []) (found : findFrom pattern source start = some position)
    (rest : PyStr) : findFrom pattern (source ++ rest) start = some position := by
  have bound := findFrom_bound nonempty found
  rcases Option.map_eq_some_iff.mp found with ⟨inner, here, same⟩
  rw [findFrom, drop_append_nonempty (by omega), find_append_of_some nonempty here, ← same]
  rfl

theorem findFrom_eq_none {pattern source : PyStr} {start : Nat} (nonempty : pattern ≠ [])
    (missing : findFrom pattern source start = none) :
    ∀ position, start ≤ position → ¬Occurs pattern source position := by
  intro position from_ occurs
  have absent := (find_eq_none_iff nonempty).mp (Option.map_eq_none_iff.mp missing)
  apply absent (position - start)
  rw [occurs_drop, Nat.add_sub_cancel' from_]
  exact occurs

/-- What is found only in the longer text, or later there, goes on over the end. -/
theorem lt_of_findFrom_append {pattern source rest : PyStr} {start position : Nat}
    (nonempty : pattern ≠ []) (missing : findFrom pattern source start = none)
    (found : findFrom pattern (source ++ rest) start = some position) :
    source.length < position + pattern.length := by
  apply Nat.lt_of_not_le
  intro inside
  have facts := findFrom_eq_some found
  exact findFrom_eq_none nonempty missing position facts.1 (facts.2.1.of_append inside)

theorem findWithin_append {pattern source : PyStr} {start stop : Nat}
    (inside : stop ≤ source.length)
    (rest : PyStr) : findWithin pattern (source ++ rest) start stop =
      findWithin pattern source start stop := by
  rw [findWithin, findWithin, List.take_append_of_le_length inside]

theorem findWithin_bound {pattern source : PyStr} {start stop position : Nat}
    (nonempty : pattern ≠ []) (found : findWithin pattern source start stop = some position) :
    start ≤ position ∧ position + pattern.length ≤ stop := by
  have bound := findFrom_bound nonempty found
  rw [List.length_take] at bound
  omega

/-! ## Direct payloads -/

namespace DirectJsonScanState

theorem scan_append_of_end {state : DirectJsonScanState} {text : PyStr}
    (unfinished : state.payloadEnd = none) (ended : (scan state text).payloadEnd.isSome = true)
    (rest : PyStr) : scan state (text ++ rest) = scan state text := by
  induction text generalizing state with
  | nil =>
      rw [scan, unfinished] at ended
      cases ended
  | cons char text induction =>
      rw [List.cons_append, scan, scan]
      rw [scan] at ended
      by_cases here : (state.step char).payloadEnd.isSome = true
      · rw [if_pos here, if_pos here]
      · rw [if_neg here] at ended
        rw [if_neg here, if_neg here]
        exact induction (Option.not_isSome_iff_eq_none.mp here) ended

theorem scan_append_of_none {state : DirectJsonScanState} {text : PyStr}
    (unfinished : (scan state text).payloadEnd = none) (rest : PyStr) :
    scan state (text ++ rest) = scan (scan state text) rest := by
  induction text generalizing state with
  | nil => rfl
  | cons char text induction =>
      rw [List.cons_append, scan, scan]
      rw [scan] at unfinished
      by_cases here : (state.step char).payloadEnd.isSome = true
      · rw [if_pos here] at unfinished
        rw [unfinished] at here
        cases here
      · rw [if_neg here] at unfinished
        rw [if_neg here, if_neg here]
        exact induction unfinished

theorem step_cursor (state : DirectJsonScanState) (char : PyChar) :
    (state.step char).cursor = state.cursor + 1 := by
  rw [step]
  repeat' split
  all_goals rfl

theorem step_payloadStart (state : DirectJsonScanState) (char : PyChar) :
    (state.step char).payloadStart = state.payloadStart := by
  rw [step]
  repeat' split
  all_goals rfl

theorem scan_payloadStart (state : DirectJsonScanState) (text : PyStr) :
    (scan state text).payloadStart = state.payloadStart := by
  induction text generalizing state with
  | nil => rfl
  | cons char text induction =>
      rw [scan]
      split
      · exact step_payloadStart state char
      · rw [induction, step_payloadStart state char]

theorem scan_cursor {state : DirectJsonScanState} {text : PyStr}
    (unfinished : (scan state text).payloadEnd = none) :
    (scan state text).cursor = state.cursor + text.length := by
  induction text generalizing state with
  | nil => rfl
  | cons char text induction =>
      rw [scan] at unfinished ⊢
      by_cases here : (state.step char).payloadEnd.isSome = true
      · rw [if_pos here] at unfinished
        rw [unfinished] at here
        cases here
      · rw [if_neg here] at unfinished
        rw [if_neg here, induction unfinished, step_cursor state char, List.length_cons]
        omega

/-- The state is that of the scan of its payload in a front of the source. -/
def Coherent (state : DirectJsonScanState) (source : PyStr) : Prop :=
  ∀ start, state.payloadStart = some start → ∃ old rest, source = old ++ rest ∧
    start ≤ old.length ∧ state = scan (.start start) (old.drop start)

theorem initial_coherent (source : PyStr) : Coherent initial source := by
  intro start held
  cases held

theorem Coherent.more {state : DirectJsonScanState} {source : PyStr}
    (coherent : Coherent state source) (rest : PyStr) : Coherent state (source ++ rest) := by
  intro start held
  rcases coherent start held with ⟨old, tail, split, within, same⟩
  exact ⟨old, tail ++ rest, by rw [split, List.append_assoc], within, same⟩

end DirectJsonScanState

open DirectJsonScanState in
theorem findJsonObjectEnd_none (source : PyStr) (start : Nat) :
    findJsonObjectEnd source start none =
      (if source[start]? ≠ some (chr '\x7b') then none
        else (scan (.start start) (source.drop start)).payloadEnd, none) := by
  rw [findJsonObjectEnd]
  split
  · rfl
  · rfl

open DirectJsonScanState in
/-- The state that is carried on is only a cache. -/
theorem findJsonObjectEnd_some {source : PyStr} {start : Nat} {state : DirectJsonScanState}
    (coherent : Coherent state source) :
    ∃ state', findJsonObjectEnd source start (some state) =
      ((findJsonObjectEnd source start none).1, some state') ∧ Coherent state' source := by
  rw [findJsonObjectEnd_none, findJsonObjectEnd]
  by_cases brace : source[start]? ≠ some (chr '\x7b')
  · rw [if_pos brace, if_pos brace]
    exact ⟨state, rfl, coherent⟩
  · rw [if_neg brace, if_neg brace]
    dsimp only [Option.getD_some, Option.map_some]
    have within : start < source.length :=
      (List.getElem?_eq_some_iff.mp (not_not.mp brace)).1
    have anew : Coherent (scan (.start start) (source.drop start)) source := by
      intro other held
      rw [scan_payloadStart] at held
      cases held
      exact ⟨source, [], (List.append_nil _).symm, Nat.le_of_lt within, rfl⟩
    by_cases held : state.payloadStart = some start
    · rcases coherent start held with ⟨old, rest, split, inside, same⟩
      have dropped : source.drop start = old.drop start ++ rest := by
        rw [split, List.drop_append_of_le_length inside]
      rw [if_pos held]
      by_cases ended : state.payloadEnd.isSome = true
      · have whole : scan (.start start) (source.drop start) = state := by
          rw [same] at ended
          rw [dropped, scan_append_of_end rfl ended, ← same]
        rw [if_pos ended, whole]
        exact ⟨state, rfl, coherent⟩
      · have none := Option.not_isSome_iff_eq_none.mp ended
        rw [same] at none
        have cursor : state.cursor = old.length := by
          rw [same, scan_cursor none, List.length_drop]
          show start + (old.length - start) = old.length
          omega
        have whole : scan (.start start) (source.drop start) = scan state rest := by
          rw [dropped, scan_append_of_none none, ← same]
        have tail : source.drop state.cursor = rest := by
          rw [cursor, split, List.drop_left]
        rw [if_neg ended, tail, ← whole]
        exact ⟨_, rfl, anew⟩
    · rw [if_neg held]
      exact ⟨_, rfl, anew⟩

open DirectJsonScanState in
theorem directJsonPayloadSpan_some {source : PyStr} {invokeAt : Nat} {state : DirectJsonScanState}
    (coherent : Coherent state source) :
    ∃ state', directJsonPayloadSpan source invokeAt (some state) =
      ((directJsonPayloadSpan source invokeAt none).1, some state') ∧ Coherent state' source := by
  rw [directJsonPayloadSpan, directJsonPayloadSpan]
  cases findFrom quoteClose source (invokeAt + invokeOpenPrefix.length) with
  | none => exact ⟨state, rfl, coherent⟩
  | some nameEnd =>
      dsimp only
      split
      · exact ⟨state, rfl, coherent⟩
      · rcases @findJsonObjectEnd_some source (nameEnd + 2 +
          ((source.drop (nameEnd + 2)).takeWhile PyChar.isSpace).length) state coherent with
            ⟨state', same, coherentThen⟩
        rw [same]
        exact ⟨state', rfl, coherentThen⟩

theorem directJsonPayloadSpan_none (source : PyStr) (invokeAt : Nat) :
    (directJsonPayloadSpan source invokeAt none).2 = none := by
  rw [directJsonPayloadSpan]
  split
  · rfl
  · dsimp only
    split
    · rfl
    · rw [findJsonObjectEnd_none]

open DirectJsonScanState in
theorem closeStep_some {source marker : PyStr} {cursor : Nat} {state : DirectJsonScanState}
    (coherent : Coherent state source) :
    ∃ state', closeStep source marker cursor (some state) =
      ((closeStep source marker cursor none).1, some state') ∧ Coherent state' source := by
  rw [closeStep, closeStep]
  cases findFrom marker source cursor with
  | none => exact ⟨state, rfl, coherent⟩
  | some markerAt =>
      dsimp only
      cases leadingInvoke source cursor markerAt with
      | none => exact ⟨state, rfl, coherent⟩
      | some invokeAt =>
          dsimp only
          rcases @directJsonPayloadSpan_some source invokeAt state coherent with
            ⟨state', same, coherentThen⟩
          refine ⟨state', ?_, coherentThen⟩
          have fresh := directJsonPayloadSpan_none source invokeAt
          cases shape : directJsonPayloadSpan source invokeAt none with
          | mk span after =>
              rw [shape] at same fresh
              cases fresh
              rw [same]
              cases span with
              | none => rfl
              | some payloadEnd => cases payloadEnd <;> rfl

theorem closeStep_none (source marker : PyStr) (cursor : Nat) :
    (closeStep source marker cursor none).2 = none := by
  rw [closeStep]
  split
  · rfl
  · split
    · rfl
    · rename_i invokeAt _
      have fresh := directJsonPayloadSpan_none source invokeAt
      split
      · rename_i same
        rw [same] at fresh
        exact fresh
      · rename_i same
        rw [same] at fresh
        exact fresh
      · rename_i same
        rw [same] at fresh
        exact fresh

open DirectJsonScanState in
theorem findDsmlCloseFrom_some {source marker : PyStr} {turns cursor : Nat}
    {state : DirectJsonScanState} (coherent : Coherent state source) :
    ∃ state', findDsmlCloseFrom source marker turns cursor (some state) =
      ((findDsmlCloseFrom source marker turns cursor none).1, some state') ∧
        Coherent state' source := by
  induction turns generalizing cursor state with
  | zero => exact ⟨state, rfl, coherent⟩
  | succ turns induction =>
      rw [findDsmlCloseFrom, findDsmlCloseFrom]
      by_cases beyond : source.length ≤ cursor
      · rw [if_pos beyond, if_pos beyond]
        exact ⟨state, rfl, coherent⟩
      · rw [if_neg beyond, if_neg beyond]
        rcases @closeStep_some source marker cursor state coherent with ⟨state', same, coherentThen⟩
        have fresh := closeStep_none source marker cursor
        cases shape : closeStep source marker cursor none with
        | mk stepped after =>
            rw [shape] at same fresh
            cases fresh
            rw [same]
            cases stepped with
            | found position => exact ⟨state', rfl, coherentThen⟩
            | missing => exact ⟨state', rfl, coherentThen⟩
            | resume next => exact induction coherentThen

theorem findDsmlCloseFrom_none (source marker : PyStr) (turns cursor : Nat) :
    (findDsmlCloseFrom source marker turns cursor none).2 = none := by
  induction turns generalizing cursor with
  | zero => rfl
  | succ turns induction =>
      rw [findDsmlCloseFrom]
      have fresh := closeStep_none source marker cursor
      split
      · rfl
      · split
        · rename_i same
          rw [same] at fresh
          exact fresh
        · rename_i same
          rw [same] at fresh
          exact fresh
        · rename_i same
          rw [same] at fresh
          cases fresh
          exact induction _

/-! ## The close in a text that grows -/

theorem parameterStep_append {source : PyStr} {markerAt parameterAt : Nat} (rest : PyStr)
    (inside : markerAt + toolBlockClose.length ≤ source.length)
    (some : parameterStep source toolBlockClose markerAt parameterAt ≠ .missing) :
    parameterStep (source ++ rest) toolBlockClose markerAt parameterAt =
      parameterStep source toolBlockClose markerAt parameterAt := by
  have closeLength : toolBlockClose.length = 19 := by decide
  have parameterLength : parameterClose.length = 18 := by decide
  have flagLength : stringFlag.length = 10 := by decide
  have quoteLength : quoteClose.length = 2 := by decide
  have differs : ¬toolBlockClose = parameterClose := by decide
  -- What only the longer text has starts behind the marker.
  have behind : ∀ {pattern : PyStr} {start position : Nat}, pattern ≠ [] → pattern.length ≤ 19 →
      findFrom pattern source start = none →
        findFrom pattern (source ++ rest) start = .some position → markerAt < position := by
    intro pattern start position nonempty short missing found
    have beyond := lt_of_findFrom_append nonempty missing found
    omega
  rw [parameterStep] at some ⊢
  rw [parameterStep]
  cases key : findFrom stringFlag source (parameterAt + parameterOpenPrefix.length) with
  | none =>
      cases keyThen : findFrom stringFlag (source ++ rest)
          (parameterAt + parameterOpenPrefix.length) with
      | none => rfl
      | some keyEnd =>
          exact if_pos (behind (by decide) (by decide) key keyThen)
  | some keyEnd =>
      rw [key] at some
      rw [findFrom_append_of_some (by decide) key]
      dsimp only at some ⊢
      by_cases keyBeyond : markerAt < keyEnd
      · rw [if_pos keyBeyond, if_pos keyBeyond]
      · rw [if_neg keyBeyond] at some ⊢
        rw [if_neg keyBeyond]
        cases flag : findFrom quoteClose source (keyEnd + stringFlag.length) with
        | none =>
            cases flagThen : findFrom quoteClose (source ++ rest)
                (keyEnd + stringFlag.length) with
            | none => rfl
            | some flagEnd => exact if_pos (behind (by decide) (by decide) flag flagThen)
        | some flagEnd =>
            have flagBound := findFrom_bound (by decide) flag
            have sameFlag : (source ++ rest).slice (keyEnd + stringFlag.length) flagEnd =
                source.slice (keyEnd + stringFlag.length) flagEnd := by
              rw [PyStr.slice, PyStr.slice, List.take_append_of_le_length (by omega)]
            rw [flag] at some
            rw [findFrom_append_of_some (by decide) flag]
            dsimp only at some ⊢
            rw [sameFlag]
            by_cases flagBeyond : markerAt < flagEnd
            · rw [if_pos flagBeyond, if_pos flagBeyond]
            · rw [if_neg flagBeyond] at some ⊢
              rw [if_neg flagBeyond]
              by_cases isTrue : source.slice (keyEnd + stringFlag.length) flagEnd = py "true"
              · rw [if_pos isTrue, if_pos isTrue]
                cases close : findFrom parameterClose source (flagEnd + 2) with
                | none =>
                    cases closeThen : findFrom parameterClose (source ++ rest) (flagEnd + 2) with
                    | none => rfl
                    | some closeAt =>
                        have later := behind (by decide) (by decide) close closeThen
                        exact if_pos (Nat.le_of_lt later)
                | some closeAt =>
                    rw [findFrom_append_of_some (by decide) close]
              · rw [if_neg isTrue] at some ⊢
                rw [if_neg isTrue]
                by_cases isFalse : source.slice (keyEnd + stringFlag.length) flagEnd = py "false"
                · rw [if_pos isFalse] at some ⊢
                  rw [if_pos isFalse]
                  cases close : findJsonParameterClose source (flagEnd + 2) with
                  | none =>
                      rw [close] at some
                      exact absurd rfl some
                  | some closeAt =>
                      have closeBound := findOutsideStrings_bound (by decide) close
                      rw [show findJsonParameterClose (source ++ rest) (flagEnd + 2) = .some closeAt
                        from findOutsideStrings_append_of_some (by decide) close rest]
                      dsimp only
                      rw [if_neg differs, if_neg differs]
                      cases marker : findOutsideStrings toolBlockClose source (flagEnd + 2) with
                      | some position =>
                          rw [findOutsideStrings_append_of_some (by decide) marker]
                      | none =>
                          cases markerThen : findOutsideStrings toolBlockClose (source ++ rest)
                              (flagEnd + 2) with
                          | none => rfl
                          | some position =>
                              have beyond := lt_of_findOutsideStrings_append (by decide)
                                (by omega) marker markerThen
                              exact if_neg (by omega)
                · rw [if_neg isFalse, if_neg isFalse]

/-- A turn of the search takes its payload from behind the close that it is at. -/
def looksPast (source marker : PyStr) (cursor : Nat) : Bool :=
  match findFrom marker source cursor with
  | none => false
  | some markerAt =>
      match leadingInvoke source cursor markerAt with
      | none => false
      | some invokeAt =>
          match findFrom quoteClose source (invokeAt + invokeOpenPrefix.length) with
          | none => false
          | some nameEnd =>
              decide (markerAt < nameEnd) && (directJsonPayloadSpan source invokeAt none).1.isSome

def steadyFrom (source marker : PyStr) : Nat → Nat → Bool
  | 0, _ => true
  | turns + 1, cursor =>
      !looksPast source marker cursor &&
        match (closeStep source marker cursor none).1 with
        | .resume next => steadyFrom source marker turns next
        | _ => true

/-- No turn of the search for the close takes its payload from behind it. -/
def steady (source marker : PyStr) : Bool := steadyFrom source marker (source.length + 1) 0

def spacesAt (source : PyStr) (nameEnd : Nat) : Nat :=
  ((source.drop (nameEnd + 2)).takeWhile PyChar.isSpace).length

theorem spacesAt_append {source : PyStr} {nameEnd : Nat} (rest : PyStr)
    (solid : nameEnd + 2 + spacesAt source nameEnd < source.length) :
    spacesAt (source ++ rest) nameEnd = spacesAt source nameEnd := by
  have short : (source.drop (nameEnd + 2)).takeWhile PyChar.isSpace ≠
    source.drop (nameEnd + 2) := by
    intro same
    rw [spacesAt, same, List.length_drop] at solid
    omega
  have shorter : ((source.drop (nameEnd + 2)).takeWhile PyChar.isSpace).length ≠
      (source.drop (nameEnd + 2)).length :=
    fun same => short ((List.takeWhile_prefix _).eq_of_length same)
  rw [spacesAt, drop_append_nonempty (by omega), List.takeWhile_append, if_neg shorter]
  rfl

theorem directJsonPayloadSpan_eq {source : PyStr} {invokeAt nameEnd : Nat}
    (name : findFrom quoteClose source (invokeAt + invokeOpenPrefix.length) = some nameEnd) :
    (directJsonPayloadSpan source invokeAt none).1 =
      if source[nameEnd + 2 + spacesAt source nameEnd]? ≠ some (chr '\x7b') then none
      else some (DirectJsonScanState.scan (.start (nameEnd + 2 + spacesAt source nameEnd))
        (source.drop (nameEnd + 2 + spacesAt source nameEnd))).payloadEnd := by
  rw [directJsonPayloadSpan, name]
  dsimp only
  rw [show ((source.drop (nameEnd + 2)).takeWhile PyChar.isSpace).length =
    spacesAt source nameEnd from rfl, findJsonObjectEnd_none]
  split
  · rfl
  · rfl

theorem directJsonPayloadSpan_append_of_end {source : PyStr} {invokeAt payloadEnd : Nat}
    (span : (directJsonPayloadSpan source invokeAt none).1 = some (some payloadEnd))
    (rest : PyStr) :
    (directJsonPayloadSpan (source ++ rest) invokeAt none).1 = some (some payloadEnd) := by
  cases name : findFrom quoteClose source (invokeAt + invokeOpenPrefix.length) with
  | none =>
      rw [directJsonPayloadSpan, name] at span
      cases span
  | some nameEnd =>
      rw [directJsonPayloadSpan_eq name] at span
      rw [directJsonPayloadSpan_eq (findFrom_append_of_some (by decide) name rest)]
      split at span
      · cases span
      · rename_i brace
        have within := (List.getElem?_eq_some_iff.mp (not_not.mp brace)).1
        have ended := Option.some.inj span
        have unfinished : (DirectJsonScanState.start
            (nameEnd + 2 + spacesAt source nameEnd)).payloadEnd = none := rfl
        rw [spacesAt_append rest within, List.getElem?_append_left within, if_neg brace,
          drop_append_nonempty (Nat.le_of_lt within),
          DirectJsonScanState.scan_append_of_end unfinished (by rw [ended]; rfl), ended]

/-- Where the name ends before the close, what follows it is seen in the shorter text. -/
theorem directJsonPayloadSpan_append_of_none {source : PyStr} {invokeAt nameEnd markerAt : Nat}
    (span : (directJsonPayloadSpan source invokeAt none).1 = none) (rest : PyStr)
    (name : findFrom quoteClose (source ++ rest) (invokeAt + invokeOpenPrefix.length) =
      some nameEnd)
    (before : nameEnd ≤ markerAt) (marker : Occurs toolBlockClose source markerAt) :
    (directJsonPayloadSpan (source ++ rest) invokeAt none).1 = none := by
  have inside := marker.end_le (by decide)
  have closeLength : toolBlockClose.length = 19 := by decide
  have quoteLength : quoteClose.length = 2 := by decide
  have facts := findFrom_eq_some name
  have first : source[markerAt]? = some (chr '<') := by
    rcases marker with ⟨more, same⟩
    rw [← List.head?_drop, ← same]
    rfl
  have quotes : quoteClose <+: source.drop nameEnd := facts.2.1.of_append (by omega)
  have charAt : ∀ index, source[nameEnd + index]? = (source.drop nameEnd)[index]? := by
    intro index
    rw [List.getElem?_drop]
  have notQuote : nameEnd ≠ markerAt ∧ nameEnd + 1 ≠ markerAt := by
    rcases quotes with ⟨more, same⟩
    have zero := charAt 0
    have one := charAt 1
    rw [← same] at zero one
    constructor
    · intro equal
      rw [Nat.add_zero, equal, first] at zero
      have quote : some (chr '<') = some (chr '"') := zero
      exact absurd quote (by decide)
    · intro equal
      rw [equal, first] at one
      have bracket : some (chr '<') = some (chr '>') := one
      exact absurd bracket (by decide)
  have nameHere : findFrom quoteClose source (invokeAt + invokeOpenPrefix.length) =
      some nameEnd := by
    cases found : findFrom quoteClose source (invokeAt + invokeOpenPrefix.length) with
    | none =>
        exact absurd (facts.2.1.of_append (by omega))
          (findFrom_eq_none (by decide) found nameEnd facts.1)
    | some other =>
        rw [findFrom_append_of_some (by decide) found] at name
        exact name
  have spaces : nameEnd + 2 + spacesAt source nameEnd ≤ markerAt := by
    apply Nat.le_of_not_lt
    intro beyond
    have space : ∀ char ∈ (source.drop (nameEnd + 2)).takeWhile PyChar.isSpace,
        char.isSpace = true := fun char member => List.mem_takeWhile_imp member
    have index : markerAt - (nameEnd + 2) < spacesAt source nameEnd := by omega
    have here : ((source.drop (nameEnd + 2)).takeWhile PyChar.isSpace)[markerAt - (nameEnd + 2)]? =
        some (chr '<') := by
      have split : (source.drop (nameEnd + 2))[markerAt - (nameEnd + 2)]? = some (chr '<') := by
        rw [List.getElem?_drop, Nat.add_sub_cancel' (by omega), first]
      rw [← @List.takeWhile_append_dropWhile _ PyChar.isSpace (source.drop (nameEnd + 2)),
        List.getElem?_append_left index] at split
      exact split
    exact absurd (space _ (List.mem_of_getElem? here)) (by decide)
  rw [directJsonPayloadSpan_eq nameHere] at span
  rw [directJsonPayloadSpan_eq name]
  split at span
  · rename_i brace
    rw [spacesAt_append rest (by omega), List.getElem?_append_left (by omega), if_pos brace]
  · cases span

theorem taggedStep_append {source : PyStr} {cursor markerAt : Nat} (rest : PyStr)
    (inside : markerAt + toolBlockClose.length ≤ source.length)
    (some : taggedStep source toolBlockClose cursor markerAt ≠ .missing) :
    taggedStep (source ++ rest) toolBlockClose cursor markerAt =
      taggedStep source toolBlockClose cursor markerAt := by
  rw [taggedStep] at some ⊢
  rw [taggedStep, findWithin_append (by omega)]
  cases found : findWithin parameterOpenPrefix source cursor markerAt with
  | none => rfl
  | some parameterAt =>
      rw [found] at some
      exact parameterStep_append rest inside some

/-- A turn that does not miss is the same turn in a longer text. -/
theorem closeStep_append {source : PyStr} {cursor : Nat} (rest : PyStr)
    (some : (closeStep source toolBlockClose cursor none).1 ≠ .missing)
    (steady : looksPast (source ++ rest) toolBlockClose cursor = false) :
    (closeStep (source ++ rest) toolBlockClose cursor none).1 =
      (closeStep source toolBlockClose cursor none).1 := by
  rw [closeStep] at some ⊢
  rw [closeStep]
  cases marker : findFrom toolBlockClose source cursor with
  | none =>
      rw [marker] at some
      exact absurd rfl some
  | some markerAt =>
      have inside := (findFrom_bound (by decide) marker).2
      have markerThen := findFrom_append_of_some (by decide) marker rest
      have invokeThen : leadingInvoke (source ++ rest) cursor markerAt =
          leadingInvoke source cursor markerAt := by
        rw [leadingInvoke, leadingInvoke, findWithin_append (by omega),
          findWithin_append (by omega)]
      rw [marker] at some
      rw [looksPast, markerThen] at steady
      rw [markerThen]
      dsimp only at some steady ⊢
      rw [invokeThen] at steady ⊢
      cases invoke : leadingInvoke source cursor markerAt with
      | none =>
          rw [invoke] at some
          exact taggedStep_append rest inside some
      | some invokeAt =>
          rw [invoke] at some steady
          dsimp only at some steady ⊢
          have fresh := directJsonPayloadSpan_none source invokeAt
          have freshThen := directJsonPayloadSpan_none (source ++ rest) invokeAt
          cases span : directJsonPayloadSpan source invokeAt none with
          | mk payload after =>
              cases spanThen : directJsonPayloadSpan (source ++ rest) invokeAt none with
              | mk payload' after' =>
                  rw [span] at some fresh
                  rw [spanThen] at freshThen steady
                  cases fresh
                  cases freshThen
                  cases payload with
                  | some payloadEnd =>
                      cases payloadEnd with
                      | none => exact absurd rfl some
                      | some payloadEnd =>
                          have same := @directJsonPayloadSpan_append_of_end source invokeAt
                            payloadEnd (by rw [span]) rest
                          rw [spanThen] at same
                          cases same
                          rfl
                  | none =>
                      have same : payload' = none := by
                        cases name : findFrom quoteClose (source ++ rest)
                            (invokeAt + invokeOpenPrefix.length) with
                        | none =>
                            rw [directJsonPayloadSpan, name] at spanThen
                            cases spanThen
                            rfl
                        | some nameEnd =>
                            rw [name] at steady
                            dsimp only at steady
                            by_cases behind : markerAt < nameEnd
                            · rw [decide_eq_true behind, Bool.true_and] at steady
                              exact Option.not_isSome_iff_eq_none.mp (by rw [steady]; decide)
                            · have none := @directJsonPayloadSpan_append_of_none source invokeAt
                                nameEnd markerAt (by rw [span]) rest name (Nat.le_of_not_lt behind)
                                (findFrom_eq_some marker).2.1
                              rw [spanThen] at none
                              exact none
                      subst same
                      exact taggedStep_append rest inside some

theorem findDsmlCloseFrom_append {source rest : PyStr} {turns turns' cursor position : Nat}
    (enough : turns ≤ turns')
    (steady : steadyFrom (source ++ rest) toolBlockClose turns' cursor = true)
    (found : (findDsmlCloseFrom source toolBlockClose turns cursor none).1 = some position) :
    (findDsmlCloseFrom (source ++ rest) toolBlockClose turns' cursor none).1 = some position := by
  induction turns generalizing turns' cursor with
  | zero => cases found
  | succ turns induction =>
      cases turns' with
      | zero => cases enough
      | succ turns' =>
          rw [steadyFrom, Bool.and_eq_true, Bool.not_eq_true'] at steady
          rw [findDsmlCloseFrom] at found ⊢
          by_cases beyond : source.length ≤ cursor
          · rw [if_pos beyond] at found
            cases found
          · have within : ¬(source ++ rest).length ≤ cursor := by
              rw [List.length_append]
              omega
            have fresh := closeStep_none source toolBlockClose cursor
            have freshThen := closeStep_none (source ++ rest) toolBlockClose cursor
            rw [if_neg beyond] at found
            rw [if_neg within]
            cases stepped : closeStep source toolBlockClose cursor none with
            | mk step after =>
                cases steppedThen : closeStep (source ++ rest) toolBlockClose cursor none with
                | mk step' after' =>
                    have same := @closeStep_append source cursor rest
                    rw [stepped] at found fresh same
                    rw [steppedThen] at freshThen same steady
                    cases fresh
                    cases freshThen
                    cases step with
                    | missing => cases found
                    | found place =>
                        cases same (by simp) steady.1
                        exact found
                    | resume next =>
                        cases same (by simp) steady.1
                        exact induction (Nat.le_of_succ_le_succ enough) steady.2 found

/-- The close of a block stays where it is when more text comes. -/
theorem findDsmlClose_append {source rest : PyStr} {position : Nat}
    (isSteady : steady (source ++ rest) toolBlockClose = true)
    (found : (findDsmlClose source toolBlockClose 0 none).1 = some position) :
    (findDsmlClose (source ++ rest) toolBlockClose 0 none).1 = some position := by
  apply findDsmlCloseFrom_append ?_ isSteady found
  rw [List.length_append]
  omega

theorem findOutsideStrings_occurs {pattern source : PyStr} {start position : Nat}
    (found : findOutsideStrings pattern source start = some position) :
    Occurs pattern source position := by
  rcases Option.map_eq_some_iff.mp found with ⟨inner, here, same⟩
  rw [← same]
  exact occurs_drop.mp (findOutside_eq_some here).1.occurs

theorem parameterStep_found {source marker : PyStr} {markerAt parameterAt position : Nat}
    (occurs : Occurs marker source markerAt)
    (found : parameterStep source marker markerAt parameterAt = .found position) :
    Occurs marker source position := by
  have here : CloseStep.found markerAt = .found position → Occurs marker source position := by
    intro same
    cases same
    exact occurs
  rw [parameterStep] at found
  cases key : findFrom stringFlag source (parameterAt + parameterOpenPrefix.length) with
  | none =>
      rw [key] at found
      exact here found
  | some keyEnd =>
      rw [key] at found
      dsimp only at found
      by_cases keyBeyond : markerAt < keyEnd
      · rw [if_pos keyBeyond] at found
        exact here found
      · rw [if_neg keyBeyond] at found
        cases flag : findFrom quoteClose source (keyEnd + stringFlag.length) with
        | none =>
            rw [flag] at found
            exact here found
        | some flagEnd =>
            rw [flag] at found
            dsimp only at found
            by_cases flagBeyond : markerAt < flagEnd
            · rw [if_pos flagBeyond] at found
              exact here found
            · rw [if_neg flagBeyond] at found
              by_cases isTrue : source.slice (keyEnd + stringFlag.length) flagEnd = py "true"
              · rw [if_pos isTrue] at found
                split at found
                · exact here found
                · split at found
                  · exact here found
                  · cases found
              · rw [if_neg isTrue] at found
                by_cases isFalse : source.slice (keyEnd + stringFlag.length) flagEnd = py "false"
                · rw [if_pos isFalse] at found
                  cases close : findJsonParameterClose source (flagEnd + 2) with
                  | none =>
                      rw [close] at found
                      cases found
                  | some closeAt =>
                      rw [close] at found
                      dsimp only at found
                      by_cases same : marker = parameterClose
                      · rw [if_pos same] at found
                        cases found
                        rw [same]
                        exact findOutsideStrings_occurs close
                      · rw [if_neg same] at found
                        cases place : findOutsideStrings marker source (flagEnd + 2) with
                        | none =>
                            rw [place] at found
                            cases found
                        | some placeAt =>
                            rw [place] at found
                            dsimp only at found
                            split at found
                            · cases found
                              exact findOutsideStrings_occurs place
                            · cases found
                · rw [if_neg isFalse] at found
                  exact here found

theorem taggedStep_found {source marker : PyStr} {cursor markerAt position : Nat}
    (occurs : Occurs marker source markerAt)
    (found : taggedStep source marker cursor markerAt = .found position) :
    Occurs marker source position := by
  rw [taggedStep] at found
  split at found
  · cases found
    exact occurs
  · exact parameterStep_found occurs found

theorem closeStep_found {source marker : PyStr} {cursor position : Nat}
    (found : (closeStep source marker cursor none).1 = .found position) :
    Occurs marker source position := by
  rw [closeStep] at found
  cases marked : findFrom marker source cursor with
  | none =>
      rw [marked] at found
      cases found
  | some markerAt =>
      have occurs := (findFrom_eq_some marked).2.1
      rw [marked] at found
      dsimp only at found
      split at found
      · exact taggedStep_found occurs found
      · split at found
        · cases found
        · cases found
        · exact taggedStep_found occurs found

theorem findDsmlCloseFrom_occurs {source marker : PyStr} {turns cursor position : Nat}
    (found : (findDsmlCloseFrom source marker turns cursor none).1 = some position) :
    Occurs marker source position := by
  induction turns generalizing cursor with
  | zero => cases found
  | succ turns induction =>
      rw [findDsmlCloseFrom] at found
      have fresh := closeStep_none source marker cursor
      have foundStep := @closeStep_found source marker cursor
      by_cases beyond : source.length ≤ cursor
      · rw [if_pos beyond] at found
        cases found
      · rw [if_neg beyond] at found
        cases stepped : closeStep source marker cursor none with
        | mk step after =>
            rw [stepped] at found fresh foundStep
            cases fresh
            cases step with
            | missing => cases found
            | found place =>
                cases found
                exact foundStep rfl
            | resume next => exact induction found

end ExQServe.Model.DeepSeekV4
