import ExQServe.Model.Step3p5.Trimming

/-! # The trimmed text, read

Deleting newlines next to a marker makes no new marker and cuts none, so that the symbols of the
trimmed text are the trimmed symbols. With the segments of both parsers this tells when the events
of a run are those of the GLM-5 parser on the trimmed text. -/

namespace ExQServe.Model.Step3p5

open ExQServe.Search ExQServe.Emission ExQServe.Model.Glm5

/-! ## Markers of the trimmed text -/

/-- The rest of a marker behind its first character has no such character. -/
abbrev Within (char : PyChar) : Prop := char ≠ chr '<' ∧ char ≠ newline

theorem within_of_all {rest : PyStr} (all : rest.all (fun char => decide (Within char)) = true) :
    ∀ char ∈ rest, Within char :=
  fun char member => of_decide_eq_true (List.all_eq_true.mp all char member)

theorem marker_shape {marker : PyStr} (member : marker ∈ thinkMarkers) :
    ∃ rest, marker = chr '<' :: rest ∧ (∀ char ∈ rest, Within char) ∧
      ∃ front, marker = front ++ [chr '>'] ∧ chr '>' ∉ front := by
  rcases List.mem_cons.mp member with opens | member
  · exact ⟨py "think>", by rw [opens]; rfl, within_of_all (by decide), py "<think",
      by rw [opens]; rfl, by decide⟩
  · rw [List.mem_singleton.mp member]
    exact ⟨py "/think>", rfl, within_of_all (by decide), py "</think", rfl, by decide⟩

theorem known_iff {symbols : Symbols} : Known symbols ↔
    ∀ marker, .tag marker ∈ symbols → marker ∈ thinkMarkers := by
  simp [Known, thinkMarkers]

theorem known_of_parted {symbols : Symbols} (parted : Parted thinkMarkers symbols) :
    Known symbols := by
  rw [known_iff]
  intro marker member
  induction symbols with
  | nil => cases member
  | cons symbol symbols induction =>
      cases symbol with
      | char char =>
          rcases List.mem_cons.mp member with same | member
          · cases same
          · exact induction parted.2 member
      | tag other =>
          rcases List.mem_cons.mp member with same | member
          · cases same
            exact parted.1
          · exact induction parted.2 member

/-- The symbol is deleted: a newline next to the closing marker. -/
theorem trimmedFrom_char_cases {place : Place} (apart : place ≠ .behindClose) (char : PyChar)
    (symbols : Symbols) :
    (∃ later, place ≠ .behindClose ∧ symbols = .tag thinkClose :: later ∧
      trimmedFrom place (.char char :: symbols) =
        .tag thinkClose :: trimmedFrom .behindClose later) ∨
    trimmedFrom place (.char char :: symbols) = .char char :: trimmedFrom place symbols := by
  cases place with
  | behindClose => exact absurd rfl apart
  | text => exact .inr rfl
  | reasoning =>
      by_cases deleted : char = newline ∧ symbols.head? = some (.tag thinkClose)
      · left
        cases symbols with
        | nil => cases deleted.2
        | cons symbol later =>
            have same : symbol = .tag thinkClose := Option.some.inj deleted.2
            refine ⟨later, apart, by rw [same], ?_⟩
            rw [trimmedFrom, if_pos deleted, same, trimmedFrom, if_pos rfl]
      · exact .inr (by rw [trimmedFrom, if_neg deleted])

theorem trimmedFrom_char (place : Place) (char : PyChar) (symbols : Symbols) :
    ∃ next, next ≠ .behindClose ∧
      (trimmedFrom place (.char char :: symbols) = trimmedFrom next symbols ∨
        trimmedFrom place (.char char :: symbols) = .char char :: trimmedFrom next symbols) := by
  cases place with
  | reasoning =>
      refine ⟨.reasoning, by decide, ?_⟩
      rw [trimmedFrom]
      split
      · exact .inl rfl
      · exact .inr rfl
  | behindClose =>
      refine ⟨.text, by decide, ?_⟩
      rw [trimmedFrom]
      split
      · exact .inl rfl
      · exact .inr rfl
  | text => exact ⟨.text, by decide, .inr rfl⟩

theorem not_marker {part marker later : PyStr} (within : ∀ char ∈ part, Within char)
    (member : marker ∈ thinkMarkers) (begins : part <+: marker ++ later) : part = [] := by
  rcases marker_shape member with ⟨rest, shape, -⟩
  rw [shape] at begins
  cases part with
  | nil => rfl
  | cons first part =>
      have same := (List.cons_prefix_cons.mp begins).1
      exact absurd same (within first List.mem_cons_self).1

/-- What may go on a marker stands in front of the trimmed symbols only where it stood before. -/
theorem prefix_of_trimmed {part : PyStr} (within : ∀ char ∈ part, Within char) {place : Place}
    (apart : place ≠ .behindClose) {symbols : Symbols} (known : Known symbols)
    (begins : part <+: render (trimmedFrom place symbols)) : part <+: render symbols := by
  induction symbols generalizing part with
  | nil => exact begins
  | cons symbol symbols induction =>
      cases symbol with
      | char char =>
          rcases trimmedFrom_char_cases apart char symbols with ⟨later, -, -, shape⟩ | shape
          · rw [shape, render_tag] at begins
            rw [not_marker within (by decide) begins]
            exact List.nil_prefix
          · rw [shape, render_char] at begins
            cases part with
            | nil => exact List.nil_prefix
            | cons first part =>
                rcases List.cons_prefix_cons.mp begins with ⟨same, rest⟩
                rw [render_char]
                refine List.cons_prefix_cons.mpr ⟨same, ?_⟩
                exact induction (fun char member => within char (List.mem_cons_of_mem _ member))
                  known.tail rest
      | tag marker =>
          have member := known_iff.mp known marker List.mem_cons_self
          have shape : ∃ later, trimmedFrom place (.tag marker :: symbols) =
              .tag marker :: later := by
            cases place <;> exact ⟨_, rfl⟩
          rcases shape with ⟨later, shape⟩
          rw [shape, render_tag] at begins
          rw [not_marker within member begins]
          exact List.nil_prefix

/-- The symbols of the trimmed text are the trimmed symbols. -/
theorem parted_trimmed {symbols : Symbols} (parted : Parted thinkMarkers symbols)
    (place : Place) : Parted thinkMarkers (trimmedFrom place symbols) := by
  have plain : ∀ {char : PyChar} {symbols : Symbols} {place : Place}, place ≠ .behindClose →
      Parted thinkMarkers (.char char :: symbols) →
        ∀ marker ∈ thinkMarkers, ¬marker <+: char :: render (trimmedFrom place symbols) := by
    intro char symbols place apart parted marker member begins
    rcases marker_shape member with ⟨rest, shape, within, -⟩
    rw [shape] at begins
    rcases List.cons_prefix_cons.mp begins with ⟨same, goesOn⟩
    apply parted.1 marker member
    rw [shape]
    exact List.cons_prefix_cons.mpr ⟨same,
      prefix_of_trimmed within apart (known_of_parted parted.2) goesOn⟩
  induction symbols generalizing place with
  | nil => cases place <;> exact trivial
  | cons symbol symbols induction =>
      cases symbol with
      | tag marker =>
          have shape : ∃ next, trimmedFrom place (.tag marker :: symbols) =
              .tag marker :: trimmedFrom next symbols := by
            cases place <;> exact ⟨_, rfl⟩
          rcases shape with ⟨next, shape⟩
          rw [shape]
          exact ⟨parted.1, induction parted.2 next⟩
      | char char =>
          cases place with
          | reasoning =>
              rw [trimmedFrom]
              split
              · exact induction parted.2 .reasoning
              · exact ⟨plain (by decide) parted, induction parted.2 .reasoning⟩
          | behindClose =>
              rw [trimmedFrom]
              split
              · exact induction parted.2 .text
              · exact ⟨plain (by decide) parted, induction parted.2 .text⟩
          | text => exact ⟨plain (by decide) parted, induction parted.2 .text⟩

theorem thinkMarkers_endFree : EndFree thinkMarkers := by decide

theorem symbolsOf_trimmed (text : PyStr) :
    symbolsOf thinkMarkers (trimmed text) =
      trimmedFrom .reasoning (symbolsOf thinkMarkers text) :=
  symbolsOf_render thinkMarkers_endFree
    (parted_trimmed (parted_symbolsOf thinkMarkers_endFree.nonempty text) .reasoning)

/-! ## The end of the trimmed text -/

/-- Symbols that stay free of markers were not trimmed. -/
theorem trimmed_eq_self {place : Place} (apart : place ≠ .behindClose) {symbols : Symbols}
    (known : Known symbols) (free : chr '>' ∉ render (trimmedFrom place symbols)) :
    trimmedFrom place symbols = symbols := by
  have cut : ∀ {marker : PyStr} {later : PyStr}, marker ∈ thinkMarkers →
      chr '>' ∈ marker ++ later := by
    intro marker later member
    rcases marker_shape member with ⟨-, -, -, front, shape, -⟩
    rw [shape]
    simp
  induction symbols with
  | nil => cases place <;> rfl
  | cons symbol symbols induction =>
      cases symbol with
      | char char =>
          rcases trimmedFrom_char_cases apart char symbols with ⟨later, -, -, shape⟩ | shape
          · rw [shape, render_tag] at free
            exact absurd (cut (by decide)) free
          · rw [shape, render_char] at free
            rw [shape, induction known.tail fun inside => free (List.mem_cons_of_mem _ inside)]
      | tag marker =>
          have member := known_iff.mp known marker List.mem_cons_self
          have shape : ∃ later, trimmedFrom place (.tag marker :: symbols) =
              .tag marker :: later := by
            cases place <;> exact ⟨_, rfl⟩
          rcases shape with ⟨later, shape⟩
          rw [shape, render_tag] at free
          exact absurd (cut member) free

theorem suffix_of_trimmed {part : PyStr} (free : chr '>' ∉ part) {symbols : Symbols}
    (known : Known symbols) (place : Place)
    (ends : part <:+ render (trimmedFrom place symbols)) : part <:+ render symbols := by
  induction symbols generalizing place with
  | nil =>
      have empty : trimmedFrom place [] = [] := by cases place <;> rfl
      rw [empty] at ends
      exact ends
  | cons symbol symbols induction =>
      have later : ∀ {next}, part <:+ render (trimmedFrom next symbols) →
          part <:+ render (symbol :: symbols) := fun ends =>
        (induction known.tail _ ends).trans (List.suffix_append symbol.text (render symbols))
      cases symbol with
      | tag marker =>
          have shape : ∃ next, trimmedFrom place (.tag marker :: symbols) =
              .tag marker :: trimmedFrom next symbols := by
            cases place <;> exact ⟨_, rfl⟩
          rcases shape with ⟨next, shape⟩
          rcases marker_shape (known_iff.mp known marker List.mem_cons_self) with
            ⟨-, -, -, front, last, -⟩
          rw [shape, render_tag] at ends
          rcases ends with ⟨before, whole⟩
          rcases List.append_eq_append_iff.mp whole with ⟨rest, split, same⟩ | ⟨rest, -, same⟩
          · cases rest with
            | nil =>
                rw [List.nil_append] at same
                exact later ⟨[], by rw [List.nil_append, same]⟩
            | cons first rest =>
                have closes : (first :: rest).getLast? = (front ++ [chr '>']).getLast? := by
                  rw [← last, split, List.getLast?_append_cons]
                rw [List.getLast?_concat] at closes
                apply absurd ?_ free
                rw [same]
                exact List.mem_append_left _ (List.mem_of_getLast? closes)
          · exact later ⟨rest, same.symm⟩
      | char char =>
          rcases trimmedFrom_char place char symbols with ⟨next, apart, deleted | kept⟩
          · rw [deleted] at ends
            exact later ends
          · rw [kept, render_char] at ends
            rcases List.suffix_cons_iff.mp ends with whole | ends
            · have clean : chr '>' ∉ render (trimmedFrom next symbols) := fun inside =>
                free (whole ▸ List.mem_cons_of_mem _ inside)
              rw [trimmed_eq_self apart known.tail clean] at whole
              exact whole ▸ List.suffix_rfl
            · exact later ends

theorem endsWhole_trimmed {text : PyStr} (whole : EndsWhole thinkMarkers text) :
    EndsWhole thinkMarkers (trimmed text) := by
  intro marker member part some begins proper ends
  have parted := @parted_symbolsOf _ _ thinkMarkers thinkMarkers_endFree.nonempty text
  have free : chr '>' ∉ part := by
    rcases marker_shape member with ⟨-, -, -, front, shape, free⟩
    rw [shape] at begins proper
    rcases List.prefix_concat_iff.mp begins with same | inside
    · exact absurd same proper
    · exact fun last => free (inside.subset last)
  apply whole marker member part some begins proper
  rw [← @render_symbolsOf _ _ thinkMarkers thinkMarkers_endFree.nonempty text]
  exact suffix_of_trimmed free (known_of_parted parted) .reasoning ends

/-! ## Exactness -/

/-- In whatever chunks the text comes, the events of the parser are those of the GLM-5 parser on
the trimmed text. -/
def TrimsExactly (request : DialectRequest) (tagged : request.tag = py "glm5") (text : PyStr) :
    Prop :=
  ∀ chunks : List PyStr, chunks.flatten = text →
    observed (Step3p5IncrementalParser.run (parserConfig request tagged) chunks) =
      observed (Glm5IncrementalParser.run (parserConfig request tagged) [trimmed text])

section Exactness

variable (request : DialectRequest) (tagged : request.tag = py "glm5") {text : PyStr}

theorem markers_parserConfig :
    Glm5IncrementalParser.markers (parserConfig request tagged) = thinkMarkers := rfl

theorem trimsExactly_iff_segments (whole : EndsWhole thinkMarkers text) :
    TrimsExactly request tagged text ↔
      segmentsFrom .reasoning [] (heldFrom .reasoning false false (symbolsOf thinkMarkers text)) =
        segmentsFrom .reasoning [] (trimmedFrom .reasoning (symbolsOf thinkMarkers text)) := by
  have step : ∀ chunks : List PyStr, chunks.flatten = text →
      observed (Step3p5IncrementalParser.run (parserConfig request tagged) chunks) = .ok
        ((segmentsFrom .reasoning [] (heldFrom .reasoning false false
          (symbolsOf thinkMarkers text))).flatMap (segmentEvents request.requestId), false) := by
    intro chunks flat
    have shown := @Step3p5IncrementalParser.run_segments (parserConfig request tagged) rfl rfl
      chunks (flat ▸ whole)
    rw [flat] at shown
    exact shown
  have glm : observed (Glm5IncrementalParser.run (parserConfig request tagged) [trimmed text]) = .ok
      ((segmentsFrom .reasoning [] (trimmedFrom .reasoning (symbolsOf thinkMarkers text))).flatMap
        (segmentEvents request.requestId), false) := by
    have flat : [trimmed text].flatten = trimmed text := by simp
    have shown := @run_segments (parserConfig request tagged) rfl rfl [trimmed text]
      (flat.symm ▸ endsWhole_trimmed whole)
    rw [flat, markers_parserConfig, symbolsOf_trimmed] at shown
    exact shown
  constructor
  · intro exactly
    have same := exactly [text] (by simp)
    rw [step [text] (by simp), glm] at same
    exact segmentEvents_inj (Prod.mk.inj (Except.ok.inj same)).1
  · intro same chunks flat
    rw [step chunks flat, glm, same]

/-- When trimming is exact. -/
theorem newlines_trimmed_iff (whole : EndsWhole thinkMarkers text) :
    TrimsExactly request tagged text ↔
      Undisturbed (.reasoning true false) (symbolsOf thinkMarkers text) := by
  have known : Known (symbolsOf thinkMarkers text) :=
    known_of_parted (parted_symbolsOf thinkMarkers_endFree.nonempty text)
  rw [trimsExactly_iff_segments request tagged whole, ← trimmedBehind_false]
  exact (agrees _ known).reasoning [] false false

end Exactness

/-! ## Two texts that are not read exactly -/

theorem sampleRequest_id : NonBlank (py "r") :=
  nonBlank_iff.mpr ⟨chr 'r', by decide, by decide⟩

def sampleRequest : DialectRequest := ⟨py "r", py "glm5", fun _ => [], sampleRequest_id⟩

/-- Newlines around the closing marker, one of two on each side. -/
theorem newlines_trimmed_iff_around :
    TrimsExactly sampleRequest rfl (py "a

</think>

b") := by
  have whole : EndsWhole thinkMarkers (py "a

</think>

b") := by decide
  apply (newlines_trimmed_iff sampleRequest rfl whole).mpr
  have shape : symbolsOf thinkMarkers (py "a

</think>

b") =
      [.char (chr 'a'), .char newline, .char newline, .tag thinkClose, .char newline,
        .char newline, .char (chr 'b')] := by decide
  rw [shape]
  simp [Undisturbed, newline]

/-- The newline before a `<think>` opens the next segment, and the one behind a second `</think>`
is lost. -/
theorem newlines_not_trimmed_exactly :
    (EndsWhole thinkMarkers (py "a
<think>b") ∧
      ¬TrimsExactly sampleRequest rfl (py "a
<think>b")) ∧
    (EndsWhole thinkMarkers (py "a</think></think>
b") ∧
      ¬TrimsExactly sampleRequest rfl (py "a</think></think>
b")) := by
  have first : EndsWhole thinkMarkers (py "a
<think>b") := by decide
  have second : EndsWhole thinkMarkers (py "a</think></think>
b") := by decide
  refine ⟨⟨first, ?_⟩, second, ?_⟩
  · rw [trimsExactly_iff_segments sampleRequest rfl first]
    decide
  · rw [trimsExactly_iff_segments sampleRequest rfl second]
    decide

end ExQServe.Model.Step3p5
