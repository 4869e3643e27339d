import ExQServe.Model.Step3p5.Reading

/-! # Newlines around the end of reasoning

The text that the parser is meant to read is the one without the newline directly before and the
one directly behind each `</think>` that closes the reasoning channel. It differs where a newline
is held back over a `<think>`, and where further closing markers stand before the newline. -/

namespace ExQServe.Model.Step3p5

open ExQServe.Search ExQServe.Emission ExQServe.Model.Glm5

abbrev Symbols := List (Symbol PyChar)

/-! ## The trimmed text -/

inductive Place
  | reasoning
  | behindClose
  | text
deriving DecidableEq

/-- The symbols without the newlines around the closing markers. -/
def trimmedFrom : Place → Symbols → Symbols
  | _, [] => []
  | .reasoning, .char char :: symbols =>
      if char = newline ∧ symbols.head? = some (.tag thinkClose) then trimmedFrom .reasoning symbols
      else .char char :: trimmedFrom .reasoning symbols
  | .behindClose, .char char :: symbols =>
      if char = newline then trimmedFrom .text symbols
      else .char char :: trimmedFrom .text symbols
  | .text, .char char :: symbols => .char char :: trimmedFrom .text symbols
  | .reasoning, .tag marker :: symbols =>
      .tag marker :: trimmedFrom (if marker = thinkClose then .behindClose else .reasoning) symbols
  | _, .tag marker :: symbols =>
      .tag marker :: trimmedFrom (if marker = thinkOpen then .reasoning else .text) symbols

def thinkMarkers : List PyStr := [thinkOpen, thinkClose]

/-- The text with one newline deleted on each side of each `</think>` that closes the reasoning
channel. -/
def trimmed (text : PyStr) : PyStr :=
  render (trimmedFrom .reasoning (symbolsOf thinkMarkers text))

example : trimmed (py "a\n\n</think>\n\nb\n</think>\n") = py "a\n</think>\nb\n</think>\n" := by
  decide

/-- The trimmed symbols behind a newline of the reasoning channel that may stand before the
closing marker. -/
def trimmedBehind (pending : Bool) (symbols : Symbols) : Symbols :=
  (if pending = true ∧ symbols.head? ≠ some (.tag thinkClose) then [.char newline] else []) ++
    trimmedFrom .reasoning symbols

section TrimmedBehind

variable (pending : Bool) (symbols : Symbols)

theorem trimmedBehind_false : trimmedBehind false symbols = trimmedFrom .reasoning symbols := by
  simp [trimmedBehind]

@[simp] theorem trimmedBehind_nil :
    trimmedBehind pending [] = if pending then [.char newline] else [] := by
  simp [trimmedBehind, trimmedFrom]

@[simp] theorem trimmedBehind_newline :
    trimmedBehind pending (.char newline :: symbols) =
      (if pending then [.char newline] else []) ++ trimmedBehind true symbols := by
  by_cases closes : symbols.head? = some (.tag thinkClose)
  · simp [trimmedBehind, trimmedFrom, closes]
  · simp [trimmedBehind, trimmedFrom, closes]

theorem trimmedBehind_char {char : PyChar} (other : char ≠ newline) :
    trimmedBehind pending (.char char :: symbols) =
      (if pending then [.char newline] else []) ++ .char char :: trimmedBehind false symbols := by
  simp [trimmedBehind, trimmedFrom, other]

@[simp] theorem trimmedBehind_close :
    trimmedBehind pending (.tag thinkClose :: symbols) =
      .tag thinkClose :: trimmedFrom .behindClose symbols := by
  simp [trimmedBehind, trimmedFrom]

@[simp] theorem trimmedBehind_open :
    trimmedBehind pending (.tag thinkOpen :: symbols) =
      (if pending then [.char newline] else []) ++
        .tag thinkOpen :: trimmedBehind false symbols := by
  have other : thinkOpen ≠ thinkClose := by decide
  simp [trimmedBehind, trimmedFrom, other]

end TrimmedBehind

/-! ## Characters -/

def charCount : Symbols → Nat
  | [] => 0
  | .char _ :: symbols => charCount symbols + 1
  | .tag _ :: symbols => charCount symbols

@[simp] theorem charCount_append (first second : Symbols) :
    charCount (first ++ second) = charCount first + charCount second := by
  induction first with
  | nil => simp [charCount]
  | cons symbol first induction =>
      cases symbol with
      | char char =>
          simp only [List.cons_append, charCount, induction]
          omega
      | tag marker => simp only [List.cons_append, charCount, induction]

def segmentCount (segments : List Segment) : Nat :=
  (segments.map fun segment => segment.2.length).sum

theorem segmentCount_segmentsFrom (channel : Channel) (content : PyStr) (symbols : Symbols) :
    segmentCount (segmentsFrom channel content symbols) = content.length + charCount symbols := by
  have flush : ∀ channel content, segmentCount (flushed channel content) = content.length := by
    intro channel content
    rw [flushed]
    split
    · rename_i empty
      rw [empty]
      rfl
    · simp [segmentCount]
  induction symbols generalizing channel content with
  | nil => simp [segmentsFrom, flush, charCount]
  | cons symbol symbols induction =>
      cases symbol with
      | char char =>
          rw [segmentsFrom, induction, charCount, List.length_append]
          simp only [List.length_singleton]
          omega
      | tag marker =>
          have later := induction (Glm5IncrementalParser.behind marker) []
          have all : segmentCount (flushed channel content ++
              segmentsFrom (Glm5IncrementalParser.behind marker) [] symbols) =
                segmentCount (flushed channel content) +
                  segmentCount (segmentsFrom (Glm5IncrementalParser.behind marker) [] symbols) := by
            simp [segmentCount]
          rw [segmentsFrom, all, flush, later, charCount]
          simp

/-- A segment that has content goes on with it. -/
theorem segmentsFrom_head (channel : Channel) {content : PyStr} (some : content ≠ [])
    (symbols : Symbols) :
    ∃ more later, segmentsFrom channel content symbols = (channel, content ++ more) :: later := by
  induction symbols generalizing content with
  | nil => exact ⟨[], [], by simp [segmentsFrom, flushed, some]⟩
  | cons symbol symbols induction =>
      cases symbol with
      | char char =>
          rcases @induction (content ++ [char]) (by simp) with ⟨more, later, shape⟩
          exact ⟨char :: more, later, by simp [segmentsFrom, shape]⟩
      | tag marker =>
          refine ⟨[], segmentsFrom (Glm5IncrementalParser.behind marker) [] symbols, ?_⟩
          simp [segmentsFrom, flushed, some]

/-- The symbols have no markers but those of the envelope. -/
def Known (symbols : Symbols) : Prop :=
  ∀ marker, .tag marker ∈ symbols → marker = thinkOpen ∨ marker = thinkClose

theorem Known.tail {symbol : Symbol PyChar} {symbols : Symbols}
    (known : Known (symbol :: symbols)) :
    Known symbols := fun marker member => known marker (List.mem_cons_of_mem _ member)

theorem Known.cases_tag {motive : PyStr → Prop} {marker : PyStr} {symbols : Symbols}
    (known : Known (.tag marker :: symbols)) (opens : motive thinkOpen)
    (closes : motive thinkClose) : motive marker := by
  rcases known marker List.mem_cons_self with same | same
  · exact same ▸ opens
  · exact same ▸ closes

/-! ### One symbol -/

section Symbols

variable (pending trims : Bool) (symbols : Symbols)

theorem open_ne_close : thinkOpen ≠ thinkClose := by decide

theorem behind_open : Glm5IncrementalParser.behind thinkOpen = .reasoning := rfl

theorem heldFrom_reasoning_nil :
    heldFrom .reasoning pending trims [] = if pending then [.char newline] else [] := by
  cases pending <;> rfl

theorem heldFrom_reasoning_newline :
    heldFrom .reasoning pending trims (.char newline :: symbols) =
      (if pending then [.char newline] else []) ++ heldFrom .reasoning true trims symbols := by
  simp [heldFrom]

theorem heldFrom_reasoning_char {char : PyChar} (other : char ≠ newline) :
    heldFrom .reasoning pending trims (.char char :: symbols) =
      (if pending then [.char newline] else []) ++
        .char char :: heldFrom .reasoning false trims symbols := by
  simp [heldFrom, other]

theorem heldFrom_reasoning_open :
    heldFrom .reasoning pending trims (.tag thinkOpen :: symbols) =
      .tag thinkOpen :: heldFrom .reasoning pending trims symbols := by
  simp [heldFrom, open_ne_close, behind_open]

theorem heldFrom_reasoning_close :
    heldFrom .reasoning pending trims (.tag thinkClose :: symbols) =
      .tag thinkClose :: heldFrom .text false true symbols := by
  simp [heldFrom]

theorem heldFrom_text_char {char : PyChar} (stays : ¬(trims = true ∧ char = newline)) :
    heldFrom .text false trims (.char char :: symbols) =
      .char char :: heldFrom .text false false symbols := by
  rw [heldFrom, if_neg stays]

theorem heldFrom_text_newline :
    heldFrom .text false true (.char newline :: symbols) = heldFrom .text false false symbols := by
  simp [heldFrom]

theorem heldFrom_text_open :
    heldFrom .text false trims (.tag thinkOpen :: symbols) =
      .tag thinkOpen :: heldFrom .reasoning false trims symbols := rfl

theorem heldFrom_text_close :
    heldFrom .text false trims (.tag thinkClose :: symbols) =
      .tag thinkClose :: heldFrom .text false trims symbols := rfl

end Symbols

theorem trimmedFrom_open (place : Place) (symbols : Symbols) :
    trimmedFrom place (.tag thinkOpen :: symbols) =
      .tag thinkOpen :: trimmedBehind false symbols := by
  cases place <;> simp [trimmedFrom, trimmedBehind_false, open_ne_close]

theorem trimmedFrom_close {place : Place} (other : place ≠ .reasoning) (symbols : Symbols) :
    trimmedFrom place (.tag thinkClose :: symbols) =
      .tag thinkClose :: trimmedFrom .text symbols := by
  cases place with
  | reasoning => exact absurd rfl other
  | behindClose => simp [trimmedFrom, open_ne_close.symm]
  | text => simp [trimmedFrom, open_ne_close.symm]

/-- The parser never shows more characters than the trimmed text has. -/
structure Fewer (symbols : Symbols) : Prop where
  reasoning : ∀ pending trims, charCount (heldFrom .reasoning pending trims symbols) ≤
    charCount (trimmedBehind pending symbols)
  behindClose : charCount (heldFrom .text false true symbols) ≤
    charCount (trimmedFrom .behindClose symbols)
  text : ∀ trims, charCount (heldFrom .text false trims symbols) ≤
    charCount (trimmedFrom .text symbols)

theorem charCount_trimmedBehind (pending : Bool) (symbols : Symbols) :
    charCount (trimmedBehind pending symbols) ≤
      charCount (if pending then [.char newline] else []) +
        charCount (trimmedBehind false symbols) := by
  rw [trimmedBehind_false, trimmedBehind, charCount_append]
  cases pending with
  | false => simp
  | true =>
      split
      · simp
      · simp [charCount]

theorem fewer (symbols : Symbols) (known : Known symbols) : Fewer symbols := by
  induction symbols with
  | nil =>
      constructor
      · intro pending trims
        rw [heldFrom_reasoning_nil, trimmedBehind_nil]
      · simp [heldFrom, trimmedFrom]
      · simp [heldFrom, trimmedFrom]
  | cons symbol symbols induction =>
      have later := induction known.tail
      cases symbol with
      | char char =>
          constructor
          · intro pending trims
            by_cases line : char = newline
            · rw [line, heldFrom_reasoning_newline, trimmedBehind_newline, charCount_append,
                charCount_append]
              exact Nat.add_le_add_left (later.reasoning true trims) _
            · rw [heldFrom_reasoning_char _ _ _ line, trimmedBehind_char _ _ line,
                charCount_append, charCount_append, charCount, charCount]
              have rest := later.reasoning false trims
              omega
          · have rest := later.text false
            by_cases line : char = newline
            · rw [line, heldFrom_text_newline]
              simp only [trimmedFrom, if_true]
              exact rest
            · rw [heldFrom_text_char _ _ fun both => line both.2]
              simp only [trimmedFrom, line, if_false, charCount]
              omega
          · intro trims
            have rest := later.text false
            by_cases cut : trims = true ∧ char = newline
            · rw [cut.1, cut.2, heldFrom_text_newline, trimmedFrom, charCount]
              omega
            · rw [heldFrom_text_char _ _ cut, trimmedFrom, charCount, charCount]
              omega
      | tag marker =>
          have opened := later.reasoning
          apply known.cases_tag
          · constructor
            · intro pending trims
              have rest := opened pending trims
              have bound := charCount_trimmedBehind pending symbols
              rw [heldFrom_reasoning_open, trimmedBehind_open, charCount_append, charCount,
                charCount]
              omega
            · rw [heldFrom_text_open, trimmedFrom_open, charCount, charCount]
              exact opened false true
            · intro trims
              rw [heldFrom_text_open, trimmedFrom_open, charCount, charCount]
              exact opened false trims
          · constructor
            · intro pending trims
              rw [heldFrom_reasoning_close, trimmedBehind_close, charCount, charCount]
              exact later.behindClose
            · rw [heldFrom_text_close, trimmedFrom_close (by decide), charCount, charCount]
              exact later.text true
            · intro trims
              rw [heldFrom_text_close, trimmedFrom_close (by decide), charCount, charCount]
              exact later.text trims

/-! ## Where the newlines stand apart -/

/-- What was read before: whether the segment of reasoning has shown nothing and whether a newline
is held; a newline was carried over a `<think>`, or was and is held again; closing markers, the
first of which closed the reasoning. -/
inductive Stage
  | reasoning (fresh pending : Bool)
  | carried
  | repaid
  | behindClose
  | behindMore
  | text
deriving DecidableEq

/-- No newline is carried over a `<think>`, unless only newlines and `<think>` make up for it, and
none follows closing markers of which the last closed nothing. -/
def Undisturbed : Stage → Symbols → Prop
  | .repaid, [] => False
  | _, [] => True
  | .reasoning fresh pending, .char char :: symbols =>
      if char = newline then Undisturbed (.reasoning (fresh && !pending) true) symbols
      else Undisturbed (.reasoning false false) symbols
  | .reasoning fresh pending, .tag marker :: symbols =>
      if marker = thinkClose then Undisturbed .behindClose symbols
      else if pending = true then fresh = true ∧ Undisturbed .carried symbols
      else Undisturbed (.reasoning true false) symbols
  | .carried, .char char :: symbols => char = newline ∧ Undisturbed .repaid symbols
  | .carried, .tag marker :: symbols => marker ≠ thinkClose ∧ Undisturbed .carried symbols
  | .repaid, .char _ :: _ => False
  | .repaid, .tag marker :: symbols =>
      if marker = thinkClose then Undisturbed .behindClose symbols else Undisturbed .carried symbols
  | .behindMore, .char char :: symbols => char ≠ newline ∧ Undisturbed .text symbols
  | .behindClose, .char _ :: symbols => Undisturbed .text symbols
  | .text, .char _ :: symbols => Undisturbed .text symbols
  | .text, .tag marker :: symbols =>
      if marker = thinkOpen then Undisturbed (.reasoning true false) symbols
      else Undisturbed .text symbols
  | _, .tag marker :: symbols =>
      if marker = thinkOpen then Undisturbed (.reasoning true false) symbols
      else Undisturbed .behindMore symbols

/-- From every stage the segments agree where nothing is disturbed. -/
structure Agrees (symbols : Symbols) : Prop where
  reasoning : ∀ content pending trims,
    segmentsFrom .reasoning content (heldFrom .reasoning pending trims symbols) =
        segmentsFrom .reasoning content (trimmedBehind pending symbols) ↔
      Undisturbed (.reasoning content.isEmpty pending) symbols
  carried : ∀ trims, segmentsFrom .reasoning [] (heldFrom .reasoning true trims symbols) =
      (.reasoning, [newline]) :: segmentsFrom .reasoning [] (trimmedBehind false symbols) ↔
    Undisturbed .carried symbols
  repaid : ∀ trims, segmentsFrom .reasoning [newline] (heldFrom .reasoning true trims symbols) =
      (.reasoning, [newline]) :: segmentsFrom .reasoning [] (trimmedBehind true symbols) ↔
    Undisturbed .repaid symbols
  behindClose : segmentsFrom .text [] (heldFrom .text false true symbols) =
      segmentsFrom .text [] (trimmedFrom .behindClose symbols) ↔ Undisturbed .behindClose symbols
  behindMore : segmentsFrom .text [] (heldFrom .text false true symbols) =
      segmentsFrom .text [] (trimmedFrom .text symbols) ↔ Undisturbed .behindMore symbols
  text : ∀ content, segmentsFrom .text content (heldFrom .text false false symbols) =
      segmentsFrom .text content (trimmedFrom .text symbols) ↔ Undisturbed .text symbols

/-- A longer first segment is no single newline. -/
theorem segmentsFrom_ne {content : PyStr} (symbols : Symbols) (later : List Segment)
    (long : 1 < content.length) :
    segmentsFrom .reasoning content symbols ≠ (.reasoning, [newline]) :: later := by
  intro same
  have some : content ≠ [] := List.ne_nil_of_length_pos (by omega)
  rcases segmentsFrom_head .reasoning some symbols with ⟨more, others, shape⟩
  rw [shape] at same
  have length := congrArg List.length (Prod.mk.inj (List.cons.inj same).1).2
  rw [List.length_append, List.length_singleton] at length
  omega

theorem agrees_nil : Agrees [] where
  reasoning content pending trims := by
    rw [heldFrom_reasoning_nil, trimmedBehind_nil]
    exact iff_of_true rfl trivial
  carried trims := iff_of_true rfl trivial
  repaid trims := by
    refine iff_of_false ?_ id
    simp [heldFrom_reasoning_nil, segmentsFrom, flushed]
  behindClose := iff_of_true rfl trivial
  behindMore := iff_of_true rfl trivial
  text content := iff_of_true rfl trivial

theorem isEmpty_append_cons (content : PyStr) (char : PyChar) (rest : PyStr) :
    (content ++ char :: rest).isEmpty = false := by
  cases content <;> rfl

theorem Agrees.char {symbols : Symbols} (known : Known symbols) (later : Agrees symbols)
    (char : PyChar) : Agrees (.char char :: symbols) where
  reasoning content pending trims := by
    by_cases line : char = newline
    · rw [line, heldFrom_reasoning_newline, trimmedBehind_newline, Undisturbed, if_pos rfl]
      cases pending with
      | false => simpa using later.reasoning content true trims
      | true =>
          simpa [segmentsFrom, isEmpty_append_cons] using
            later.reasoning (content ++ [newline]) true trims
    · rw [heldFrom_reasoning_char _ _ _ line, trimmedBehind_char _ _ line, Undisturbed,
        if_neg line]
      cases pending with
      | false =>
          simpa [segmentsFrom, isEmpty_append_cons] using
            later.reasoning (content ++ [char]) false trims
      | true =>
          simpa [segmentsFrom, isEmpty_append_cons] using
            later.reasoning (content ++ [newline] ++ [char]) false trims
  carried trims := by
    rw [Undisturbed]
    by_cases line : char = newline
    · rw [line, heldFrom_reasoning_newline, trimmedBehind_newline]
      simpa [segmentsFrom] using later.repaid trims
    · refine iff_of_false ?_ fun both => line both.1
      rw [heldFrom_reasoning_char _ _ _ line]
      simp only [if_true, segmentsFrom, List.singleton_append, List.nil_append]
      exact segmentsFrom_ne _ _ (by simp)
  repaid trims := by
    rw [Undisturbed]
    refine iff_of_false ?_ id
    by_cases line : char = newline
    · rw [line, heldFrom_reasoning_newline]
      simp only [if_true, segmentsFrom, List.singleton_append]
      exact segmentsFrom_ne _ _ (by simp)
    · rw [heldFrom_reasoning_char _ _ _ line]
      simp only [if_true, segmentsFrom, List.singleton_append]
      exact segmentsFrom_ne _ _ (by simp)
  behindClose := by
    rw [Undisturbed]
    by_cases line : char = newline
    · rw [line, heldFrom_text_newline, trimmedFrom, if_pos rfl]
      exact later.text []
    · rw [heldFrom_text_char _ _ fun both => line both.2, trimmedFrom, if_neg line]
      exact later.text [char]
  behindMore := by
    rw [Undisturbed]
    by_cases line : char = newline
    · refine iff_of_false ?_ fun both => both.1 line
      rw [line, heldFrom_text_newline, trimmedFrom, segmentsFrom]
      intro same
      have count := congrArg segmentCount same
      rw [segmentCount_segmentsFrom, segmentCount_segmentsFrom] at count
      have bound := (fewer symbols known).text false
      simp only [List.nil_append, List.length_nil, List.length_singleton] at count
      omega
    · rw [heldFrom_text_char _ _ fun both => line both.2, trimmedFrom]
      exact (later.text [char]).trans ⟨fun rest => ⟨line, rest⟩, And.right⟩
  text content := by
    rw [heldFrom_text_char _ _ fun both => Bool.false_ne_true both.1, trimmedFrom, Undisturbed]
    exact later.text (content ++ [char])

theorem segmentsFrom_open (channel : Channel) (content : PyStr) (symbols : Symbols) :
    segmentsFrom channel content (.tag thinkOpen :: symbols) =
      flushed channel content ++ segmentsFrom .reasoning [] symbols := rfl

theorem segmentsFrom_close (channel : Channel) (content : PyStr) (symbols : Symbols) :
    segmentsFrom channel content (.tag thinkClose :: symbols) =
      flushed channel content ++ segmentsFrom .text [] symbols := rfl

theorem Agrees.opened {symbols : Symbols} (later : Agrees symbols) :
    Agrees (.tag thinkOpen :: symbols) where
  reasoning content pending trims := by
    have fresh := later.reasoning [] false trims
    rw [heldFrom_reasoning_open, trimmedBehind_open, Undisturbed, if_neg open_ne_close]
    cases pending with
    | false => simpa [segmentsFrom_open] using fresh
    | true =>
        have carried := later.carried trims
        cases content with
        | nil =>
            simpa [segmentsFrom, behind_open, flushed] using carried
        | cons char content =>
            refine iff_of_false ?_ fun both => Bool.false_ne_true both.1
            simp [segmentsFrom, flushed]
  carried trims := by
    have same := later.carried trims
    rw [heldFrom_reasoning_open, trimmedBehind_open, Undisturbed]
    simpa [segmentsFrom_open, flushed, open_ne_close] using same
  repaid trims := by
    have carried := later.carried trims
    rw [heldFrom_reasoning_open, trimmedBehind_open, Undisturbed, if_neg open_ne_close]
    simpa [segmentsFrom, behind_open, flushed] using carried
  behindClose := by
    have fresh := later.reasoning [] false true
    rw [heldFrom_text_open, trimmedFrom_open]
    simpa [segmentsFrom_open, Undisturbed] using fresh
  behindMore := by
    have fresh := later.reasoning [] false true
    rw [heldFrom_text_open, trimmedFrom_open]
    simpa [segmentsFrom_open, Undisturbed] using fresh
  text content := by
    have fresh := later.reasoning [] false false
    rw [heldFrom_text_open, trimmedFrom_open]
    simpa [segmentsFrom_open, Undisturbed] using fresh

theorem Agrees.closed {symbols : Symbols} (known : Known symbols) (later : Agrees symbols) :
    Agrees (.tag thinkClose :: symbols) where
  reasoning content pending trims := by
    have behind := later.behindClose
    rw [heldFrom_reasoning_close, trimmedBehind_close, Undisturbed, if_pos rfl]
    simpa [segmentsFrom_close] using behind
  carried trims := by
    rw [heldFrom_reasoning_close, trimmedBehind_close, Undisturbed]
    refine iff_of_false ?_ fun both => both.1 rfl
    intro same
    have count := congrArg segmentCount same
    rw [segmentCount_segmentsFrom] at count
    have rest := segmentCount_segmentsFrom .reasoning [] (.tag thinkClose ::
      trimmedFrom .behindClose symbols)
    have bound := (fewer symbols known).behindClose
    simp only [segmentCount, List.map_cons, List.sum_cons, List.length_singleton, charCount,
      List.length_nil] at count rest
    omega
  repaid trims := by
    have behind := later.behindClose
    rw [heldFrom_reasoning_close, trimmedBehind_close, Undisturbed, if_pos rfl]
    simpa [segmentsFrom_close, flushed] using behind
  behindClose := by
    have behind := later.behindMore
    rw [heldFrom_text_close, trimmedFrom_close (by decide)]
    simpa [segmentsFrom_close, Undisturbed, open_ne_close.symm] using behind
  behindMore := by
    have behind := later.behindMore
    rw [heldFrom_text_close, trimmedFrom_close (by decide)]
    simpa [segmentsFrom_close, Undisturbed, open_ne_close.symm] using behind
  text content := by
    have text := later.text []
    rw [heldFrom_text_close, trimmedFrom_close (by decide)]
    simpa [segmentsFrom_close, Undisturbed, open_ne_close.symm] using text

theorem agrees (symbols : Symbols) (known : Known symbols) : Agrees symbols := by
  induction symbols with
  | nil => exact agrees_nil
  | cons symbol symbols induction =>
      have later := induction known.tail
      cases symbol with
      | char char => exact later.char known.tail char
      | tag marker =>
          exact Known.cases_tag (motive := fun marker => Agrees (.tag marker :: symbols)) known
            later.opened (later.closed known.tail)

end ExQServe.Model.Step3p5
