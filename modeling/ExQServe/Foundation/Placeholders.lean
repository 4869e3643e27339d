import ExQServe.Foundation.Replace

/-! # Placeholders

Words of a text are replaced by placeholders and back, with the replacement of all
occurrences. What is meant is a list of characters and placed words; what is done happens
on its rendering, where a text may run over into a placeholder. Each direction comes with
the exact condition under which it does what is meant. -/

namespace ExQServe.Search

/-- Words and the codes that stand in for them. -/
structure Placeholders (α ι : Type) where
  word : ι → List α
  code : ι → List α
  opening : α
  lead : α
  lead_ne_opening : lead ≠ opening
  word_opens : ∀ index, ∃ rest, word index = opening :: rest
  code_leads : ∀ index, ∃ rest, code index = lead :: rest
  code_closed : ∀ index, opening ∉ code index
  separate : ∀ inner outer, code inner <:+: code outer → inner = outer

/-- Characters, and words that are placed. -/
abbrev Marked (α ι : Type) : Type := List (α ⊕ ι)

variable {α ι : Type}

def literal (text : List α) : Marked α ι := text.map Sum.inl

namespace Placeholders

variable (placeholders : Placeholders α ι)

def render (marked : Marked α ι) : List α :=
  marked.flatMap (Sum.elim (fun char => [char]) placeholders.code)

def expand (marked : Marked α ι) : List α :=
  marked.flatMap (Sum.elim (fun char => [char]) placeholders.word)

section Rendering

variable {placeholders}

@[simp] theorem render_nil : placeholders.render [] = [] := rfl

@[simp] theorem render_inl (char : α) (marked : Marked α ι) :
    placeholders.render (.inl char :: marked) = char :: placeholders.render marked := rfl

@[simp] theorem render_inr (index : ι) (marked : Marked α ι) :
    placeholders.render (.inr index :: marked) =
      placeholders.code index ++ placeholders.render marked := rfl

theorem render_append (front back : Marked α ι) :
    placeholders.render (front ++ back) = placeholders.render front ++ placeholders.render back :=
  List.flatMap_append

@[simp] theorem render_literal (text : List α) : placeholders.render (literal text) = text := by
  induction text with
  | nil => rfl
  | cons char text induction => exact congrArg (char :: ·) induction

@[simp] theorem expand_nil : placeholders.expand [] = [] := rfl

@[simp] theorem expand_inl (char : α) (marked : Marked α ι) :
    placeholders.expand (.inl char :: marked) = char :: placeholders.expand marked := rfl

@[simp] theorem expand_inr (index : ι) (marked : Marked α ι) :
    placeholders.expand (.inr index :: marked) =
      placeholders.word index ++ placeholders.expand marked := rfl

theorem expand_append (front back : Marked α ι) :
    placeholders.expand (front ++ back) = placeholders.expand front ++ placeholders.expand back :=
  List.flatMap_append

@[simp] theorem expand_literal (text : List α) : placeholders.expand (literal text) = text := by
  induction text with
  | nil => rfl
  | cons char text induction => exact congrArg (char :: ·) induction

theorem word_ne_nil (index : ι) : placeholders.word index ≠ [] := by
  rcases placeholders.word_opens index with ⟨rest, opens⟩
  rw [opens]
  exact List.cons_ne_nil _ _

theorem code_ne_nil (index : ι) : placeholders.code index ≠ [] := by
  rcases placeholders.code_leads index with ⟨rest, leads⟩
  rw [leads]
  exact List.cons_ne_nil _ _

end Rendering

/-! ## Spellings -/

/-- The text ahead spells this and runs over into a placeholder. -/
def Crosses (spelled : List α) (ahead : Marked α ι) : Prop :=
  spelled <+: placeholders.render ahead ∧ ∃ text index behind,
    ahead = literal text ++ .inr index :: behind ∧ text ≠ [] ∧ text.length < spelled.length

/-- Somewhere a text runs over. -/
def Straddles (spelled : List α) (marked : Marked α ι) : Prop :=
  ∃ ahead, ahead <:+ marked ∧ placeholders.Crosses spelled ahead

theorem next_of_prefix {spelled text rest : List α} {char : α}
    (isPrefix : spelled <+: text ++ char :: rest) (longer : text.length < spelled.length) :
    ∃ more, spelled = text ++ char :: more := by
  have begins : text <+: spelled :=
    List.prefix_of_prefix_length_le (List.prefix_append _ _) isPrefix (Nat.le_of_lt longer)
  rcases begins with ⟨after, rfl⟩
  rw [List.prefix_append_right_inj] at isPrefix
  cases after with
  | nil =>
      rw [List.append_nil] at longer
      exact absurd longer (Nat.lt_irrefl _)
  | cons first after =>
      rw [(List.cons_prefix_cons.mp isPrefix).1]
      exact ⟨after, rfl⟩

/-- What is spelled ahead is literal, or runs over into a placeholder or behind the end. -/
theorem spelled_cases {spelled rest : List α} {marked : Marked α ι}
    (isPrefix : spelled <+: placeholders.render marked ++ rest) :
    literal spelled <+: marked ∨
      (∃ text index behind, marked = literal text ++ .inr index :: behind ∧
        text.length < spelled.length) ∨
      ∃ text, marked = literal text ∧ text.length < spelled.length := by
  induction spelled generalizing marked with
  | nil => exact .inl (List.nil_prefix)
  | cons char spelled induction =>
      cases marked with
      | nil => exact .inr (.inr ⟨[], rfl, Nat.succ_pos _⟩)
      | cons token marked =>
          cases token with
          | inr index => exact .inr (.inl ⟨[], index, marked, rfl, Nat.succ_pos _⟩)
          | inl first =>
              rw [render_inl, List.cons_append, List.cons_prefix_cons] at isPrefix
              rcases isPrefix with ⟨rfl, isPrefix⟩
              rcases induction isPrefix with
                whole | ⟨text, index, behind, rfl, shorter⟩ | ⟨text, rfl, shorter⟩
              · exact .inl (List.cons_prefix_cons.mpr ⟨rfl, whole⟩)
              · exact .inr (.inl ⟨char :: text, index, behind, rfl, Nat.succ_lt_succ shorter⟩)
              · exact .inr (.inr ⟨char :: text, rfl, Nat.succ_lt_succ shorter⟩)

/-! ## Placing -/

/-- The texts differ before either ends. -/
def Diverges (said truth : List α) : Prop :=
  ∃ shared char other saidRest truthRest, said = shared ++ char :: saidRest ∧
    truth = shared ++ other :: truthRest ∧ char ≠ other

/-- The text shows a code where the truth goes on otherwise than its word. -/
def Misplaced (truth text : List α) : Prop :=
  ∃ front index rest more, text = placeholders.render front ++ placeholders.code index ++ rest ∧
    truth = placeholders.expand front ++ placeholders.opening :: more ∧
    Diverges (placeholders.word index) (placeholders.opening :: more)

/-- What comes behind the marked text: nothing, or a code where the truth opens a word. -/
def Follows (rest more : List α) : Prop :=
  rest = [] ∨
    (∃ later, rest = placeholders.lead :: later) ∧ ∃ later, more = placeholders.opening :: later

/-- At its turn the word is spelled by a text that runs over into a placeholder. -/
def RunsOver (index : ι) (marked : Marked α ι) : Prop :=
  ∃ ahead, Stands (literal (placeholders.word index)) marked ahead ∧
    placeholders.Crosses (placeholders.word index) ahead

section Placing

variable {placeholders} {index : ι}

theorem length_lt_literal_word_append (marked : Marked α ι) :
    marked.length < (literal (placeholders.word index) ++ marked).length := by
  rw [List.length_append, literal, List.length_map]
  exact Nat.lt_add_of_pos_left (List.length_pos_iff.mpr (placeholders.word_ne_nil index))

theorem literal_word_ne_nil : literal (ι := ι) (placeholders.word index) ≠ [] := by
  intro none
  exact placeholders.word_ne_nil index (List.map_eq_nil_iff.mp none)

/-- No occurrence of a word begins within a code. -/
theorem word_absent_in_code (other : ι) (rest : List α) (before after : List α)
    (split : placeholders.code other = before ++ after) (some : after ≠ []) :
    ¬placeholders.word index <+: after ++ rest := by
  intro isPrefix
  rcases placeholders.word_opens index with ⟨more, opens⟩
  cases after with
  | nil => exact some rfl
  | cons first after =>
      rw [opens, List.cons_append, List.cons_prefix_cons] at isPrefix
      apply placeholders.code_closed other
      rw [split, isPrefix.1]
      exact List.mem_append_right _ List.mem_cons_self

theorem Misplaced.prepend {truth text : List α} (misplaced : placeholders.Misplaced truth text)
    (front : Marked α ι) : placeholders.Misplaced (placeholders.expand front ++ truth)
      (placeholders.render front ++ text) := by
  rcases misplaced with ⟨inner, other, rest, more, rfl, rfl, diverges⟩
  refine ⟨front ++ inner, other, rest, more, ?_, ?_, diverges⟩
  · rw [render_append]
    simp only [List.append_assoc]
  · rw [expand_append, List.append_assoc]

theorem Misplaced.behind_char {truth text : List α} (misplaced : placeholders.Misplaced truth text)
    (char : α) : placeholders.Misplaced (char :: truth) (char :: text) :=
  misplaced.prepend [.inl char]

theorem Misplaced.behind_place {truth text : List α} (misplaced : placeholders.Misplaced truth text)
    (other : ι) : placeholders.Misplaced (placeholders.word other ++ truth)
      (placeholders.code other ++ text) := by
  have longer := misplaced.prepend [.inr other]
  rw [render_inr, expand_inr, render_nil, expand_nil, List.append_nil, List.append_nil] at longer
  exact longer

theorem prefix_render_of_literal {spelled rest : List α} {marked : Marked α ι}
    (isPrefix : literal spelled <+: marked) :
    spelled <+: placeholders.render marked ++ rest := by
  rcases isPrefix with ⟨behind, rfl⟩
  rw [render_append, render_literal, List.append_assoc]
  exact List.prefix_append _ _

/-- A word that runs over replaces something else. -/
theorem misplaced_of_crossing {text later truth rest : List α}
    (isPrefix : placeholders.word index <+: text ++ placeholders.lead :: later)
    (longer : text.length < (placeholders.word index).length)
    (truthful : truth = text ++ placeholders.opening :: rest) (after : List α) :
    placeholders.Misplaced truth (placeholders.code index ++ after) := by
  rcases next_of_prefix isPrefix longer with ⟨more, spelled⟩
  have diverges : Diverges (placeholders.word index) truth :=
    ⟨text, placeholders.lead, placeholders.opening, more, rest, spelled, truthful,
      placeholders.lead_ne_opening⟩
  rcases placeholders.word_opens index with ⟨word, opens⟩
  cases text with
  | nil =>
      rw [opens, List.nil_append] at spelled
      exact absurd (List.cons.inj spelled).1.symm placeholders.lead_ne_opening
  | cons first text =>
      rw [opens, List.cons_append] at spelled
      have same := (List.cons.inj spelled).1
      subst truthful
      rw [← same] at diverges ⊢
      exact ⟨[], index, after, text ++ placeholders.opening :: rest, rfl, rfl, diverges⟩

theorem not_runsOver_nil : ¬placeholders.RunsOver index [] := by
  intro runs
  rcases runs with ⟨ahead, stands, -, text, other, behind, equal, -⟩
  generalize none : ([] : Marked α ι) = marked at stands
  cases stands with
  | here =>
      rw [← none] at equal
      exact List.cons_ne_nil _ _ (List.append_eq_nil_iff.mp equal.symm).2
  | hit => exact literal_word_ne_nil (List.append_eq_nil_iff.mp none.symm).1
  | miss => cases none

theorem not_word_prefix_inr (other : ι) (marked : Marked α ι) :
    ¬literal (placeholders.word index) <+: .inr other :: marked := by
  intro isPrefix
  rcases placeholders.word_opens index with ⟨rest, opens⟩
  rw [opens] at isPrefix
  cases (List.cons_prefix_cons.mp isPrefix).1

theorem RunsOver.of_inr {other : ι} {marked : Marked α ι}
    (runs : placeholders.RunsOver index (.inr other :: marked)) :
    placeholders.RunsOver index marked := by
  rcases runs with ⟨ahead, stands, crosses⟩
  rcases stands.of_cons (not_word_prefix_inr other marked) with here | later
  · rcases crosses with ⟨-, text, placed, behind, equal, some, -⟩
    cases text with
    | nil => exact absurd rfl some
    | cons first text =>
        rw [here] at equal
        cases equal
  · exact ⟨ahead, later, crosses⟩

theorem RunsOver.of_word {marked : Marked α ι}
    (runs : placeholders.RunsOver index (literal (placeholders.word index) ++ marked)) :
    placeholders.RunsOver index marked := by
  rcases runs with ⟨ahead, stands, crosses⟩
  rcases stands.of_append with here | later
  · rcases crosses with ⟨-, text, placed, behind, equal, -, shorter⟩
    have whole : (literal (placeholders.word index) ++ marked : Marked α ι)[text.length]? =
        some (.inr placed) := by
      rw [← here, equal, List.getElem?_append_right (by rw [literal, List.length_map])]
      rw [literal, List.length_map, Nat.sub_self]
      rfl
    rw [List.getElem?_append_left (by rw [literal, List.length_map]; exact shorter), literal,
      List.getElem?_map] at whole
    cases found : (placeholders.word index)[text.length]? with
    | none =>
        rw [found] at whole
        cases whole
    | some char =>
        rw [found] at whole
        cases whole
  · exact ⟨ahead, later, crosses⟩

theorem RunsOver.of_inl {char : α} {marked : Marked α ι}
    (absent : ¬literal (placeholders.word index) <+: .inl char :: marked)
    (runs : placeholders.RunsOver index (.inl char :: marked)) :
    placeholders.Crosses (placeholders.word index) (.inl char :: marked) ∨
      placeholders.RunsOver index marked := by
  rcases runs with ⟨ahead, stands, crosses⟩
  rcases stands.of_cons absent with here | later
  · rw [here] at crosses
    exact .inl crosses
  · exact .inr ⟨ahead, later, crosses⟩

/-- A word that is spelled ahead, but not literally, runs over. -/
theorem misplaced_here {marked : Marked α ι} {rest more : List α}
    (follows : placeholders.Follows rest more)
    (spelled : placeholders.word index <+: placeholders.render marked ++ rest)
    (placed : ¬literal (placeholders.word index) <+: marked) (after : List α) :
    placeholders.Misplaced (placeholders.expand marked ++ more) (placeholders.code index ++ after) ∧
      (rest = [] → placeholders.Crosses (placeholders.word index) marked) := by
  rcases placeholders.spelled_cases spelled with
    whole | ⟨text, other, behind, equal, longer⟩ | ⟨text, equal, longer⟩
  · exact absurd whole placed
  · rcases placeholders.code_leads other with ⟨code, leads⟩
    rcases placeholders.word_opens other with ⟨word, opens⟩
    have truthful : placeholders.expand marked ++ more =
        text ++ placeholders.opening :: (word ++ (placeholders.expand behind ++ more)) := by
      rw [equal, expand_append, expand_literal, expand_inr, opens]
      simp only [List.append_assoc, List.cons_append]
    have written : placeholders.render marked ++ rest =
        text ++ placeholders.lead :: (code ++ (placeholders.render behind ++ rest)) := by
      rw [equal, render_append, render_literal, render_inr, leads]
      simp only [List.append_assoc, List.cons_append]
    constructor
    · rw [written] at spelled
      exact misplaced_of_crossing spelled longer truthful after
    · intro none
      rw [none, List.append_nil] at spelled written
      refine ⟨spelled, text, other, behind, equal, ?_, longer⟩
      intro begins
      rcases placeholders.word_opens index with ⟨first, firstOpens⟩
      rw [written, begins, firstOpens, List.nil_append, List.cons_prefix_cons] at spelled
      exact placeholders.lead_ne_opening spelled.1.symm
  · rw [equal, render_literal] at spelled
    rcases follows with none | ⟨⟨later, leads⟩, next, opens⟩
    · rw [none, List.append_nil] at spelled
      exact absurd spelled.length_le (Nat.not_le_of_lt longer)
    · rw [leads] at spelled
      constructor
      · apply misplaced_of_crossing spelled longer
        rw [equal, expand_literal, opens]
      · intro none
        rw [none] at leads
        cases leads

variable [DecidableEq α] [DecidableEq ι]

def place (placeholders : Placeholders α ι) (index : ι) (marked : Marked α ι) : Marked α ι :=
  replaceAll (literal (placeholders.word index)) [.inr index] marked

theorem place_nil : placeholders.place index [] = [] := replaceAll_nil

theorem place_word (marked : Marked α ι) :
    placeholders.place index (literal (placeholders.word index) ++ marked) =
      .inr index :: placeholders.place index marked :=
  replaceAll_append literal_word_ne_nil

theorem place_inr (other : ι) (marked : Marked α ι) :
    placeholders.place index (.inr other :: marked) =
      .inr other :: placeholders.place index marked :=
  replaceAll_cons (not_word_prefix_inr other marked)

theorem place_inl {char : α} {marked : Marked α ι}
    (absent : ¬literal (placeholders.word index) <+: .inl char :: marked) :
    placeholders.place index (.inl char :: marked) =
      .inl char :: placeholders.place index marked := replaceAll_cons absent

/-- The text, after the words are placed, is still the same. -/
theorem expand_place (marked : Marked α ι) :
    placeholders.expand (placeholders.place index marked) = placeholders.expand marked := by
  generalize length : marked.length = size
  induction size using Nat.strong_induction_on generalizing marked with
  | _ size induction =>
      cases marked with
      | nil => rw [place_nil]
      | cons token marked =>
          have smaller : marked.length < size := by
            rw [← length]
            exact Nat.lt_succ_self _
          cases token with
          | inr other => rw [place_inr, expand_inr, expand_inr, induction _ smaller _ rfl]
          | inl char =>
              by_cases here : literal (placeholders.word index) <+: .inl char :: marked
              · rcases here with ⟨behind, split⟩
                have shorter : behind.length < size := by
                  rw [← length, ← split]
                  exact length_lt_literal_word_append behind
                rw [← split, place_word, expand_inr, expand_append, expand_literal,
                  induction _ shorter _ rfl]
              · rw [place_inl here, expand_inl, expand_inl, induction _ smaller _ rfl]

/-- Either the words are placed as they are meant to be and none runs over, or a code is
misplaced. -/
theorem place_cases {marked : Marked α ι} {rest more : List α}
    (follows : placeholders.Follows rest more) :
    (replaceAll (placeholders.word index) (placeholders.code index)
        (placeholders.render marked ++ rest) =
      placeholders.render (placeholders.place index marked) ++
        replaceAll (placeholders.word index) (placeholders.code index) rest ∧
      ¬placeholders.RunsOver index marked) ∨
    (placeholders.Misplaced (placeholders.expand marked ++ more)
        (replaceAll (placeholders.word index) (placeholders.code index)
          (placeholders.render marked ++ rest)) ∧
      (rest = [] → placeholders.RunsOver index marked)) := by
  have nonempty : placeholders.word index ≠ [] := placeholders.word_ne_nil index
  generalize length : marked.length = size
  induction size using Nat.strong_induction_on generalizing marked with
  | _ size induction =>
      cases marked with
      | nil =>
          left
          rw [place_nil, render_nil, List.nil_append]
          exact ⟨rfl, not_runsOver_nil⟩
      | cons token marked =>
          have smaller : marked.length < size := by
            rw [← length]
            exact Nat.lt_succ_self _
          have step := induction _ smaller rfl
          cases token with
          | inr other =>
              rw [render_inr, expand_inr, List.append_assoc, List.append_assoc,
                replaceAll_block (word_absent_in_code other _)]
              rcases step with ⟨equal, clear⟩ | ⟨misplaced, runs⟩
              · left
                rw [place_inr, render_inr, equal, List.append_assoc]
                exact ⟨rfl, fun runs => clear runs.of_inr⟩
              · right
                refine ⟨misplaced.behind_place other, ?_⟩
                intro none
                rcases runs none with ⟨ahead, stands, crosses⟩
                exact ⟨ahead, .miss (not_word_prefix_inr other marked) stands, crosses⟩
          | inl char =>
              rw [render_inl, expand_inl, List.cons_append, List.cons_append]
              by_cases here : placeholders.word index <+: char ::
                (placeholders.render marked ++ rest)
              · have spelled : placeholders.word index <+:
                    placeholders.render (.inl char :: marked) ++ rest := here
                rcases here with ⟨after, split⟩
                rw [← split, replaceAll_append nonempty]
                by_cases whole : literal (placeholders.word index) <+: .inl char :: marked
                · rcases whole with ⟨behind, placed⟩
                  have remains : after = placeholders.render behind ++ rest := by
                    have same := congrArg (fun marked => placeholders.render marked ++ rest) placed
                    simp only [render_append, render_literal, render_inl, List.append_assoc,
                      List.cons_append] at same
                    exact List.append_cancel_left (split.trans same.symm)
                  have truthful : char :: (placeholders.expand marked ++ more) =
                      placeholders.word index ++ (placeholders.expand behind ++ more) := by
                    have same := congrArg (fun marked => placeholders.expand marked ++ more) placed
                    simp only [expand_append, expand_literal, expand_inl, List.append_assoc,
                      List.cons_append] at same
                    exact same.symm
                  have shorter : behind.length < size := by
                    rw [← length, ← placed]
                    exact length_lt_literal_word_append behind
                  rw [remains, truthful, ← placed, place_word, render_inr, List.append_assoc]
                  rcases induction _ shorter rfl with ⟨equal, clear⟩ | ⟨misplaced, runs⟩
                  · left
                    exact ⟨congrArg (placeholders.code index ++ ·) equal,
                      fun runs => clear runs.of_word⟩
                  · right
                    refine ⟨misplaced.behind_place index, ?_⟩
                    intro none
                    rcases runs none with ⟨ahead, stands, crosses⟩
                    exact ⟨ahead, .hit stands, crosses⟩
                · right
                  have here := misplaced_here follows spelled whole
                    (replaceAll (placeholders.word index) (placeholders.code index) after)
                  exact ⟨here.1, fun none => ⟨_, .here _, here.2 none⟩⟩
              · have absent : ¬literal (placeholders.word index) <+: .inl char :: marked := by
                  intro isPrefix
                  exact here (prefix_render_of_literal isPrefix)
                rw [replaceAll_cons here]
                rcases step with ⟨equal, clear⟩ | ⟨misplaced, runs⟩
                · left
                  rw [place_inl absent, render_inl, equal, List.cons_append]
                  refine ⟨rfl, ?_⟩
                  intro runs
                  rcases runs.of_inl absent with crosses | later
                  · exact absurd (crosses.1.trans (List.prefix_append _ rest)) here
                  · exact clear later
                · right
                  refine ⟨misplaced.behind_char char, ?_⟩
                  intro none
                  rcases runs none with ⟨ahead, stands, crosses⟩
                  exact ⟨ahead, .miss absent stands, crosses⟩

/-- A stage of the protection does what is meant exactly when its word does not run over. -/
theorem place_exact (marked : Marked α ι) :
    (replaceAll (placeholders.word index) (placeholders.code index) (placeholders.render marked) =
        placeholders.render (placeholders.place index marked) ∧
      ¬placeholders.RunsOver index marked) ∨
    (placeholders.Misplaced (placeholders.expand marked)
        (replaceAll (placeholders.word index) (placeholders.code index)
          (placeholders.render marked)) ∧
      placeholders.RunsOver index marked) := by
  have follows : placeholders.Follows [] [] := .inl rfl
  have step := @place_cases _ _ placeholders index _ _ marked _ _ follows
  simp only [List.append_nil, replaceAll_nil, true_implies] at step
  exact step

/-- A misplaced code stays misplaced. -/
theorem Misplaced.place {truth text : List α} (misplaced : placeholders.Misplaced truth text) :
    placeholders.Misplaced truth
      (replaceAll (placeholders.word index) (placeholders.code index) text) := by
  rcases misplaced with ⟨front, other, rest, more, rfl, rfl, diverges⟩
  rcases placeholders.code_leads other with ⟨code, leads⟩
  have follows : placeholders.Follows (placeholders.code other ++ rest)
      (placeholders.opening :: more) := by
    right
    rw [leads]
    exact ⟨⟨_, rfl⟩, _, rfl⟩
  rw [List.append_assoc]
  rcases place_cases follows with ⟨equal, _⟩ | ⟨again, _⟩
  · rw [equal, replaceAll_block (word_absent_in_code other rest), ← expand_place,
      ← List.append_assoc]
    exact ⟨placeholders.place index front, other, _, more, rfl, rfl, diverges⟩
  · exact again

def placeAll (placeholders : Placeholders α ι) (order : List ι) (marked : Marked α ι) :
    Marked α ι :=
  order.foldl (fun marked index => placeholders.place index marked) marked

def protect (placeholders : Placeholders α ι) (order : List ι) (text : List α) : List α :=
  order.foldl
    (fun text index => replaceAll (placeholders.word index) (placeholders.code index) text) text

/-- No word runs over at its turn. -/
def PlacesClear (placeholders : Placeholders α ι) : List ι → Marked α ι → Prop
  | [], _ => True
  | index :: order, marked =>
      ¬placeholders.RunsOver index marked ∧
        PlacesClear placeholders order (placeholders.place index marked)

theorem expand_placeAll (order : List ι) (marked : Marked α ι) :
    placeholders.expand (placeholders.placeAll order marked) = placeholders.expand marked := by
  induction order generalizing marked with
  | nil => rfl
  | cons index order induction =>
      rw [placeAll, List.foldl_cons, ← placeAll, induction, expand_place]

theorem Misplaced.protect {truth text : List α} (misplaced : placeholders.Misplaced truth text)
    (order : List ι) : placeholders.Misplaced truth (placeholders.protect order text) := by
  induction order generalizing text with
  | nil => exact misplaced
  | cons index order induction => exact induction misplaced.place

/-- The protection does what is meant exactly when no word runs over. -/
theorem protect_cases (order : List ι) (marked : Marked α ι) :
    (placeholders.protect order (placeholders.render marked) =
        placeholders.render (placeholders.placeAll order marked) ∧
      placeholders.PlacesClear order marked) ∨
    (placeholders.Misplaced (placeholders.expand marked)
        (placeholders.protect order (placeholders.render marked)) ∧
      ¬placeholders.PlacesClear order marked) := by
  induction order generalizing marked with
  | nil => exact .inl ⟨rfl, trivial⟩
  | cons index order induction =>
      rw [protect, List.foldl_cons, ← protect, placeAll, List.foldl_cons, ← placeAll, PlacesClear]
      rcases place_exact marked with ⟨equal, clear⟩ | ⟨misplaced, runs⟩
      · rw [equal, ← expand_place]
        rcases induction (placeholders.place index marked)
          with ⟨same, clears⟩ | ⟨misplaced, unclear⟩
        · exact .inl ⟨same, clear, clears⟩
        · exact .inr ⟨misplaced, fun both => unclear both.2⟩
      · exact .inr ⟨misplaced.protect order, fun both => both.1 runs⟩

end Placing

end Placeholders

end ExQServe.Search
