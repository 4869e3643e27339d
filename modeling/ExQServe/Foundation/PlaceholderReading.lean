import ExQServe.Foundation.Placeholders

/-! # Reading placeholders back

A text with placeholders is read in two ways: from left to right, where every code counts,
and with one replacement of all occurrences for every code. Both are right exactly when no
code is spelled by the text around the placeholders. -/

namespace ExQServe.Search.Placeholders

variable {α ι : Type} {placeholders : Placeholders α ι} {index : ι}

/-! ## Where codes show -/

theorem code_prefix_unique {inner outer : ι} {text : List α}
    (innerPrefix : placeholders.code inner <+: text)
    (outerPrefix : placeholders.code outer <+: text) :
    inner = outer := by
  rcases Nat.le_total (placeholders.code inner).length (placeholders.code outer).length with
    shorter | longer
  · exact placeholders.separate _ _
      (List.prefix_of_prefix_length_le innerPrefix outerPrefix shorter).isInfix
  · exact (placeholders.separate _ _
      (List.prefix_of_prefix_length_le outerPrefix innerPrefix longer).isInfix).symm

/-- The codes do not occur in what the marked text stands for. -/
def Absent (placeholders : Placeholders α ι) (text : List α) : Prop :=
  ∀ index, ¬placeholders.code index <:+: text

theorem Absent.part {text part : List α} (absent : placeholders.Absent text)
    (inside : part <:+: text) : placeholders.Absent part :=
  fun index found => absent index (found.trans inside)

/-- A code that is spelled from a character on runs over into a placeholder. -/
theorem crosses_of_spelled {char : α} {marked : Marked α ι}
    (absent : placeholders.Absent (placeholders.expand (.inl char :: marked)))
    (spelled : placeholders.code index <+: placeholders.render (.inl char :: marked)) :
    placeholders.Crosses (placeholders.code index) (.inl char :: marked) := by
  refine ⟨spelled, ?_⟩
  have whole := spelled
  rw [← List.append_nil (placeholders.render _)] at whole
  rcases placeholders.spelled_cases whole with
    ⟨behind, equal⟩ | ⟨text, other, behind, equal, longer⟩ | ⟨text, equal, longer⟩
  · apply absurd ?_ (absent index)
    rw [← equal, expand_append, expand_literal]
    exact (List.prefix_append _ _).isInfix
  · refine ⟨text, other, behind, equal, ?_, longer⟩
    intro none
    rw [none] at equal
    cases equal
  · rw [equal, render_literal] at spelled
    exact absurd spelled.length_le (Nat.not_le_of_lt longer)

theorem straddles_inl {spelled : List α} {char : α} {marked : Marked α ι} :
    placeholders.Straddles spelled (.inl char :: marked) ↔
      placeholders.Crosses spelled (.inl char :: marked) ∨
        placeholders.Straddles spelled marked := by
  constructor
  · intro straddles
    rcases straddles with ⟨ahead, isSuffix, crosses⟩
    rcases List.suffix_cons_iff.mp isSuffix with here | later
    · rw [here] at crosses
      exact .inl crosses
    · exact .inr ⟨ahead, later, crosses⟩
  · intro either
    rcases either with here | ⟨ahead, isSuffix, crosses⟩
    · exact ⟨_, List.suffix_rfl, here⟩
    · exact ⟨ahead, isSuffix.trans (List.suffix_cons _ _), crosses⟩

theorem straddles_inr {spelled : List α} {other : ι} {marked : Marked α ι} :
    placeholders.Straddles spelled (.inr other :: marked) ↔
      placeholders.Straddles spelled marked := by
  constructor
  · intro straddles
    rcases straddles with ⟨ahead, isSuffix, crosses⟩
    rcases List.suffix_cons_iff.mp isSuffix with here | later
    · rcases crosses with ⟨-, text, placed, behind, equal, some, -⟩
      cases text with
      | nil => exact absurd rfl some
      | cons first text =>
          rw [here] at equal
          cases equal
    · exact ⟨ahead, later, crosses⟩
  · intro straddles
    rcases straddles with ⟨ahead, isSuffix, crosses⟩
    exact ⟨ahead, isSuffix.trans (List.suffix_cons _ _), crosses⟩

theorem not_straddles_nil {spelled : List α} : ¬placeholders.Straddles spelled [] := by
  intro straddles
  rcases straddles with ⟨ahead, isSuffix, -, text, other, behind, equal, -⟩
  rw [List.suffix_nil.mp isSuffix] at equal
  exact List.cons_ne_nil _ _ (List.append_eq_nil_iff.mp equal.symm).2

/-! ## Reading from left to right -/

section Scanning

/-- A placeholder is read where the truth goes on with the lead of a code. -/
def Misread (placeholders : Placeholders α ι) (truth : List α) (marked : Marked α ι) : Prop :=
  ∃ front index back more, marked = front ++ .inr index :: back ∧
    truth = placeholders.expand front ++ placeholders.lead :: more

theorem Misread.behind {truth : List α} {marked : Marked α ι}
    (misread : placeholders.Misread truth marked) (front : Marked α ι) :
    placeholders.Misread (placeholders.expand front ++ truth) (front ++ marked) := by
  rcases misread with ⟨inner, other, back, more, rfl, rfl⟩
  refine ⟨front ++ inner, other, back, more, ?_, ?_⟩
  · rw [List.append_assoc]
  · rw [expand_append, List.append_assoc]

theorem Misread.differs {truth : List α} {marked : Marked α ι}
    (misread : placeholders.Misread truth marked) : placeholders.expand marked ≠ truth := by
  rcases misread with ⟨front, other, back, more, rfl, rfl⟩
  rcases placeholders.word_opens other with ⟨word, opens⟩
  rw [expand_append, expand_inr, opens]
  intro equal
  have same := List.append_cancel_left equal
  rw [List.cons_append] at same
  exact placeholders.lead_ne_opening (List.cons.inj same).1.symm

variable [DecidableEq α]

/-- The first `skip` characters belong to a code that is read already. -/
def scanFrom (placeholders : Placeholders α ι) (indices : List ι) : Nat → List α → Marked α ι
  | _, [] => []
  | skip + 1, _ :: rest => scanFrom placeholders indices skip rest
  | 0, head :: rest =>
      match indices.find? fun index => decide (placeholders.code index <+: head :: rest) with
      | some index =>
          .inr index :: scanFrom placeholders indices ((placeholders.code index).length - 1) rest
      | none => .inl head :: scanFrom placeholders indices 0 rest

/-- Every code in the text, from left to right, counts as a placeholder. -/
def scan (placeholders : Placeholders α ι) (indices : List ι) (text : List α) : Marked α ι :=
  scanFrom placeholders indices 0 text

variable {indices : List ι}

theorem scanFrom_drop (skip : Nat) (text : List α) :
    placeholders.scanFrom indices skip text = placeholders.scan indices (text.drop skip) := by
  induction text generalizing skip with
  | nil =>
      rw [List.drop_nil, scan, scanFrom, scanFrom]
  | cons head rest induction =>
      cases skip with
      | zero => rfl
      | succ skip =>
          rw [scanFrom, List.drop_succ_cons]
          exact induction skip

theorem scan_nil : placeholders.scan indices [] = [] := by
  rw [scan, scanFrom]

theorem scan_code (known : index ∈ indices) (rest : List α) :
    placeholders.scan indices (placeholders.code index ++ rest) =
      .inr index :: placeholders.scan indices rest := by
  rcases placeholders.code_leads index with ⟨code, leads⟩
  have isPrefix : placeholders.code index <+: placeholders.lead :: (code ++ rest) := by
    rw [leads]
    exact List.prefix_append _ _
  have found : (indices.find? fun index =>
      decide (placeholders.code index <+: placeholders.lead :: (code ++ rest))) = some index := by
    cases search : indices.find? fun index =>
        decide (placeholders.code index <+: placeholders.lead :: (code ++ rest)) with
    | none =>
        have missing := List.find?_eq_none.mp search index known
        rw [decide_eq_true isPrefix] at missing
        exact absurd rfl missing
    | some other =>
        have spelled := List.find?_some search
        rw [decide_eq_true_eq] at spelled
        rw [code_prefix_unique spelled isPrefix]
  rw [leads, List.cons_append, scan, scanFrom, found]
  dsimp only
  rw [scanFrom_drop, leads, List.length_cons, Nat.add_sub_cancel, List.drop_left]

theorem scan_char {char : α} {rest : List α}
    (absent : ∀ index ∈ indices, ¬placeholders.code index <+: char :: rest) :
    placeholders.scan indices (char :: rest) = .inl char :: placeholders.scan indices rest := by
  have missing : (indices.find? fun index =>
      decide (placeholders.code index <+: char :: rest)) = none := by
    apply List.find?_eq_none.mpr
    intro index known
    rw [decide_eq_true_eq]
    exact absent index known
  rw [scan, scanFrom, missing]
  rfl

/-- Where no code begins, the text is read character by character. -/
theorem scan_front {front rest : List α}
    (absent : ∀ index ∈ indices, ∀ position < front.length,
      ¬Occurs (placeholders.code index) (front ++ rest) position) :
    placeholders.scan indices (front ++ rest) =
      literal front ++ placeholders.scan indices rest := by
  induction front with
  | nil => rfl
  | cons char front induction =>
      have here : ∀ index ∈ indices, ¬placeholders.code index <+: char :: (front ++ rest) :=
        fun index known => absent index known 0 (Nat.succ_pos _)
      have later := induction fun index known position inside =>
        absent index known (position + 1) (Nat.succ_lt_succ inside)
      rw [List.cons_append, scan_char here, later]
      rfl

/-- Either the text is read as it is meant and no code straddles, or it is misread. -/
theorem scan_cases (complete : ∀ index, index ∈ indices) {marked : Marked α ι} {rest more : List α}
    (absent : placeholders.Absent (placeholders.expand marked)) :
    (placeholders.scan indices (placeholders.render marked ++ rest) =
        marked ++ placeholders.scan indices rest ∧
      ∀ index, ¬placeholders.Straddles (placeholders.code index) marked) ∨
    (placeholders.Misread (placeholders.expand marked ++ more)
        (placeholders.scan indices (placeholders.render marked ++ rest)) ∧
      (rest = [] → ∃ index, placeholders.Straddles (placeholders.code index) marked)) := by
  induction marked with
  | nil => exact .inl ⟨rfl, fun _ => not_straddles_nil⟩
  | cons token marked induction =>
      cases token with
      | inr other =>
          have inside :
              placeholders.expand marked <:+: placeholders.expand (.inr other :: marked) :=
            (List.suffix_append _ _).isInfix
          rw [render_inr, List.append_assoc, scan_code (complete other), expand_inr,
            List.append_assoc]
          rcases induction (absent.part inside) with ⟨equal, clear⟩ | ⟨misread, straddles⟩
          · left
            rw [equal]
            exact ⟨rfl, fun index straddles => clear index (straddles_inr.mp straddles)⟩
          · right
            have longer := misread.behind [.inr other]
            rw [expand_inr, expand_nil, List.append_nil] at longer
            refine ⟨longer, ?_⟩
            intro none
            rcases straddles none with ⟨index, straddles⟩
            exact ⟨index, straddles_inr.mpr straddles⟩
      | inl char =>
          have inside : placeholders.expand marked <:+: placeholders.expand (.inl char :: marked) :=
            (List.suffix_cons _ _).isInfix
          rw [render_inl, expand_inl, List.cons_append, List.cons_append]
          by_cases here : ∃ index, placeholders.code index <+: char ::
            (placeholders.render marked ++ rest)
          · right
            rcases here with ⟨index, spelled⟩
            rcases placeholders.code_leads index with ⟨code, leads⟩
            constructor
            · rcases spelled with ⟨after, split⟩
              rw [← split, scan_code (complete index)]
              rw [leads, List.cons_append] at split
              rw [← (List.cons.inj split).1]
              exact ⟨[], index, _, _, rfl, rfl⟩
            · intro none
              rw [none, List.append_nil] at spelled
              exact ⟨index, straddles_inl.mpr (.inl (crosses_of_spelled absent spelled))⟩
          · rw [scan_char (fun index _ spelled => here ⟨index, spelled⟩)]
            rcases induction (absent.part inside) with ⟨equal, clear⟩ | ⟨misread, straddles⟩
            · left
              rw [equal]
              refine ⟨rfl, ?_⟩
              intro index straddles
              rcases straddles_inl.mp straddles with crosses | later
              · exact here ⟨index, crosses.1.trans (List.prefix_append _ rest)⟩
              · exact clear index later
            · right
              refine ⟨misread.behind [.inl char], ?_⟩
              intro none
              rcases straddles none with ⟨index, straddles⟩
              exact ⟨index, straddles_inl.mpr (.inr straddles)⟩

/-- Reading gives the text back exactly when no code straddles. -/
theorem scan_exact (complete : ∀ index, index ∈ indices) {marked : Marked α ι}
    (absent : placeholders.Absent (placeholders.expand marked)) :
    (placeholders.scan indices (placeholders.render marked) = marked ∧
      ∀ index, ¬placeholders.Straddles (placeholders.code index) marked) ∨
    (placeholders.expand (placeholders.scan indices (placeholders.render marked)) ≠
        placeholders.expand marked ∧
      ∃ index, placeholders.Straddles (placeholders.code index) marked) := by
  have step := @scan_cases _ _ placeholders _ _ complete marked [] [] absent
  simp only [List.append_nil, scan_nil, true_implies] at step
  rcases step with ⟨equal, clear⟩ | ⟨misread, straddles⟩
  · exact .inl ⟨equal, clear⟩
  · exact .inr ⟨misread.differs, straddles⟩

/-- A text with a misplaced code is not read back. -/
theorem Misplaced.scan_differs (complete : ∀ index, index ∈ indices) {truth text : List α}
    (misplaced : placeholders.Misplaced truth text) (absent : placeholders.Absent truth) :
    placeholders.expand (placeholders.scan indices text) ≠ truth := by
  rcases misplaced with ⟨front, other, rest, more, rfl, rfl, diverges⟩
  have inside : placeholders.expand front <:+:
      placeholders.expand front ++ placeholders.opening :: more := (List.prefix_append _ _).isInfix
  rw [List.append_assoc]
  rcases scan_cases complete (absent.part inside) with ⟨equal, _⟩ | ⟨misread, _⟩
  · rw [equal, scan_code (complete other), expand_append, expand_inr]
    intro same
    have goesOn := List.append_cancel_left same
    rcases diverges with ⟨shared, char, actual, saidRest, truthRest, said, truly, different⟩
    rw [said, truly, List.append_assoc, List.append_right_inj, List.cons_append] at goesOn
    exact different (List.cons.inj goesOn).1
  · exact misread.differs

end Scanning

/-! ## One code after the other -/

/-- The placed words that are in the list, back in the text. -/
def unplace (placeholders : Placeholders α ι) [DecidableEq ι] (index : ι) (marked : Marked α ι) :
    Marked α ι :=
  marked.flatMap fun token =>
    match token with
    | .inl char => [.inl char]
    | .inr other => if other = index then literal (placeholders.word index) else [.inr other]

/-- The code is spelled by the end of another code and the text behind it. -/
def Emerges (placeholders : Placeholders α ι) (index : ι) (marked : Marked α ι) : Prop :=
  ∃ other back inside tail, .inr other :: back <:+ marked ∧ other ≠ index ∧
    placeholders.code other = inside ++ tail ∧ tail ≠ [] ∧
    placeholders.code index <+: tail ++ placeholders.render back

/-- At its turn the code shows where it was not placed. -/
def Spoils (placeholders : Placeholders α ι) (index : ι) (marked : Marked α ι) : Prop :=
  placeholders.Straddles (placeholders.code index) marked ∨ placeholders.Emerges index marked

/-- The text has left the truth, and what differs is not going to change. -/
def Broken (placeholders : Placeholders α ι) (pending : List ι) (truth text : List α) : Prop :=
  ∃ front, (∀ other, .inr other ∈ front → other ∈ pending) ∧
    ((∃ rest more, text = placeholders.render front ++ placeholders.opening :: rest ∧
        truth = placeholders.expand front ++ placeholders.lead :: more) ∨
      ∃ other inside tail rest more, placeholders.code other = inside ++ tail ∧ inside ≠ [] ∧
        tail ≠ [] ∧ text = placeholders.render front ++ (inside ++ placeholders.opening :: rest) ∧
        truth = placeholders.expand front ++ placeholders.opening :: more)

section Restoring

variable {pending : List ι} {truth text : List α}

theorem Broken.behind (broken : placeholders.Broken pending truth text) (front : Marked α ι)
    (known : ∀ other, .inr other ∈ front → other ∈ pending) :
    placeholders.Broken pending (placeholders.expand front ++ truth)
      (placeholders.render front ++ text) := by
  rcases broken with ⟨inner, innerKnown, differs⟩
  refine ⟨front ++ inner, ?_, ?_⟩
  · intro other inside
    rcases List.mem_append.mp inside with old | new
    · exact known other old
    · exact innerKnown other new
  · rw [render_append, expand_append]
    rcases differs with ⟨rest, more, rfl, rfl⟩ | ⟨other, inside, tail, rest, more, split, begins,
      ends, rfl, rfl⟩
    · left
      exact ⟨rest, more, (List.append_assoc _ _ _).symm, (List.append_assoc _ _ _).symm⟩
    · right
      exact ⟨other, inside, tail, rest, more, split, begins, ends, (List.append_assoc _ _ _).symm,
        (List.append_assoc _ _ _).symm⟩

theorem Broken.behind_text (broken : placeholders.Broken pending truth text) (front : List α) :
    placeholders.Broken pending (front ++ truth) (front ++ text) := by
  have longer := broken.behind (literal front) (by
    intro other inside
    rcases List.mem_map.mp inside with ⟨char, -, equal⟩
    cases equal)
  rw [render_literal, expand_literal] at longer
  exact longer

theorem Broken.behind_char (broken : placeholders.Broken pending truth text) (char : α) :
    placeholders.Broken pending (char :: truth) (char :: text) := broken.behind_text [char]

theorem Broken.behind_place (broken : placeholders.Broken pending truth text) {other : ι}
    (known : other ∈ pending) : placeholders.Broken pending (placeholders.word other ++ truth)
      (placeholders.code other ++ text) := by
  have longer := broken.behind [.inr other] (by
    intro placed inside
    cases List.mem_singleton.mp inside
    exact known)
  rw [render_inr, expand_inr, render_nil, expand_nil, List.append_nil, List.append_nil] at longer
  exact longer

theorem render_of_unmarked {marked : Marked α ι} (unmarked : ∀ other, .inr other ∉ marked) :
    placeholders.render marked = placeholders.expand marked := by
  induction marked with
  | nil => rfl
  | cons token marked induction =>
      cases token with
      | inl char =>
          rw [render_inl, expand_inl, induction]
          exact fun other inside => unmarked other (List.mem_cons_of_mem _ inside)
      | inr other => exact absurd List.mem_cons_self (unmarked other)

/-- When every code had its turn the text is wrong for good. -/
theorem Broken.differs (broken : placeholders.Broken [] truth text) : text ≠ truth := by
  rcases broken with ⟨front, known, differs⟩
  have same : placeholders.render front = placeholders.expand front :=
    render_of_unmarked fun other inside => List.not_mem_nil (known other inside)
  rcases differs with ⟨rest, more, rfl, rfl⟩ | ⟨other, inside, tail, rest, more, split, begins, -,
    rfl, rfl⟩
  · rw [same]
    intro equal
    have goesOn := List.append_cancel_left equal
    exact placeholders.lead_ne_opening (List.cons.inj goesOn).1.symm
  · rw [same]
    intro equal
    have goesOn := List.append_cancel_left equal
    rcases placeholders.code_leads other with ⟨code, leads⟩
    cases inside with
    | nil => exact begins rfl
    | cons first inside =>
        rw [leads, List.cons_append] at split
        rw [← (List.cons.inj split).1, List.cons_append] at goesOn
        exact placeholders.lead_ne_opening (List.cons.inj goesOn).1

/-- A code does not run over an opening. -/
theorem code_prefix_before_opening {before after : List α}
    (isPrefix : placeholders.code index <+: before ++ placeholders.opening :: after) :
    placeholders.code index <+: before := by
  by_cases longer : before.length < (placeholders.code index).length
  · rcases next_of_prefix isPrefix longer with ⟨more, spelled⟩
    apply absurd ?_ (placeholders.code_closed index)
    rw [spelled]
    exact List.mem_append_right _ List.mem_cons_self
  · exact List.prefix_of_prefix_length_le isPrefix (List.prefix_append _ _)
      (Nat.le_of_not_lt longer)

/-- No code is spelled from within part of a code that ends at an opening. -/
theorem code_absent_in_part {other : ι} {inside tail after : List α}
    (split : placeholders.code other = inside ++ tail) (ends : tail ≠ []) (before rest : List α)
    (cutHere : inside = before ++ rest) :
    ¬placeholders.code index <+: rest ++ placeholders.opening :: after := by
  intro isPrefix
  have within := code_prefix_before_opening isPrefix
  have part : placeholders.code index <:+: placeholders.code other := by
    rw [split, cutHere]
    exact within.isInfix.trans
      ((List.suffix_append before rest).isInfix.trans (List.prefix_append _ tail).isInfix)
  have same := placeholders.separate _ _ part
  subst same
  have shorter := within.length_le
  have total := congrArg List.length split
  rw [cutHere, List.length_append, List.length_append] at total
  have positive := List.length_pos_iff.mpr ends
  omega

theorem replaceAll_opening [DecidableEq α] (rest : List α) :
    replaceAll (placeholders.code index) (placeholders.word index) (placeholders.opening :: rest) =
      placeholders.opening ::
        replaceAll (placeholders.code index) (placeholders.word index) rest := by
  apply replaceAll_cons
  intro isPrefix
  have none : placeholders.code index <+: [] := code_prefix_before_opening isPrefix
  exact code_ne_nil index (List.prefix_nil.mp none)

/-! What a code needs to show where it was not placed. -/

theorem spoils_inl {char : α} {marked : Marked α ι}
    (absent : placeholders.Absent (placeholders.expand (.inl char :: marked))) :
    placeholders.Spoils index (.inl char :: marked) ↔
      placeholders.code index <+: placeholders.render (.inl char :: marked) ∨
        placeholders.Spoils index marked := by
  constructor
  · intro spoils
    rcases spoils with straddles | ⟨other, back, inside, tail, isSuffix, rest⟩
    · rcases straddles_inl.mp straddles with crosses | later
      · exact .inl crosses.1
      · exact .inr (.inl later)
    · rcases List.suffix_cons_iff.mp isSuffix with here | later
      · cases here
      · exact .inr (.inr ⟨other, back, inside, tail, later, rest⟩)
  · intro either
    rcases either with spelled | straddles | ⟨other, back, inside, tail, isSuffix, rest⟩
    · exact .inl (straddles_inl.mpr (.inl (crosses_of_spelled absent spelled)))
    · exact .inl (straddles_inl.mpr (.inr straddles))
    · exact .inr ⟨other, back, inside, tail, isSuffix.trans (List.suffix_cons _ _), rest⟩

theorem spoils_self {marked : Marked α ι} :
    placeholders.Spoils index (.inr index :: marked) ↔ placeholders.Spoils index marked := by
  constructor
  · intro spoils
    rcases spoils with straddles | ⟨other, back, inside, tail, isSuffix, different, rest⟩
    · exact .inl (straddles_inr.mp straddles)
    · rcases List.suffix_cons_iff.mp isSuffix with here | later
      · cases here
        exact absurd rfl different
      · exact .inr ⟨other, back, inside, tail, later, different, rest⟩
  · intro spoils
    rcases spoils with straddles | ⟨other, back, inside, tail, isSuffix, rest⟩
    · exact .inl (straddles_inr.mpr straddles)
    · exact .inr ⟨other, back, inside, tail, isSuffix.trans (List.suffix_cons _ _), rest⟩

theorem spoils_other {other : ι} (different : other ≠ index) {marked : Marked α ι} :
    placeholders.Spoils index (.inr other :: marked) ↔
      (∃ inside tail, placeholders.code other = inside ++ tail ∧ tail ≠ [] ∧
        placeholders.code index <+: tail ++ placeholders.render marked) ∨
        placeholders.Spoils index marked := by
  constructor
  · intro spoils
    rcases spoils with straddles | ⟨placed, back, inside, tail, isSuffix, distinct, rest⟩
    · exact .inr (.inl (straddles_inr.mp straddles))
    · rcases List.suffix_cons_iff.mp isSuffix with here | later
      · cases here
        exact .inl ⟨inside, tail, rest⟩
      · exact .inr (.inr ⟨placed, back, inside, tail, later, distinct, rest⟩)
  · intro either
    rcases either with
      ⟨inside, tail, spelled⟩ | straddles | ⟨placed, back, inside, tail, isSuffix, rest⟩
    · exact .inr ⟨other, marked, inside, tail, List.suffix_rfl, different, spelled⟩
    · exact .inl (straddles_inr.mpr straddles)
    · exact .inr ⟨placed, back, inside, tail, isSuffix.trans (List.suffix_cons _ _), rest⟩

theorem not_spoils_nil : ¬placeholders.Spoils index [] := by
  intro spoils
  rcases spoils with straddles | ⟨other, back, inside, tail, isSuffix, -⟩
  · exact not_straddles_nil straddles
  · cases List.suffix_nil.mp isSuffix

variable [DecidableEq ι]

theorem unplace_inl (char : α) (marked : Marked α ι) :
    placeholders.unplace index (.inl char :: marked) =
      .inl char :: placeholders.unplace index marked := rfl

theorem unplace_self (marked : Marked α ι) :
    placeholders.unplace index (.inr index :: marked) =
      literal (placeholders.word index) ++ placeholders.unplace index marked := by
  rw [unplace, List.flatMap_cons]
  dsimp only
  rw [if_pos rfl]
  rfl

theorem unplace_other {other : ι} (different : other ≠ index) (marked : Marked α ι) :
    placeholders.unplace index (.inr other :: marked) =
      .inr other :: placeholders.unplace index marked := by
  rw [unplace, List.flatMap_cons]
  dsimp only
  rw [if_neg different]
  rfl

theorem expand_unplace (marked : Marked α ι) :
    placeholders.expand (placeholders.unplace index marked) = placeholders.expand marked := by
  induction marked with
  | nil => rfl
  | cons token marked induction =>
      cases token with
      | inl char => rw [unplace_inl, expand_inl, expand_inl, induction]
      | inr other =>
          by_cases same : other = index
          · rw [same, unplace_self, expand_append, expand_literal, expand_inr, induction]
          · rw [unplace_other same, expand_inr, expand_inr, induction]

theorem pending_unplace {marked : Marked α ι}
    (known : ∀ other, .inr other ∈ marked → other ∈ index :: pending) (other : ι)
    (inside : .inr other ∈ placeholders.unplace index marked) : other ∈ pending := by
  rcases List.mem_flatMap.mp inside with ⟨token, found, placed⟩
  cases token with
  | inl char => cases List.mem_singleton.mp placed
  | inr first =>
      dsimp only at placed
      by_cases same : first = index
      · rw [if_pos same] at placed
        rcases List.mem_map.mp placed with ⟨char, -, equal⟩
        cases equal
      · rw [if_neg same] at placed
        cases List.mem_singleton.mp placed
        rcases List.mem_cons.mp (known other found) with equal | later
        · exact absurd equal same
        · exact later

variable [DecidableEq α]

/-- Either the placed words come back and the code shows nowhere else, or the text is
wrong for good. -/
theorem unplace_cases {marked : Marked α ι} {rest more : List α}
    (absent : placeholders.Absent (placeholders.expand marked))
    (known : ∀ other, .inr other ∈ marked → other ∈ index :: pending) :
    (replaceAll (placeholders.code index) (placeholders.word index)
        (placeholders.render marked ++ rest) =
      placeholders.render (placeholders.unplace index marked) ++
        replaceAll (placeholders.code index) (placeholders.word index) rest ∧
      ¬placeholders.Spoils index marked) ∨
    (placeholders.Broken pending (placeholders.expand marked ++ more)
        (replaceAll (placeholders.code index) (placeholders.word index)
          (placeholders.render marked ++ rest)) ∧
      (rest = [] → placeholders.Spoils index marked)) := by
  have nonempty : placeholders.code index ≠ [] := code_ne_nil index
  rcases placeholders.word_opens index with ⟨word, opens⟩
  induction marked with
  | nil => exact .inl ⟨rfl, not_spoils_nil⟩
  | cons token marked induction =>
      have step := induction
        (absent.part (by
          cases token with
          | inl char => exact (List.suffix_cons _ _).isInfix
          | inr other => exact (List.suffix_append _ _).isInfix))
        fun other inside => known other (List.mem_cons_of_mem _ inside)
      cases token with
      | inl char =>
          rw [render_inl, expand_inl, List.cons_append, List.cons_append, spoils_inl absent]
          by_cases here : placeholders.code index <+: char :: (placeholders.render marked ++ rest)
          · right
            constructor
            · rcases placeholders.code_leads index with ⟨code, leads⟩
              rcases here with ⟨after, split⟩
              rw [← split, replaceAll_append nonempty, opens]
              rw [leads, List.cons_append] at split
              rw [← (List.cons.inj split).1]
              exact ⟨[], fun _ none => absurd none List.not_mem_nil, .inl ⟨_, _, rfl, rfl⟩⟩
            · intro none
              rw [none, List.append_nil] at here
              exact .inl here
          · rw [replaceAll_cons here]
            rcases step with ⟨equal, clear⟩ | ⟨broken, spoils⟩
            · left
              rw [unplace_inl, render_inl, equal]
              refine ⟨rfl, ?_⟩
              intro either
              rcases either with spelled | later
              · exact here (spelled.trans (List.prefix_append (char :: _) rest))
              · exact clear later
            · right
              refine ⟨broken.behind_char char, fun none => .inr (spoils none)⟩
      | inr other =>
          rw [render_inr, expand_inr, List.append_assoc, List.append_assoc]
          by_cases same : other = index
          · subst same
            rw [replaceAll_append nonempty, spoils_self]
            rcases step with ⟨equal, clear⟩ | ⟨broken, spoils⟩
            · left
              rw [unplace_self, render_append, render_literal, equal, List.append_assoc]
              exact ⟨rfl, clear⟩
            · right
              exact ⟨broken.behind_text _, spoils⟩
          · rw [spoils_other same]
            rcases replaceAll_block_cases nonempty (placeholders.word index)
              (placeholders.code other)
                (placeholders.render marked ++ rest) with
              quiet | ⟨inside, tail, after, split, ends, spelled, result⟩
            · rw [replaceAll_block quiet]
              rcases step with ⟨equal, clear⟩ | ⟨broken, spoils⟩
              · left
                rw [unplace_other same, render_inr, equal, List.append_assoc]
                refine ⟨rfl, ?_⟩
                intro either
                rcases either with ⟨inside, tail, split, ends, spelled⟩ | later
                · apply quiet inside tail split ends
                  rw [← List.append_assoc]
                  exact spelled.trans (List.prefix_append _ rest)
                · exact clear later
              · right
                have waits : other ∈ pending := by
                  rcases List.mem_cons.mp (known other List.mem_cons_self) with equal | later
                  · exact absurd equal same
                  · exact later
                exact ⟨broken.behind_place waits, fun none => .inr (spoils none)⟩
            · right
              constructor
              · rcases placeholders.word_opens other with ⟨otherWord, otherOpens⟩
                refine ⟨[], fun _ none => absurd none List.not_mem_nil, .inr ?_⟩
                refine ⟨other, inside, tail, word ++ after,
                  otherWord ++ (placeholders.expand marked ++ more), split, ?_, ends, ?_, ?_⟩
                · intro none
                  rw [none, List.nil_append] at split
                  rw [← split] at spelled
                  exact same (code_prefix_unique (List.prefix_append _ _) spelled)
                · rw [result, opens]
                  rfl
                · rw [otherOpens]
                  rfl
              · intro none
                rw [none, List.append_nil] at spelled
                exact .inl ⟨inside, tail, split, ends, spelled⟩

/-- A text that is wrong stays wrong. -/
theorem Broken.unplace (broken : placeholders.Broken (index :: pending) truth text)
    (absent : placeholders.Absent truth) :
    placeholders.Broken pending truth
      (replaceAll (placeholders.code index) (placeholders.word index) text) := by
  rcases broken with ⟨front, known, differs⟩
  rcases differs with ⟨rest, more, rfl, rfl⟩ | ⟨other, inside, tail, rest, more, split, begins,
    ends, rfl, rfl⟩
  · have inFront := absent.part (List.prefix_append _ _).isInfix
    rcases unplace_cases inFront known with ⟨equal, _⟩ | ⟨again, _⟩
    · rw [equal, replaceAll_opening, ← expand_unplace]
      exact ⟨_, pending_unplace known, .inl ⟨_, _, rfl, rfl⟩⟩
    · exact again
  · have inFront := absent.part (List.prefix_append _ _).isInfix
    rcases unplace_cases inFront known with ⟨equal, _⟩ | ⟨again, _⟩
    · rw [equal, ← expand_unplace]
      have quiet : ∀ before after, inside = before ++ after → after ≠ [] →
          ¬placeholders.code index <+: after ++ placeholders.opening :: rest := by
        intro before after cutHere _
        exact code_absent_in_part split ends before after cutHere
      rw [replaceAll_block quiet, replaceAll_opening]
      exact ⟨_, pending_unplace known, .inr ⟨other, inside, tail, _, _, split, begins, ends, rfl,
        rfl⟩⟩
    · exact again

/-- The codes are replaced by their words, one after the other. -/
def restore (placeholders : Placeholders α ι) (order : List ι) (text : List α) : List α :=
  order.foldl
    (fun text index => replaceAll (placeholders.code index) (placeholders.word index) text) text

/-- No code shows where it was not placed at its turn. -/
def RestoresClear (placeholders : Placeholders α ι) : List ι → Marked α ι → Prop
  | [], _ => True
  | index :: order, marked =>
      ¬placeholders.Spoils index marked ∧
        RestoresClear placeholders order (placeholders.unplace index marked)

theorem Broken.restore_differs {order : List ι} (broken : placeholders.Broken order truth text)
    (absent : placeholders.Absent truth) : placeholders.restore order text ≠ truth := by
  induction order generalizing text with
  | nil => exact broken.differs
  | cons index order induction => exact induction (broken.unplace absent)

/-- The words come back exactly when no code shows where it was not placed. -/
theorem restore_exact {order : List ι} {marked : Marked α ι}
    (absent : placeholders.Absent (placeholders.expand marked))
    (known : ∀ other, .inr other ∈ marked → other ∈ order) :
    placeholders.restore order (placeholders.render marked) = placeholders.expand marked ↔
      placeholders.RestoresClear order marked := by
  induction order generalizing marked with
  | nil =>
      rw [restore, List.foldl_nil]
      apply iff_of_true ?_ trivial
      exact render_of_unmarked fun other inside => List.not_mem_nil (known other inside)
  | cons index order induction =>
      rw [restore, List.foldl_cons, ← restore, RestoresClear]
      have step := @unplace_cases _ _ placeholders index order _ _ marked [] [] absent known
      simp only [List.append_nil, replaceAll_nil, true_implies] at step
      rcases step with ⟨equal, clear⟩ | ⟨broken, spoils⟩
      · rw [← expand_unplace] at absent
        rw [equal, ← expand_unplace, induction absent (pending_unplace known)]
        exact ⟨fun clears => ⟨clear, clears⟩, And.right⟩
      · exact iff_of_false (broken.restore_differs absent) fun both => both.1 spoils

end Restoring

/-! ## Words that show -/

theorem infix_of_block {spelled block rest : List α}
    (absent : ∀ before after, block = before ++ after → after ≠ [] → ¬spelled <+: after ++ rest)
    (inside : spelled <:+: block ++ rest) : spelled <:+: rest := by
  induction block with
  | nil => exact inside
  | cons head block induction =>
      rw [List.cons_append] at inside
      rcases List.infix_cons_iff.mp inside with here | later
      · exact absurd here (absent [] _ rfl (List.cons_ne_nil _ _))
      · apply induction ?_ later
        intro before after split
        exact absent (head :: before) after (by rw [split, List.cons_append])

/-- A word that shows in the rendered text is literal, or it runs over. -/
theorem word_infix_render {marked : Marked α ι} :
    placeholders.word index <:+: placeholders.render marked ↔
      literal (placeholders.word index) <:+: marked ∨
        placeholders.Straddles (placeholders.word index) marked := by
  constructor
  · intro inside
    induction marked with
    | nil => exact absurd (List.infix_nil.mp inside) (word_ne_nil index)
    | cons token marked induction =>
        cases token with
        | inr other =>
            rw [render_inr] at inside
            rcases induction (infix_of_block (word_absent_in_code other _) inside) with
              whole | straddles
            · exact .inl (whole.trans (List.suffix_cons _ _).isInfix)
            · exact .inr (straddles_inr.mpr straddles)
        | inl char =>
            rw [render_inl] at inside
            rcases List.infix_cons_iff.mp inside with here | later
            · have spelled : placeholders.word index <+:
                  placeholders.render (.inl char :: marked) ++ [] := by
                rw [List.append_nil]
                exact here
              by_cases whole : literal (placeholders.word index) <+: .inl char :: marked
              · exact .inl whole.isInfix
              · have follows : placeholders.Follows [] [] := .inl rfl
                have crosses := (misplaced_here follows spelled whole []).2 rfl
                exact .inr (straddles_inl.mpr (.inl crosses))
            · rcases induction later with whole | straddles
              · exact .inl (whole.trans (List.suffix_cons _ _).isInfix)
              · exact .inr (straddles_inl.mpr (.inr straddles))
  · intro either
    rcases either with ⟨front, back, split⟩ | ⟨ahead, ⟨front, split⟩, crosses⟩
    · rw [← split, render_append, render_append, render_literal]
      exact ⟨_, _, rfl⟩
    · rw [← split, render_append]
      exact crosses.1.isInfix.trans (List.suffix_append _ _).isInfix

section Placed

variable [DecidableEq α] [DecidableEq ι]

theorem literal_prefix_place {spelled : List α} {marked : Marked α ι}
    (isPrefix : literal spelled <+: placeholders.place index marked) :
      literal spelled <+: marked := by
  induction spelled generalizing marked with
  | nil => exact List.nil_prefix
  | cons char spelled induction =>
      cases marked with
      | nil =>
          rw [place_nil] at isPrefix
          exact isPrefix
      | cons token marked =>
          cases token with
          | inr other =>
              rw [place_inr] at isPrefix
              cases (List.cons_prefix_cons.mp isPrefix).1
          | inl first =>
              by_cases here : literal (placeholders.word index) <+: .inl first :: marked
              · rcases here with ⟨behind, split⟩
                rw [← split, place_word] at isPrefix
                cases (List.cons_prefix_cons.mp isPrefix).1
              · rw [place_inl here] at isPrefix
                rcases List.cons_prefix_cons.mp isPrefix with ⟨same, later⟩
                exact List.cons_prefix_cons.mpr ⟨same, induction later⟩

/-- What is literal afterwards was literal before, and is not the placed word. -/
theorem literal_infix_place {spelled : List α} (some : spelled ≠ []) {marked : Marked α ι}
    (inside : literal spelled <:+: placeholders.place index marked) :
    literal spelled <:+: marked ∧ spelled ≠ placeholders.word index := by
  have notPlaced : ∀ (other : ι) (back : Marked α ι), ¬literal spelled <+: .inr other :: back := by
    intro other back isPrefix
    cases spelled with
    | nil => exact some rfl
    | cons first spelled => cases (List.cons_prefix_cons.mp isPrefix).1
  generalize length : marked.length = size
  induction size using Nat.strong_induction_on generalizing marked with
  | _ size induction =>
      cases marked with
      | nil =>
          rw [place_nil] at inside
          exact absurd (List.map_eq_nil_iff.mp (List.infix_nil.mp inside)) some
      | cons token marked =>
          have smaller : marked.length < size := by
            rw [← length]
            exact Nat.lt_succ_self _
          cases token with
          | inr other =>
              rw [place_inr] at inside
              rcases List.infix_cons_iff.mp inside with here | later
              · exact absurd here (notPlaced _ _)
              · rcases induction _ smaller later rfl with ⟨whole, different⟩
                exact ⟨whole.trans (List.suffix_cons _ _).isInfix, different⟩
          | inl char =>
              by_cases here : literal (placeholders.word index) <+: .inl char :: marked
              · rcases here with ⟨behind, split⟩
                have shorter : behind.length < size := by
                  rw [← length, ← split]
                  exact length_lt_literal_word_append behind
                rw [← split, place_word] at inside
                rcases List.infix_cons_iff.mp inside with first | later
                · exact absurd first (notPlaced _ _)
                · rcases induction _ shorter later rfl with ⟨whole, different⟩
                  rw [← split]
                  exact ⟨whole.trans (List.suffix_append _ _).isInfix, different⟩
              · rw [place_inl here] at inside
                rcases List.infix_cons_iff.mp inside with first | later
                · rw [← place_inl here] at first
                  have isPrefix := literal_prefix_place first
                  refine ⟨isPrefix.isInfix, ?_⟩
                  intro same
                  rw [same] at isPrefix
                  exact here isPrefix
                · rcases induction _ smaller later rfl with ⟨whole, different⟩
                  exact ⟨whole.trans (List.suffix_cons _ _).isInfix, different⟩

theorem literal_infix_placeAll {spelled : List α} (some : spelled ≠ []) {order : List ι}
    {marked : Marked α ι} (inside : literal spelled <:+: placeholders.placeAll order marked) :
    literal spelled <:+: marked ∧ ∀ index ∈ order, spelled ≠ placeholders.word index := by
  induction order generalizing marked with
  | nil => exact ⟨inside, fun _ none => absurd none List.not_mem_nil⟩
  | cons index order induction =>
      rw [placeAll, List.foldl_cons, ← placeAll] at inside
      rcases induction inside with ⟨before, others⟩
      rcases literal_infix_place some before with ⟨whole, different⟩
      refine ⟨whole, ?_⟩
      intro other known
      rcases List.mem_cons.mp known with here | later
      · rw [here]
        exact different
      · exact others other later

/-- When all words are placed, one that still shows runs over. -/
theorem word_shows_iff {order : List ι} (known : index ∈ order) (marked : Marked α ι) :
    placeholders.word index <:+: placeholders.render (placeholders.placeAll order marked) ↔
      placeholders.Straddles (placeholders.word index) (placeholders.placeAll order marked) := by
  rw [word_infix_render]
  constructor
  · intro either
    rcases either with whole | straddles
    · exact absurd rfl ((literal_infix_placeAll (word_ne_nil index) whole).2 index known)
    · exact straddles
  · exact .inr

/-! ## Protection -/

/-- The text and the placeholders do not spell anything together: no word at its turn of the
placing or in the end, no code when it is read, and none at its turn of the restoring. -/
structure KeepsApart (placeholders : Placeholders α ι) (placed restored : List ι) (text : List α) :
    Prop where
  places : placeholders.PlacesClear placed (literal text)
  words : ∀ index,
    ¬placeholders.Straddles (placeholders.word index) (placeholders.placeAll placed (literal text))
  codes : ∀ index,
    ¬placeholders.Straddles (placeholders.code index) (placeholders.placeAll placed (literal text))
  restores : placeholders.RestoresClear restored (placeholders.placeAll placed (literal text))

theorem KeepsApart.protect_eq {placed restored : List ι} {text : List α}
    (apart : placeholders.KeepsApart placed restored text) :
    placeholders.protect placed text =
      placeholders.render (placeholders.placeAll placed (literal text)) := by
  have whole := @protect_cases _ _ placeholders _ _ placed (literal text)
  rw [render_literal] at whole
  rcases whole with ⟨equal, -⟩ | ⟨-, unclear⟩
  · exact equal
  · exact absurd apart.places unclear

/-- What is read from left to right are the words that were placed. -/
theorem KeepsApart.scan_eq {placed restored indices : List ι}
    (complete : ∀ index, index ∈ indices) {text : List α} (absent : placeholders.Absent text)
    (apart : placeholders.KeepsApart placed restored text) :
    placeholders.scan indices (placeholders.protect placed text) =
      placeholders.placeAll placed (literal text) := by
  have inMarked : placeholders.Absent
      (placeholders.expand (placeholders.placeAll placed (literal text))) := by
    rw [expand_placeAll, expand_literal]
    exact absent
  rw [apart.protect_eq]
  rcases scan_exact complete inMarked with ⟨same, -⟩ | ⟨-, index, straddles⟩
  · exact same
  · exact absurd straddles (apart.codes index)

/-- Protection hides the words and is undone by both ways of reading, exactly when text and
placeholders keep apart. -/
theorem protection_exact {placed restored indices : List ι}
    (allPlaced : ∀ index, index ∈ placed) (allRestored : ∀ index, index ∈ restored)
    (complete : ∀ index, index ∈ indices) {text : List α} (absent : placeholders.Absent text) :
    (placeholders.restore restored (placeholders.protect placed text) = text ∧
      (∀ index, ¬placeholders.word index <:+: placeholders.protect placed text) ∧
      placeholders.expand (placeholders.scan indices (placeholders.protect placed text)) = text) ↔
    placeholders.KeepsApart placed restored text := by
  have stands : placeholders.expand (placeholders.placeAll placed (literal text)) = text := by
    rw [expand_placeAll, expand_literal]
  have inMarked : placeholders.Absent
      (placeholders.expand (placeholders.placeAll placed (literal text))) := by
    rw [stands]
    exact absent
  have whole := @protect_cases _ _ placeholders _ _ placed (literal text)
  rw [render_literal, expand_literal] at whole
  rcases whole with ⟨equal, clear⟩ | ⟨misplaced, unclear⟩
  · have back := restore_exact inMarked fun other _ => allRestored other
    rw [stands] at back
    rw [equal, back]
    constructor
    · intro all
      rcases all with ⟨restores, hidden, read⟩
      constructor
      · exact clear
      · exact fun index straddles =>
          hidden index ((word_shows_iff (allPlaced index) _).mpr straddles)
      · rcases scan_exact complete inMarked with ⟨-, codes⟩ | ⟨differs, -⟩
        · exact codes
        · rw [stands] at differs
          exact absurd read differs
      · exact restores
    · intro apart
      refine ⟨apart.restores, ?_, ?_⟩
      · exact fun index shows => apart.words index ((word_shows_iff (allPlaced index) _).mp shows)
      · rw [← equal, apart.scan_eq complete absent, stands]
  · apply iff_of_false
    · exact fun all => misplaced.scan_differs complete absent all.2.2
    · exact fun apart => unclear apart.places

end Placed

end ExQServe.Search.Placeholders
