import ExQServe.Foundation.Search

/-! # The first of several markers

The match with the least position, as `min` finds it among the first occurrences of some
markers. A marker may be the end of another one, but may not occur in it before its end;
then a match in a piece of a text stays the first one in the whole text. -/

namespace ExQServe.Search

variable {α : Type u} [DecidableEq α]

/-- Where each marker occurs first. -/
def firstMatches (source : List α) (markers : List (List α)) : List (Nat × List α) :=
  markers.filterMap fun marker => (find marker source).map fun position => (position, marker)

/-- `min(matches, key=...)`: the first one with the least position. -/
def leastPosition : List (Nat × List α) → Option (Nat × List α)
  | [] => none
  | found :: others =>
      match leastPosition others with
      | none => some found
      | some other => if other.1 < found.1 then some other else some found

def firstMatch (source : List α) (markers : List (List α)) : Option (Nat × List α) :=
  leastPosition (firstMatches source markers)

omit [DecidableEq α] in
theorem leastPosition_eq_none {found : List (Nat × List α)} :
    leastPosition found = none ↔ found = [] := by
  cases found with
  | nil => simp [leastPosition]
  | cons first others =>
      rw [leastPosition]
      cases leastPosition others with
      | none => simp
      | some other =>
          dsimp only
          split
          · simp
          · simp

omit [DecidableEq α] in
theorem leastPosition_spec {found : List (Nat × List α)} {best : Nat × List α}
    (least : leastPosition found = some best) :
    best ∈ found ∧ ∀ other ∈ found, best.1 ≤ other.1 := by
  induction found generalizing best with
  | nil => cases least
  | cons first others induction =>
      rw [leastPosition] at least
      cases later : leastPosition others with
      | none =>
          rw [later] at least
          cases least
          rw [leastPosition_eq_none.mp later]
          simp
      | some other =>
          rw [later] at least
          rcases induction later with ⟨member, bound⟩
          dsimp only at least
          by_cases earlier : other.1 < first.1
          · rw [if_pos earlier] at least
            cases least
            refine ⟨List.mem_cons_of_mem _ member, ?_⟩
            intro another inside
            rcases List.mem_cons.mp inside with here | inside
            · rw [here]
              exact Nat.le_of_lt earlier
            · exact bound another inside
          · rw [if_neg earlier] at least
            cases least
            refine ⟨List.mem_cons_self, ?_⟩
            intro another inside
            rcases List.mem_cons.mp inside with here | inside
            · rw [here]
            · exact Nat.le_trans (Nat.le_of_not_lt earlier) (bound another inside)

theorem mem_firstMatches {source marker : List α} {position : Nat} {markers : List (List α)} :
    (position, marker) ∈ firstMatches source markers ↔
      marker ∈ markers ∧ find marker source = some position := by
  rw [firstMatches, List.mem_filterMap]
  constructor
  · intro some
    rcases some with ⟨other, inside, same⟩
    rcases Option.map_eq_some_iff.mp same with ⟨start, found, pair⟩
    cases pair
    exact ⟨inside, found⟩
  · intro both
    exact ⟨marker, both.1, by rw [both.2]; rfl⟩

/-- No marker occurs in another one before its end. -/
structure EndFree (markers : List (List α)) : Prop where
  nonempty : ∀ marker ∈ markers, marker ≠ []
  apart : ∀ inner ∈ markers, ∀ outer ∈ markers, ¬inner <:+: outer.dropLast

instance (markers : List (List α)) : Decidable (EndFree markers) :=
  decidable_of_iff
    ((∀ marker ∈ markers, marker ≠ []) ∧
      ∀ inner ∈ markers, ∀ outer ∈ markers, ¬inner <:+: outer.dropLast)
    ⟨fun both => ⟨both.1, both.2⟩, fun endFree => ⟨endFree.nonempty, endFree.apart⟩⟩

section Spec

variable {markers : List (List α)} {source : List α}

/-- The marker occurs here, and no marker occurs before. -/
structure FirstAt (markers : List (List α)) (source : List α) (position : Nat) (marker : List α) :
    Prop where
  member : marker ∈ markers
  occurs : Occurs marker source position
  first : ∀ other ∈ markers, ∀ start, Occurs other source start → position ≤ start

theorem firstMatch_eq_none (nonempty : ∀ marker ∈ markers, marker ≠ []) :
    firstMatch source markers = none ↔
      ∀ marker ∈ markers, ∀ position, ¬Occurs marker source position := by
  rw [firstMatch, leastPosition_eq_none, List.eq_nil_iff_forall_not_mem]
  constructor
  · intro none marker member
    apply (find_eq_none_iff (nonempty marker member)).mp
    cases found : find marker source with
    | none => rfl
    | some position => exact absurd (mem_firstMatches.mpr ⟨member, found⟩) (none _)
  · intro absent found inside
    rcases mem_firstMatches.mp inside with ⟨member, some⟩
    exact absent _ member _ (find_eq_some some).1

theorem firstAt_of_firstMatch {position : Nat} {marker : List α}
    (found : firstMatch source markers = some (position, marker)) :
    FirstAt markers source position marker := by
  rcases leastPosition_spec found with ⟨inside, least⟩
  rcases mem_firstMatches.mp inside with ⟨member, here⟩
  refine ⟨member, (find_eq_some here).1, ?_⟩
  intro other otherMember start occurs
  cases otherFound : find other source with
  | none =>
      rcases Nat.lt_or_ge source.length start with beyond | within
      · have bound := (find_eq_some here).2.1
        omega
      · exact absurd occurs (find_eq_none otherFound start within)
  | some first =>
      have notBefore := (find_eq_some otherFound).2.2 start
      have bound := least _ (mem_firstMatches.mpr ⟨otherMember, otherFound⟩)
      dsimp only at bound
      by_cases before : start < first
      · exact absurd occurs (notBefore before)
      · omega

omit [DecidableEq α] in
/-- Of two markers at one position neither is longer. -/
theorem EndFree.unique (endFree : EndFree markers) {left right : List α} {position : Nat}
    (leftMember : left ∈ markers) (rightMember : right ∈ markers)
    (leftOccurs : Occurs left source position) (rightOccurs : Occurs right source position) :
    left = right := by
  have short : ∀ {inner outer : List α}, inner ∈ markers → outer ∈ markers →
      Occurs inner source position → Occurs outer source position →
        outer.length ≤ inner.length := by
    intro inner outer innerMember outerMember innerOccurs outerOccurs
    apply Nat.le_of_not_lt
    intro shorter
    have begins := innerOccurs.prefix_of_length_le outerOccurs (Nat.le_of_lt shorter)
    have proper : inner <+: outer.dropLast := by
      apply List.prefix_of_prefix_length_le begins (List.dropLast_prefix outer)
      rw [List.length_dropLast]
      omega
    exact endFree.apart inner innerMember outer outerMember proper.isInfix
  have length : left.length = right.length :=
    Nat.le_antisymm (short rightMember leftMember rightOccurs leftOccurs)
      (short leftMember rightMember leftOccurs rightOccurs)
  exact (leftOccurs.prefix_of_length_le rightOccurs (Nat.le_of_eq length)).eq_of_length length

theorem firstMatch_eq_some (endFree : EndFree markers) {position : Nat} {marker : List α} :
    firstMatch source markers = some (position, marker) ↔
      FirstAt markers source position marker := by
  constructor
  · exact firstAt_of_firstMatch
  · intro firstAt
    cases found : firstMatch source markers with
    | none =>
        exact absurd firstAt.occurs
          ((firstMatch_eq_none endFree.nonempty).mp found _ firstAt.member _)
    | some other =>
        rcases other with ⟨start, token⟩
        have otherAt := firstAt_of_firstMatch found
        have same : start = position :=
          Nat.le_antisymm (otherAt.first _ firstAt.member _ firstAt.occurs)
            (firstAt.first _ otherAt.member _ otherAt.occurs)
        rw [same] at otherAt ⊢
        rw [endFree.unique otherAt.member firstAt.member otherAt.occurs firstAt.occurs]

end Spec

section Pieces

variable {markers : List (List α)} {source : List α}

/-- A marker found in a piece is the marker found in every longer text. -/
theorem firstMatch_append_of_some (endFree : EndFree markers) {position : Nat} {marker : List α}
    (found : firstMatch source markers = some (position, marker)) (rest : List α) :
    firstMatch (source ++ rest) markers = some (position, marker) := by
  rw [firstMatch_eq_some endFree] at found ⊢
  have nonempty := endFree.nonempty marker found.member
  have bound := found.occurs.end_le nonempty
  refine ⟨found.member, found.occurs.append nonempty rest, ?_⟩
  intro other member start occurs
  by_cases complete : start + other.length ≤ source.length
  · exact found.first other member start (occurs.of_append complete)
  · apply Nat.le_of_not_lt
    intro before
    -- The unfinished marker would contain the finished one before its end.
    have shorter : other.dropLast.length + 1 = other.length := by
      have positive := List.length_pos_iff.mpr (endFree.nonempty other member)
      rw [List.length_dropLast]
      omega
    have cut : Occurs other.dropLast (source ++ rest) start :=
      (List.dropLast_prefix other).trans occurs
    have inside : marker <:+: other.dropLast :=
      (found.occurs.append nonempty rest).infix_of_within cut (Nat.le_of_lt before) (by omega)
    exact endFree.apart marker found.member other member inside

/-- A text in which no marker starts only shifts the match. -/
theorem Clear.firstMatch_eq {before after : List α} (clear : Clear markers before after)
    (endFree : EndFree markers) :
    firstMatch (before ++ after) markers =
      (firstMatch after markers).map fun found => (before.length + found.1, found.2) := by
  have shift : ∀ marker ∈ markers, ∀ position, Occurs marker (before ++ after) position →
      ∃ inner, before.length + inner = position ∧ Occurs marker after inner := by
    intro marker member position occurs
    have behind : before.length ≤ position :=
      Nat.le_of_not_lt fun inside => (clear marker member position inside).1 occurs
    refine ⟨position - before.length, Nat.add_sub_cancel' behind, ?_⟩
    apply occurs_append_length_add.mp
    rw [Nat.add_sub_cancel' behind]
    exact occurs
  cases found : firstMatch after markers with
  | none =>
      rw [Option.map_none, firstMatch_eq_none endFree.nonempty]
      intro marker member position occurs
      rcases shift marker member position occurs with ⟨inner, -, innerOccurs⟩
      exact (firstMatch_eq_none endFree.nonempty).mp found marker member inner innerOccurs
  | some best =>
      have firstAt := firstAt_of_firstMatch found
      rw [Option.map_some, firstMatch_eq_some endFree]
      refine ⟨firstAt.member, occurs_append_length_add.mpr firstAt.occurs, ?_⟩
      intro other member start occurs
      rcases shift other member start occurs with ⟨inner, same, innerOccurs⟩
      have order := firstAt.first other member inner innerOccurs
      omega

/-- The text before the longest end that a marker goes on from. -/
theorem clear_of_no_match (nonempty : ∀ marker ∈ markers, marker ≠ [])
    (missing : firstMatch source markers = none) :
    Clear markers (source.take (source.length - longestPartial markers source))
      (source.drop (source.length - longestPartial markers source)) := by
  apply clear_of_none nonempty
  rw [firstToken_eq_none_iff nonempty]
  exact (firstMatch_eq_none nonempty).mp missing

end Pieces

/-! ## Markers with a head of their own

The first element of such a marker is nowhere else in it, so that a marker cannot go on into a
text that starts with that element. -/

section Headed

variable {head : α} {pattern before after : List α}

structure Headed (head : α) (pattern : List α) : Prop where
  starts : pattern.head? = some head
  alone : head ∉ pattern.tail

instance (head : α) (pattern : List α) : Decidable (Headed head pattern) :=
  decidable_of_iff (pattern.head? = some head ∧ head ∉ pattern.tail)
    ⟨fun both => ⟨both.1, both.2⟩, fun headed => ⟨headed.starts, headed.alone⟩⟩

/-- The pattern does not start in the text before. -/
def Absent (pattern before after : List α) : Prop :=
  ∀ position, position < before.length → ¬Occurs pattern (before ++ after) position

omit [DecidableEq α] in
theorem Headed.nonempty (headed : Headed head pattern) : pattern ≠ [] := by
  intro empty
  have starts := headed.starts
  rw [empty] at starts
  cases starts

omit [DecidableEq α] in
theorem Headed.head?_append (headed : Headed head pattern) (rest : List α) :
    (pattern ++ rest).head? = some head := by
  cases pattern with
  | nil => cases headed.starts
  | cons first tail => exact headed.starts

omit [DecidableEq α] in
/-- Nothing that goes on over the head is a part of the pattern from its start. -/
theorem Headed.length_le_of_agree (headed : Headed head pattern) {first middle rest : List α}
    (nonempty : first ≠ []) (both : pattern <+: middle ∨ middle <+: pattern)
    (split : middle = first ++ head :: rest) : pattern.length ≤ first.length := by
  apply Nat.le_of_not_lt
  intro longer
  apply headed.alone
  have place : pattern[first.length]? = some head := by
    rcases both with shorter | goesOn
    · rcases shorter with ⟨more, same⟩
      have here : middle[first.length]? = some head := by
        rw [split, List.getElem?_append_right (Nat.le_refl _), Nat.sub_self]
        rfl
      rw [← same, List.getElem?_append_left longer] at here
      exact here
    · rcases goesOn with ⟨more, same⟩
      rw [← same, split, List.append_assoc, List.getElem?_append_right (Nat.le_refl _),
        Nat.sub_self]
      rfl
  cases pattern with
  | nil => cases longer
  | cons start tail =>
      have positive := List.length_pos_iff.mpr nonempty
      rcases Nat.exists_eq_succ_of_ne_zero (Nat.ne_of_gt positive) with ⟨index, shape⟩
      rw [shape, List.getElem?_cons_succ] at place
      exact List.mem_of_getElem? place

omit [DecidableEq α] in
theorem Headed.absent (headed : Headed head pattern) (free : ¬pattern <:+: before)
    (next : ∀ first ∈ after.head?, first = head) : Absent pattern before after := by
  intro position inside occurs
  apply free
  cases after with
  | nil =>
      rw [List.append_nil] at occurs
      exact occurs.isInfix.trans (List.drop_suffix _ _).isInfix
  | cons first rest =>
      rw [next first rfl] at occurs
      rw [Occurs, List.drop_append_of_le_length (Nat.le_of_lt inside)] at occurs
      have short := headed.length_le_of_agree
        (List.ne_nil_of_length_pos (by rw [List.length_drop]; omega)) (.inl occurs) rfl
      exact (List.prefix_of_prefix_length_le occurs (List.prefix_append _ _) short).isInfix.trans
        (List.drop_suffix _ _).isInfix

omit [DecidableEq α] in
theorem absent_of_not_mem (headed : Headed head pattern) (plain : head ∉ before)
    (after : List α) : Absent pattern before after := by
  intro position inside occurs
  have start : pattern.head? = (before ++ after)[position]? := by
    cases pattern with
    | nil => cases headed.starts
    | cons first rest =>
        rcases occurs with ⟨more, same⟩
        rw [List.head?_cons, ← List.head?_drop, ← same]
        rfl
  rw [headed.starts, List.getElem?_append_left inside] at start
  exact plain (List.mem_of_getElem? start.symm)

omit [DecidableEq α] in
/-- No end of the text before agrees with the pattern. -/
theorem absent_of_apart
    (apart : ∀ position < before.length, ¬pattern <+: before.drop position ∧
      ¬before.drop position <+: pattern) (after : List α) : Absent pattern before after := by
  intro position inside occurs
  rw [Occurs, List.drop_append_of_le_length (Nat.le_of_lt inside)] at occurs
  rcases List.prefix_or_prefix_of_prefix occurs (List.prefix_append _ after) with first | first
  · exact (apart position inside).1 first
  · exact (apart position inside).2 first

omit [DecidableEq α] in
/-- What is behind starts with an element that the pattern does not have. -/
theorem absent_of_barrier {barrier : α} (free : ¬pattern <:+: before)
    (next : after.head? = some barrier) (other : barrier ∉ pattern) :
    Absent pattern before after := by
  intro position inside occurs
  rw [Occurs, List.drop_append_of_le_length (Nat.le_of_lt inside)] at occurs
  by_cases short : pattern.length ≤ (before.drop position).length
  · have inside := List.prefix_of_prefix_length_le occurs (List.prefix_append _ _) short
    exact free (inside.isInfix.trans
      (List.drop_suffix _ _).isInfix)
  · apply other
    rcases occurs with ⟨rest, same⟩
    have here : (before.drop position ++ after)[(before.drop position).length]? = some barrier := by
      rw [List.getElem?_append_right (Nat.le_refl _), Nat.sub_self, ← List.head?_eq_getElem?, next]
    rw [← same, List.getElem?_append_left (by omega)] at here
    exact List.mem_of_getElem? here

omit [DecidableEq α] in
theorem Absent.append {middle : List α} (first : Absent pattern before (middle ++ after))
    (second : Absent pattern middle after) : Absent pattern (before ++ middle) after := by
  intro position inside occurs
  rw [List.append_assoc] at occurs
  by_cases within : position < before.length
  · exact first position within occurs
  · rw [List.length_append] at inside
    have same : before.length + (position - before.length) = position := by omega
    rw [← same, occurs_append_length_add] at occurs
    exact second (position - before.length) (by omega) occurs

omit [DecidableEq α] in
/-- Where the pattern starts behind a text that it does not start in. -/
theorem Absent.le_of_occurs {front : List α} {position : Nat}
    (absent : Absent pattern before after)
    (occurs : Occurs pattern (front ++ (before ++ after)) position)
    (behind : front.length ≤ position) : front.length + before.length ≤ position := by
  apply Nat.le_of_not_lt
  intro inside
  have split : front.length + (position - front.length) = position := by omega
  rw [← split, occurs_append_length_add] at occurs
  exact absent (position - front.length) (by omega) occurs

theorem find_self (pattern rest : List α) : find pattern (pattern ++ rest) = some 0 := by
  rw [find.eq_def]
  cases shape : pattern ++ rest with
  | nil =>
      dsimp only
      rw [if_pos (List.append_eq_nil_iff.mp shape).1]
  | cons first others =>
      dsimp only
      rw [if_pos (shape ▸ List.prefix_append pattern rest)]

/-- The pattern is found where it stands when it does not start before. -/
theorem Absent.find_here {rest : List α} (absent : Absent pattern before (pattern ++ rest))
    (nonempty : pattern ≠ []) :
    find pattern (before ++ (pattern ++ rest)) = some before.length := by
  rw [find_append_of_absent nonempty absent, find_self]
  rfl

theorem Headed.find_here (headed : Headed head pattern) (free : ¬pattern <:+: before)
    (rest : List α) : find pattern (before ++ (pattern ++ rest)) = some before.length := by
  apply Absent.find_here ?_ headed.nonempty
  apply headed.absent free
  intro first here
  rw [headed.head?_append] at here
  exact (Option.some.inj here).symm

omit [DecidableEq α] in
/-- A text without a marker is clear when the head of the markers follows. -/
theorem clear_of_headed {markers : List (List α)} {rest : List α}
    (headed : ∀ marker ∈ markers, Headed head marker)
    (missing : ∀ marker ∈ markers, ∀ position, ¬Occurs marker before position) :
    Clear markers before (head :: rest) := by
  intro marker member position inside
  have split : (before ++ head :: rest).drop position = before.drop position ++ head :: rest :=
    List.drop_append_of_le_length (Nat.le_of_lt inside)
  have nonempty : before.drop position ≠ [] :=
    List.ne_nil_of_length_pos (by rw [List.length_drop]; omega)
  have close : ∀ agree : marker <+: (before ++ head :: rest).drop position ∨
      (before ++ head :: rest).drop position <+: marker,
        marker.length ≤ (before.drop position).length :=
    fun agree => (headed marker member).length_le_of_agree nonempty agree split
  constructor
  · intro occurs
    have short := close (.inl occurs)
    rw [split] at occurs
    exact missing marker member position
      (List.prefix_of_prefix_length_le occurs (List.prefix_append _ _) short)
  · intro goesOn
    have short := close (.inr goesOn)
    have long := goesOn.length_le
    rw [split, List.length_append, List.length_cons] at long
    omega

end Headed

end ExQServe.Search
