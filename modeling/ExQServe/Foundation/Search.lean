import Mathlib

/-! # Searching a text for delimiters

Occurrences of a pattern in a list, the first occurrence, and the first member
of a token set that occurs. The last section is about texts that arrive in
pieces: what a search over a piece says about the search over the whole text.
Nothing here depends on the alphabet. -/

namespace ExQServe.Search

variable {α : Type u}

/-! ## Occurrences -/

/-- `pattern` occurs in `source` at `position`. -/
def Occurs (pattern source : List α) (position : Nat) : Prop :=
  pattern <+: source.drop position

instance [DecidableEq α] (pattern source : List α) (position : Nat) :
    Decidable (Occurs pattern source position) :=
  inferInstanceAs (Decidable (pattern <+: source.drop position))

theorem Occurs.end_le {pattern source : List α} {position : Nat}
    (occurs : Occurs pattern source position) (nonempty : pattern ≠ []) :
    position + pattern.length ≤ source.length := by
  have bound := occurs.length_le
  rw [List.length_drop] at bound
  have positive := List.length_pos_iff.mpr nonempty
  omega

theorem Occurs.append {pattern source : List α} {position : Nat}
    (occurs : Occurs pattern source position) (nonempty : pattern ≠ [])
    (rest : List α) : Occurs pattern (source ++ rest) position := by
  have bound := occurs.end_le nonempty
  unfold Occurs at occurs ⊢
  rw [List.drop_append_of_le_length (by omega)]
  exact occurs.trans (List.prefix_append _ _)

/-- An occurrence that ends inside the first part is an occurrence in it. -/
theorem Occurs.of_append {pattern source rest : List α} {position : Nat}
    (occurs : Occurs pattern (source ++ rest) position)
    (inside : position + pattern.length ≤ source.length) :
    Occurs pattern source position := by
  unfold Occurs at occurs ⊢
  rw [List.drop_append_of_le_length (by omega)] at occurs
  exact List.prefix_of_prefix_length_le occurs (List.prefix_append _ _)
    (by rw [List.length_drop]; omega)

theorem occurs_append_length_add {pattern before source : List α} {position : Nat} :
    Occurs pattern (before ++ source) (before.length + position) ↔
      Occurs pattern source position := by
  unfold Occurs
  rw [List.drop_length_add_append]

theorem occurs_drop {pattern source : List α} {start position : Nat} :
    Occurs pattern (source.drop start) position ↔
      Occurs pattern source (start + position) := by
  unfold Occurs
  rw [List.drop_drop]

theorem Occurs.split {pattern source : List α} {position : Nat}
    (occurs : Occurs pattern source position) (bound : position ≤ source.length) :
    ∃ before after, source = before ++ pattern ++ after ∧ before.length = position := by
  rcases occurs with ⟨after, equal⟩
  refine ⟨source.take position, after, ?_, by rw [List.length_take]; omega⟩
  rw [List.append_assoc, equal, List.take_append_drop]

theorem occurs_of_split {pattern before after : List α} :
    Occurs pattern (before ++ pattern ++ after) before.length := by
  unfold Occurs
  rw [List.append_assoc, List.drop_left]
  exact List.prefix_append _ _

/-- Two patterns at one position: the shorter is a prefix of the longer. -/
theorem Occurs.prefix_of_length_le {left right source : List α} {position : Nat}
    (leftOccurs : Occurs left source position)
    (rightOccurs : Occurs right source position)
    (shorter : left.length ≤ right.length) : left <+: right :=
  List.prefix_of_prefix_length_le leftOccurs rightOccurs shorter

/-- An occurrence that lies within another one makes its pattern an infix of
the other pattern. -/
theorem Occurs.infix_of_within {inner outer source : List α} {position start : Nat}
    (innerOccurs : Occurs inner source position)
    (outerOccurs : Occurs outer source start)
    (after : start ≤ position)
    (before : position + inner.length ≤ start + outer.length) :
    inner <:+: outer := by
  unfold Occurs at innerOccurs outerOccurs
  have shifted : inner <+: (source.drop start).drop (position - start) := by
    rw [List.drop_drop]
    have same : start + (position - start) = position := by omega
    rwa [same]
  have outerTail : outer.drop (position - start) <+:
      (source.drop start).drop (position - start) := outerOccurs.drop _
  have within : inner <+: outer.drop (position - start) :=
    List.prefix_of_prefix_length_le shifted outerTail
      (by rw [List.length_drop]; omega)
  exact within.isInfix.trans (List.drop_suffix _ _).isInfix

/-! ## First occurrence -/

/-- Position of the first occurrence, as Python's `str.find`. -/
def find [DecidableEq α] (pattern : List α) : List α → Option Nat
  | [] => if pattern = [] then some 0 else none
  | head :: rest =>
      if pattern <+: head :: rest then some 0
      else (find pattern rest).map (· + 1)

/-- Position of the first occurrence at or after `start`. -/
def findFrom [DecidableEq α] (pattern source : List α) (start : Nat) : Option Nat :=
  (find pattern (source.drop start)).map (start + ·)

section Find

variable [DecidableEq α]

theorem find_eq_none {pattern source : List α} :
    find pattern source = none → ∀ position, position ≤ source.length →
      ¬Occurs pattern source position := by
  induction source with
  | nil =>
      intro missing position _ occurs
      unfold find at missing
      split at missing
      · cases missing
      · rename_i nonempty
        exact nonempty (by simpa [Occurs] using occurs)
  | cons head rest induction =>
      intro missing position bound occurs
      unfold find at missing
      split at missing
      · cases missing
      · rename_i notHere
        rw [Option.map_eq_none_iff] at missing
        cases position with
        | zero => exact notHere occurs
        | succ position =>
            exact induction missing position (by simpa using bound) (by simpa [Occurs] using occurs)

theorem find_eq_some {pattern source : List α} {position : Nat} :
    find pattern source = some position →
      Occurs pattern source position ∧ position ≤ source.length ∧
      ∀ earlier, earlier < position → ¬Occurs pattern source earlier := by
  induction source generalizing position with
  | nil =>
      intro found
      unfold find at found
      split at found
      · cases found
        rename_i empty
        subst empty
        exact ⟨List.nil_prefix, Nat.le_refl _, fun _ impossible => absurd impossible (by omega)⟩
      · cases found
  | cons head rest induction =>
      intro found
      unfold find at found
      split at found
      · rename_i here
        cases found
        exact ⟨here, Nat.zero_le _, fun _ impossible => absurd impossible (by omega)⟩
      · rename_i notHere
        rcases Option.map_eq_some_iff.mp found with ⟨inner, innerFound, rfl⟩
        rcases induction innerFound with ⟨occurs, bound, first⟩
        refine ⟨by simpa [Occurs] using occurs, by simpa using bound, ?_⟩
        intro earlier before earlierOccurs
        cases earlier with
        | zero => exact notHere earlierOccurs
        | succ earlier =>
            exact first earlier (by omega) (by simpa [Occurs] using earlierOccurs)

theorem find_eq_none_iff {pattern source : List α} (nonempty : pattern ≠ []) :
    find pattern source = none ↔ ∀ position, ¬Occurs pattern source position := by
  constructor
  · intro missing position occurs
    exact find_eq_none missing position (by have := occurs.end_le nonempty; omega) occurs
  · intro absent
    cases found : find pattern source with
    | none => rfl
    | some position => exact absurd (find_eq_some found).1 (absent position)

theorem find_eq_some_iff {pattern source : List α} {position : Nat}
    (nonempty : pattern ≠ []) :
    find pattern source = some position ↔
      Occurs pattern source position ∧
      ∀ earlier, earlier < position → ¬Occurs pattern source earlier := by
  constructor
  · intro found
    exact ⟨(find_eq_some found).1, (find_eq_some found).2.2⟩
  · rintro ⟨occurs, first⟩
    cases found : find pattern source with
    | none => exact absurd occurs ((find_eq_none_iff nonempty).mp found position)
    | some other =>
        have otherFacts := find_eq_some found
        have notLess : ¬other < position := fun less => first other less otherFacts.1
        have notMore : ¬position < other := fun more => otherFacts.2.2 position more occurs
        congr
        omega

theorem find_append_of_some {pattern source : List α} {position : Nat}
    (nonempty : pattern ≠ []) (found : find pattern source = some position)
    (rest : List α) : find pattern (source ++ rest) = some position := by
  rw [find_eq_some_iff nonempty] at found ⊢
  refine ⟨found.1.append nonempty rest, ?_⟩
  intro earlier before occurs
  have bound := found.1.end_le nonempty
  exact found.2 earlier before (occurs.of_append (by omega))

theorem find_isSome_append {pattern source : List α} {position : Nat}
    (found : find pattern source = some position) (rest : List α) :
    (find pattern (source ++ rest)).isSome = true := by
  have facts := find_eq_some found
  cases missing : find pattern (source ++ rest) with
  | some _ => rfl
  | none =>
      refine absurd ?_ (find_eq_none missing position
        (by rw [List.length_append]; omega))
      unfold Occurs at facts ⊢
      rw [List.drop_append_of_le_length facts.2.1]
      exact facts.1.trans (List.prefix_append _ _)

/-- A text before which no occurrence starts only shifts the result. -/
theorem find_append_of_absent {pattern before source : List α}
    (nonempty : pattern ≠ [])
    (absent : ∀ position, position < before.length →
      ¬Occurs pattern (before ++ source) position) :
    find pattern (before ++ source) = (find pattern source).map (before.length + ·) := by
  cases found : find pattern source with
  | none =>
      rw [Option.map_none, find_eq_none_iff nonempty]
      intro position occurs
      by_cases inside : position < before.length
      · exact absent position inside occurs
      · have same : before.length + (position - before.length) = position := by omega
        rw [← same, occurs_append_length_add] at occurs
        exact (find_eq_none_iff nonempty).mp found _ occurs
  | some position =>
      rw [Option.map_some, find_eq_some_iff nonempty]
      rw [find_eq_some_iff nonempty] at found
      refine ⟨occurs_append_length_add.mpr found.1, ?_⟩
      intro earlier less occurs
      by_cases inside : earlier < before.length
      · exact absent earlier inside occurs
      · have same : before.length + (earlier - before.length) = earlier := by omega
        rw [← same, occurs_append_length_add] at occurs
        exact found.2 _ (by omega) occurs

theorem findFrom_eq_some {pattern source : List α} {start position : Nat}
    (found : findFrom pattern source start = some position) :
    start ≤ position ∧ Occurs pattern source position ∧
      ∀ earlier, start ≤ earlier → earlier < position → ¬Occurs pattern source earlier := by
  rcases Option.map_eq_some_iff.mp found with ⟨inner, innerFound, rfl⟩
  have facts := find_eq_some innerFound
  refine ⟨by omega, occurs_drop.mp facts.1, ?_⟩
  intro earlier lower upper occurs
  have same : start + (earlier - start) = earlier := by omega
  rw [← same, ← occurs_drop] at occurs
  exact facts.2.2 _ (by omega) occurs

end Find

/-! ## First token of a set -/

/-- `token` is the member of `tokens` that occurs first in `source`; among
tokens at one position the longest wins. -/
structure IsFirst (tokens : List (List α)) (source : List α)
    (position : Nat) (token : List α) : Prop where
  member : token ∈ tokens
  occurs : Occurs token source position
  first : ∀ other ∈ tokens, ∀ start, Occurs other source start →
    position < start ∨ (position = start ∧ other.length ≤ token.length)

theorem IsFirst.unique {tokens : List (List α)} {source left right : List α}
    {leftAt rightAt : Nat} (leftFirst : IsFirst tokens source leftAt left)
    (rightFirst : IsFirst tokens source rightAt right) :
    leftAt = rightAt ∧ left = right := by
  have leftBefore := leftFirst.first right rightFirst.member rightAt rightFirst.occurs
  have rightBefore := rightFirst.first left leftFirst.member leftAt leftFirst.occurs
  have sameAt : leftAt = rightAt := by omega
  subst sameAt
  have sameLength : left.length = right.length := by omega
  exact ⟨rfl, (leftFirst.occurs.prefix_of_length_le rightFirst.occurs
    (by omega)).eq_of_length sameLength⟩

/-- Keep the better of two matches: the earlier, and the longer at a tie. -/
def better (left right : Nat × List α) : Nat × List α :=
  if right.1 < left.1 ∨ (right.1 = left.1 ∧ left.2.length < right.2.length)
  then right else left

/-- The first token found in `source`, with its position. -/
def firstToken [DecidableEq α] (source : List α) :
    List (List α) → Option (Nat × List α)
  | [] => none
  | token :: tokens =>
      match find token source, firstToken source tokens with
      | none, rest => rest
      | some position, none => some (position, token)
      | some position, some rest => some (better (position, token) rest)

section FirstToken

variable [DecidableEq α]

theorem firstToken_spec (source : List α) : ∀ tokens : List (List α),
    (∀ token ∈ tokens, token ≠ []) →
    match firstToken source tokens with
    | none => ∀ token ∈ tokens, ∀ position, ¬Occurs token source position
    | some (position, token) => IsFirst tokens source position token
  | [], _ => by simp [firstToken]
  | token :: tokens, nonempty => by
      have tokenNonempty := nonempty token (by simp)
      have rest := firstToken_spec source tokens
        (fun other member => nonempty other (by simp [member]))
      unfold firstToken
      cases here : find token source with
      | none =>
          have absent := (find_eq_none_iff tokenNonempty).mp here
          cases later : firstToken source tokens with
          | none =>
              rw [later] at rest
              intro other member position occurs
              rcases List.mem_cons.mp member with rfl | member
              · exact absent position occurs
              · exact rest other member position occurs
          | some found =>
              rw [later] at rest
              refine ⟨List.mem_cons_of_mem _ rest.member, rest.occurs, ?_⟩
              intro other member start occurs
              rcases List.mem_cons.mp member with rfl | member
              · exact absurd occurs (absent start)
              · exact rest.first other member start occurs
      | some position =>
          have hereFacts := (find_eq_some_iff tokenNonempty).mp here
          have hereFirst : ∀ start, Occurs token source start → position ≤ start := by
            intro start occurs
            exact Nat.le_of_not_lt fun less => hereFacts.2 start less occurs
          cases later : firstToken source tokens with
          | none =>
              rw [later] at rest
              refine ⟨by simp, hereFacts.1, ?_⟩
              intro other member start occurs
              rcases List.mem_cons.mp member with rfl | member
              · have := hereFirst start occurs
                omega
              · exact absurd occurs (rest other member start)
          | some found =>
              rw [later] at rest
              simp only [better]
              split
              · rename_i wins
                refine ⟨List.mem_cons_of_mem _ rest.member, rest.occurs, ?_⟩
                intro other member start occurs
                rcases List.mem_cons.mp member with rfl | member
                · have := hereFirst start occurs
                  omega
                · exact rest.first other member start occurs
              · rename_i loses
                refine ⟨by simp, hereFacts.1, ?_⟩
                intro other member start occurs
                change position < start ∨ (position = start ∧ other.length ≤ token.length)
                rcases List.mem_cons.mp member with rfl | member
                · have := hereFirst start occurs
                  omega
                · have := rest.first other member start occurs
                  omega

variable {tokens : List (List α)} {source : List α}

theorem firstToken_eq_none_iff (nonempty : ∀ token ∈ tokens, token ≠ []) :
    firstToken source tokens = none ↔
      ∀ token ∈ tokens, ∀ position, ¬Occurs token source position := by
  have spec := firstToken_spec source tokens nonempty
  cases found : firstToken source tokens with
  | none => simpa [found] using spec
  | some match_ =>
      rw [found] at spec
      simp only [reduceCtorEq, false_iff, not_forall, not_not]
      exact ⟨_, spec.member, _, spec.occurs⟩

theorem firstToken_eq_some_iff (nonempty : ∀ token ∈ tokens, token ≠ [])
    {position : Nat} {token : List α} :
    firstToken source tokens = some (position, token) ↔
      IsFirst tokens source position token := by
  have spec := firstToken_spec source tokens nonempty
  cases found : firstToken source tokens with
  | none =>
      rw [found] at spec
      simp only [reduceCtorEq, false_iff]
      exact fun isFirst => spec token isFirst.member position isFirst.occurs
  | some match_ =>
      rw [found] at spec
      constructor
      · rintro ⟨⟩
        exact spec
      · intro isFirst
        rcases isFirst.unique spec with ⟨rfl, rfl⟩
        rfl

end FirstToken

/-! ## Searching a text that arrives in pieces -/

/-- No token is a proper part of another, so a token found in a piece of the
text cannot be displaced by one that is still incomplete. -/
structure InfixFree (tokens : List (List α)) : Prop where
  nonempty : ∀ token ∈ tokens, token ≠ []
  separate : ∀ inner ∈ tokens, ∀ outer ∈ tokens, inner <:+: outer → inner = outer

instance [DecidableEq α] (tokens : List (List α)) : Decidable (InfixFree tokens) :=
  decidable_of_iff
    ((∀ token ∈ tokens, token ≠ []) ∧
      ∀ inner ∈ tokens, ∀ outer ∈ tokens, inner <:+: outer → inner = outer)
    ⟨fun ⟨nonempty, separate⟩ => ⟨nonempty, separate⟩,
      fun ⟨nonempty, separate⟩ => ⟨nonempty, separate⟩⟩

/-- Characters at the end of a piece that may belong to an unfinished token. -/
def keepLength (tokens : List (List α)) : Nat :=
  (tokens.map List.length).foldr max 0 - 1

theorem length_le_keepLength {tokens : List (List α)} {token : List α}
    (member : token ∈ tokens) : token.length ≤ keepLength tokens + 1 := by
  have bound : token.length ≤ (tokens.map List.length).foldr max 0 := by
    induction tokens with
    | nil => cases member
    | cons head tail induction =>
        simp only [List.map_cons, List.foldr_cons]
        rcases List.mem_cons.mp member with rfl | member
        · exact Nat.le_max_left _ _
        · exact (induction member).trans (Nat.le_max_right _ _)
  unfold keepLength
  omega

section Pieces

variable [DecidableEq α] {tokens : List (List α)} {source : List α}

/-- A token found in a piece is the token found in every longer text. -/
theorem firstToken_append_of_some (infixFree : InfixFree tokens)
    {position : Nat} {token : List α}
    (found : firstToken source tokens = some (position, token)) (rest : List α) :
    firstToken (source ++ rest) tokens = some (position, token) := by
  rw [firstToken_eq_some_iff infixFree.nonempty] at found ⊢
  have tokenNonempty := infixFree.nonempty token found.member
  have tokenEnd := found.occurs.end_le tokenNonempty
  refine ⟨found.member, found.occurs.append tokenNonempty rest, ?_⟩
  intro other member start occurs
  by_cases complete : start + other.length ≤ source.length
  · exact found.first other member start (occurs.of_append complete)
  · by_cases before : start ≤ position
    · -- The unfinished token would contain the finished one.
      have inside : token <:+: other :=
        (found.occurs.append tokenNonempty rest).infix_of_within occurs before (by omega)
      have same := infixFree.separate token found.member other member inside
      subst same
      omega
    · omega

/-- A text in which no token starts only shifts the result. -/
theorem firstToken_append_of_absent (nonempty : ∀ token ∈ tokens, token ≠ [])
    {before source : List α}
    (absent : ∀ token ∈ tokens, ∀ position, position < before.length →
      ¬Occurs token (before ++ source) position) :
    firstToken (before ++ source) tokens =
      (firstToken source tokens).map fun found => (before.length + found.1, found.2) := by
  have shift : ∀ token ∈ tokens, ∀ position, Occurs token (before ++ source) position →
      ∃ inner, before.length + inner = position ∧ Occurs token source inner := by
    intro token member position occurs
    have after : before.length ≤ position :=
      Nat.le_of_not_lt fun inside => absent token member position inside occurs
    refine ⟨position - before.length, by omega, ?_⟩
    have inside : Occurs token (before ++ source)
        (before.length + (position - before.length)) := by
      rwa [Nat.add_sub_cancel' after]
    exact occurs_append_length_add.mp inside
  cases found : firstToken source tokens with
  | none =>
      rw [Option.map_none, firstToken_eq_none_iff nonempty]
      intro token member position occurs
      rcases shift token member position occurs with ⟨inner, -, innerOccurs⟩
      exact (firstToken_eq_none_iff nonempty).mp found token member inner innerOccurs
  | some match_ =>
      rw [firstToken_eq_some_iff nonempty] at found
      rw [Option.map_some, firstToken_eq_some_iff nonempty]
      refine ⟨found.member, occurs_append_length_add.mpr found.occurs, ?_⟩
      intro other member start occurs
      rcases shift other member start occurs with ⟨inner, rfl, innerOccurs⟩
      have order := found.first other member inner innerOccurs
      omega

/-- When a piece holds no complete token, everything but its last
`keepLength` characters can be dropped from the search. -/
theorem firstToken_append_of_none (nonempty : ∀ token ∈ tokens, token ≠ [])
    {safe : Nat} (safeBound : safe ≤ source.length - keepLength tokens)
    (missing : firstToken source tokens = none) (rest : List α) :
    firstToken (source ++ rest) tokens =
      (firstToken (source.drop safe ++ rest) tokens).map
        fun found => (safe + found.1, found.2) := by
  have missingAll := (firstToken_eq_none_iff nonempty).mp missing
  have whole : source ++ rest = source.take safe ++ (source.drop safe ++ rest) := by
    rw [← List.append_assoc, List.take_append_drop]
  have takeLength : (source.take safe).length = safe := by
    rw [List.length_take]
    omega
  have absent : ∀ token ∈ tokens, ∀ position, position < (source.take safe).length →
      ¬Occurs token (source.take safe ++ (source.drop safe ++ rest)) position := by
    intro token member position inside occurs
    rw [← whole] at occurs
    have short := length_le_keepLength member
    exact missingAll token member position (occurs.of_append (by omega))
  rw [whole, firstToken_append_of_absent nonempty absent, takeLength]

end Pieces

/-! ## Tokens cut off by the end -/

section Partial

variable [DecidableEq α]

/-- Length of the longest end of the text that a token goes on from. -/
def partialLength (text token : List α) : Nat :=
  Nat.findGreatest (fun size => text.drop (text.length - size) <+: token)
    (min text.length (token.length - 1))

def longestPartial (tokens : List (List α)) (text : List α) : Nat :=
  tokens.foldr (fun token longest => max (partialLength text token) longest) 0

theorem partialLength_le (text token : List α) : partialLength text token ≤ text.length :=
  (Nat.findGreatest_le _).trans (Nat.min_le_left _ _)

theorem partialLength_lt {text token : List α} (nonempty : token ≠ []) :
    partialLength text token < token.length := by
  have bound : partialLength text token ≤ token.length - 1 :=
    (Nat.findGreatest_le _).trans (Nat.min_le_right _ _)
  have positive := List.length_pos_iff.mpr nonempty
  omega

theorem drop_partialLength_prefix (text token : List α) :
    text.drop (text.length - partialLength text token) <+: token := by
  have none : text.drop (text.length - 0) <+: token := by
    rw [Nat.sub_zero, List.drop_length]
    exact List.nil_prefix
  exact Nat.findGreatest_spec (P := fun size => text.drop (text.length - size) <+: token)
    (Nat.zero_le _) none

theorem le_partialLength {text token : List α} {size : Nat} (inside : size ≤ text.length)
    (proper : size < token.length) (goesOn : text.drop (text.length - size) <+: token) :
    size ≤ partialLength text token :=
  Nat.le_findGreatest (by omega) goesOn

variable {tokens : List (List α)}

theorem partialLength_le_longestPartial {text token : List α} (member : token ∈ tokens) :
    partialLength text token ≤ longestPartial tokens text := by
  induction tokens with
  | nil => cases member
  | cons head tail induction =>
      rcases List.mem_cons.mp member with rfl | member
      · exact Nat.le_max_left _ _
      · exact (induction member).trans (Nat.le_max_right _ _)

theorem longestPartial_le {bound : Nat} {text : List α}
    (each : ∀ token ∈ tokens, partialLength text token ≤ bound) :
    longestPartial tokens text ≤ bound := by
  induction tokens with
  | nil => exact Nat.zero_le _
  | cons head tail induction =>
      exact Nat.max_le.mpr ⟨each head List.mem_cons_self,
        induction fun token member => each token (List.mem_cons_of_mem _ member)⟩

/-- No token starts inside `before`, not even one that the end of the text cuts off. -/
def Clear (tokens : List (List α)) (before after : List α) : Prop :=
  ∀ token ∈ tokens, ∀ position, position < before.length →
    ¬token <+: (before ++ after).drop position ∧
      ¬(before ++ after).drop position <+: token

/-- The text before the longest end that a token goes on from. -/
theorem clear_of_none {text : List α} (nonempty : ∀ token ∈ tokens, token ≠ [])
    (missing : firstToken text tokens = none) :
    Clear tokens (text.take (text.length - longestPartial tokens text))
      (text.drop (text.length - longestPartial tokens text)) := by
  have absent := (firstToken_eq_none_iff nonempty).mp missing
  intro token member position inside
  rw [List.take_append_drop]
  rw [List.length_take] at inside
  refine ⟨absent token member position, fun goesOn => ?_⟩
  have size := goesOn.length_le
  rw [List.length_drop] at size
  by_cases whole : token.length ≤ text.length - position
  · -- The end of the text is the whole token.
    have same := goesOn.eq_of_length (by rw [List.length_drop]; omega)
    exact absent token member position (by unfold Occurs; rw [same])
  · have longest : partialLength text token ≤ longestPartial tokens text :=
      partialLength_le_longestPartial member
    have atMost : text.length - position ≤ partialLength text token := by
      refine le_partialLength (by omega) (by omega) ?_
      rwa [Nat.sub_sub_self (by omega)]
    omega

omit [DecidableEq α] in
theorem Clear.more {before after : List α} (clear : Clear tokens before after)
    (more : List α) : Clear tokens before (after ++ more) := by
  intro token member position inside
  have apart := clear token member position inside
  rw [← List.append_assoc, List.drop_append_of_le_length
    (by rw [List.length_append]; omega)]
  refine ⟨fun occurs => ?_, fun goesOn => ?_⟩
  · rcases List.prefix_or_prefix_of_prefix occurs (List.prefix_append _ more) with
      tokenFirst | textFirst
    · exact apart.1 tokenFirst
    · exact apart.2 textFirst
  · exact apart.2 ((List.prefix_append _ _).trans goesOn)

theorem Clear.firstToken_eq {before after : List α} (clear : Clear tokens before after)
    (nonempty : ∀ token ∈ tokens, token ≠ []) :
    firstToken (before ++ after) tokens =
      (firstToken after tokens).map fun found => (before.length + found.1, found.2) :=
  firstToken_append_of_absent nonempty fun token member position inside =>
    (clear token member position inside).1

theorem Clear.longestPartial_eq {before after : List α} (clear : Clear tokens before after)
    (nonempty : ∀ token ∈ tokens, token ≠ []) :
    longestPartial tokens (before ++ after) = longestPartial tokens after := by
  have shift : ∀ size, size ≤ after.length →
      (before ++ after).drop ((before ++ after).length - size) =
        after.drop (after.length - size) := by
    intro size bound
    rw [List.length_append, Nat.add_sub_assoc bound, List.drop_append]
    simp
  refine Nat.le_antisymm (longestPartial_le fun token member => ?_)
    (longestPartial_le fun token member => ?_)
  · have goesOn := drop_partialLength_prefix (before ++ after) token
    have proper : partialLength (before ++ after) token < token.length :=
      partialLength_lt (nonempty token member)
    have bound := partialLength_le (before ++ after) token
    have inside : partialLength (before ++ after) token ≤ after.length := by
      refine Nat.le_of_not_lt fun longer => ?_
      have start : (before ++ after).length - partialLength (before ++ after) token <
          before.length := by
        rw [List.length_append] at bound ⊢
        omega
      exact (clear token member _ start).2 goesOn
    rw [shift _ inside] at goesOn
    exact (le_partialLength inside proper goesOn).trans
      (partialLength_le_longestPartial member)
  · have goesOn := drop_partialLength_prefix after token
    have inside := partialLength_le after token
    rw [← shift _ inside] at goesOn
    have atMost := le_partialLength (by rw [List.length_append]; omega)
      (partialLength_lt (nonempty token member)) goesOn
    exact atMost.trans (partialLength_le_longestPartial member)

end Partial

/-! ## Patterns that reach out of a text -/

/-- A pattern begins in the text and reads on into what stands behind it. -/
def Straddles (patterns : List (List α)) (text behind : List α) : Prop :=
  ∃ pattern ∈ patterns, ∃ position < text.length,
    pattern <+: text.drop position ++ behind ∨ text.drop position ++ behind <+: pattern

instance [DecidableEq α] (patterns : List (List α)) (text behind : List α) :
    Decidable (Straddles patterns text behind) :=
  inferInstanceAs (Decidable (∃ pattern ∈ patterns, ∃ position < text.length, _))

/-- With the right text at the end the pattern occurs there. -/
theorem straddles_iff {patterns : List (List α)} {text behind : List α} :
    Straddles patterns text behind ↔
      ∃ pattern ∈ patterns, ∃ following position, position < text.length ∧
        Occurs pattern (text ++ behind ++ following) position := by
  constructor
  · intro straddles
    rcases straddles with ⟨pattern, member, position, inside, whole | more⟩
    · refine ⟨pattern, member, [], position, inside, ?_⟩
      rw [List.append_nil, Occurs, List.drop_append_of_le_length (Nat.le_of_lt inside)]
      exact whole
    · rcases more with ⟨following, whole⟩
      refine ⟨pattern, member, following, position, inside, ?_⟩
      rw [List.append_assoc, Occurs, List.drop_append_of_le_length (Nat.le_of_lt inside),
        ← List.append_assoc, whole]
  · intro occurs
    rcases occurs with ⟨pattern, member, following, position, inside, occurs⟩
    refine ⟨pattern, member, position, inside, ?_⟩
    rw [List.append_assoc, Occurs, List.drop_append_of_le_length (Nat.le_of_lt inside),
      ← List.append_assoc] at occurs
    exact List.prefix_or_prefix_of_prefix occurs (List.prefix_append _ _)

/-- The first occurrence of any of the patterns. -/
def FirstOf (patterns : List (List α)) (source : List α) (position : Nat) : Prop :=
  (∃ pattern ∈ patterns, Occurs pattern source position) ∧
    ∀ pattern ∈ patterns, ∀ start, Occurs pattern source start → position ≤ start

theorem firstOf_iff {patterns : List (List α)} {text close : List α} (member : close ∈ patterns) :
    (∀ following, FirstOf patterns (text ++ close ++ following) text.length) ↔
      ¬ Straddles patterns text close := by
  rw [straddles_iff]
  constructor
  · intro first straddles
    rcases straddles with ⟨pattern, present, following, position, inside, occurs⟩
    have later := (first following).2 pattern present position occurs
    omega
  · intro free following
    refine ⟨⟨close, member, ?_⟩, ?_⟩
    · exact occurs_of_split
    · intro pattern present start occurs
      by_contra early
      exact free ⟨pattern, present, following, start, by omega, occurs⟩

end ExQServe.Search
