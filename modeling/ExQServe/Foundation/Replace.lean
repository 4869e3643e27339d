import ExQServe.Foundation.Search

/-! # Replacing all occurrences

The replacement of a pattern throughout a text, from left to right and without overlaps,
and the places where the search for the next occurrence stands. -/

namespace ExQServe.Search

variable {α : Type u}

/-- The search for `old` in a text comes to stand before this rest of it. -/
inductive Stands (old : List α) : List α → List α → Prop
  | here (text : List α) : Stands old text text
  | hit {rest place : List α} (later : Stands old rest place) : Stands old (old ++ rest) place
  | miss {head : α} {rest place : List α} (absent : ¬old <+: head :: rest)
      (later : Stands old rest place) : Stands old (head :: rest) place

theorem Stands.of_append {old rest place : List α} (stands : Stands old (old ++ rest) place) :
    place = old ++ rest ∨ Stands old rest place := by
  generalize whole : old ++ rest = text at stands
  cases stands with
  | here => exact .inl rfl
  | hit later =>
      rw [List.append_cancel_left whole]
      exact .inr later
  | miss absent later => exact absurd ⟨rest, whole⟩ absent

theorem Stands.of_cons {old rest place : List α} {head : α} (absent : ¬old <+: head :: rest)
    (stands : Stands old (head :: rest) place) : place = head :: rest ∨ Stands old rest place := by
  generalize whole : head :: rest = text at stands
  cases stands with
  | here => exact .inl rfl
  | hit later =>
      rw [whole] at absent
      exact absurd (List.prefix_append _ _) absent
  | miss _ later =>
      rw [(List.cons.inj whole).2]
      exact .inr later

variable [DecidableEq α]

/-- The first `skip` characters belong to an occurrence that is replaced already. -/
def replaceFrom (old new : List α) : Nat → List α → List α
  | _, [] => []
  | skip + 1, _ :: rest => replaceFrom old new skip rest
  | 0, head :: rest =>
      if old <+: head :: rest then new ++ replaceFrom old new (old.length - 1) rest
      else head :: replaceFrom old new 0 rest

/-- `text.replace(old, new)` for a nonempty `old`. -/
def replaceAll (old new text : List α) : List α := replaceFrom old new 0 text

variable {old new rest text : List α} {head : α}

theorem replaceFrom_drop (skip : Nat) :
    replaceFrom old new skip text = replaceAll old new (text.drop skip) := by
  induction text generalizing skip with
  | nil =>
      rw [List.drop_nil, replaceAll, replaceFrom, replaceFrom]
  | cons head rest induction =>
      cases skip with
      | zero => rfl
      | succ skip =>
          rw [replaceFrom, List.drop_succ_cons]
          exact induction skip

@[simp] theorem replaceAll_nil : replaceAll old new [] = [] := by
  rw [replaceAll, replaceFrom]

theorem replaceAll_append (nonempty : old ≠ []) :
    replaceAll old new (old ++ rest) = new ++ replaceAll old new rest := by
  cases old with
  | nil => exact absurd rfl nonempty
  | cons first others =>
      have isPrefix : first :: others <+: first :: (others ++ rest) := List.prefix_append _ _
      rw [replaceAll, List.cons_append, replaceFrom, if_pos isPrefix, replaceFrom_drop,
        List.length_cons, Nat.add_sub_cancel, List.drop_left]

theorem replaceAll_cons (absent : ¬old <+: head :: rest) :
    replaceAll old new (head :: rest) = head :: replaceAll old new rest := by
  rw [replaceAll, replaceFrom, if_neg absent, replaceAll]

/-- A block in which no occurrence begins stays. -/
theorem replaceAll_block {block : List α}
    (absent : ∀ before after, block = before ++ after → after ≠ [] → ¬old <+: after ++ rest) :
    replaceAll old new (block ++ rest) = block ++ replaceAll old new rest := by
  induction block with
  | nil => rfl
  | cons head block induction =>
      have here : ¬old <+: head :: (block ++ rest) := absent [] _ rfl (List.cons_ne_nil _ _)
      rw [List.cons_append, replaceAll_cons here, induction]
      · rfl
      · intro before after split
        exact absent (head :: before) after (by rw [split, List.cons_append])

/-- Either no occurrence begins in the block, or the first that does is replaced. -/
theorem replaceAll_block_cases (nonempty : old ≠ []) (new block rest : List α) :
    (∀ before after, block = before ++ after → after ≠ [] → ¬old <+: after ++ rest) ∨
      ∃ before after more, block = before ++ after ∧ after ≠ [] ∧ old <+: after ++ rest ∧
        replaceAll old new (block ++ rest) = before ++ (new ++ more) := by
  induction block with
  | nil =>
      left
      intro before after split
      have none := (List.append_eq_nil_iff.mp split.symm).2
      exact fun some => absurd none some
  | cons head block induction =>
      by_cases here : old <+: head :: (block ++ rest)
      · right
        rcases here with ⟨more, split⟩
        refine ⟨[], head :: block, replaceAll old new more, rfl, List.cons_ne_nil _ _,
          ⟨more, split⟩, ?_⟩
        rw [List.cons_append, ← split, replaceAll_append nonempty, List.nil_append]
      · rcases induction with absent | ⟨before, after, more, split, some, found, result⟩
        · left
          intro before after split
          cases before with
          | nil =>
              rw [List.nil_append] at split
              rw [← split]
              exact fun _ => here
          | cons first before =>
              rw [List.cons_append, List.cons.injEq] at split
              exact absent before after split.2
        · right
          refine ⟨head :: before, after, more, ?_, some, found, ?_⟩
          · rw [split, List.cons_append]
          · rw [List.cons_append, replaceAll_cons here, result, List.cons_append]

end ExQServe.Search
