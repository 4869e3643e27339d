import Mathlib

/-! # Items that fit

Items are taken one after the other, each if it fits into the space that the earlier ones
left. An item without a size is not taken. -/

namespace ExQServe.Fitting

variable {α : Type} (size : α → Option Nat)

def total (items : List α) : Nat := (items.map fun item => (size item).getD 0).sum

def fitting : Nat → List α → List α
  | _, [] => []
  | space, item :: items =>
      match size item with
      | none => fitting space items
      | some bytes =>
          if bytes ≤ space then item :: fitting (space - bytes) items else fitting space items

variable {size} {space : Nat} {item : α} {items : List α}

@[simp] theorem total_nil : total size [] = 0 := rfl

theorem total_cons (item : α) (items : List α) :
    total size (item :: items) = (size item).getD 0 + total size items := by
  rw [total, List.map_cons, List.sum_cons, total]

theorem total_reverse (items : List α) : total size items.reverse = total size items := by
  rw [total, List.map_reverse, List.sum_reverse, total]

theorem fitting_unsized (unsized : size item = none) :
    fitting size space (item :: items) = fitting size space items := by
  rw [fitting, unsized]

theorem fitting_fits {bytes : Nat} (sized : size item = some bytes) (fits : bytes ≤ space) :
    fitting size space (item :: items) = item :: fitting size (space - bytes) items := by
  rw [fitting, sized]
  dsimp only
  rw [if_pos fits]

theorem fitting_skips {bytes : Nat} (sized : size item = some bytes) (large : space < bytes) :
    fitting size space (item :: items) = fitting size space items := by
  rw [fitting, sized]
  dsimp only
  rw [if_neg (Nat.not_le_of_lt large)]

/-- What is taken first, and the rest of the items. -/
theorem fitting_cases (size : α → Option Nat) (space : Nat) (item : α) (items : List α) :
    (∃ bytes, size item = some bytes ∧ bytes ≤ space ∧
        fitting size space (item :: items) = item :: fitting size (space - bytes) items) ∨
      fitting size space (item :: items) = fitting size space items ∧
        ∀ bytes, size item = some bytes → space < bytes := by
  cases sized : size item with
  | none =>
      right
      refine ⟨fitting_unsized sized, ?_⟩
      intro bytes impossible
      cases impossible
  | some bytes =>
      by_cases fits : bytes ≤ space
      · exact .inl ⟨bytes, rfl, fits, fitting_fits sized fits⟩
      · right
        refine ⟨fitting_skips sized (Nat.lt_of_not_le fits), ?_⟩
        intro other same
        cases same
        exact Nat.lt_of_not_le fits

theorem fitting_sublist (space : Nat) (items : List α) :
    (fitting size space items).Sublist items := by
  induction items generalizing space with
  | nil => exact List.Sublist.slnil
  | cons item items induction =>
      rcases fitting_cases size space item items with ⟨bytes, -, -, equal⟩ | ⟨equal, -⟩
      · rw [equal]
        exact (induction (space - bytes)).cons_cons item
      · rw [equal]
        exact (induction space).cons item

theorem fitting_sized {space : Nat} {items : List α} :
    ∀ item ∈ fitting size space items, ∃ bytes, size item = some bytes := by
  induction items generalizing space with
  | nil =>
      intro item inside
      cases inside
  | cons first items induction =>
      intro item inside
      rcases fitting_cases size space first items with ⟨bytes, sized, -, equal⟩ | ⟨equal, -⟩
      · rw [equal] at inside
        rcases List.mem_cons.mp inside with here | later
        · rw [here]
          exact ⟨bytes, sized⟩
        · exact induction item later
      · rw [equal] at inside
        exact induction item inside

/-- What is taken fits. -/
theorem total_fitting_le (space : Nat) (items : List α) :
    total size (fitting size space items) ≤ space := by
  induction items generalizing space with
  | nil => exact Nat.zero_le _
  | cons item items induction =>
      rcases fitting_cases size space item items with ⟨bytes, sized, fits, equal⟩ | ⟨equal, -⟩
      · have rest := induction (space - bytes)
        rw [equal, total_cons, sized, Option.getD_some]
        omega
      · rw [equal]
        exact induction space

theorem fitting_append (space : Nat) (front back : List α) :
    fitting size space (front ++ back) =
      fitting size space front ++
        fitting size (space - total size (fitting size space front)) back := by
  induction front generalizing space with
  | nil => rfl
  | cons item front induction =>
      rw [List.cons_append]
      rcases fitting_cases size space item front with ⟨bytes, sized, fits, equal⟩ | ⟨equal, large⟩
      · rw [fitting_fits sized fits, induction, equal, total_cons, sized, Option.getD_some,
          Nat.sub_sub]
        rfl
      · rcases fitting_cases size space item (front ++ back) with
          ⟨bytes, sized, fits, -⟩ | ⟨equal', -⟩
        · exact absurd fits (Nat.not_le_of_lt (large bytes sized))
        · rw [equal', induction, equal]

/-- Everything is taken that fits as a whole. -/
theorem fitting_of_total_le (sized : ∀ item ∈ items, ∃ bytes, size item = some bytes)
    (fits : total size items ≤ space) : fitting size space items = items := by
  induction items generalizing space with
  | nil => rfl
  | cons item items induction =>
      rcases sized item List.mem_cons_self with ⟨bytes, known⟩
      rw [total_cons, known, Option.getD_some] at fits
      rw [fitting_fits known (by omega), induction]
      · exact fun other inside => sized other (List.mem_cons_of_mem _ inside)
      · omega

theorem fitting_of_unsized (unsized : ∀ item ∈ items, size item = none) :
    fitting size space items = [] := by
  induction items with
  | nil => rfl
  | cons item items induction =>
      rw [fitting_unsized (unsized item List.mem_cons_self)]
      exact induction fun other inside => unsized other (List.mem_cons_of_mem _ inside)

/-- A prefix that fits as a whole is taken as a whole. -/
theorem prefix_fitting {front back : List α}
    (sized : ∀ item ∈ front, ∃ bytes, size item = some bytes) (fits : total size front ≤ space) :
    front <+: fitting size space (front ++ back) := by
  rw [fitting_append, fitting_of_total_le sized fits]
  exact List.prefix_append _ _

/-- What is not taken did not fit into the space that the earlier items left. -/
theorem large_of_not_mem_fitting {front back : List α} {bytes : Nat}
    (sized : size item = some bytes)
    (missing : item ∉ fitting size space (front ++ item :: back)) :
    space - total size (fitting size space front) < bytes := by
  rw [fitting_append] at missing
  rcases fitting_cases size (space - total size (fitting size space front)) item back with
    ⟨_, _, _, equal⟩ | ⟨-, large⟩
  · rw [equal] at missing
    exact absurd (List.mem_append_right _ List.mem_cons_self) missing
  · exact large bytes sized

end ExQServe.Fitting
