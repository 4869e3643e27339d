import Mathlib

/-! # Leasing

A fixed stock of items is lent out, one item to a holder, and taken back. Every item is
at any time free once, or with exactly one holder. -/

namespace ExQServe

variable {κ ι : Type}

structure Leased (stock free : List κ) (held : ι → Option κ) : Prop where
  nodup : free.Nodup
  known : ∀ item ∈ free, item ∈ stock
  lent : ∀ holder item, held holder = some item → item ∈ stock ∧ item ∉ free
  single : ∀ first second item,
    held first = some item → held second = some item → first = second
  kept : ∀ item ∈ stock, item ∈ free ∨ ∃ holder, held holder = some item

namespace Leased

variable {stock free : List κ} {held : ι → Option κ}

theorem initial (nodup : stock.Nodup) (idle : ∀ holder, held holder = none) :
    Leased stock stock held where
  nodup := nodup
  known _ member := member
  lent holder item holds := by rw [idle] at holds; cases holds
  single first _ item holds := by rw [idle] at holds; cases holds
  kept _ member := .inl member

theorem congr {other : ι → Option κ} (leased : Leased stock free held)
    (same : ∀ holder, other holder = held holder) : Leased stock free other :=
  funext same ▸ leased

section Count

variable [DecidableEq κ]

theorem once (leased : Leased stock free held) {item : κ} (member : item ∈ stock) :
    (free.count item = 1 ∧ ∀ holder, held holder ≠ some item) ∨
      (free.count item = 0 ∧ ∃! holder, held holder = some item) := by
  cases leased.kept item member with
  | inl present =>
      left
      constructor
      · exact List.count_eq_one_of_mem leased.nodup present
      · intro holder holds
        exact (leased.lent holder item holds).2 present
  | inr holds =>
      rcases holds with ⟨holder, holds⟩
      right
      constructor
      · exact List.count_eq_zero_of_not_mem (leased.lent holder item holds).2
      · exact ⟨holder, holds, fun other also => leased.single other holder item also holds⟩

end Count

/-- With no holder left, the whole stock is free. -/
theorem returned (leased : Leased stock free held) (nodup : stock.Nodup)
    (idle : ∀ holder, held holder = none) : free.Perm stock := by
  apply (List.perm_ext_iff_of_nodup leased.nodup nodup).mpr
  intro item
  constructor
  · exact leased.known item
  · intro member
    rcases leased.kept item member with present | ⟨holder, holds⟩
    · exact present
    · rw [idle holder] at holds
      cases holds

variable [DecidableEq ι]

/-- An idle holder takes the first free item. -/
theorem take {holder : ι} {item : κ} {rest : List κ} (leased : Leased stock (item :: rest) held)
    (idle : held holder = none) :
    Leased stock rest (Function.update held holder (some item)) where
  nodup := (List.nodup_cons.mp leased.nodup).2
  known other member := leased.known other (List.mem_cons_of_mem item member)
  lent := by
    intro other lent holds
    by_cases same : other = holder
    · rw [same, Function.update_self] at holds
      cases holds
      exact ⟨leased.known item List.mem_cons_self, (List.nodup_cons.mp leased.nodup).1⟩
    · rw [Function.update_of_ne same] at holds
      have parts := leased.lent other lent holds
      exact ⟨parts.1, fun member => parts.2 (List.mem_cons_of_mem item member)⟩
  single := by
    -- Nobody else can have the item, since it was free.
    have fresh {other : ι} : held other ≠ some item := fun holds =>
      (leased.lent other item holds).2 List.mem_cons_self
    intro first second lent left right
    by_cases one : first = holder <;> by_cases two : second = holder
    · rw [one, two]
    · rw [one, Function.update_self] at left
      rw [Function.update_of_ne two, ← left] at right
      exact absurd right fresh
    · rw [two, Function.update_self] at right
      rw [Function.update_of_ne one, ← right] at left
      exact absurd left fresh
    · rw [Function.update_of_ne one] at left
      rw [Function.update_of_ne two] at right
      exact leased.single first second lent left right
  kept := by
    intro other member
    rcases leased.kept other member with present | ⟨owner, holds⟩
    · rcases List.mem_cons.mp present with same | present
      · exact .inr ⟨holder, by rw [same, Function.update_self]⟩
      · exact .inl present
    · have apart : owner ≠ holder := by
        intro same
        rw [same, idle] at holds
        cases holds
      exact .inr ⟨owner, by rw [Function.update_of_ne apart, holds]⟩

/-- A holder gives its item back. -/
theorem give {holder : ι} {item : κ} (leased : Leased stock free held)
    (holds : held holder = some item) :
    Leased stock (free ++ [item]) (Function.update held holder none) where
  nodup := by
    apply List.nodup_append.mpr
    refine ⟨leased.nodup, List.nodup_singleton item, ?_⟩
    intro other present last member same
    rw [same, List.mem_singleton.mp member] at present
    exact (leased.lent holder item holds).2 present
  known := by
    intro other member
    rcases List.mem_append.mp member with present | last
    · exact leased.known other present
    · rw [List.mem_singleton.mp last]
      exact (leased.lent holder item holds).1
  lent := by
    intro other lent also
    by_cases same : other = holder
    · rw [same, Function.update_self] at also
      cases also
    · rw [Function.update_of_ne same] at also
      refine ⟨(leased.lent other lent also).1, ?_⟩
      intro member
      rcases List.mem_append.mp member with present | last
      · exact (leased.lent other lent also).2 present
      · rw [List.mem_singleton.mp last] at also
        exact same (leased.single other holder item also holds)
  single := by
    intro first second lent left right
    by_cases one : first = holder
    · rw [one, Function.update_self] at left
      cases left
    by_cases two : second = holder
    · rw [two, Function.update_self] at right
      cases right
    rw [Function.update_of_ne one] at left
    rw [Function.update_of_ne two] at right
    exact leased.single first second lent left right
  kept := by
    intro other member
    rcases leased.kept other member with present | ⟨owner, also⟩
    · exact .inl (List.mem_append_left _ present)
    by_cases same : owner = holder
    · rw [same, holds] at also
      cases also
      exact .inl (List.mem_append_right _ List.mem_cons_self)
    · exact .inr ⟨owner, by rw [Function.update_of_ne same, also]⟩

end Leased
end ExQServe
