import Mathlib

/-! # Forests

A forest is given by its links: a key is absent, a root, or the child of a key.
The lineage of a key leads to its root. The second part searches a finite graph
depth first. -/

namespace ExQServe.Forest

variable {κ : Type}

/-- `none` where the key is absent, `some none` at a root. -/
abbrev Links (κ : Type) := κ → Option (Option κ)

/-- The key is present and its parent is the other. -/
def ChildOf (links : Links κ) (key parent : κ) : Prop := links key = some (some parent)

/-- The second key is the first or one of its ancestors. -/
def Under (links : Links κ) : κ → κ → Prop := Relation.ReflTransGen (ChildOf links)

/-- The keys from one up to its root, all present. -/
inductive Lineage (links : Links κ) : κ → List κ → Prop
  | root {key : κ} : links key = some none → Lineage links key [key]
  | child {key parent : κ} {line : List κ} : ChildOf links key parent →
      Lineage links parent line → Lineage links key (key :: line)

/-- Every present key leads to a root. -/
def Grounded (links : Links κ) : Prop := ∀ key, links key ≠ none → ∃ line, Lineage links key line

namespace Lineage

variable {links : Links κ} {key : κ} {line : List κ}

theorem present (lineage : Lineage links key line) : links key ≠ none := by
  cases lineage with
  | root root => rw [root]; simp
  | child child _ => rw [child]; simp

theorem head_mem (lineage : Lineage links key line) : key ∈ line := by
  cases lineage <;> exact List.mem_cons_self

theorem unique (lineage : Lineage links key line) {other : List κ}
    (second : Lineage links key other) : line = other := by
  induction lineage generalizing other with
  | root root =>
      cases second with
      | root => rfl
      | child child _ => rw [ChildOf, root] at child; cases child
  | child child _ induction =>
      cases second with
      | root root => rw [ChildOf, root] at child; cases child
      | child other above =>
          rw [ChildOf, child] at other
          rcases Option.some.inj (Option.some.inj other) with rfl
          rw [induction above]

/-- What lies above a key of a lineage is a lineage too. -/
theorem of_mem (lineage : Lineage links key line) {above : κ} (member : above ∈ line) :
    ∃ rest, Lineage links above rest ∧ rest <:+ line := by
  induction lineage with
  | root root =>
      rcases List.mem_singleton.mp member with rfl
      exact ⟨_, .root root, List.suffix_refl _⟩
  | child child parents induction =>
      rcases List.mem_cons.mp member with rfl | inside
      · exact ⟨_, .child child parents, List.suffix_refl _⟩
      · rcases induction inside with ⟨rest, lineage, suffix⟩
        exact ⟨rest, lineage, suffix.trans (List.suffix_cons _ _)⟩

theorem present_of_mem (lineage : Lineage links key line) {above : κ} (member : above ∈ line) :
    links above ≠ none := by
  rcases lineage.of_mem member with ⟨rest, above, -⟩
  exact above.present

theorem nodup (lineage : Lineage links key line) : line.Nodup := by
  induction lineage with
  | root => exact List.nodup_singleton _
  | child child parents induction =>
      refine List.nodup_cons.mpr ⟨fun inside => ?_, induction⟩
      rcases parents.of_mem inside with ⟨rest, again, suffix⟩
      have longer := congrArg List.length ((Lineage.child child parents).unique again)
      have shorter := suffix.length_le
      simp only [List.length_cons] at longer
      omega

theorem mem_iff (lineage : Lineage links key line) {above : κ} :
    above ∈ line ↔ Under links key above := by
  constructor
  · intro member
    induction lineage with
    | root =>
        rcases List.mem_singleton.mp member with rfl
        exact .refl
    | child child _ induction =>
        rcases List.mem_cons.mp member with rfl | inside
        · exact .refl
        · exact .head child (induction inside)
  · intro under
    induction under using Relation.ReflTransGen.head_induction_on generalizing line with
    | refl => exact lineage.head_mem
    | head step _ induction =>
        cases lineage with
        | root root => rw [ChildOf, root] at step; cases step
        | child child parents =>
            rw [ChildOf, child] at step
            rcases Option.some.inj (Option.some.inj step) with rfl
            exact List.mem_cons_of_mem _ (induction parents)

/-- A lineage depends on the links of its keys only. -/
theorem congr {other : Links κ} (lineage : Lineage links key line)
    (same : ∀ above ∈ line, other above = links above) : Lineage other key line := by
  induction lineage with
  | root root => exact .root ((same _ List.mem_cons_self).trans root)
  | child child _ induction =>
      refine .child ((same _ List.mem_cons_self).trans child) (induction fun above member => ?_)
      exact same above (List.mem_cons_of_mem _ member)

end Lineage

variable {links : Links κ}

theorem Grounded.parent_present (grounded : Grounded links) {key parent : κ}
    (child : ChildOf links key parent) : links parent ≠ none := by
  rcases grounded key (by rw [child]; simp) with ⟨line, lineage⟩
  cases lineage with
  | root root => rw [ChildOf, root] at child; cases child
  | child other parents =>
      rw [ChildOf, child] at other
      rcases Option.some.inj (Option.some.inj other) with rfl
      exact parents.present

theorem Grounded.present_of_under (grounded : Grounded links) {key above : κ}
    (under : Under links key above) (present : links key ≠ none) : links above ≠ none := by
  rcases grounded key present with ⟨line, lineage⟩
  exact lineage.present_of_mem (lineage.mem_iff.mpr under)

/-! ## Changes -/

/-- A set of keys that holds the children of its keys. -/
def Downward (links : Links κ) (gone : κ → Prop) : Prop :=
  ∀ key parent, ChildOf links key parent → gone parent → gone key

theorem Downward.under {gone : κ → Prop} (downward : Downward links gone) {key above : κ}
    (under : Under links key above) (inside : gone above) : gone key := by
  induction under using Relation.ReflTransGen.head_induction_on with
  | refl => exact inside
  | head step _ induction => exact downward _ _ step induction

theorem Lineage.outside {gone : κ → Prop} {key : κ} {line : List κ}
    (lineage : Lineage links key line) (downward : Downward links gone) (outside : ¬gone key) :
    ∀ above ∈ line, ¬gone above := fun _ member inside =>
  outside (downward.under (lineage.mem_iff.mp member) inside)

/-- The links `after` are those before without the keys that are gone. -/
def Without (before after : Links κ) (gone : κ → Prop) : Prop :=
  (∀ key, gone key → after key = none) ∧ ∀ key, ¬gone key → after key = before key

theorem Without.childOf {after : Links κ} {gone : κ → Prop} (without : Without links after gone)
    {key parent : κ} : ChildOf after key parent ↔ ¬gone key ∧ ChildOf links key parent := by
  by_cases inside : gone key
  · simp [ChildOf, without.1 key inside, inside]
  · simp [ChildOf, without.2 key inside, inside]

theorem Without.lineage {after : Links κ} {gone : κ → Prop} (without : Without links after gone)
    (downward : Downward links gone) {key : κ} {line : List κ} (lineage : Lineage links key line)
    (outside : ¬gone key) : Lineage after key line :=
  lineage.congr fun above member => without.2 above (lineage.outside downward outside above member)

theorem Without.grounded {after : Links κ} {gone : κ → Prop} (without : Without links after gone)
    (downward : Downward links gone) (grounded : Grounded links) : Grounded after := by
  intro key present
  have outside : ¬gone key := fun inside => present (without.1 key inside)
  rw [without.2 key outside] at present
  rcases grounded key present with ⟨line, lineage⟩
  exact ⟨line, without.lineage downward lineage outside⟩

theorem Without.under {after : Links κ} {gone : κ → Prop} (without : Without links after gone)
    {key above : κ} (under : Under after key above) : Under links key above := by
  induction under with
  | refl => exact .refl
  | tail _ step induction => exact .tail induction (without.childOf.mp step).2

/-- The links `after` are those before with one more key. -/
structure With (before after : Links κ) (key : κ) (parent : Option κ) : Prop where
  fresh : before key = none
  added : after key = some parent
  others : ∀ other, other ≠ key → after other = before other

namespace With

variable {after : Links κ} {key : κ} {parent : Option κ}

theorem lineage (extended : With links after key parent) {other : κ} {line : List κ}
    (lineage : Lineage links other line) : Lineage after other line := by
  refine lineage.congr fun above member => extended.others above ?_
  rintro rfl
  exact lineage.present_of_mem member extended.fresh

/-- The parent of the new key is present. -/
theorem grounded (extended : With links after key parent) (grounded : Grounded links)
    (present : ∀ above ∈ parent, links above ≠ none) : Grounded after := by
  intro other inside
  by_cases new : other = key
  · subst new
    cases parent with
    | none => exact ⟨_, .root extended.added⟩
    | some above =>
        rcases grounded above (present above rfl) with ⟨line, lineage⟩
        exact ⟨_, .child extended.added (extended.lineage lineage)⟩
  · rw [extended.others other new] at inside
    rcases grounded other inside with ⟨line, lineage⟩
    exact ⟨line, extended.lineage lineage⟩

end With

/-! ## Depth-first search -/

/-- Reached from the seeds through keys that may be entered. -/
inductive Reached (next : κ → List κ) (enter : κ → Bool) (seeds : List κ) : κ → Prop
  | seed {key : κ} : key ∈ seeds → enter key = true → Reached next enter seeds key
  | edge {from' key : κ} : Reached next enter seeds from' → key ∈ next from' →
      enter key = true → Reached next enter seeds key

variable [DecidableEq κ]

/-- The keys in the order the search meets them. The head of the stack is popped
first, and the last of the successors is pushed last. -/
def search (next : κ → List κ) (enter : κ → Bool) : Nat → List κ → List κ → List κ
  | 0, _, ordered => ordered
  | _ + 1, [], ordered => ordered
  | fuel + 1, current :: stack, ordered =>
      if current ∈ ordered ∨ enter current = false then search next enter fuel stack ordered
      else search next enter fuel ((next current).reverse ++ stack) (ordered ++ [current])

/-- The successors of the keys that the search has not met. -/
def unmet (next : κ → List κ) (domain ordered : List κ) : Nat :=
  ((domain.filter (· ∉ ordered)).map fun key => (next key).length).sum

theorem unmet_snoc_le (next : κ → List κ) (domain ordered : List κ) (key : κ) :
    unmet next domain (ordered ++ [key]) ≤ unmet next domain ordered := by
  induction domain with
  | nil => exact Nat.le_refl _
  | cons head domain induction =>
      simp only [unmet] at induction ⊢
      by_cases met : head ∈ ordered
      · simpa [met] using induction
      · by_cases same : head = key
        · simp only [same, List.mem_append, List.mem_singleton, or_true, not_true, decide_false,
            Bool.false_eq_true, not_false_eq_true, List.filter_cons_of_neg] at *
          simp only [met, not_false_eq_true, decide_true, List.filter_cons_of_pos, List.map_cons,
            List.sum_cons]
          omega
        · simpa [met, same] using induction

theorem unmet_snoc (next : κ → List κ) {domain ordered : List κ} {key : κ}
    (fresh : key ∉ ordered) (inside : key ∈ domain) :
    unmet next domain (ordered ++ [key]) + (next key).length ≤ unmet next domain ordered := by
  induction domain with
  | nil => cases inside
  | cons head domain induction =>
      by_cases same : head = key
      · subst same
        have rest := unmet_snoc_le next domain ordered head
        simp only [unmet] at rest ⊢
        simp only [fresh, not_false_eq_true, decide_true, List.filter_cons_of_pos, List.map_cons,
          List.sum_cons, List.mem_append, List.mem_singleton, or_true, not_true, decide_false,
          Bool.false_eq_true, List.filter_cons_of_neg]
        simp only [List.mem_append, List.mem_singleton] at rest
        omega
      · have rest := induction ((List.mem_cons.mp inside).resolve_left (Ne.symm same))
        simp only [unmet] at rest ⊢
        by_cases met : head ∈ ordered
        · simpa [met] using rest
        · simp only [List.mem_append, List.mem_singleton] at rest
          simp only [met, same, not_false_eq_true, decide_true, List.filter_cons_of_pos,
            List.map_cons, List.sum_cons, List.mem_append, List.mem_singleton, or_self]
          omega

section Search

variable {next : κ → List κ} {enter : κ → Bool}

omit [DecidableEq κ] in
theorem Reached.expand {current : κ} {stack : List κ} {key : κ} (entered : enter current = true)
    (reached : Reached next enter ((next current).reverse ++ stack) key) :
    Reached next enter (current :: stack) key := by
  induction reached with
  | seed member enter =>
      rcases List.mem_append.mp member with successor | waiting
      · exact .edge (.seed List.mem_cons_self entered) (List.mem_reverse.mp successor) enter
      · exact .seed (List.mem_cons_of_mem _ waiting) enter
  | edge _ member enter induction => exact .edge induction member enter

omit [DecidableEq κ] in
theorem Reached.weaken {fewer more : List κ} {key : κ} (reached : Reached next enter fewer key)
    (subset : fewer ⊆ more) : Reached next enter more key := by
  induction reached with
  | seed member enter => exact .seed (subset member) enter
  | edge _ member enter induction => exact .edge induction member enter

theorem search_sound (fuel : Nat) (stack ordered : List κ) {key : κ}
    (met : key ∈ search next enter fuel stack ordered) :
    key ∈ ordered ∨ Reached next enter stack key := by
  induction fuel generalizing stack ordered with
  | zero => exact .inl met
  | succ fuel induction =>
      cases stack with
      | nil => exact .inl met
      | cons current stack =>
          rw [search] at met
          split at met
          · exact (induction stack ordered met).imp_right (·.weaken (List.subset_cons_self _ _))
          · rename_i new
            have entered : enter current = true := by
              simpa using fun refused => new (.inr refused)
            rcases induction _ _ met with before | reached
            · rcases List.mem_append.mp before with old | single
              · exact .inl old
              · rcases List.mem_singleton.mp single with rfl
                exact .inr (.seed List.mem_cons_self entered)
            · exact .inr (reached.expand entered)

theorem subset_search (fuel : Nat) (stack ordered : List κ) :
    ordered ⊆ search next enter fuel stack ordered := by
  induction fuel generalizing stack ordered with
  | zero => exact List.Subset.refl _
  | succ fuel induction =>
      cases stack with
      | nil => exact List.Subset.refl _
      | cons current stack =>
          rw [search]
          split
          · exact induction stack ordered
          · exact List.Subset.trans (List.subset_append_left _ _) (induction _ _)

/-- With fuel for every successor the search empties its stack, and what it met is
closed under successors. -/
theorem search_closed (enter : κ → Bool) {domain : List κ}
    (covered : ∀ key, key ∉ domain → next key = [])
    (fuel : Nat) (stack ordered : List κ)
    (enough : stack.length + unmet next domain ordered ≤ fuel)
    (closed : ∀ key ∈ ordered, ∀ other ∈ next key, enter other = true →
      other ∈ ordered ∨ other ∈ stack) :
    (∀ key ∈ stack, enter key = true → key ∈ search next enter fuel stack ordered) ∧
      ∀ key ∈ search next enter fuel stack ordered, ∀ other ∈ next key, enter other = true →
        other ∈ search next enter fuel stack ordered := by
  induction fuel generalizing stack ordered with
  | zero =>
      rcases List.length_eq_zero_iff.mp (by omega : stack.length = 0) with rfl
      refine ⟨fun _ member => (List.not_mem_nil member).elim, fun key met other successor entered =>
        ?_⟩
      exact (closed key met other successor entered).resolve_right List.not_mem_nil
  | succ fuel induction =>
      cases stack with
      | nil =>
          refine ⟨fun _ member => (List.not_mem_nil member).elim,
            fun key met other successor entered => ?_⟩
          exact (closed key met other successor entered).resolve_right List.not_mem_nil
      | cons current stack =>
          rw [search]
          simp only [List.length_cons] at enough
          split
          · rename_i skip
            have popped := induction stack ordered (by omega) fun key met other successor entered =>
              (closed key met other successor entered).elim .inl fun waiting => by
                rcases List.mem_cons.mp waiting with rfl | waiting
                · refine .inl (skip.resolve_right ?_)
                  rw [entered]
                  exact Bool.true_eq_false.mp
                · exact .inr waiting
            refine ⟨fun key member entered => ?_, popped.2⟩
            rcases List.mem_cons.mp member with rfl | waiting
            · refine subset_search _ _ _ (skip.resolve_right ?_)
              rw [entered]
              exact Bool.true_eq_false.mp
            · exact popped.1 key waiting entered
          · rename_i new
            have fresh : current ∉ ordered := fun old => new (.inl old)
            have smaller : ((next current).reverse ++ stack).length +
                unmet next domain (ordered ++ [current]) ≤ fuel := by
              simp only [List.length_append, List.length_reverse]
              by_cases inside : current ∈ domain
              · have step := unmet_snoc next fresh inside
                omega
              · have step := unmet_snoc_le next domain ordered current
                rw [covered current inside, List.length_nil]
                omega
            have pushed := induction _ _ smaller fun key met other successor entered => by
              rcases List.mem_append.mp met with old | single
              · rcases closed key old other successor entered with before | waiting
                · exact .inl (List.mem_append_left _ before)
                · rcases List.mem_cons.mp waiting with rfl | waiting
                  · exact .inl (List.mem_append_right _ (List.mem_singleton_self _))
                  · exact .inr (List.mem_append_right _ waiting)
              · rcases List.mem_singleton.mp single with rfl
                exact .inr (List.mem_append_left _ (List.mem_reverse.mpr successor))
            refine ⟨fun key member entered => ?_, pushed.2⟩
            rcases List.mem_cons.mp member with rfl | waiting
            · exact subset_search _ _ _ (List.mem_append_right _ (List.mem_singleton_self _))
            · exact pushed.1 key (List.mem_append_right _ waiting) entered

/-- The search meets what can be reached. -/
theorem mem_search {domain : List κ} (covered : ∀ key, key ∉ domain → next key = [])
    {fuel : Nat} {seeds : List κ} (enough : seeds.length + unmet next domain [] ≤ fuel) {key : κ} :
    key ∈ search next enter fuel seeds [] ↔ Reached next enter seeds key := by
  constructor
  · exact fun met => (search_sound fuel seeds [] met).resolve_left List.not_mem_nil
  · intro reached
    have ended := search_closed enter covered fuel seeds [] enough
      (fun _ member => (List.not_mem_nil member).elim)
    induction reached with
    | seed member entered => exact ended.1 _ member entered
    | edge _ successor entered induction => exact ended.2 _ induction _ successor entered

end Search

end ExQServe.Forest
