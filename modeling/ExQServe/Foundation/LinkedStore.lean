import ExQServe.Foundation.Dict
import ExQServe.Foundation.Forest

/-! # Stores of linked records

Records that may name a parent, kept in the order of their use with an index of
children, pins and the sum of their sizes. What removes records keeps this a
forest, whatever the order in which a subtree is taken apart. -/

namespace ExQServe

open Forest

/-- What a store reads of its records: the parent one names, its size, and when it
expires, which alone may be changed. -/
structure Linkage (κ ν τ : Type) where
  parent : ν → Option κ
  bytes : ν → Nat
  expiresAt : ν → τ
  renew : τ → ν → ν
  parent_renew : ∀ expiry value, parent (renew expiry value) = parent value
  bytes_renew : ∀ expiry value, bytes (renew expiry value) = bytes value

structure LinkedStore (κ ν : Type) where
  records : Dict κ ν
  children : Dict κ (List κ)
  pins : Dict κ Nat
  estimatedBytes : Int
deriving DecidableEq

/-- Why the walk to a root stopped early. -/
inductive ClimbStop
  | cycle
  | missing
  | refused
deriving DecidableEq, Repr

namespace LinkedStore

variable {κ ν τ : Type}

def empty : LinkedStore κ ν := ⟨Dict.empty, Dict.empty, Dict.empty, 0⟩

variable [DecidableEq κ] (linkage : Linkage κ ν τ)

/-! ## Operations -/

/-- A child leaves the index; an empty set of children leaves it too. -/
def discardChild (children : Dict κ (List κ)) (parent child : κ) : Dict κ (List κ) :=
  match children.get? parent with
  | none => children
  | some siblings =>
      let rest := siblings.filter (· ≠ child)
      if rest = [] then children.erase parent else children.set parent rest

/-- `children.setdefault(parent, set()).add(child)`. -/
def addChild (children : Dict κ (List κ)) (parent child : κ) : Dict κ (List κ) :=
  let siblings := (children.get? parent).getD []
  if child ∈ siblings then children else children.set parent (siblings ++ [child])

def removeOne (store : LinkedStore κ ν) (key : κ) : LinkedStore κ ν :=
  match store.records.get? key with
  | none => { store with pins := store.pins.erase key, children := store.children.erase key }
  | some value =>
      { records := store.records.erase key
        pins := store.pins.erase key
        estimatedBytes := store.estimatedBytes - linkage.bytes value
        children :=
          (match linkage.parent value with
          | none => store.children
          | some parent => discardChild store.children parent key).erase key }

/-- `children.get(key, ())`. -/
def kids (store : LinkedStore κ ν) (key : κ) : List κ := (store.children.get? key).getD []

/-- The keys below a key that may be entered, found depth first. The fuel counts
every entry of the index once. -/
def subtree (store : LinkedStore κ ν) (enter : κ → Bool) (key : κ) : List κ :=
  search store.kids enter (1 + unmet store.kids store.children.keys []) [key] []

def removeAll (store : LinkedStore κ ν) (keys : List κ) : LinkedStore κ ν :=
  keys.foldl (removeOne linkage) store

/-- A new expiry, and the last place in the order of use. -/
def touch (expiry : τ) (store : LinkedStore κ ν) (key : κ) : LinkedStore κ ν :=
  { store with records := (store.records.mapAt key (linkage.renew expiry)).moveToEnd key }

/-- A record at the end, under its parent in the index. -/
def place (store : LinkedStore κ ν) (key : κ) (value : ν) : LinkedStore κ ν :=
  { store with
    records := (store.records.set key value).moveToEnd key
    estimatedBytes := store.estimatedBytes + linkage.bytes value
    children :=
      match linkage.parent value with
      | none => store.children
      | some parent => addChild store.children parent key }

/-- A record leaves, and its children stay in the index. -/
def displace (store : LinkedStore κ ν) (key : κ) : LinkedStore κ ν :=
  match store.records.get? key with
  | none => store
  | some value =>
      { store with
        records := store.records.erase key
        estimatedBytes := store.estimatedBytes - linkage.bytes value
        children :=
          match linkage.parent value with
          | none => store.children
          | some parent => discardChild store.children parent key }

/-- `pins.get(key, 0)`. -/
def pinCount (store : LinkedStore κ ν) (key : κ) : Nat := (store.pins.get? key).getD 0

/-- One more pin on every key, each touched. -/
def pinAll (expiry : τ) (store : LinkedStore κ ν) (keys : List κ) : LinkedStore κ ν :=
  keys.foldl (fun store key =>
    touch linkage expiry
      { store with pins := store.pins.set key (store.pinCount key + 1) } key) store

def unpinOne (store : LinkedStore κ ν) (key : κ) : LinkedStore κ ν :=
  if store.pinCount key ≤ 1 then { store with pins := store.pins.erase key }
  else { store with pins := store.pins.set key (store.pinCount key - 1) }

/-- One pin fewer on every key. -/
def unpinAll (store : LinkedStore κ ν) (keys : List κ) : LinkedStore κ ν :=
  keys.foldl unpinOne store

/-- The records from a key up to its root. -/
def climb (store : LinkedStore κ ν) (accept : ν → Bool) :
    Nat → List κ → κ → Except ClimbStop (List (κ × ν))
  | 0, _, _ => .error .cycle
  | fuel + 1, seen, current =>
      if current ∈ seen then .error .cycle
      else
        match store.records.get? current with
        | none => .error .missing
        | some value =>
            if accept value then
              match linkage.parent value with
              | none => .ok [(current, value)]
              | some parent =>
                  (climb store accept fuel (seen ++ [current]) parent).map ((current, value) :: ·)
            else .error .refused

/-! ## Invariants -/

def links (store : LinkedStore κ ν) : Links κ := fun key =>
  (store.records.get? key).map linkage.parent

/-- The index is the inverse of the parents, without empty entries. -/
structure Indexed (store : LinkedStore κ ν) : Prop where
  inverse : ∀ key child, child ∈ store.kids key ↔ ChildOf (links linkage store) child key
  noEmpty : ∀ key, store.children.get? key ≠ some []

structure Coherent (store : LinkedStore κ ν) : Prop where
  indexed : Indexed linkage store
  grounded : Grounded (links linkage store)
  bytes : store.estimatedBytes = store.records.total fun value => linkage.bytes value
  pinned : ∀ key, store.pins.get? key ≠ none → store.records.get? key ≠ none

theorem links_eq_none {store : LinkedStore κ ν} {key : κ} :
    links linkage store key = none ↔ store.records.get? key = none := Option.map_eq_none_iff

theorem coherent_empty : Coherent linkage (empty : LinkedStore κ ν) where
  indexed :=
    { inverse := fun _ _ =>
        ⟨fun member => (List.not_mem_nil member).elim, fun child => by cases child⟩
      noEmpty := fun _ => by simp [empty] }
  grounded := fun _ present => (present rfl).elim
  bytes := rfl
  pinned := fun _ present => (present rfl).elim

/-! ## The index -/

omit [DecidableEq κ] in
theorem keep_get?_ne_empty [DecidableEq κ] {children : Dict κ (List κ)} {wanted : κ → Bool}
    (noEmpty : ∀ key, children.get? key ≠ some []) (key : κ) :
    (children.keep wanted).get? key ≠ some [] := by
  rw [Dict.get?_keep]
  split
  · exact noEmpty key
  · simp

theorem getD_discardChild (children : Dict κ (List κ)) (parent child key : κ) :
    ((discardChild children parent child).get? key).getD [] =
      if key = parent then ((children.get? key).getD []).filter (· ≠ child)
      else (children.get? key).getD [] := by
  cases found : children.get? parent with
  | none =>
      simp only [discardChild, found]
      split
      · rename_i same
        simp [same, found]
      · rfl
  | some siblings =>
      simp only [discardChild, found]
      by_cases same : key = parent
      · subst same
        rw [if_pos rfl, found, Option.getD_some]
        split
        · rename_i none
          rw [Dict.get?_erase, if_pos rfl, none, Option.getD_none]
        · rw [Dict.get?_set, if_pos rfl, Option.getD_some]
      · split <;> simp [Dict.get?_erase, same]

theorem discardChild_ne_empty {children : Dict κ (List κ)} (parent child : κ)
    (noEmpty : ∀ key, children.get? key ≠ some []) (key : κ) :
    (discardChild children parent child).get? key ≠ some [] := by
  cases found : children.get? parent with
  | none => simpa only [discardChild, found] using noEmpty key
  | some siblings =>
      simp only [discardChild, found]
      split
      · exact keep_get?_ne_empty noEmpty key
      · rename_i left
        rw [Dict.get?_set]
        split
        · simpa using left
        · exact noEmpty key

theorem getD_addChild (children : Dict κ (List κ)) (parent child key other : κ) :
    other ∈ ((addChild children parent child).get? key).getD [] ↔
      other ∈ (children.get? key).getD [] ∨ key = parent ∧ other = child := by
  rw [addChild]
  by_cases inside : child ∈ (children.get? parent).getD []
  · rw [if_pos inside]
    constructor
    · exact .inl
    · rintro (before | ⟨rfl, rfl⟩)
      · exact before
      · exact inside
  · rw [if_neg inside, Dict.get?_set]
    by_cases same : key = parent
    · simp [same]
    · simp [same]

theorem addChild_ne_empty {children : Dict κ (List κ)} (parent child : κ)
    (noEmpty : ∀ key, children.get? key ≠ some []) (key : κ) :
    (addChild children parent child).get? key ≠ some [] := by
  rw [addChild]
  split
  · exact noEmpty key
  · rw [Dict.get?_set]
    split
    · simp
    · exact noEmpty key

theorem kids_eq_nil {store : LinkedStore κ ν} {key : κ} (absent : key ∉ store.children.keys) :
    store.kids key = [] := by
  rw [kids, Dict.get?_eq_none.mpr absent, Option.getD_none]

/-! ## Removal -/

variable {linkage}

theorem removeOne_records (store : LinkedStore κ ν) (key : κ) :
    (store.removeOne linkage key).records = store.records.erase key := by
  cases found : store.records.get? key with
  | none =>
      simp only [removeOne, found]
      refine (Dict.keep_eq_self fun other inside => ?_).symm
      have different : other ≠ key := by
        rintro rfl
        exact Dict.get?_eq_none.mp found inside
      simpa using different
  | some value => simp only [removeOne, found]

theorem removeOne_pins (store : LinkedStore κ ν) (key : κ) :
    (store.removeOne linkage key).pins = store.pins.erase key := by
  cases found : store.records.get? key <;> simp only [removeOne, found]

theorem removeOne_bytes (store : LinkedStore κ ν) (key : κ) :
    (store.removeOne linkage key).estimatedBytes =
      store.estimatedBytes - store.records.weightAt (fun value => linkage.bytes value) key := by
  cases found : store.records.get? key <;> simp [removeOne, found, Dict.weightAt]

theorem removeOne_kids (store : LinkedStore κ ν) (key parent : κ) :
    (store.removeOne linkage key).kids parent =
      if parent = key then []
      else if links linkage store key = some (some parent) then
        (store.kids parent).filter (· ≠ key)
      else store.kids parent := by
  cases found : store.records.get? key with
  | none =>
      simp only [kids, removeOne, found, links, Option.map_none, reduceCtorEq, if_false]
      rw [Dict.get?_erase]
      split <;> rfl
  | some value =>
      simp only [kids, removeOne, found, links, Option.map_some, Option.some.injEq]
      rw [Dict.get?_erase]
      split
      · rfl
      · cases named : linkage.parent value with
        | none => simp
        | some above =>
            simp only [Option.some.injEq]
            rw [getD_discardChild]
            exact if_congr eq_comm rfl rfl

theorem removeOne_ne_empty {store : LinkedStore κ ν}
    (noEmpty : ∀ key, store.children.get? key ≠ some []) (key other : κ) :
    (store.removeOne linkage key).children.get? other ≠ some [] := by
  cases found : store.records.get? key with
  | none =>
      simp only [removeOne, found]
      exact keep_get?_ne_empty noEmpty other
  | some value =>
      simp only [removeOne, found]
      refine keep_get?_ne_empty (fun key => ?_) other
      split
      · exact noEmpty key
      · exact discardChild_ne_empty _ _ noEmpty key

variable (linkage)

/-- `after` is `before` without the records of these keys and with the index
trimmed to match. -/
structure Removed (before after : LinkedStore κ ν) (keys : List κ) : Prop where
  records : after.records = before.records.keep (· ∉ keys)
  pins : after.pins = before.pins.keep (· ∉ keys)
  kids : ∀ key, after.kids key =
    if key ∈ keys then [] else (before.kids key).filter (· ∉ keys)
  noEmpty : ∀ key, after.children.get? key ≠ some []
  bytes : after.estimatedBytes - after.records.total (fun value => linkage.bytes value) =
    before.estimatedBytes - before.records.total fun value => linkage.bytes value

namespace Removed

variable {linkage} {before after : LinkedStore κ ν} {keys : List κ}

theorem congr (removed : Removed linkage before after keys) {others : List κ}
    (same : ∀ key, key ∈ keys ↔ key ∈ others) : Removed linkage before after others where
  records := by simpa only [same] using removed.records
  pins := by simpa only [same] using removed.pins
  kids := by simpa only [same] using removed.kids
  noEmpty := removed.noEmpty
  bytes := removed.bytes

theorem get? (removed : Removed linkage before after keys) (key : κ) :
    after.records.get? key = if key ∈ keys then none else before.records.get? key := by
  rw [removed.records, Dict.get?_keep]
  by_cases gone : key ∈ keys <;> simp [gone]

theorem pins_get? (removed : Removed linkage before after keys) (key : κ) :
    after.pins.get? key = if key ∈ keys then none else before.pins.get? key := by
  rw [removed.pins, Dict.get?_keep]
  by_cases gone : key ∈ keys <;> simp [gone]

theorem without (removed : Removed linkage before after keys) :
    Without (links linkage before) (links linkage after) (· ∈ keys) := by
  constructor
  · intro key gone
    rw [links, removed.get?, if_pos gone, Option.map_none]
  · intro key kept
    rw [links, removed.get?, if_neg kept, links]

theorem refl (noEmpty : ∀ key, before.children.get? key ≠ some []) :
    Removed linkage before before [] where
  records := (Dict.keep_eq_self fun _ _ => by simp).symm
  pins := (Dict.keep_eq_self fun _ _ => by simp).symm
  kids := fun _ => by simp
  noEmpty := noEmpty
  bytes := rfl

/-- Taking one record out, wherever it stands among the others. -/
theorem removeOne (indexed : Indexed linkage before) (removed : Removed linkage before after keys)
    (key : κ) : Removed linkage before (after.removeOne linkage key) (key :: keys) where
  records := by
    rw [removeOne_records, removed.records, Dict.erase, Dict.keep_keep]
    refine Dict.keep_congr fun other _ => ?_
    simp [Bool.and_comm]
  pins := by
    rw [removeOne_pins, removed.pins, Dict.erase, Dict.keep_keep]
    refine Dict.keep_congr fun other _ => ?_
    simp [Bool.and_comm]
  kids := by
    intro parent
    rw [removeOne_kids, removed.kids]
    by_cases top : parent = key
    · simp [top]
    by_cases gone : parent ∈ keys
    · simp [top, gone]
    have outside : parent ∉ key :: keys := by simp [top, gone]
    rw [if_neg top, if_neg gone, if_neg outside]
    -- A child that is not taken out of the siblings here is not among them.
    have split : ((before.kids parent).filter (· ∉ keys)).filter (· ≠ key) =
        (before.kids parent).filter (· ∉ key :: keys) := by
      rw [List.filter_filter]
      refine List.filter_congr fun other _ => ?_
      simp
    by_cases here : links linkage after key = some (some parent)
    · rw [if_pos here, split]
    · rw [if_neg here, ← split, eq_comm, List.filter_eq_self]
      intro other member
      have inside := List.mem_filter.mp member
      suffices other ≠ key by simpa using this
      rintro rfl
      refine here ?_
      rw [removed.without.2 other (by simpa using inside.2)]
      exact (indexed.inverse parent other).mp inside.1
  noEmpty := removeOne_ne_empty removed.noEmpty key
  bytes := by
    rw [removeOne_bytes, removeOne_records, Dict.total_erase, ← removed.bytes]
    omega

theorem removeAll (indexed : Indexed linkage before) (removed : Removed linkage before after keys)
    (more : List κ) :
    Removed linkage before (after.removeAll linkage more) (more.reverse ++ keys) := by
  induction more generalizing after keys with
  | nil => exact removed
  | cons key more induction =>
      have rest := induction (removed.removeOne indexed key)
      rw [List.reverse_cons, List.append_assoc]
      exact rest

/-- What is removed after something else was. -/
theorem trans {last : LinkedStore κ ν} {more : List κ} (first : Removed linkage before after keys)
    (second : Removed linkage after last more) : Removed linkage before last (keys ++ more) where
  records := by
    rw [second.records, first.records, Dict.keep_keep]
    refine Dict.keep_congr fun other _ => ?_
    simp
  pins := by
    rw [second.pins, first.pins, Dict.keep_keep]
    refine Dict.keep_congr fun other _ => ?_
    simp
  kids := by
    intro key
    rw [second.kids, first.kids]
    by_cases gone : key ∈ keys
    · simp [gone]
    by_cases later : key ∈ more
    · simp [later]
    rw [if_neg later, if_neg gone, if_neg (by simp [gone, later]), List.filter_filter]
    refine List.filter_congr fun other _ => ?_
    simp [Bool.and_comm]
  noEmpty := second.noEmpty
  bytes := second.bytes.trans first.bytes

/-- Whole subtrees can be removed from a forest. -/
theorem coherent (removed : Removed linkage before after keys) (coherent : Coherent linkage before)
    (downward : Downward (links linkage before) (· ∈ keys)) : Coherent linkage after where
  indexed :=
    { inverse := by
        intro key child
        rw [removed.kids, removed.without.childOf, ← coherent.indexed.inverse]
        by_cases gone : key ∈ keys
        · simp only [gone, if_true, List.not_mem_nil, false_iff, not_and]
          intro kept member
          exact kept (downward child key ((coherent.indexed.inverse key child).mp member) gone)
        · rw [if_neg gone, List.mem_filter]
          simp [and_comm]
      noEmpty := removed.noEmpty }
  grounded := removed.without.grounded downward coherent.grounded
  bytes := by
    have same := removed.bytes
    rw [coherent.bytes] at same
    omega
  pinned := by
    intro key present
    rw [removed.pins_get?] at present
    rw [removed.get?]
    split
    · rename_i gone
      exact (present (if_pos gone)).elim
    · rename_i kept
      rw [if_neg kept] at present
      exact coherent.pinned key present

end Removed

/-! ## Subtrees -/

variable {linkage} {store : LinkedStore κ ν}

theorem mem_subtree (indexed : Indexed linkage store) {enter : κ → Bool}
    (entered : ∀ key parent, ChildOf (links linkage store) key parent → enter key = true)
    (top key : κ) :
    key ∈ store.subtree enter top ↔ enter top = true ∧ Under (links linkage store) key top := by
  rw [subtree, mem_search (fun _ => kids_eq_nil) (by simp)]
  constructor
  · intro reached
    induction reached with
    | seed member enter =>
        rcases List.mem_singleton.mp member with rfl
        exact ⟨enter, .refl⟩
    | edge _ member _ induction =>
        exact ⟨induction.1, .head ((indexed.inverse _ _).mp member) induction.2⟩
  · rintro ⟨enterTop, under⟩
    induction under using Relation.ReflTransGen.head_induction_on with
    | refl => exact .seed (List.mem_singleton_self _) enterTop
    | head step _ induction =>
        exact .edge induction ((indexed.inverse _ _).mpr step) (entered _ _ step)

theorem subtree_removed (indexed : Indexed linkage store) (enter : κ → Bool) (top : κ) :
    Removed linkage store (store.removeAll linkage (store.subtree enter top).reverse)
      (store.subtree enter top) := by
  have removed := (Removed.refl indexed.noEmpty).removeAll indexed (store.subtree enter top).reverse
  simpa only [List.reverse_reverse, List.append_nil] using removed

variable (linkage) in
/-- Whole subtrees were removed. -/
structure Pruned (before after : LinkedStore κ ν) (keys : List κ) : Prop
    extends Removed linkage before after keys where
  downward : Downward (links linkage before) (· ∈ keys)

namespace Pruned

variable {before after last : LinkedStore κ ν} {keys more : List κ}

theorem refl (indexed : Indexed linkage store) : Pruned linkage store store [] where
  toRemoved := .refl indexed.noEmpty
  downward := fun _ _ _ inside => (List.not_mem_nil inside).elim

theorem subtree (indexed : Indexed linkage store) {enter : κ → Bool}
    (entered : ∀ key parent, ChildOf (links linkage store) key parent → enter key = true)
    (top : κ) :
    Pruned linkage store (store.removeAll linkage (store.subtree enter top).reverse)
      (store.subtree enter top) where
  toRemoved := subtree_removed indexed enter top
  downward := fun key parent child inside => by
    rcases (mem_subtree indexed entered top parent).mp inside with ⟨enterTop, under⟩
    exact (mem_subtree indexed entered top key).mpr ⟨enterTop, .head child under⟩

theorem trans (first : Pruned linkage before after keys) (second : Pruned linkage after last more) :
    Pruned linkage before last (keys ++ more) where
  toRemoved := first.toRemoved.trans second.toRemoved
  downward := by
    intro key parent child inside
    rw [List.mem_append] at inside ⊢
    by_cases gone : key ∈ keys
    · exact .inl gone
    · have child' := first.without.childOf.mpr ⟨gone, child⟩
      have parentLeft := inside.resolve_left fun above =>
        gone (first.downward key parent child above)
      exact .inr (second.downward key parent child' parentLeft)

theorem coherent (pruned : Pruned linkage before after keys) (coherent : Coherent linkage before) :
    Coherent linkage after := pruned.toRemoved.coherent coherent pruned.downward

theorem size_le (pruned : Pruned linkage before after keys) :
    after.records.size ≤ before.records.size := by
  rw [pruned.records]
  exact Dict.size_keep_le _ _

theorem size_lt (pruned : Pruned linkage before after keys) {key : κ} (gone : key ∈ keys)
    (present : key ∈ before.records.keys) : after.records.size < before.records.size := by
  rw [pruned.records]
  exact Dict.size_keep_lt present (by simp [gone])

theorem bytes_le (pruned : Pruned linkage before after keys) :
    after.estimatedBytes ≤ before.estimatedBytes := by
  have same := pruned.bytes
  have positive : ∀ value, 0 ≤ (linkage.bytes value : Int) := fun _ => Int.natCast_nonneg _
  have fewer := before.records.total_keep_le (· ∉ keys) positive
  rw [pruned.records] at same
  omega

theorem pinCount (pruned : Pruned linkage before after keys) {key : κ} (kept : key ∉ keys) :
    after.pinCount key = before.pinCount key := by
  rw [LinkedStore.pinCount, LinkedStore.pinCount, pruned.pins_get?, if_neg kept]

end Pruned

/-! ## Renewal -/

theorem get?_touch (expiry : τ) (key other : κ) :
    (touch linkage expiry store key).records.get? other =
      if other = key then (store.records.get? other).map (linkage.renew expiry)
      else store.records.get? other := by
  rw [touch, Dict.get?_moveToEnd, Dict.get?_mapAt]

theorem links_touch (expiry : τ) (key : κ) :
    links linkage (touch linkage expiry store key) = links linkage store := by
  funext other
  rw [links, links, get?_touch]
  split
  · rw [Option.map_map]
    exact congrArg (fun read => (store.records.get? other).map read)
      (funext fun value => linkage.parent_renew expiry value)
  · rfl

theorem total_touch (expiry : τ) (key : κ) {weight : ν → Int}
    (same : ∀ value, weight (linkage.renew expiry value) = weight value) :
    (touch linkage expiry store key).records.total weight = store.records.total weight := by
  rw [touch, Dict.total_moveToEnd, Dict.total_mapAt _ _ _ _ same]

variable (linkage) in
/-- The same forest with the same sizes: the order, the expiries and the pins may differ. -/
structure SameForest (before after : LinkedStore κ ν) : Prop where
  children : after.children = before.children
  links : links linkage after = links linkage before
  estimatedBytes : after.estimatedBytes = before.estimatedBytes
  bytes : (after.records.total fun value => linkage.bytes value) =
    before.records.total fun value => linkage.bytes value
  size : after.records.size = before.records.size

theorem size_touch (expiry : τ) (key : κ) :
    (touch linkage expiry store key).records.size = store.records.size := by
  have total : (touch linkage expiry store key).records.total (fun _ => 1) =
      store.records.total fun _ => 1 := total_touch expiry key fun _ => rfl
  rw [← Dict.size_eq_total, ← Dict.size_eq_total] at total
  exact_mod_cast total

theorem pins_touchAll (expiry : τ) (store : LinkedStore κ ν) (keys : List κ) :
    (keys.foldl (touch linkage expiry) store).pins = store.pins := by
  induction keys generalizing store with
  | nil => rfl
  | cons key keys induction => exact induction (touch linkage expiry store key)

namespace SameForest

variable {before after last : LinkedStore κ ν}

theorem refl (store : LinkedStore κ ν) : SameForest linkage store store :=
  ⟨rfl, rfl, rfl, rfl, rfl⟩

theorem trans (first : SameForest linkage before after)
    (second : SameForest linkage after last) :
    SameForest linkage before last :=
  ⟨second.children.trans first.children, second.links.trans first.links,
    second.estimatedBytes.trans first.estimatedBytes, second.bytes.trans first.bytes,
    second.size.trans first.size⟩

theorem touch (expiry : τ) (store : LinkedStore κ ν) (key : κ) :
    SameForest linkage store (touch linkage expiry store key) :=
  ⟨rfl, links_touch expiry key, rfl, total_touch expiry key fun value => by
    rw [linkage.bytes_renew], size_touch expiry key⟩

theorem pins (store : LinkedStore κ ν) (pins : Dict κ Nat) :
    SameForest linkage store { store with pins := pins } := ⟨rfl, rfl, rfl, rfl, rfl⟩

theorem present (same : SameForest linkage before after) (key : κ) :
    after.records.get? key = none ↔ before.records.get? key = none := by
  rw [← links_eq_none linkage, ← links_eq_none linkage, same.links]

theorem kids (same : SameForest linkage before after) (key : κ) :
    after.kids key = before.kids key := by
  rw [LinkedStore.kids, LinkedStore.kids, same.children]

theorem coherent (same : SameForest linkage before after) (coherent : Coherent linkage before)
    (pinned : ∀ key, after.pins.get? key ≠ none → before.records.get? key ≠ none) :
    Coherent linkage after where
  indexed :=
    { inverse := fun key child => by
        rw [same.kids, same.links]
        exact coherent.indexed.inverse key child
      noEmpty := fun key => by rw [same.children]; exact coherent.indexed.noEmpty key }
  grounded := by
    rw [same.links]
    exact coherent.grounded
  bytes := by rw [same.estimatedBytes, same.bytes, coherent.bytes]
  pinned := fun key present => (same.present key).not.mpr (pinned key present)

end SameForest

/-! ## Pins -/

theorem pinCount_pinAll (expiry : τ) (store : LinkedStore κ ν) (keys : List κ) (key : κ) :
    (pinAll linkage expiry store keys).pinCount key =
      store.pinCount key + keys.countP (· = key) := by
  induction keys generalizing store with
  | nil => rfl
  | cons head keys induction =>
      rw [pinAll, List.foldl_cons]
      refine (induction _).trans ?_
      simp only [pinCount, touch, Dict.get?_set, List.countP_cons]
      by_cases same : key = head
      · subst same
        simp only [if_true, Option.getD_some, decide_true]
        omega
      · simp [same, Ne.symm same]

theorem pins_pinAll (expiry : τ) (store : LinkedStore κ ν) (keys : List κ) {key : κ}
    (pinned : (pinAll linkage expiry store keys).pins.get? key ≠ none) :
    store.pins.get? key ≠ none ∨ key ∈ keys := by
  induction keys generalizing store with
  | nil => exact .inl pinned
  | cons head keys induction =>
      rw [pinAll, List.foldl_cons] at pinned
      rcases induction _ pinned with before | inside
      · simp only [touch, Dict.get?_set] at before
        by_cases same : key = head
        · exact .inr (same ▸ List.mem_cons_self)
        · exact .inl (by simpa [same] using before)
      · exact .inr (List.mem_cons_of_mem _ inside)

theorem pinCount_unpinOne (store : LinkedStore κ ν) (key other : κ) :
    (store.unpinOne key).pinCount other =
      if other = key then store.pinCount other - 1 else store.pinCount other := by
  rw [unpinOne]
  by_cases few : store.pinCount key ≤ 1
  · rw [if_pos few, pinCount, Dict.get?_erase]
    by_cases same : other = key
    · subst same
      simp only [if_true, Option.getD_none]
      omega
    · simp [same, pinCount]
  · rw [if_neg few, pinCount, Dict.get?_set]
    by_cases same : other = key
    · subst same
      simp
    · simp [same, pinCount]

theorem pinCount_unpinAll (store : LinkedStore κ ν) (keys : List κ) (key : κ) :
    (store.unpinAll keys).pinCount key = store.pinCount key - keys.countP (· = key) := by
  induction keys generalizing store with
  | nil => rfl
  | cons head keys induction =>
      rw [unpinAll, List.foldl_cons]
      refine (induction _).trans ?_
      rw [pinCount_unpinOne, List.countP_cons]
      by_cases same : key = head
      · subst same
        simp only [if_true, decide_true]
        omega
      · simp [same, Ne.symm same]

theorem pins_unpinAll (store : LinkedStore κ ν) (keys : List κ) {key : κ}
    (pinned : (store.unpinAll keys).pins.get? key ≠ none) : store.pins.get? key ≠ none := by
  induction keys generalizing store with
  | nil => exact pinned
  | cons head keys induction =>
      rw [unpinAll, List.foldl_cons] at pinned
      have before := induction _ pinned
      rw [unpinOne] at before
      by_cases same : key = head
      · subst same
        intro none
        simp [pinCount, none, Dict.get?_erase] at before
      · split at before
        · simpa [Dict.get?_erase, same] using before
        · simpa [same] using before

/-! ## Records renewed -/

section Renewed

variable {γ : Type} {core : ν → γ}
  (fixed : ∀ expiry value, core (linkage.renew expiry value) = core value)

variable (linkage) (core) in
/-- The same forest, and the records agree in what renewal leaves alone. -/
structure RenewedAs (before after : LinkedStore κ ν) : Prop where
  same : SameForest linkage before after
  records : ∀ key value, after.records.get? key = some value →
    ∃ old, before.records.get? key = some old ∧ core old = core value

namespace RenewedAs

theorem refl (store : LinkedStore κ ν) : RenewedAs linkage core store store :=
  ⟨.refl store, fun _ value found => ⟨value, found, rfl⟩⟩

theorem trans {before after last : LinkedStore κ ν} (first : RenewedAs linkage core before after)
    (second : RenewedAs linkage core after last) : RenewedAs linkage core before last where
  same := first.same.trans second.same
  records := fun key value found => by
    rcases second.records key value found with ⟨middle, between, secondCore⟩
    rcases first.records key middle between with ⟨old, earlier, firstCore⟩
    exact ⟨old, earlier, firstCore.trans secondCore⟩

include fixed in
theorem touch (store : LinkedStore κ ν) (expiry : τ) (key : κ) :
    RenewedAs linkage core store (store.touch linkage expiry key) where
  same := .touch expiry store key
  records := fun other value found => by
    rw [get?_touch] at found
    split at found
    · rcases Option.map_eq_some_iff.mp found with ⟨old, earlier, rfl⟩
      exact ⟨old, earlier, (fixed expiry old).symm⟩
    · exact ⟨value, found, rfl⟩

include fixed in
theorem touchAll (store : LinkedStore κ ν) (expiry : τ) (keys : List κ) :
    RenewedAs linkage core store (keys.foldl (LinkedStore.touch linkage expiry) store) := by
  induction keys generalizing store with
  | nil => exact .refl store
  | cons key keys induction => exact (touch fixed store expiry key).trans (induction _)

theorem pins (store : LinkedStore κ ν) (pins : Dict κ Nat) :
    RenewedAs linkage core store { store with pins := pins } :=
  ⟨.pins store pins, fun _ value found => ⟨value, found, rfl⟩⟩

include fixed in
theorem pinAll (store : LinkedStore κ ν) (expiry : τ) (keys : List κ) :
    RenewedAs linkage core store (store.pinAll linkage expiry keys) := by
  induction keys generalizing store with
  | nil => exact .refl store
  | cons key keys induction =>
      exact ((pins store _).trans (touch fixed _ expiry key)).trans (induction _)

theorem unpinAll (store : LinkedStore κ ν) (keys : List κ) :
    RenewedAs linkage core store (store.unpinAll keys) := by
  induction keys generalizing store with
  | nil => exact .refl store
  | cons key keys induction =>
      apply trans _ (induction (store.unpinOne key))
      rw [unpinOne]
      split <;> exact pins store _

end RenewedAs

end Renewed

/-! ## Walks to the root -/

/-- What a walk to a root brings back. -/
structure Climbed (linkage : Linkage κ ν τ) (store : LinkedStore κ ν) (accept : ν → Bool)
    (key : κ) (chain : List (κ × ν)) : Prop where
  lineage : Lineage (links linkage store) key (chain.map Prod.fst)
  found : ∀ entry ∈ chain, store.records.get? entry.1 = some entry.2
  accepted : ∀ entry ∈ chain, accept entry.2 = true

theorem climb_sound {accept : ν → Bool} {fuel : Nat} {seen : List κ} {key : κ}
    {chain : List (κ × ν)} (climbed : climb linkage store accept fuel seen key = .ok chain) :
    Climbed linkage store accept key chain ∧ ∀ entry ∈ chain, entry.1 ∉ seen := by
  induction fuel generalizing seen key chain with
  | zero => cases climbed
  | succ fuel induction =>
      rw [climb] at climbed
      split at climbed
      · cases climbed
      rename_i unseen
      cases found : store.records.get? key with
      | none => rw [found] at climbed; cases climbed
      | some value =>
          simp only [found] at climbed
          split at climbed
          · rename_i accepted
            cases named : linkage.parent value with
            | none =>
                rw [named] at climbed
                rcases Except.ok.inj climbed with rfl
                refine ⟨⟨.root ?_, ?_, ?_⟩, ?_⟩ <;> simp [links, found, named, accepted, unseen]
            | some parent =>
                simp only [named] at climbed
                cases above : climb linkage store accept fuel (seen ++ [key]) parent with
                | error stop => rw [above] at climbed; cases climbed
                | ok rest =>
                    rw [above] at climbed
                    rcases Except.ok.inj climbed with rfl
                    rcases induction above with ⟨walked, outside⟩
                    have child : ChildOf (links linkage store) key parent := by
                      simp [ChildOf, links, found, named]
                    refine ⟨⟨.child child walked.lineage, ?_, ?_⟩, ?_⟩
                    · simpa [found] using fun first second => walked.found (first, second)
                    · simpa [accepted] using fun first second => walked.accepted (first, second)
                    · refine List.forall_mem_cons.mpr ⟨unseen, fun entry member => ?_⟩
                      exact fun inside => outside entry member (List.mem_append_left _ inside)
          · cases climbed

theorem climb_complete {accept : ν → Bool} {fuel : Nat} {seen : List κ} {key : κ} {line : List κ}
    (lineage : Lineage (links linkage store) key line) (enough : line.length ≤ fuel)
    (unseen : ∀ above ∈ line, above ∉ seen)
    (accepted : ∀ above ∈ line, ∀ value, store.records.get? above = some value →
      accept value = true) :
    ∃ chain, climb linkage store accept fuel seen key = .ok chain := by
  induction lineage generalizing fuel seen with
  | @root key root =>
      obtain ⟨fuel, rfl⟩ : ∃ rest, fuel = rest + 1 := ⟨fuel - 1, by
        simp only [List.length_singleton] at enough
        omega⟩
      rcases Option.map_eq_some_iff.mp root with ⟨value, found, named⟩
      have head := List.mem_cons_self (a := key) (l := [])
      rw [climb, if_neg (unseen key head), found]
      simp only [accepted key head value found, if_true, named]
      exact ⟨_, rfl⟩
  | @child key parent line child parents induction =>
      obtain ⟨fuel, rfl⟩ : ∃ rest, fuel = rest + 1 := ⟨fuel - 1, by
        simp only [List.length_cons] at enough
        omega⟩
      rcases Option.map_eq_some_iff.mp child with ⟨value, found, named⟩
      have head := List.mem_cons_self (a := key) (l := line)
      have nodup := (Lineage.child child parents).nodup
      have rest : ∃ chain, climb linkage store accept fuel (seen ++ [key]) parent = .ok chain := by
        refine induction (by simpa using enough) (fun above member inside => ?_)
          fun above member => accepted above (List.mem_cons_of_mem _ member)
        rcases List.mem_append.mp inside with before | single
        · exact unseen above (List.mem_cons_of_mem _ member) before
        · rcases List.mem_singleton.mp single with rfl
          exact (List.nodup_cons.mp nodup).1 member
      rcases rest with ⟨chain, above⟩
      rw [climb, if_neg (unseen key head), found]
      simp only [accepted key head value found, if_true, named, above]
      exact ⟨_, rfl⟩

theorem lineage_length_le {key : κ} {line : List κ}
    (lineage : Lineage (links linkage store) key line) : line.length ≤ store.records.size := by
  have subset : line ⊆ store.records.keys := fun above member => by
    have present := (links_eq_none linkage).not.mp (lineage.present_of_mem member)
    exact not_not.mp (Dict.get?_eq_none.not.mp present)
  have shorter := (List.subperm_of_subset lineage.nodup subset).length_le
  simpa only [Dict.keys, List.length_map, Dict.size] using shorter

/-! ## New records -/

theorem links_place (store : LinkedStore κ ν) (key : κ) (value : ν) (other : κ) :
    links linkage (store.place linkage key value) other =
      if other = key then some (linkage.parent value) else links linkage store other := by
  simp only [links, place, Dict.get?_moveToEnd, Dict.get?_set]
  split <;> rfl

theorem mem_kids_place (store : LinkedStore κ ν) (key : κ) (value : ν) (parent child : κ) :
    child ∈ (store.place linkage key value).kids parent ↔
      child ∈ store.kids parent ∨ linkage.parent value = some parent ∧ child = key := by
  cases named : linkage.parent value with
  | none => simp [kids, place, named]
  | some above =>
      simp only [kids, place, named, getD_addChild, Option.some.injEq]
      simp only [eq_comm]

theorem place_ne_empty (noEmpty : ∀ key, store.children.get? key ≠ some []) (key : κ) (value : ν)
    (other : κ) : (store.place linkage key value).children.get? other ≠ some [] := by
  simp only [place]
  split
  · exact noEmpty other
  · exact addChild_ne_empty _ _ noEmpty other

theorem total_place {key : κ} (fresh : store.records.get? key = none) (value : ν)
    (weight : ν → Int) :
    (store.place linkage key value).records.total weight =
      store.records.total weight + weight value := by
  have absent := Dict.get?_eq_none.mp fresh
  simp only [place, Dict.total_moveToEnd]
  rw [Dict.set, dif_pos absent, Dict.total_append]

theorem place_with {key : κ} (fresh : store.records.get? key = none) (value : ν) :
    With (links linkage store) (links linkage (store.place linkage key value)) key
      (linkage.parent value) :=
  ⟨(links_eq_none linkage).mpr fresh, by rw [links_place, if_pos rfl], fun other different => by
    rw [links_place, if_neg different]⟩

/-- A record under an absent key, its parent present. -/
theorem place_coherent (coherent : Coherent linkage store) {key : κ}
    (fresh : store.records.get? key = none) {value : ν}
    (present : ∀ above ∈ linkage.parent value, store.records.get? above ≠ none) :
    Coherent linkage (store.place linkage key value) where
  indexed :=
    { inverse := by
        intro parent child
        rw [mem_kids_place, ChildOf, links_place, coherent.indexed.inverse]
        by_cases new : child = key
        · subst new
          have before : ¬ChildOf (links linkage store) child parent := by
            simp [ChildOf, links, fresh]
          simp [before]
        · simp [new, ChildOf]
      noEmpty := place_ne_empty coherent.indexed.noEmpty key value }
  grounded := (place_with fresh value).grounded coherent.grounded fun above named =>
    (links_eq_none linkage).not.mpr (present above named)
  bytes := by
    rw [total_place fresh, ← coherent.bytes]
    rfl
  pinned := by
    intro other pinned
    have before := coherent.pinned other pinned
    simp only [place, Dict.get?_moveToEnd, Dict.get?_set]
    split
    · simp
    · exact before

/-! ## Records in the place of others -/

theorem displace_get? (store : LinkedStore κ ν) (key other : κ) :
    (store.displace linkage key).records.get? other =
      if other = key then none else store.records.get? other := by
  cases found : store.records.get? key with
  | none =>
      simp only [displace, found]
      split
      · rename_i same
        rw [same, found]
      · rfl
  | some value =>
      simp only [displace, found]
      exact Dict.get?_erase _ _ _

theorem displace_pins (store : LinkedStore κ ν) (key : κ) :
    (store.displace linkage key).pins = store.pins := by
  cases found : store.records.get? key <;> simp only [displace, found]

theorem total_displace (store : LinkedStore κ ν) (key : κ) (weight : ν → Int) :
    (store.displace linkage key).records.total weight =
      store.records.total weight - store.records.weightAt weight key := by
  cases found : store.records.get? key with
  | none => simp [displace, found, Dict.weightAt]
  | some value =>
      simp only [displace, found]
      exact Dict.total_erase _ _ _

theorem displace_bytes (store : LinkedStore κ ν) (key : κ) :
    (store.displace linkage key).estimatedBytes =
      store.estimatedBytes - store.records.weightAt (fun value => linkage.bytes value) key := by
  cases found : store.records.get? key <;> simp [displace, found, Dict.weightAt]

theorem displace_kids (store : LinkedStore κ ν) (key parent : κ) :
    (store.displace linkage key).kids parent =
      if links linkage store key = some (some parent) then (store.kids parent).filter (· ≠ key)
      else store.kids parent := by
  cases found : store.records.get? key with
  | none => simp [kids, displace, found, links]
  | some value =>
      simp only [kids, displace, found, links, Option.map_some, Option.some.injEq]
      cases named : linkage.parent value with
      | none => simp
      | some above =>
          simp only [Option.some.injEq]
          rw [getD_discardChild]
          exact if_congr eq_comm rfl rfl

theorem displace_ne_empty (noEmpty : ∀ key, store.children.get? key ≠ some []) (key other : κ) :
    (store.displace linkage key).children.get? other ≠ some [] := by
  cases found : store.records.get? key with
  | none => simpa only [displace, found] using noEmpty other
  | some value =>
      simp only [displace, found]
      split
      · exact noEmpty other
      · exact discardChild_ne_empty _ _ noEmpty other

/-- A record under a key that has none, or in the place of one with the same parent. -/
theorem replace_coherent (coherent : Coherent linkage store) {key : κ} {value : ν}
    (same : ∀ old, store.records.get? key = some old → linkage.parent value = linkage.parent old)
    (present : ∀ above ∈ linkage.parent value, store.records.get? above ≠ none) :
    Coherent linkage ((store.displace linkage key).place linkage key value) := by
  cases found : store.records.get? key with
  | none =>
      have unchanged : store.displace linkage key = store := by simp only [displace, found]
      rw [unchanged]
      exact place_coherent coherent found present
  | some old =>
      have parent := same old found
      have vacant : (store.displace linkage key).records.get? key = none := by
        rw [displace_get?, if_pos rfl]
      have sameLinks : links linkage ((store.displace linkage key).place linkage key value) =
          links linkage store := by
        funext other
        rw [links_place]
        by_cases new : other = key
        · rw [if_pos new, links, new, found, Option.map_some, parent]
        · rw [if_neg new, links, displace_get?, if_neg new, links]
      refine ⟨⟨fun above child => ?_, ?_⟩, ?_, ?_, fun other pinned => ?_⟩
      · rw [mem_kids_place, displace_kids, sameLinks]
        have named : links linkage store key = some (linkage.parent value) := by
          rw [links, found, Option.map_some, parent]
        have old := coherent.indexed.inverse above child
        by_cases here : linkage.parent value = some above
        · rw [named, if_pos (by rw [here]), List.mem_filter, old]
          by_cases new : child = key
          · subst new
            simp [ChildOf, named, here]
          · simp [new]
        · rw [named, if_neg (by simpa using here), old]
          simp [here]
      · exact place_ne_empty (displace_ne_empty coherent.indexed.noEmpty key) key value
      · rw [sameLinks]
        exact coherent.grounded
      · rw [total_place vacant, total_displace, ← coherent.bytes]
        change (store.displace linkage key).estimatedBytes + _ = _
        rw [displace_bytes]
      · change (store.displace linkage key).pins.get? other ≠ none at pinned
        rw [displace_pins] at pinned
        have before := coherent.pinned other pinned
        simp only [place, Dict.get?_moveToEnd, Dict.get?_set]
        split
        · simp
        · rename_i old
          rw [displace_get?, if_neg old]
          exact before

end LinkedStore
end ExQServe
