import Mathlib

/-! # Dictionaries in insertion order

A finite map that remembers the order in which its keys came, as `dict` and
`OrderedDict` do. -/

namespace ExQServe

/-- Under names that differ an item is found by its name. -/
theorem find?_name {α κ : Type*} [DecidableEq κ] {name : α → κ} {items : List α}
    (unique : (items.map name).Nodup) {wanted : κ} {item : α} :
    items.find? (fun item => name item = wanted) = some item ↔
      item ∈ items ∧ name item = wanted := by
  constructor
  · intro found
    exact ⟨List.mem_of_find?_eq_some found, by simpa using List.find?_some found⟩
  · intro given
    rcases given with ⟨member, rfl⟩
    cases found : items.find? fun other => name other = name item with
    | none => exact absurd (List.find?_eq_none.mp found item member) (by simp)
    | some other =>
        have same : name other = name item := by simpa using List.find?_some found
        rw [List.inj_on_of_nodup_map unique (List.mem_of_find?_eq_some found) member same]

/-- Entries under different keys, the oldest first. -/
@[ext] structure Dict (κ ν : Type) where
  entries : List (κ × ν)
  nodup : (entries.map Prod.fst).Nodup
deriving DecidableEq

namespace Dict

variable {κ ν : Type}

def empty : Dict κ ν := ⟨[], List.nodup_nil⟩

def keys (dict : Dict κ ν) : List κ := dict.entries.map Prod.fst

def size (dict : Dict κ ν) : Nat := dict.entries.length

/-- The sum of what the values weigh. -/
def total (dict : Dict κ ν) (weight : ν → Int) : Int :=
  (dict.entries.map fun entry => weight entry.2).sum

/-- The entries whose keys pass a test, in their order. -/
def keep (dict : Dict κ ν) (wanted : κ → Bool) : Dict κ ν where
  entries := dict.entries.filter fun entry => wanted entry.1
  nodup := dict.nodup.sublist (List.filter_sublist.map Prod.fst)

variable [DecidableEq κ]

/-- `dict.get(key)`. -/
def get? (dict : Dict κ ν) (key : κ) : Option ν :=
  (dict.entries.find? (·.1 = key)).map Prod.snd

/-- `dict.pop(key, None)`, without the value. -/
def erase (dict : Dict κ ν) (key : κ) : Dict κ ν := dict.keep fun other => !decide (other = key)

/-- The values under the present keys changed in place. -/
def mapAt (dict : Dict κ ν) (key : κ) (change : ν → ν) : Dict κ ν where
  entries := dict.entries.map fun entry =>
    if entry.1 = key then (entry.1, change entry.2) else entry
  nodup := by
    have sameKeys : (dict.entries.map fun entry =>
        if entry.1 = key then (entry.1, change entry.2) else entry).map Prod.fst =
          dict.entries.map Prod.fst := by
      rw [List.map_map]
      refine List.map_congr_left fun entry _ => ?_
      by_cases same : entry.1 = key <;> simp [same]
    rw [sameKeys]
    exact dict.nodup

/-- A new entry at the end. -/
def append (dict : Dict κ ν) (key : κ) (value : ν) (fresh : key ∉ dict.keys) : Dict κ ν where
  entries := dict.entries ++ [(key, value)]
  nodup := by
    rw [List.map_append]
    refine List.Nodup.append dict.nodup (List.nodup_singleton key) fun other inside single => ?_
    rcases List.mem_singleton.mp single with rfl
    exact fresh inside

/-- `dict[key] = value`: a present key keeps its place. -/
def set (dict : Dict κ ν) (key : κ) (value : ν) : Dict κ ν :=
  if fresh : key ∉ dict.keys then dict.append key value fresh
  else dict.mapAt key fun _ => value

theorem not_mem_keys_erase (dict : Dict κ ν) (key : κ) : key ∉ (dict.erase key).keys := by
  simp [erase, keep, keys]

/-- `dict.move_to_end(key)`. -/
def moveToEnd (dict : Dict κ ν) (key : κ) : Dict κ ν :=
  match dict.get? key with
  | none => dict
  | some value => (dict.erase key).append key value (dict.not_mem_keys_erase key)

/-! ## Lookups -/

theorem get?_eq_some {dict : Dict κ ν} {key : κ} {value : ν} :
    dict.get? key = some value ↔ (key, value) ∈ dict.entries := by
  rcases dict with ⟨entries, nodup⟩
  induction entries with
  | nil => simp [get?]
  | cons head tail induction =>
      have parts := List.nodup_cons.mp nodup
      have tailwise := induction parts.2
      simp only [get?] at tailwise ⊢
      by_cases same : head.1 = key
      · have absent : (key, value) ∉ tail := fun member =>
          parts.1 (same ▸ List.mem_map_of_mem member)
        rw [List.find?_cons_of_pos (by simpa using same)]
        simp only [Option.map_some, Option.some.injEq, List.mem_cons, absent, or_false]
        constructor
        · rintro rfl
          exact Prod.ext same.symm rfl
        · intro equal
          rw [← equal]
      · have different : (key, value) ≠ head := fun equal => same (equal ▸ rfl)
        rw [List.find?_cons_of_neg (by simpa using same), tailwise]
        simp only [List.mem_cons, different, false_or]

theorem mem_keys {dict : Dict κ ν} {key : κ} :
    key ∈ dict.keys ↔ ∃ value, dict.get? key = some value := by
  simp [keys, get?_eq_some]

theorem mem_keys_of_get? {dict : Dict κ ν} {key : κ} {value : ν}
    (found : dict.get? key = some value) : key ∈ dict.keys :=
  mem_keys.mpr ⟨value, found⟩

theorem get?_eq_none {dict : Dict κ ν} {key : κ} :
    dict.get? key = none ↔ key ∉ dict.keys := by
  rw [mem_keys, Option.eq_none_iff_forall_ne_some]
  simp

theorem get?_keep (dict : Dict κ ν) (wanted : κ → Bool) (key : κ) :
    (dict.keep wanted).get? key = if wanted key then dict.get? key else none := by
  refine Option.ext fun value => ?_
  rw [get?_eq_some, keep, List.mem_filter, ← get?_eq_some]
  by_cases kept : wanted key = true <;> simp [kept]

theorem get?_erase (dict : Dict κ ν) (key other : κ) :
    (dict.erase key).get? other = if other = key then none else dict.get? other := by
  rw [erase, get?_keep]
  by_cases same : other = key <;> simp [same]

theorem get?_mapAt (dict : Dict κ ν) (key : κ) (change : ν → ν) (other : κ) :
    (dict.mapAt key change).get? other =
      if other = key then (dict.get? other).map change else dict.get? other := by
  refine Option.ext fun value => ?_
  rw [get?_eq_some, mapAt, List.mem_map]
  by_cases same : other = key
  · subst same
    simp only [if_true, Option.map_eq_some_iff, get?_eq_some]
    constructor
    · rintro ⟨entry, member, changed⟩
      by_cases atKey : entry.1 = other
      · rw [if_pos atKey] at changed
        rcases Prod.mk.inj changed with ⟨-, rfl⟩
        exact ⟨entry.2, atKey ▸ member, rfl⟩
      · rw [if_neg atKey] at changed
        exact absurd (congrArg Prod.fst changed) atKey
    · rintro ⟨old, member, rfl⟩
      exact ⟨(other, old), member, if_pos rfl⟩
  · simp only [same, if_false, get?_eq_some]
    constructor
    · rintro ⟨entry, member, changed⟩
      by_cases atKey : entry.1 = key
      · rw [if_pos atKey] at changed
        exact absurd ((congrArg Prod.fst changed).symm.trans atKey) same
      · rw [if_neg atKey] at changed
        exact changed ▸ member
    · intro member
      exact ⟨(other, value), member, if_neg same⟩

theorem get?_append (dict : Dict κ ν) (key : κ) (value : ν) (fresh : key ∉ dict.keys)
    (other : κ) :
    (dict.append key value fresh).get? other =
      if other = key then some value else dict.get? other := by
  refine Option.ext fun found => ?_
  rw [get?_eq_some, append, List.mem_append, List.mem_singleton, ← get?_eq_some]
  by_cases same : other = key
  · subst same
    rw [get?_eq_none.mpr fresh]
    simp [eq_comm]
  · simp [same]

@[simp] theorem get?_set (dict : Dict κ ν) (key : κ) (value : ν) (other : κ) :
    (dict.set key value).get? other = if other = key then some value else dict.get? other := by
  by_cases fresh : key ∉ dict.keys
  · rw [set, dif_pos fresh, get?_append]
  · rw [set, dif_neg fresh, get?_mapAt]
    by_cases same : other = key
    · rcases mem_keys.mp (not_not.mp fresh) with ⟨old, found⟩
      simp [same, found]
    · simp [same]

theorem get?_moveToEnd (dict : Dict κ ν) (key other : κ) :
    (dict.moveToEnd key).get? other = dict.get? other := by
  cases found : dict.get? key with
  | none => simp [moveToEnd, found]
  | some value =>
      simp only [moveToEnd, found]
      rw [get?_append, get?_erase]
      by_cases same : other = key
      · simp [same, found]
      · simp [same]

@[simp] theorem get?_empty (key : κ) : (empty : Dict κ ν).get? key = none := rfl

theorem erase_append (dict : Dict κ ν) (key : κ) (value : ν) (fresh : key ∉ dict.keys) :
    (dict.append key value fresh).erase key = dict := by
  ext1
  simp only [erase, keep, append, List.filter_append]
  rw [List.filter_eq_self.mpr, List.filter_eq_nil_iff.mpr, List.append_nil]
  · simp
  · intro entry member
    have different : entry.1 ≠ key := fun same => fresh (same ▸ List.mem_map_of_mem member)
    simpa using different

theorem erase_moveToEnd (dict : Dict κ ν) (key : κ) :
    (dict.moveToEnd key).erase key = dict.erase key := by
  cases found : dict.get? key with
  | none => simp [moveToEnd, found]
  | some value =>
      simp only [moveToEnd, found]
      exact erase_append _ key value _

/-! ## Totals -/

omit [DecidableEq κ] in
theorem total_keep_add (dict : Dict κ ν) (wanted : κ → Bool) (weight : ν → Int) :
    (dict.keep wanted).total weight + (dict.keep fun key => !wanted key).total weight =
      dict.total weight := by
  rcases dict with ⟨entries, nodup⟩
  simp only [total, keep]
  clear nodup
  induction entries with
  | nil => rfl
  | cons head tail induction =>
      cases kept : wanted head.1 <;> simp [kept] <;> omega

omit [DecidableEq κ] in
theorem total_nonneg (dict : Dict κ ν) {weight : ν → Int} (positive : ∀ value, 0 ≤ weight value) :
    0 ≤ dict.total weight := by
  refine List.sum_nonneg fun part member => ?_
  rcases List.mem_map.mp member with ⟨entry, -, rfl⟩
  exact positive entry.2

omit [DecidableEq κ] in
theorem size_eq_total (dict : Dict κ ν) : (dict.size : Int) = dict.total fun _ => 1 := by
  simp [size, total]

omit [DecidableEq κ] in
theorem total_keep_le (dict : Dict κ ν) (wanted : κ → Bool) {weight : ν → Int}
    (positive : ∀ value, 0 ≤ weight value) :
    (dict.keep wanted).total weight ≤ dict.total weight := by
  have split := dict.total_keep_add wanted weight
  have rest := (dict.keep fun key => !wanted key).total_nonneg positive
  omega

omit [DecidableEq κ] in
theorem size_keep_le (dict : Dict κ ν) (wanted : κ → Bool) : (dict.keep wanted).size ≤ dict.size :=
  List.length_filter_le _ _

omit [DecidableEq κ] in
theorem size_keep_lt {dict : Dict κ ν} {wanted : κ → Bool} {key : κ} (inside : key ∈ dict.keys)
    (dropped : wanted key = false) : (dict.keep wanted).size < dict.size := by
  rcases List.mem_map.mp inside with ⟨entry, member, rfl⟩
  exact List.length_filter_lt_length_iff_exists.mpr ⟨entry, member, by simp [dropped]⟩

/-- What a key holds, if any, weighs this much. -/
def weightAt (dict : Dict κ ν) (weight : ν → Int) (key : κ) : Int :=
  ((dict.get? key).map weight).getD 0

theorem total_erase (dict : Dict κ ν) (key : κ) (weight : ν → Int) :
    (dict.erase key).total weight = dict.total weight - dict.weightAt weight key := by
  have only : (dict.keep fun other => decide (other = key)).total weight =
      dict.weightAt weight key := by
    rcases dict with ⟨entries, nodup⟩
    simp only [total, keep, weightAt, get?]
    induction entries with
    | nil => rfl
    | cons head tail induction =>
        have parts := List.nodup_cons.mp nodup
        by_cases same : head.1 = key
        · have none : tail.filter (fun entry => decide (entry.1 = key)) = [] := by
            rw [List.filter_eq_nil_iff]
            intro entry member atKey
            exact parts.1 ((of_decide_eq_true atKey).trans same.symm ▸
              List.mem_map_of_mem member)
          simp [same, none]
        · simpa [same] using induction parts.2
  have split := dict.total_keep_add (fun other => decide (other = key)) weight
  rw [only] at split
  simp only [erase]
  omega

omit [DecidableEq κ] in
theorem total_append (dict : Dict κ ν) (key : κ) (value : ν) (fresh : key ∉ dict.keys)
    (weight : ν → Int) :
    (dict.append key value fresh).total weight = dict.total weight + weight value := by
  simp [total, append]

theorem total_mapAt (dict : Dict κ ν) (key : κ) (change : ν → ν) (weight : ν → Int)
    (same : ∀ value, weight (change value) = weight value) :
    (dict.mapAt key change).total weight = dict.total weight := by
  simp only [total, mapAt, List.map_map]
  refine congrArg List.sum (List.map_congr_left fun entry _ => ?_)
  by_cases atKey : entry.1 = key <;> simp [atKey, same]

theorem total_moveToEnd (dict : Dict κ ν) (key : κ) (weight : ν → Int) :
    (dict.moveToEnd key).total weight = dict.total weight := by
  cases found : dict.get? key with
  | none => simp [moveToEnd, found]
  | some value =>
      simp only [moveToEnd, found]
      rw [total_append, total_erase]
      simp [weightAt, found]

/-- The total without some of the keys. -/
theorem total_keep_not_mem (dict : Dict κ ν) {gone : List κ} (nodup : gone.Nodup)
    (weight : ν → Int) :
    (dict.keep (· ∉ gone)).total weight =
      dict.total weight - (gone.map (dict.weightAt weight)).sum := by
  induction gone with
  | nil => simp [keep, total]
  | cons key gone induction =>
      have parts := List.nodup_cons.mp nodup
      have first : dict.keep (· ∉ key :: gone) = (dict.keep (· ∉ gone)).erase key := by
        ext1
        simp only [keep, erase, List.filter_filter]
        exact List.filter_congr fun entry _ => by simp
      have same : (dict.keep (· ∉ gone)).weightAt weight key = dict.weightAt weight key := by
        rw [weightAt, get?_keep, if_pos (by simpa using parts.1)]
        rfl
      rw [first, total_erase, same, induction parts.2, List.map_cons, List.sum_cons]
      omega

theorem size_erase {dict : Dict κ ν} {key : κ} {value : ν} (found : dict.get? key = some value) :
    (dict.erase key).size + 1 = dict.size := by
  have weights := dict.total_erase key fun _ => 1
  rw [← size_eq_total, ← size_eq_total, weightAt, found] at weights
  simp only [Option.map_some, Option.getD_some] at weights
  omega

theorem size_set {dict : Dict κ ν} {key : κ} (missing : dict.get? key = none) (value : ν) :
    (dict.set key value).size = dict.size + 1 := by
  rw [set, dif_pos (get?_eq_none.mp missing)]
  simp [size, append]

/-- New entries come behind the present ones in their order. -/
theorem entries_foldl_set {entries : List (κ × ν)} {dict : Dict κ ν}
    (fresh : (dict.keys ++ entries.map Prod.fst).Nodup) :
    (entries.foldl (fun dict entry => dict.set entry.1 entry.2) dict).entries =
      dict.entries ++ entries := by
  induction entries generalizing dict with
  | nil => exact (List.append_nil _).symm
  | cons entry entries induction =>
      have missing : entry.1 ∉ dict.keys := by
        intro inside
        exact (List.disjoint_of_nodup_append fresh) inside List.mem_cons_self
      have added : (dict.set entry.1 entry.2).entries = dict.entries ++ [entry] := by
        rw [set, dif_pos missing]
        rfl
      have keys : (dict.set entry.1 entry.2).keys = dict.keys ++ [entry.1] := by
        rw [Dict.keys, added, List.map_append]
        rfl
      rw [List.foldl_cons, induction, added, List.append_assoc]
      · rfl
      · rw [keys, List.append_assoc]
        exact fresh

/-- Under names that differ every item is found, and nothing else changes. -/
theorem get?_foldl_set {α : Type} {items : List α} {name : α → κ} {value : α → ν}
    (distinct : (items.map name).Nodup) (dict : Dict κ ν) (key : κ) :
    (items.foldl (fun dict item => dict.set (name item) (value item)) dict).get? key =
      ((items.find? fun item => name item = key).map value).or (dict.get? key) := by
  induction items generalizing dict with
  | nil => rfl
  | cons item items induction =>
      rw [List.map_cons, List.nodup_cons] at distinct
      rw [List.foldl_cons, induction distinct.2, get?_set, List.find?_cons]
      by_cases same : name item = key
      · have absent : items.find? (fun item => name item = key) = none := by
          rw [List.find?_eq_none]
          intro other member equal
          have named : name other = name item := (of_decide_eq_true equal).trans same.symm
          exact distinct.1 (named ▸ List.mem_map_of_mem member)
        simp [absent, same]
      · simp [same, Ne.symm same]

/-! ## Entries kept -/

omit [DecidableEq κ] in
theorem keep_keep (dict : Dict κ ν) (first second : κ → Bool) :
    (dict.keep first).keep second = dict.keep fun key => first key && second key := by
  ext1
  simp [keep, List.filter_filter, Bool.and_comm]

omit [DecidableEq κ] in
theorem keep_congr {dict : Dict κ ν} {first second : κ → Bool}
    (same : ∀ key ∈ dict.keys, first key = second key) : dict.keep first = dict.keep second := by
  ext1
  exact List.filter_congr fun entry member => same entry.1 (List.mem_map_of_mem member)

omit [DecidableEq κ] in
theorem keep_eq_self {dict : Dict κ ν} {wanted : κ → Bool}
    (all : ∀ key ∈ dict.keys, wanted key = true) : dict.keep wanted = dict := by
  ext1
  exact List.filter_eq_self.mpr fun entry member => all entry.1 (List.mem_map_of_mem member)

end Dict
end ExQServe
