import ExQServe.Foundation.Dict

/-! # Caches under a limit of weight

A cache in the order of use. Each value is kept with its weight, and the oldest values make
room for a new one. -/

namespace ExQServe.Caching

variable {κ ν : Type}

structure Limits where
  maxSize : Nat
  maxWeight : Nat

/-- The entries, the oldest first, and the weight on record. -/
structure Cache (κ ν : Type) where
  entries : Dict κ (ν × Nat)
  weight : Int

namespace Cache

def empty : Cache κ ν := ⟨.empty, 0⟩

def entriesWeight (entries : List (κ × ν × Nat)) : Int :=
  (entries.map fun entry => (entry.2.2 : Int)).sum

@[simp] theorem entriesWeight_nil : entriesWeight ([] : List (κ × ν × Nat)) = 0 := rfl

@[simp] theorem entriesWeight_cons (entry : κ × ν × Nat) (entries : List (κ × ν × Nat)) :
    entriesWeight (entry :: entries) = entry.2.2 + entriesWeight entries := by
  rw [entriesWeight, List.map_cons, List.sum_cons, entriesWeight]

theorem entriesWeight_entries (dict : Dict κ (ν × Nat)) :
    entriesWeight dict.entries = dict.total fun entry => entry.2 := rfl

/-! ## Operations -/

/-- Without the oldest entries while a limit is exceeded; `none` where nothing is left to
drop. -/
def trim (limits : Limits) : List (κ × ν × Nat) → Int → Option (List (κ × ν × Nat) × Int)
  | [], weight => if (limits.maxWeight : Int) < weight then none else some ([], weight)
  | entry :: entries, weight =>
      if limits.maxSize < (entry :: entries).length ∨ (limits.maxWeight : Int) < weight then
        trim limits entries (weight - entry.2.2)
      else some (entry :: entries, weight)

theorem trim_suffix {limits : Limits} {entries kept : List (κ × ν × Nat)} {weight left : Int}
    (trimmed : trim limits entries weight = some (kept, left)) : kept <:+ entries := by
  induction entries generalizing weight with
  | nil =>
      rw [trim] at trimmed
      split at trimmed
      · cases trimmed
      · cases trimmed
        exact List.suffix_rfl
  | cons entry entries induction =>
      rw [trim] at trimmed
      split at trimmed
      · exact (induction trimmed).trans (List.suffix_cons entry entries)
      · cases trimmed
        exact List.suffix_rfl

/-- The entries kept of a dictionary. -/
def suffixDict (dict : Dict κ (ν × Nat)) {kept : List (κ × ν × Nat)}
    (suffix : kept <:+ dict.entries) : Dict κ (ν × Nat) where
  entries := kept
  nodup := dict.nodup.sublist (suffix.sublist.map Prod.fst)

variable [DecidableEq κ]

/-- A hit becomes the latest entry. -/
def fetch (cache : Cache κ ν) (key : κ) : Option (ν × Cache κ ν) :=
  match cache.entries.get? key with
  | none => none
  | some entry => some (entry.1, { cache with entries := cache.entries.moveToEnd key })

/-- The entries with a new one at the end. -/
def inserted (cache : Cache κ ν) (key : κ) (value : ν) (weight : Nat) : Dict κ (ν × Nat) :=
  (cache.entries.erase key).append key (value, weight) (cache.entries.not_mem_keys_erase key)

/-- The weight of what a new entry replaces. -/
def replacedWeight (cache : Cache κ ν) (key : κ) : Nat :=
  ((cache.entries.get? key).map Prod.snd).getD 0

/-- A new entry replaces an old one under its key, and older ones make room for it. -/
def remember (limits : Limits) (cache : Cache κ ν) (key : κ) (value : ν) (weight : Nat) :
    Option (Cache κ ν) :=
  match trimmed : trim limits (cache.inserted key value weight).entries
      (cache.weight - cache.replacedWeight key + weight) with
  | none => none
  | some (_, left) => some ⟨suffixDict _ (trim_suffix trimmed), left⟩

/-! ## Accounts -/

/-- The recorded weight is the weight of the entries, and the limits are kept. -/
structure Accounted (limits : Limits) (cache : Cache κ ν) : Prop where
  weight : cache.weight = entriesWeight cache.entries.entries
  size : cache.entries.size ≤ limits.maxSize
  within : cache.weight ≤ limits.maxWeight

omit [DecidableEq κ] in
theorem accounted_empty (limits : Limits) : Accounted limits (empty : Cache κ ν) :=
  ⟨rfl, Nat.zero_le _, Int.natCast_nonneg _⟩

omit [DecidableEq κ] in
theorem trim_accounted {limits : Limits} {entries : List (κ × ν × Nat)} {weight : Int}
    (recorded : weight = entriesWeight entries) :
    ∃ kept left, trim limits entries weight = some (kept, left) ∧ left = entriesWeight kept ∧
      kept.length ≤ limits.maxSize ∧ left ≤ limits.maxWeight := by
  induction entries generalizing weight with
  | nil =>
      rw [entriesWeight_nil] at recorded
      use [], weight
      rw [trim, if_neg (by omega)]
      exact ⟨rfl, recorded, Nat.zero_le _, by omega⟩
  | cons entry entries induction =>
      rw [entriesWeight_cons] at recorded
      rw [trim]
      split
      · exact induction (by omega)
      · rename_i fits
        rw [not_or, not_lt, not_lt] at fits
        exact ⟨_, _, rfl, by rw [entriesWeight_cons, recorded], fits.1, fits.2⟩

theorem weight_inserted {limits : Limits} {cache : Cache κ ν} (accounted : Accounted limits cache)
    (key : κ) (value : ν) (weight : Nat) :
    cache.weight - cache.replacedWeight key + weight =
      entriesWeight (cache.inserted key value weight).entries := by
  have replaced : (cache.replacedWeight key : Int) =
      cache.entries.weightAt (fun entry => entry.2) key := by
    rw [replacedWeight, Dict.weightAt]
    cases cache.entries.get? key with
    | none => rfl
    | some entry => rfl
  rw [accounted.weight, entriesWeight_entries, entriesWeight_entries, inserted, Dict.total_append,
    Dict.total_erase, replaced]

theorem remember_accounted {limits : Limits} {cache : Cache κ ν}
    (accounted : Accounted limits cache)
    (key : κ) (value : ν) (weight : Nat) :
    ∃ next, cache.remember limits key value weight = some next ∧ Accounted limits next := by
  rcases trim_accounted (weight_inserted accounted key value weight) with
    ⟨kept, left, trimmed, sums, size, within⟩
  rw [remember]
  split
  · rename_i failed
    rw [trimmed] at failed
    cases failed
  · rename_i found
    rw [trimmed] at found
    cases found
    exact ⟨_, rfl, sums, size, within⟩

theorem fetch_eq_some {cache next : Cache κ ν} {key : κ} {value : ν}
    (hit : cache.fetch key = some (value, next)) :
    ∃ weight, cache.entries.get? key = some (value, weight) ∧
      next = { cache with entries := cache.entries.moveToEnd key } := by
  rw [fetch] at hit
  split at hit
  · cases hit
  · rename_i entry found
    cases hit
    exact ⟨entry.2, found, rfl⟩

theorem fetch_accounted {limits : Limits} {cache next : Cache κ ν} {key : κ} {value : ν}
    (accounted : Accounted limits cache) (hit : cache.fetch key = some (value, next)) :
    Accounted limits next := by
  rcases fetch_eq_some hit with ⟨weight, _, rfl⟩
  constructor
  · rw [accounted.weight, entriesWeight_entries, entriesWeight_entries, Dict.total_moveToEnd]
  · have sizes := cache.entries.total_moveToEnd key fun _ => 1
    rw [← Dict.size_eq_total, ← Dict.size_eq_total] at sizes
    exact (Int.ofNat.inj sizes).trans_le accounted.size
  · exact accounted.within

/-! ## Contents -/

/-- Every value in the cache is related to its key, and to the weight it is kept with. -/
def Holds (relation : κ → ν → Nat → Prop) (cache : Cache κ ν) : Prop :=
  ∀ key value weight, cache.entries.get? key = some (value, weight) → relation key value weight

variable {relation : κ → ν → Nat → Prop} {cache next : Cache κ ν} {key : κ} {value : ν}

theorem holds_empty (relation : κ → ν → Nat → Prop) : Holds relation (empty : Cache κ ν) := by
  intro key value weight found
  cases found

theorem Holds.of_fetch (holds : Holds relation cache)
    (hit : cache.fetch key = some (value, next)) :
    (∃ weight, relation key value weight) ∧ Holds relation next := by
  rcases fetch_eq_some hit with ⟨weight, found, rfl⟩
  constructor
  · exact ⟨weight, holds key value weight found⟩
  · intro other stored weight found
    rw [Dict.get?_moveToEnd] at found
    exact holds other stored weight found

theorem Holds.of_remember (holds : Holds relation cache) {limits : Limits} {weight : Nat}
    (related : relation key value weight)
    (stored : cache.remember limits key value weight = some next) : Holds relation next := by
  rw [remember] at stored
  split at stored
  · cases stored
  · rename_i kept left trimmed
    cases stored
    intro other found weight' there
    rw [Dict.get?_eq_some] at there
    have inside := (trim_suffix trimmed).subset there
    rw [← Dict.get?_eq_some, inserted, Dict.get?_append] at inside
    split at inside
    · rename_i same
      cases inside
      rw [same]
      exact related
    · rw [Dict.get?_erase] at inside
      split at inside
      · cases inside
      · exact holds other found weight' inside

end Cache

end ExQServe.Caching
