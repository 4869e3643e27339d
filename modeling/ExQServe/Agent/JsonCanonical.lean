import ExQServe.Agent.JsonWriter
import ExQServe.Agent.Tools

/-! # Canonical JSON text

What `canonical_json_dumps` writes is the text of the value with its members sorted. A
portable value is read from it as that sorted value. -/

namespace ExQServe

open ExQServe.Json

namespace JsonValue

/-! ## Values inside a value -/

mutual

/-- The value with the members of every object in the order of their names. -/
def sorted : JsonValue → JsonValue
  | .list items => .list (sortedItems items)
  | .dict entries => .dict (sortByKey (sortedEntries entries))
  | value => value

def sortedItems : List JsonValue → List JsonValue
  | [] => []
  | item :: items => sorted item :: sortedItems items

def sortedEntries : List (PyStr × JsonValue) → List (PyStr × JsonValue)
  | [] => []
  | (key, value) :: entries => (key, sorted value) :: sortedEntries entries

end

mutual

/-- No object of the value repeats a name, no string of it has a lone surrogate, and `int`
reads its integers. -/
def portable : JsonValue → Bool
  | .int value => decide (value.natAbs < 10 ^ maxIntDigits)
  | .str text => text.utf8Encodable
  | .list items => portableItems items
  | .dict entries => decide (entries.map Prod.fst).Nodup && portableEntries entries
  | _ => true

def portableItems : List JsonValue → Bool
  | [] => true
  | item :: items => portable item && portableItems items

def portableEntries : List (PyStr × JsonValue) → Bool
  | [] => true
  | (key, value) :: entries => key.utf8Encodable && portable value && portableEntries entries

end

@[simp] theorem sortedItems_eq (items : List JsonValue) : sortedItems items = items.map sorted := by
  induction items with
  | nil => rfl
  | cons item items induction => rw [sortedItems, induction, List.map_cons]

@[simp] theorem sortedEntries_eq (entries : List (PyStr × JsonValue)) :
    sortedEntries entries = entries.map (Prod.map id sorted) := by
  induction entries with
  | nil => rfl
  | cons entry entries induction =>
      rw [sortedEntries, induction, List.map_cons]
      rfl

@[simp] theorem sorted_list (items : List JsonValue) :
    sorted (.list items) = .list (items.map sorted) := by
  simp [sorted]

@[simp] theorem sorted_dict (entries : List (PyStr × JsonValue)) :
    sorted (.dict entries) = .dict (sortByKey (entries.map (Prod.map id sorted))) := by
  simp [sorted]

@[simp] theorem portable_list {items : List JsonValue} :
    portable (.list items) = true ↔ ∀ item ∈ items, item.portable = true := by
  rw [portable]
  induction items with
  | nil => simp [portableItems]
  | cons item items induction => simp [portableItems, induction]

@[simp] theorem portable_dict {entries : List (PyStr × JsonValue)} :
    portable (.dict entries) = true ↔ (entries.map Prod.fst).Nodup ∧
      ∀ entry ∈ entries, entry.1.utf8Encodable = true ∧ entry.2.portable = true := by
  have inside : portableEntries entries = true ↔
      ∀ entry ∈ entries, entry.1.utf8Encodable = true ∧ entry.2.portable = true := by
    induction entries with
    | nil => simp [portableEntries]
    | cons entry entries induction => simp [portableEntries, induction]
  rw [portable, Bool.and_eq_true, decide_eq_true_iff, inside]

/-- A literal has no lone surrogate. -/
@[simp] theorem encodable_py (literal : String) : (py literal).utf8Encodable = true := by
  rw [PyStr.utf8Encodable, List.all_eq_true]
  intro code member
  rcases List.mem_map.mp member with ⟨char, -, rfl⟩
  have outside : ¬(0xd800 ≤ char.toNat ∧ char.toNat ≤ 0xdfff) := by
    rcases char.valid with low | high
    · intro inside
      exact absurd low (Nat.not_lt.mpr inside.1)
    · intro inside
      exact absurd high.1 (Nat.not_lt.mpr inside.2)
  have plain : (PyChar.ofChar char).isSurrogate = false := decide_eq_false outside
  simp [plain]

/-- A property of scalars that lists and objects inherit from what is in them holds of every
value. -/
theorem inductive_on {motive : JsonValue → Prop} (null : motive .null)
    (bool : ∀ value, motive (.bool value)) (int : ∀ value, motive (.int value))
    (float : ∀ value, motive (.float value)) (str : ∀ text, motive (.str text))
    (list : ∀ items, (∀ item ∈ items, motive item) → motive (.list items))
    (dict : ∀ entries, (∀ entry ∈ entries, motive entry.2) → motive (.dict entries))
    (value : JsonValue) : motive value := by
  refine @JsonValue.rec motive (fun items => ∀ item ∈ items, motive item)
    (fun entries => ∀ entry ∈ entries, motive entry.2) (fun entry => motive entry.2)
    null bool int float str list dict ?_ ?_ ?_ ?_ ?_ value
  · simp
  · intro item items here later
    exact List.forall_mem_cons.mpr ⟨here, later⟩
  · simp
  · intro entry entries here later
    exact List.forall_mem_cons.mpr ⟨here, later⟩
  · intro key value here
    exact here

end JsonValue

namespace Json

/-! ## Sorting -/

theorem insertByKey_map {β γ : Type} (change : β → γ) (entry : PyStr × β)
    (entries : List (PyStr × β)) :
    insertByKey (Prod.map id change entry) (entries.map (Prod.map id change)) =
      (insertByKey entry entries).map (Prod.map id change) := by
  induction entries with
  | nil => rfl
  | cons head rest induction =>
      rw [List.map_cons, insertByKey, insertByKey, induction]
      simp only [Prod.map_fst, id_eq]
      split
      · rfl
      · rfl

theorem sortByKey_map {β γ : Type} (change : β → γ) (entries : List (PyStr × β)) :
    sortByKey (entries.map (Prod.map id change)) =
      (sortByKey entries).map (Prod.map id change) := by
  induction entries with
  | nil => rfl
  | cons entry rest induction =>
      rw [List.map_cons, sortByKey, induction, insertByKey_map, sortByKey]

/-! ## The text that is written -/

theorem jsonDumps_items (item : JsonValue) (items : List JsonValue) :
    jsonDumps item ++ dumpsRest items =
      joinComma ((item :: items).map jsonDumps) ++ [chr ']'] := by
  induction items generalizing item with
  | nil => simp [dumpsRest, joinComma]
  | cons next items induction =>
      rw [dumpsRest, induction next]
      simp [joinComma]

theorem jsonDumps_list (items : List JsonValue) :
    jsonDumps (.list items) = chr '[' :: joinComma (items.map jsonDumps) ++ py "]" := by
  cases items with
  | nil => rw [jsonDumps]; rfl
  | cons item items =>
      rw [jsonDumps, jsonDumps_items]
      rfl

def dumpsMember (entry : PyStr × JsonValue) : PyStr :=
  dumpsString entry.1 ++ chr ':' :: jsonDumps entry.2

theorem jsonDumps_members (entry : PyStr × JsonValue) (entries : List (PyStr × JsonValue)) :
    dumpsMember entry ++ dumpsMembers entries =
      joinComma ((entry :: entries).map dumpsMember) ++ [chr '\x7d'] := by
  induction entries generalizing entry with
  | nil => simp [dumpsMembers, joinComma]
  | cons next entries induction =>
      have later := induction next
      have parts : joinComma ((entry :: next :: entries).map dumpsMember) =
          dumpsMember entry ++ chr ',' :: joinComma ((next :: entries).map dumpsMember) := by
        simp [joinComma]
      rw [parts, List.append_assoc, List.cons_append, ← later]
      simp [dumpsMembers, dumpsMember]

theorem jsonDumps_dict (entries : List (PyStr × JsonValue)) :
    jsonDumps (.dict entries) = chr '\x7b' :: joinComma (entries.map dumpsMember) ++ py "\x7d" := by
  cases entries with
  | nil => rw [jsonDumps]; rfl
  | cons entry entries =>
      have shape : jsonDumps (.dict (entry :: entries)) =
          chr '\x7b' :: (dumpsMember entry ++ dumpsMembers entries) := by
        simp [jsonDumps, dumpsMember]
      rw [shape, jsonDumps_members]
      rfl

theorem dumpsItems_eq (items : List JsonValue) :
    dumpsItems items = items.map canonicalJsonDumps := by
  induction items with
  | nil => rfl
  | cons item items induction => rw [dumpsItems, induction, List.map_cons]

theorem dumpsEntries_eq (entries : List (PyStr × JsonValue)) :
    dumpsEntries entries = entries.map (Prod.map id canonicalJsonDumps) := by
  induction entries with
  | nil => rfl
  | cons entry entries induction =>
      rw [dumpsEntries, induction, List.map_cons]
      rfl

end Json

/-- The canonical text of a value is the text of the sorted value. -/
theorem canonicalJsonDumps_eq (value : JsonValue) :
    canonicalJsonDumps value = jsonDumps value.sorted := by
  induction value using JsonValue.inductive_on with
  | null => simp [canonicalJsonDumps, JsonValue.sorted, jsonDumps]
  | bool value => cases value <;> simp [canonicalJsonDumps, JsonValue.sorted, jsonDumps]
  | int value => simp [canonicalJsonDumps, JsonValue.sorted, jsonDumps]
  | float value => simp [canonicalJsonDumps, JsonValue.sorted, jsonDumps]
  | str text => simp [canonicalJsonDumps, JsonValue.sorted, jsonDumps]
  | list items induction =>
      rw [canonicalJsonDumps, dumpsItems_eq, JsonValue.sorted_list, jsonDumps_list, List.map_map,
        List.map_congr_left induction]
      rfl
  | dict entries induction =>
      have same : entries.map (Prod.map id canonicalJsonDumps) =
          entries.map (Prod.map id (jsonDumps ∘ JsonValue.sorted)) := by
        apply List.map_congr_left
        intro entry member
        simp [Prod.map, induction entry member]
      rw [canonicalJsonDumps, dumpsEntries_eq, same, sortByKey_map, JsonValue.sorted_dict,
        jsonDumps_dict, sortByKey_map, List.map_map, List.map_map]
      rfl

namespace Json

/-! ## Reading the text -/

theorem written_items {items : List JsonValue}
    (each : ∀ item ∈ items, Written (.value item) (jsonDumps item)) (nonEmpty : items ≠ []) :
    Written (.items items) (dumpsPart (.items items)) := by
  induction items with
  | nil => exact absurd rfl nonEmpty
  | cons item items induction =>
      have here := each item List.mem_cons_self
      cases items with
      | nil => exact @Written.lastItem _ [] _ here .nil
      | cons next items =>
          have later := induction (fun other member => each other (List.mem_cons_of_mem _ member))
            (List.cons_ne_nil _ _)
          exact @Written.item _ [] [] _ _ _ here .nil .nil later

theorem written_entries {entries : List (PyStr × JsonValue)}
    (each : ∀ entry ∈ entries, Written (.value entry.2) (jsonDumps entry.2))
    (nonEmpty : entries ≠ []) : Written (.entries entries) (dumpsPart (.entries entries)) := by
  induction entries with
  | nil => exact absurd rfl nonEmpty
  | cons entry entries induction =>
      have here := each entry List.mem_cons_self
      rcases dumpsString_written entry.1 with ⟨body, same, string, read⟩
      cases entries with
      | nil =>
          rw [dumpsPart, same]
          exact @Written.lastEntry _ [] [] _ [] _ _ string read .nil .nil here .nil
      | cons next entries =>
          have later := induction (fun other member => each other (List.mem_cons_of_mem _ member))
            (List.cons_ne_nil _ _)
          rw [dumpsPart, same]
          exact @Written.entry _ [] [] _ [] [] _ _ _ _ string read .nil .nil here .nil .nil later

/-- A portable value is written as a text of it. -/
theorem written_jsonDumps {value : JsonValue} (portable : value.portable = true) :
    Written (.value value) (jsonDumps value) := by
  induction value using JsonValue.inductive_on with
  | null => exact @Written.name (jsonDumps .null) .null (by simp [jsonDumps])
  | bool value =>
      cases value with
      | false => exact @Written.name (jsonDumps (.bool false)) _ (by simp [jsonDumps])
      | true => exact @Written.name (jsonDumps (.bool true)) _ (by simp [jsonDumps])
  | int value =>
      have small : value.natAbs < 10 ^ maxIntDigits := by simpa [JsonValue.portable] using portable
      have read := scanNumber_dumpsInt small
      exact written_scanned (by rwa [jsonDumps])
  | float value =>
      have read := scanNumber_repr value
      exact written_scanned (by rwa [jsonDumps])
  | str text =>
      rcases dumpsString_written text with ⟨body, same, string, read⟩
      rw [jsonDumps, same]
      exact .str string read
  | list items induction =>
      have each := fun item member =>
        induction item member (JsonValue.portable_list.mp portable item member)
      cases items with
      | nil => exact @Written.emptyList [] .nil
      | cons item items =>
          exact @Written.list [] _ _ .nil (written_items each (List.cons_ne_nil _ _))
  | dict entries induction =>
      rcases JsonValue.portable_dict.mp portable with ⟨distinct, inside⟩
      have each := fun entry member => induction entry member (inside entry member).2
      cases entries with
      | nil => exact @Written.emptyDict [] .nil
      | cons entry entries =>
          exact @Written.dict [] _ _ .nil (written_entries each (List.cons_ne_nil _ _)) distinct

end Json

theorem JsonValue.portable_sorted {value : JsonValue} (portable : value.portable = true) :
    value.sorted.portable = true := by
  induction value using JsonValue.inductive_on with
  | null | bool | int | float | str => exact portable
  | list items induction =>
      rw [sorted_list, portable_list]
      intro item member
      rcases List.mem_map.mp member with ⟨original, inside, rfl⟩
      exact induction original inside (portable_list.mp portable original inside)
  | dict entries induction =>
      rcases portable_dict.mp portable with ⟨distinct, each⟩
      have moved := sortByKey_perm (entries.map (Prod.map id sorted))
      have names : (entries.map (Prod.map id sorted)).map Prod.fst = entries.map Prod.fst := by
        simp [List.map_map, Function.comp_def]
      rw [sorted_dict, portable_dict]
      constructor
      · rw [(moved.map Prod.fst).nodup_iff, names]
        exact distinct
      · intro entry member
        rcases List.mem_map.mp (moved.mem_iff.mp member) with ⟨original, inside, rfl⟩
        exact ⟨(each original inside).1, induction original inside (each original inside).2⟩

/-- A portable value, sorted, is read from its canonical text and whitespace behind it. -/
theorem parseJsonStrict_canonicalJsonDumps {value : JsonValue} (portable : value.portable = true)
    {gap : PyStr} (spaces : Json.Spaces gap) :
    parseJsonStrict (canonicalJsonDumps value ++ gap) = some value.sorted := by
  rw [canonicalJsonDumps_eq]
  exact parseJsonStrict_eq_some.mpr ⟨[], _, gap, .nil, spaces,
    Json.written_jsonDumps (JsonValue.portable_sorted portable), rfl⟩

theorem parsed_of_sorted {document : JsonObject}
    (portable : (JsonValue.dict document).portable = true)
    (sorted : (JsonValue.dict document).sorted = .dict document) :
    ∃ entries, canonicalJsonDumps (.dict document) = canonicalJsonDumps (.dict entries) ∧
      parseJsonStrict (canonicalJsonDumps (.dict document)) = some (.dict document) := by
  have read := parseJsonStrict_canonicalJsonDumps portable .nil
  rw [List.append_nil, sorted] at read
  exact ⟨document, rfl, read⟩

theorem draft_of_undeclared {document : JsonObject}
    (undeclared : document.get? (py "$schema") = none) (declared : JsonValue)
    (found : document.get? (py "$schema") = some declared) :
    declared = .null ∨ declared = .str draft202012 := by
  cases undeclared.symm.trans found

/-- The schema that `JsonSchema` makes of a sorted document which declares no draft. -/
def JsonSchema.ofSorted (document : JsonObject)
    (portable : (JsonValue.dict document).portable = true)
    (sorted : (JsonValue.dict document).sorted = .dict document)
    (undeclared : document.get? (py "$schema") = none)
    (localReferences : referencesLocal (.dict document) = true) : JsonSchema where
  canonicalJson := canonicalJsonDumps (.dict document)
  document
  parsed := parsed_of_sorted portable sorted
  draft := draft_of_undeclared undeclared
  localReferences

end ExQServe
