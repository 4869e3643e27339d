import ExQServe.Agent.JsonCanonical

/-! # `json.loads`

The parser of the standard library: unlike the strict one it keeps the last of the members
with one name. A number that is not finite has no counterpart among the values here. -/

namespace ExQServe

open ExQServe.Json

namespace JsonObject

/-- `entries[key] = value` -/
def assign (entries : JsonObject) (key : PyStr) (value : JsonValue) : JsonObject :=
  if (entries.get? key).isSome then
    entries.map fun entry => if entry.1 = key then (key, value) else entry
  else
    entries ++ [(key, value)]

def ofPairs (pairs : List (PyStr × JsonValue)) : JsonObject :=
  pairs.foldl (fun entries pair => entries.assign pair.1 pair.2) []

theorem get?_cons (entry : PyStr × JsonValue) (entries : JsonObject) (key : PyStr) :
    get? (entry :: entries) key = if entry.1 = key then some entry.2 else get? entries key := by
  by_cases here : entry.1 = key
  · simp [get?, here]
  · simp [get?, here]

theorem get?_eq_none {entries : JsonObject} {key : PyStr} :
    entries.get? key = none ↔ key ∉ entries.map Prod.fst := by
  induction entries with
  | nil => simp [get?]
  | cons entry entries induction =>
      rw [get?_cons]
      by_cases here : entry.1 = key
      · simp [here]
      · simp [here, induction, Ne.symm here]

theorem assign_new {entries : JsonObject} {key : PyStr} (missing : key ∉ entries.map Prod.fst)
    (value : JsonValue) : entries.assign key value = entries ++ [(key, value)] := by
  simp [assign, get?_eq_none.mpr missing]

/-- Pairs with distinct names are the members as they are. -/
theorem ofPairs_eq {pairs : List (PyStr × JsonValue)} (distinct : (pairs.map Prod.fst).Nodup) :
    ofPairs pairs = pairs := by
  have behind : ∀ (rest front : JsonObject), ((front ++ rest).map Prod.fst).Nodup →
      rest.foldl (fun entries pair => entries.assign pair.1 pair.2) front = front ++ rest := by
    intro rest
    induction rest with
    | nil => simp
    | cons pair rest induction =>
        intro front distinct
        have missing : pair.1 ∉ front.map Prod.fst := by
          intro member
          rw [List.map_append, List.map_cons] at distinct
          exact (List.nodup_middle.mp distinct |> List.nodup_cons.mp).1
            (List.mem_append_left _ member)
        rw [List.foldl_cons, assign_new missing,
          induction (front ++ [pair]) (by rwa [List.append_assoc, List.singleton_append]),
          List.append_assoc, List.singleton_append]
  exact behind pairs [] distinct

end JsonObject

namespace Json

mutual

def loadValue : Nat → PyStr → Option (JsonValue × PyStr)
  | 0, _ => none
  | fuel + 1, text =>
      match text with
      | [] => none
      | first :: rest =>
          if first = chr '"' then
            (scanString rest).map fun found => (.str found.1, found.2)
          else if first = chr '[' then
            let inside := skipWhitespace rest
            if inside.head? = some (chr ']') then some (.list [], inside.drop 1)
            else (loadItems fuel inside).map fun found => (.list found.1, found.2)
          else if first = chr '{' then
            let inside := skipWhitespace rest
            if inside.head? = some (chr '}') then some (.dict [], inside.drop 1)
            else (loadEntries fuel inside).map fun found =>
              (.dict (JsonObject.ofPairs found.1), found.2)
          else if first = chr '-' ∨ isAsciiDigit first then scanNumber text
          else scanName text

def loadItems : Nat → PyStr → Option (List JsonValue × PyStr)
  | 0, _ => none
  | fuel + 1, text =>
      match loadValue fuel text with
      | none => none
      | some (item, after) =>
          match skipWhitespace after with
          | [] => none
          | next :: rest =>
              if next = chr ']' then some ([item], rest)
              else if next = chr ',' then
                (loadItems fuel (skipWhitespace rest)).map fun found =>
                  (item :: found.1, found.2)
              else none

def loadEntries : Nat → PyStr → Option (List (PyStr × JsonValue) × PyStr)
  | 0, _ => none
  | fuel + 1, text =>
      match text with
      | [] => none
      | quote :: rest =>
          if quote = chr '"' then
            match scanString rest with
            | none => none
            | some (key, afterKey) =>
                match skipWhitespace afterKey with
                | [] => none
                | colon :: afterColon =>
                    if colon = chr ':' then
                      match loadValue fuel (skipWhitespace afterColon) with
                      | none => none
                      | some (value, after) =>
                          match skipWhitespace after with
                          | [] => none
                          | next :: rest' =>
                              if next = chr '}' then some ([(key, value)], rest')
                              else if next = chr ',' then
                                (loadEntries fuel (skipWhitespace rest')).map fun found =>
                                  ((key, value) :: found.1, found.2)
                              else none
                    else none
          else none

end

/-- What the strict parser reads with this fuel is read the same. -/
structure LoadsSame (fuel : Nat) : Prop where
  value : ∀ text found, scanValue fuel text = some found → loadValue fuel text = some found
  items : ∀ text found, scanItems fuel text = some found → loadItems fuel text = some found
  entries : ∀ text found, scanEntries fuel text = some found → loadEntries fuel text = some found

namespace LoadsSame

variable {fuel : Nat} (same : LoadsSame fuel)

include same

theorem succ_value {text : PyStr} {found : JsonValue × PyStr}
    (read : scanValue (fuel + 1) text = some found) : loadValue (fuel + 1) text = some found := by
  rw [scanValue.eq_def] at read
  rw [loadValue.eq_def]
  cases text with
  | nil => exact read
  | cons first rest =>
      dsimp only at read ⊢
      by_cases quote : first = chr '"'
      · rw [if_pos quote] at read ⊢
        exact read
      rw [if_neg quote] at read ⊢
      by_cases bracket : first = chr '['
      · rw [if_pos bracket] at read ⊢
        by_cases empty : (skipWhitespace rest).head? = some (chr ']')
        · rw [if_pos empty] at read ⊢
          exact read
        rw [if_neg empty] at read ⊢
        rcases Option.map_eq_some_iff.mp read with ⟨inner, scanned, made⟩
        rw [same.items _ _ scanned]
        exact congrArg some made
      rw [if_neg bracket] at read ⊢
      by_cases brace : first = chr '\x7b'
      · rw [if_pos brace] at read ⊢
        by_cases empty : (skipWhitespace rest).head? = some (chr '\x7d')
        · rw [if_pos empty] at read ⊢
          exact read
        rw [if_neg empty] at read ⊢
        cases scanned : scanEntries fuel (skipWhitespace rest) with
        | none =>
            rw [scanned] at read
            cases read
        | some inner =>
            rcases inner with ⟨entries, after⟩
            rw [scanned] at read
            dsimp only at read
            split at read
            · rename_i distinct
              rw [same.entries _ _ scanned, Option.map_some, JsonObject.ofPairs_eq distinct]
              exact read
            · cases read
      rw [if_neg brace] at read ⊢
      exact read

theorem succ_items {text : PyStr} {found : List JsonValue × PyStr}
    (read : scanItems (fuel + 1) text = some found) : loadItems (fuel + 1) text = some found := by
  rw [scanItems] at read
  rw [loadItems]
  cases scanned : scanValue fuel text with
  | none =>
      rw [scanned] at read
      cases read
  | some here =>
      rw [scanned] at read
      rw [same.value _ _ scanned]
      dsimp only at read ⊢
      cases white : skipWhitespace here.2 with
      | nil =>
          rw [white] at read
          cases read
      | cons next rest =>
          rw [white] at read
          dsimp only at read ⊢
          by_cases closed : next = chr ']'
          · rw [if_pos closed] at read ⊢
            exact read
          rw [if_neg closed] at read ⊢
          by_cases comma : next = chr ','
          · rw [if_pos comma] at read ⊢
            rcases Option.map_eq_some_iff.mp read with ⟨inner, later, made⟩
            rw [same.items _ _ later]
            exact congrArg some made
          · rw [if_neg comma] at read
            cases read

theorem succ_entries {text : PyStr} {found : List (PyStr × JsonValue) × PyStr}
    (read : scanEntries (fuel + 1) text = some found) :
    loadEntries (fuel + 1) text = some found := by
  rw [scanEntries.eq_def] at read
  rw [loadEntries.eq_def]
  cases text with
  | nil => exact read
  | cons quote rest =>
      dsimp only at read ⊢
      by_cases quoted : quote = chr '"'
      swap
      · rw [if_neg quoted] at read
        cases read
      rw [if_pos quoted] at read ⊢
      cases named : scanString rest with
      | none =>
          rw [named] at read
          cases read
      | some key =>
      rw [named] at read
      dsimp only at read ⊢
      cases white : skipWhitespace key.2 with
      | nil =>
          rw [white] at read
          cases read
      | cons colon afterColon =>
      rw [white] at read
      dsimp only at read ⊢
      by_cases colons : colon = chr ':'
      swap
      · rw [if_neg colons] at read
        cases read
      rw [if_pos colons] at read ⊢
      cases scanned : scanValue fuel (skipWhitespace afterColon) with
      | none =>
          rw [scanned] at read
          cases read
      | some here =>
      rw [scanned] at read
      rw [same.value _ _ scanned]
      dsimp only at read ⊢
      cases white' : skipWhitespace here.2 with
      | nil =>
          rw [white'] at read
          cases read
      | cons next rest' =>
      rw [white'] at read
      dsimp only at read ⊢
      by_cases closed : next = chr '\x7d'
      · rw [if_pos closed] at read ⊢
        exact read
      rw [if_neg closed] at read ⊢
      by_cases comma : next = chr ','
      · rw [if_pos comma] at read ⊢
        rcases Option.map_eq_some_iff.mp read with ⟨inner, later, made⟩
        rw [same.entries _ _ later]
        exact congrArg some made
      · rw [if_neg comma] at read
        cases read

end LoadsSame

theorem loadsSame (fuel : Nat) : LoadsSame fuel := by
  induction fuel with
  | zero =>
      constructor
      · intro text found read
        cases read
      · intro text found read
        cases read
      · intro text found read
        cases read
  | succ fuel induction => exact ⟨fun _ _ => induction.succ_value, fun _ _ => induction.succ_items,
      fun _ _ => induction.succ_entries⟩

end Json

/-- `json.loads(text)`; `none` stands for an error. -/
def jsonLoads (text : PyStr) : Option JsonValue :=
  match loadValue (2 * text.length + 1) (skipWhitespace text) with
  | none => none
  | some (value, after) => if skipWhitespace after = [] then some value else none

theorem jsonLoads_of_strict {text : PyStr} {value : JsonValue}
    (read : parseJsonStrict text = some value) : jsonLoads text = some value := by
  rw [parseJsonStrict] at read
  rw [jsonLoads]
  cases scanned : scanValue (2 * text.length + 1) (skipWhitespace text) with
  | none =>
      rw [scanned] at read
      cases read
  | some found =>
      rw [scanned] at read
      rw [(loadsSame _).value _ _ scanned]
      exact read

theorem jsonLoads_canonicalJsonDumps {value : JsonValue} (portable : value.portable = true)
    {gap : PyStr} (spaces : Spaces gap) :
    jsonLoads (canonicalJsonDumps value ++ gap) = some value.sorted :=
  jsonLoads_of_strict (parseJsonStrict_canonicalJsonDumps portable spaces)

namespace Json

/-! ## The characters of a text -/

/-- The text has no control character and no lone surrogate. -/
def Printed (text : PyStr) : Prop := ∀ char ∈ text, 0x20 ≤ char.val ∧ char.isSurrogate = false

@[simp] theorem printed_nil : Printed [] := by
  simp [Printed]

@[simp] theorem printed_cons {char : PyChar} {text : PyStr} :
    Printed (char :: text) ↔ (0x20 ≤ char.val ∧ char.isSurrogate = false) ∧ Printed text := by
  simp [Printed]

@[simp] theorem printed_append {first second : PyStr} :
    Printed (first ++ second) ↔ Printed first ∧ Printed second := by
  simp only [Printed, List.mem_append, or_imp]
  exact forall_and

/-- Whether a literal text is printed can be computed. -/
theorem printed_of_all {text : PyStr}
    (all : (text.all fun char => decide (0x20 ≤ char.val) && !char.isSurrogate) = true) :
    Printed text := by
  intro char member
  simpa using List.all_eq_true.mp all char member

theorem printed_escapeChar {char : PyChar} (encodable : char.isSurrogate = false) :
    Printed (escapeChar char) := by
  have digit : ∀ value : Fin 16, Printed [hexDigit value.val] := by
    intro value
    apply printed_of_all
    revert value
    decide
  rw [escapeChar]
  split_ifs with quote slash
  · exact printed_of_all (by decide)
  · exact printed_of_all (by decide)
  · exact printed_of_all (by decide)
  · exact printed_of_all (by decide)
  · exact printed_of_all (by decide)
  · exact printed_of_all (by decide)
  · exact printed_of_all (by decide)
  · have first := digit ⟨char.val / 16, by omega⟩
    have second := digit ⟨char.val % 16, by omega⟩
    rw [printed_append]
    exact ⟨printed_of_all (by decide), printed_append.mpr ⟨first, second⟩⟩
  · simpa [encodable] using ‹¬char.val < 0x20›

theorem printed_dumpsString {text : PyStr} (encodable : text.utf8Encodable = true) :
    Printed (dumpsString text) := by
  have quote : Printed (py "\"") := printed_of_all (by decide)
  have inside : Printed (text.flatMap escapeChar) := by
    intro char member
    rcases List.mem_flatMap.mp member with ⟨original, here, escaped⟩
    have plain : original.isSurrogate = false := by
      simpa using List.all_eq_true.mp encodable original here
    exact printed_escapeChar plain char escaped
  exact printed_append.mpr ⟨printed_append.mpr ⟨quote, inside⟩, quote⟩

theorem printed_number {text : PyStr} {value : JsonValue}
    (read : scanNumber text = some (value, [])) : Printed text := by
  rcases scanNumber_reads read with ⟨front, split, shape, -⟩
  rw [split, List.append_nil]
  intro char member
  have number := shape.chars char member
  have small : ∀ code : PyChar, numberChar code = true → 0x20 ≤ code.val ∧ code.val < 0x80 := by
    intro code number
    simp only [numberChar, Bool.or_eq_true, beq_iff_eq] at number
    rcases number with ((((digit | same) | same) | same) | same) | same
    · have bounds := of_decide_eq_true digit
      omega
    all_goals
      rw [same]
      decide
  have bounds := small char number
  exact ⟨bounds.1, decide_eq_false (by omega)⟩

theorem printed_joinComma {parts : List PyStr} (each : ∀ part ∈ parts, Printed part) :
    Printed (joinComma parts) := by
  induction parts with
  | nil => simp [joinComma]
  | cons part parts induction =>
      have here := each part List.mem_cons_self
      cases parts with
      | nil => simpa [joinComma] using here
      | cons next parts =>
          have later := induction fun other member => each other (List.mem_cons_of_mem _ member)
          have comma : Printed (chr ',' :: joinComma (next :: parts)) :=
            printed_cons.mpr ⟨by decide, later⟩
          have parted : joinComma (part :: next :: parts) =
              part ++ chr ',' :: joinComma (next :: parts) := by
            simp [joinComma]
          rw [parted]
          exact printed_append.mpr ⟨here, comma⟩

theorem printed_jsonDumps {value : JsonValue} (portable : value.portable = true) :
    Printed (jsonDumps value) := by
  induction value using JsonValue.inductive_on with
  | null =>
      rw [jsonDumps]
      exact printed_of_all (by decide)
  | bool value =>
      cases value with
      | false =>
          rw [jsonDumps]
          exact printed_of_all (by decide)
      | true =>
          rw [jsonDumps]
          exact printed_of_all (by decide)
  | int value =>
      have small : value.natAbs < 10 ^ maxIntDigits := by
        simpa [JsonValue.portable] using portable
      rw [jsonDumps]
      exact printed_number (scanNumber_dumpsInt small)
  | float value =>
      rw [jsonDumps]
      exact printed_number (scanNumber_repr value)
  | str text =>
      rw [jsonDumps]
      exact printed_dumpsString portable
  | list items induction =>
      have inside : ∀ part ∈ items.map jsonDumps, Printed part := by
        intro part member
        rcases List.mem_map.mp member with ⟨item, here, rfl⟩
        exact induction item here (JsonValue.portable_list.mp portable item here)
      have bracket : Printed (py "]") := printed_of_all (by decide)
      rw [jsonDumps_list, List.cons_append, printed_cons, printed_append]
      exact ⟨by decide, printed_joinComma inside, bracket⟩
  | dict entries induction =>
      rcases JsonValue.portable_dict.mp portable with ⟨-, each⟩
      have inside : ∀ part ∈ entries.map dumpsMember, Printed part := by
        intro part member
        rcases List.mem_map.mp member with ⟨entry, here, rfl⟩
        have value := induction entry here (each entry here).2
        rw [dumpsMember, printed_append, printed_cons]
        exact ⟨printed_dumpsString (each entry here).1, by decide, value⟩
      have brace : Printed (py "\x7d") := printed_of_all (by decide)
      rw [jsonDumps_dict, List.cons_append, printed_cons, printed_append]
      exact ⟨by decide, printed_joinComma inside, brace⟩

end Json

end ExQServe
