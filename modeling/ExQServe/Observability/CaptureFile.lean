import ExQServe.Observability.CaptureReplay
import ExQServe.Observability.Observer

/-! # Files of captures

A record comes back from a file with its members sorted, and no decoder looks at the order of
members, so it replays what the record did that was written. -/

namespace ExQServe

def JsonObject.sorted (entries : JsonObject) : JsonObject :=
  Json.sortByKey (entries.map (Prod.map id JsonValue.sorted))

namespace JsonObject

def Portable (entries : JsonObject) : Prop := (JsonValue.dict entries).portable = true

theorem get?_eq_some {entries : JsonObject} (distinct : (entries.map Prod.fst).Nodup)
    {key : PyStr} {value : JsonValue} :
    entries.get? key = some value ↔ (key, value) ∈ entries := by
  induction entries with
  | nil => simp [get?]
  | cons entry entries induction =>
      rw [List.map_cons, List.nodup_cons] at distinct
      rw [get?_cons]
      by_cases here : entry.1 = key
      · have missing : (key, value) ∉ entries := fun member =>
          distinct.1 (here ▸ List.mem_map_of_mem (f := Prod.fst) member)
        rw [if_pos here, List.mem_cons]
        constructor
        · intro same
          cases same
          exact .inl (Prod.ext here.symm rfl)
        · intro member
          rcases member with first | later
          · rw [← first]
          · exact absurd later missing
      · rw [if_neg here, induction distinct.2, List.mem_cons]
        constructor
        · exact .inr
        · intro member
          rcases member with first | later
          · exact absurd (congrArg Prod.fst first).symm here
          · exact later

theorem get?_perm {first second : JsonObject} (same : first.Perm second)
    (distinct : (first.map Prod.fst).Nodup) (key : PyStr) : first.get? key = second.get? key := by
  have distinct' : (second.map Prod.fst).Nodup := (same.map Prod.fst).nodup_iff.mp distinct
  apply Option.ext
  intro value
  rw [get?_eq_some distinct, get?_eq_some distinct', same.mem_iff]

theorem get?_map (change : JsonValue → JsonValue) (entries : JsonObject) (key : PyStr) :
    JsonObject.get? (entries.map (Prod.map id change)) key = (entries.get? key).map change := by
  induction entries with
  | nil => rfl
  | cons entry entries induction =>
      rw [List.map_cons, get?_cons, get?_cons, induction]
      simp only [Prod.map_fst, id_eq, Prod.map_snd]
      split
      · rfl
      · rfl

theorem get?_sorted {entries : JsonObject} (portable : entries.Portable) (key : PyStr) :
    entries.sorted.get? key = (entries.get? key).map JsonValue.sorted := by
  have distinct := (JsonValue.portable_dict.mp portable).1
  have moved := Json.sortByKey_perm (entries.map (Prod.map id JsonValue.sorted))
  have names : ((entries.map (Prod.map id JsonValue.sorted)).map Prod.fst).Nodup := by
    simpa [List.map_map, Function.comp_def] using distinct
  rw [sorted, get?_perm moved ((moved.map Prod.fst).nodup_iff.mpr names), get?_map]

theorem Portable.get? {entries : JsonObject} (portable : entries.Portable) (key : PyStr) :
    ∀ value ∈ entries.get? key, value.portable = true := by
  intro value found
  rcases JsonValue.portable_dict.mp portable with ⟨distinct, each⟩
  exact (each _ ((get?_eq_some distinct).mp found)).2

end JsonObject

namespace Observability

open ExQServe.Model ExQServe.Serving ExQServe.Json

/-! ## The order of members -/

section Readers

variable {α : Type} {value : Option JsonValue}

/-- A reader that looks into no list and into no object reads the same of a sorted value. -/
theorem scalar_sorted {read : Option JsonValue → Replayed α}
    (list : ∀ items items', read (some (.list items)) = read (some (.list items')))
    (dict : ∀ entries entries', read (some (.dict entries)) = read (some (.dict entries')))
    (value : Option JsonValue) : read (value.map JsonValue.sorted) = read value := by
  cases value with
  | none => rfl
  | some value =>
      cases value with
      | list items => simpa using list _ _
      | dict entries => simpa using dict _ _
      | _ => rfl

@[simp] theorem enumMember_sorted (values : α → PyStr) (members : List α) :
    enumMember values members (value.map JsonValue.sorted) = enumMember values members value :=
  scalar_sorted (fun _ _ => rfl) (fun _ _ => rfl) value

@[simp] theorem requireText_sorted (message : String) :
    requireText message (value.map JsonValue.sorted) = requireText message value :=
  scalar_sorted (fun _ _ => rfl) (fun _ _ => rfl) value

@[simp] theorem requireKind_sorted (message : String) :
    requireKind message (value.map JsonValue.sorted) = requireKind message value :=
  scalar_sorted (fun _ _ => rfl) (fun _ _ => rfl) value

@[simp] theorem requireBool_sorted (message : String) :
    requireBool message (value.map JsonValue.sorted) = requireBool message value :=
  scalar_sorted (fun _ _ => rfl) (fun _ _ => rfl) value

@[simp] theorem optionalText_sorted (message : String) :
    optionalText message (value.map JsonValue.sorted) = optionalText message value :=
  scalar_sorted (fun _ _ => rfl) (fun _ _ => rfl) value

@[simp] theorem requireNonBlank_sorted (message : String) :
    requireNonBlank message (value.map JsonValue.sorted) = requireNonBlank message value :=
  scalar_sorted (fun _ _ => rfl) (fun _ _ => rfl) value

@[simp] theorem requireDelta_sorted (message : String) :
    requireDelta message (value.map JsonValue.sorted) = requireDelta message value :=
  scalar_sorted (fun _ _ => rfl) (fun _ _ => rfl) value

@[simp] theorem requireIndex_sorted :
    requireIndex (value.map JsonValue.sorted) = requireIndex value :=
  scalar_sorted (fun _ _ => rfl) (fun _ _ => rfl) value

@[simp] theorem flagOrFalse_sorted (message : String) :
    flagOrFalse message (value.map JsonValue.sorted) = flagOrFalse message value :=
  scalar_sorted (fun _ _ => rfl) (fun _ _ => rfl) value

@[simp] theorem measured_sorted (name : String) :
    measured name (value.map JsonValue.sorted) = measured name value :=
  scalar_sorted (fun _ _ => rfl) (fun _ _ => rfl) value

@[simp] theorem measuredCount_sorted (name : String) :
    measuredCount name (value.map JsonValue.sorted) = measuredCount name value :=
  scalar_sorted (fun _ _ => rfl) (fun _ _ => rfl) value

@[simp] theorem stopSequenceOf_sorted (reason : CompletionReason) :
    stopSequenceOf reason (value.map JsonValue.sorted) = stopSequenceOf reason value :=
  scalar_sorted (fun _ _ => rfl) (fun _ _ => rfl) value

@[simp] theorem startedName_sorted :
    startedName (value.map JsonValue.sorted) = startedName value :=
  scalar_sorted (fun _ _ => rfl) (fun _ _ => rfl) value

/-- A reader of an object that does not look at the order of its members. -/
theorem object_sorted {read : JsonObject → Replayed α}
    (same : ∀ entries : JsonObject, entries.Portable → read entries.sorted = read entries)
    (message : String) (portable : ∀ inner ∈ value, inner.portable = true) :
    (requireObject message (value.map JsonValue.sorted) >>= read) =
      (requireObject message value >>= read) := by
  cases value with
  | none => rfl
  | some value =>
      cases value with
      | dict entries => simpa [JsonObject.sorted] using same entries (portable _ rfl)
      | list items => simp [requireObject]
      | _ => rfl

theorem mapM_sorted {read : JsonValue → Replayed α} {items : List JsonValue}
    (same : ∀ item ∈ items, read item.sorted = read item) :
    (items.map JsonValue.sorted).mapM read = items.mapM read := by
  induction items with
  | nil => rfl
  | cons item items induction =>
      have later := induction fun other member => same other (List.mem_cons_of_mem _ member)
      rw [List.map_cons, List.mapM_cons, List.mapM_cons, same item List.mem_cons_self, later]

/-- A list is read item by item. -/
theorem list_sorted {read : JsonValue → Replayed α}
    (same : ∀ item, item.portable = true → read item.sorted = read item) (message : String)
    (portable : ∀ inner ∈ value, inner.portable = true) :
    (requireList message (value.map JsonValue.sorted) >>= fun items => items.mapM read) =
      (requireList message value >>= fun items => items.mapM read) := by
  cases value with
  | none => rfl
  | some value =>
      cases value with
      | list items =>
          have each := JsonValue.portable_list.mp (portable _ rfl)
          simpa using mapM_sorted fun item member => same item (each item member)
      | dict entries => simp [requireList]
      | _ => rfl

end Readers

section Decoders

variable {entries : JsonObject} {value : Option JsonValue}

theorem decodeTiming_sorted (portable : ∀ inner ∈ value, inner.portable = true) :
    decodeTiming (value.map JsonValue.sorted) = decodeTiming value := by
  apply object_sorted _ _ portable
  intro entries portable
  simp [JsonObject.get?_sorted portable]

theorem decodeError_sorted (portable : ∀ inner ∈ value, inner.portable = true) :
    decodeError (value.map JsonValue.sorted) = decodeError value := by
  apply object_sorted _ _ portable
  intro entries portable
  simp [JsonObject.get?_sorted portable]

theorem decodeUsage_sorted (portable : ∀ inner ∈ value, inner.portable = true) :
    decodeUsage (value.map JsonValue.sorted) = decodeUsage value := by
  apply object_sorted _ _ portable
  intro entries portable
  simp [JsonObject.get?_sorted portable]

theorem optionalUsage_sorted (portable : ∀ inner ∈ value, inner.portable = true) :
    optionalUsage (value.map JsonValue.sorted) = optionalUsage value := by
  cases value with
  | none => rfl
  | some value =>
      have same := decodeUsage_sorted portable
      rw [Option.map_some] at same ⊢
      cases value with
      | null => rfl
      | list items =>
          rw [JsonValue.sorted_list] at same ⊢
          rw [optionalUsage, optionalUsage, same]
          all_goals simp
      | dict entries =>
          rw [JsonValue.sorted_dict] at same ⊢
          rw [optionalUsage, optionalUsage, same]
          all_goals simp
      | _ => rfl

theorem decodeContentPart_sorted (part : JsonValue) (portable : part.portable = true) :
    decodeContentPart part.sorted = decodeContentPart part := by
  apply @object_sorted _ (some part) _ _ _ (by simpa using portable)
  intro entries portable
  simp [JsonObject.get?_sorted portable, decodeContentPartOf, decodeTextPart, decodeImagePart]

theorem decodeContentParts_sorted (portable : ∀ inner ∈ value, inner.portable = true) :
    decodeContentParts (value.map JsonValue.sorted) = decodeContentParts value := by
  cases value with
  | none => rfl
  | some value =>
      cases value with
      | list items =>
          have each := JsonValue.portable_list.mp (portable _ rfl)
          cases items with
          | nil => rfl
          | cons part parts =>
              have same := mapM_sorted fun part member =>
                decodeContentPart_sorted part (each part member)
              simpa [decodeContentParts] using same
      | dict entries => simp [decodeContentParts]
      | _ => rfl

theorem decodeRawTokens_sorted (portable : ∀ inner ∈ value, inner.portable = true) :
    decodeRawTokens (value.map JsonValue.sorted) = decodeRawTokens value := by
  cases value with
  | none => rfl
  | some value =>
      cases value with
      | list items =>
          have each : ∀ item ∈ items, requireInt item.sorted = requireInt item := by
            intro item member
            cases item <;> simp [JsonValue.sorted, requireInt]
          simp [decodeRawTokens, mapM_sorted each]
      | dict entries => simp [decodeRawTokens]
      | _ => rfl

theorem decodeRawPrompt_sorted (portable : entries.Portable) :
    decodeRawPrompt entries.sorted = decodeRawPrompt entries := by
  have tokens := decodeRawTokens_sorted (portable.get? (py "token_ids"))
  rw [decodeRawPrompt, decodeRawPrompt, JsonObject.get?_sorted portable,
    JsonObject.get?_sorted portable]
  cases entries.get? (py "text") with
  | none => exact tokens
  | some text =>
      cases text with
      | null => exact tokens
      | str text =>
          cases entries.get? (py "token_ids") with
          | none => rfl
          | some tokenIds => cases tokenIds <;> simp [JsonValue.sorted]
      | list items => simp
      | dict entries => simp
      | _ => rfl

theorem multimodalToolResultOf_sorted (callId : {text : PyStr // NonBlank text})
    (parts : List MessageContentPart) : multimodalToolResultOf callId parts
      (value.map JsonValue.sorted) = multimodalToolResultOf callId parts value := by
  simp [multimodalToolResultOf]

theorem decodeItemOf_sorted (portable : entries.Portable) (kind : PyStr) :
    decodeItemOf kind entries.sorted = decodeItemOf kind entries := by
  have parts := decodeContentParts_sorted (portable.get? (py "parts"))
  simp [decodeItemOf, decodeMessage, decodeMultimodalMessage, decodeReasoning, decodeToolCall,
    decodeToolResult, decodeMultimodalToolResult, JsonObject.get?_sorted portable, parts,
    decodeRawPrompt_sorted portable, multimodalToolResultOf_sorted]

theorem decodeItem_sorted (portable : ∀ inner ∈ value, inner.portable = true) :
    decodeItem (value.map JsonValue.sorted) = decodeItem value := by
  apply object_sorted _ _ portable
  intro entries portable
  simp [JsonObject.get?_sorted portable, decodeItemOf_sorted portable]

theorem decodeEventOf_sorted (portable : entries.Portable) (kind requestId : PyStr) :
    decodeEventOf kind requestId entries.sorted = decodeEventOf kind requestId entries := by
  have usage := decodeUsage_sorted (portable.get? (py "usage"))
  have usage' := optionalUsage_sorted (portable.get? (py "usage"))
  have error := decodeError_sorted (portable.get? (py "error"))
  have timing := decodeTiming_sorted (portable.get? (py "timing"))
  have call := decodeItem_sorted (portable.get? (py "call"))
  simp [decodeEventOf, decodeGenerationCompleted, decodeGenerationFailed, decodeDelta, decodeText,
    decodeToolCallStarted, decodeToolCallArgumentsDelta, decodeToolCallCompleted,
    decodeTimingUpdated, decodeUsageUpdated, JsonObject.get?_sorted portable, usage, usage',
    error, timing, call]

theorem decodeEvent_sorted (event : JsonValue) (portable : event.portable = true) :
    decodeEvent event.sorted = decodeEvent event := by
  apply @object_sorted _ (some event) _ _ _ (by simpa using portable)
  intro entries portable
  simp [JsonObject.get?_sorted portable, decodeEventOf_sorted portable]

/-! ## Replay -/

theorem hasSchemaVersion_sorted (portable : entries.Portable) :
    hasSchemaVersion entries.sorted = hasSchemaVersion entries := by
  rw [hasSchemaVersion, hasSchemaVersion, JsonObject.get?_sorted portable]
  cases entries.get? (py "schema_version") with
  | none => rfl
  | some value => cases value <;> simp [JsonValue.sorted, isOne]

theorem requireFull_sorted (portable : entries.Portable) :
    requireFull entries.sorted = requireFull entries := by
  have version := hasSchemaVersion_sorted portable
  rw [requireFull, requireFull, version, JsonObject.get?_sorted portable]
  cases entries.get? (py "mode") with
  | none => rfl
  | some value => cases value <;> simp [JsonValue.sorted]

theorem replayRequest_sorted (portable : entries.Portable) :
    replayRequest entries.sorted = replayRequest entries := by
  have request : ∀ inner : JsonObject, inner.Portable →
      decodeRequest inner.sorted = decodeRequest inner := by
    intro inner portable
    have items : decodeItems ((inner.get? (py "items")).map JsonValue.sorted) =
        decodeItems (inner.get? (py "items")) := by
      apply list_sorted _ _ (portable.get? (py "items"))
      intro item portable
      exact @decodeItem_sorted (some item) (by simpa using portable)
    simp [decodeRequest, JsonObject.get?_sorted portable, items]
  have value := object_sorted request "full capture is missing canonical request"
    (portable.get? (py "request"))
  rw [replayRequest, replayRequest, requireFull_sorted portable, JsonObject.get?_sorted portable,
    value]

theorem replayEvents_sorted (portable : entries.Portable) :
    replayEvents entries.sorted = replayEvents entries := by
  have events := list_sorted decodeEvent_sorted "full capture is missing canonical events"
    (portable.get? (py "events"))
  rw [replayEvents, replayEvents, requireFull_sorted portable, JsonObject.get?_sorted portable,
    events]

end Decoders

theorem Replays.sorted {capture : TerminalCapture} {record : JsonObject}
    (replays : Replays capture record) (portable : record.Portable) :
    Replays capture record.sorted :=
  ⟨(replayRequest_sorted portable).trans replays.request,
    (replayEvents_sorted portable).trans replays.events⟩

/-! ## Lines -/

/-- The characters of a text file as they are read: every line end is a line feed. -/
def universalNewlines : PyStr → PyStr
  | [] => []
  | char :: rest =>
      if char = chr '\r' then
        if rest.head? = some (chr '\n') then universalNewlines rest
        else chr '\n' :: universalNewlines rest
      else
        char :: universalNewlines rest

def splitLines : PyStr → List PyStr
  | [] => []
  | char :: rest =>
      if char = chr '\n' then [char] :: splitLines rest
      else
        match splitLines rest with
        | [] => [[char]]
        | line :: lines => (char :: line) :: lines

inductive CaptureReadError
  | malformedJson
  | notObject (lineNumber : Nat)
  | unsupportedVersion (lineNumber : Nat)
deriving DecidableEq, Repr

def readRecord (lineNumber : Nat) (line : PyStr) : Except CaptureReadError JsonObject :=
  match jsonLoads line with
  | none => .error .malformedJson
  | some (.dict record) =>
      if hasSchemaVersion record then .ok record else .error (.unsupportedVersion lineNumber)
  | some _ => .error (.notObject lineNumber)

def readLines : Nat → List PyStr → Except CaptureReadError (List JsonObject)
  | _, [] => .ok []
  | lineNumber, line :: lines => do
      if line.isBlank then readLines (lineNumber + 1) lines
      else
        let record ← readRecord lineNumber line
        let records ← readLines (lineNumber + 1) lines
        return record :: records

def readCaptureRecords (content : PyStr) : Except CaptureReadError (List JsonObject) :=
  readLines 1 (splitLines (universalNewlines content))

def recordLine (record : JsonObject) : PyStr := canonicalJsonDumps (.dict record) ++ py "\n"

/-- `JsonlCaptureSink.write`: the text of the file behind it; `none` where the line cannot be
encoded. -/
def writeRecord (content : PyStr) (record : JsonObject) : Option PyStr :=
  if (recordLine record).utf8Encodable then some (content ++ recordLine record) else none

/-- A file that no capture has been written to, behind these records. -/
def writeRecords (records : List JsonObject) : Option PyStr := records.foldlM writeRecord []

theorem universalNewlines_append {text rest : PyStr} (plain : Printed text) :
    universalNewlines (text ++ rest) = text ++ universalNewlines rest := by
  induction text with
  | nil => rfl
  | cons char text induction =>
      rw [printed_cons] at plain
      have noReturn : char ≠ chr '\r' := by
        rintro rfl
        exact absurd plain.1.1 (by decide)
      rw [List.cons_append, universalNewlines, if_neg noReturn, induction plain.2,
        List.cons_append]

theorem splitLines_append {text rest : PyStr} (plain : Printed text) :
    splitLines (text ++ chr '\n' :: rest) = (text ++ [chr '\n']) :: splitLines rest := by
  induction text with
  | nil => simp [splitLines]
  | cons char text induction =>
      rw [printed_cons] at plain
      have noFeed : char ≠ chr '\n' := by
        rintro rfl
        exact absurd plain.1.1 (by decide)
      simp [splitLines, noFeed, induction plain.2]

theorem printed_canonical {record : JsonObject} (portable : record.Portable) :
    Printed (canonicalJsonDumps (.dict record)) := by
  rw [canonicalJsonDumps_eq]
  exact printed_jsonDumps (JsonValue.portable_sorted portable)

theorem writeRecord_portable {record : JsonObject} (portable : record.Portable)
    (content : PyStr) : writeRecord content record = some (content ++ recordLine record) := by
  have encodable : (recordLine record).utf8Encodable = true := by
    rw [PyStr.utf8Encodable, List.all_eq_true]
    intro char member
    rw [recordLine, List.mem_append] at member
    rcases member with inside | feed
    · simpa using (printed_canonical portable char inside).2
    · rw [List.mem_singleton.mp feed]
      decide
  rw [writeRecord, if_pos encodable]

theorem writeRecords_portable {records : List JsonObject}
    (portable : ∀ record ∈ records, record.Portable) :
    writeRecords records = some (records.flatMap recordLine) := by
  have behind : ∀ content : PyStr,
      records.foldlM writeRecord content = some (content ++ records.flatMap recordLine) := by
    induction records with
    | nil => simp
    | cons record records induction =>
        intro content
        have later := induction (fun other member => portable other (List.mem_cons_of_mem _ member))
          (content ++ recordLine record)
        rw [List.foldlM_cons, writeRecord_portable (portable record List.mem_cons_self)]
        simpa using later
  exact behind []

theorem splitLines_records {records : List JsonObject}
    (portable : ∀ record ∈ records, record.Portable) :
    splitLines (universalNewlines (records.flatMap recordLine)) = records.map recordLine := by
  induction records with
  | nil => rfl
  | cons record records induction =>
      have plain := printed_canonical (portable record List.mem_cons_self)
      have later := induction fun other member => portable other (List.mem_cons_of_mem _ member)
      have feed : universalNewlines (py "\n" ++ records.flatMap recordLine) =
          chr '\n' :: universalNewlines (records.flatMap recordLine) := by
        change universalNewlines (chr '\n' :: records.flatMap recordLine) = _
        rw [universalNewlines, if_neg (by decide)]
      rw [List.flatMap_cons, recordLine, List.append_assoc, universalNewlines_append plain, feed,
        splitLines_append plain, later, List.map_cons]
      rfl

/-- A record's line is read as the sorted record. -/
theorem readRecord_line {record : JsonObject} (portable : record.Portable)
    (version : hasSchemaVersion record = true) (lineNumber : Nat) :
    readRecord lineNumber (recordLine record) = .ok record.sorted := by
  have spaces : Spaces (py "\n") := by
    intro char member
    rw [List.mem_singleton.mp member]
    decide
  have loaded : jsonLoads (recordLine record) = some (.dict record.sorted) := by
    have read := jsonLoads_canonicalJsonDumps portable spaces
    rw [JsonValue.sorted_dict] at read
    exact read
  rw [readRecord, loaded]
  exact if_pos ((hasSchemaVersion_sorted portable).trans version)

theorem readLines_records {records : List JsonObject}
    (portable : ∀ record ∈ records, record.Portable)
    (version : ∀ record ∈ records, hasSchemaVersion record = true) (lineNumber : Nat) :
    readLines lineNumber (records.map recordLine) = .ok (records.map JsonObject.sorted) := by
  induction records generalizing lineNumber with
  | nil => rfl
  | cons record records induction =>
      have later := induction (fun other member => portable other (List.mem_cons_of_mem _ member))
        (fun other member => version other (List.mem_cons_of_mem _ member)) (lineNumber + 1)
      have here := readRecord_line (portable record List.mem_cons_self)
        (version record List.mem_cons_self) lineNumber
      have visible : (recordLine record).isBlank = false := by
        have brace : (chr '\x7b').isSpace = false := by decide
        rw [recordLine, canonicalJsonDumps]
        simp [PyStr.isBlank, brace]
      rw [List.map_cons, readLines, visible, here, later]
      rfl

/-- Records come back in order, each with its members sorted. -/
theorem readCaptureRecords_written {records : List JsonObject}
    (portable : ∀ record ∈ records, record.Portable)
    (version : ∀ record ∈ records, hasSchemaVersion record = true) :
    ∃ content, writeRecords records = some content ∧
      readCaptureRecords content = .ok (records.map JsonObject.sorted) := by
  refine ⟨_, writeRecords_portable portable, ?_⟩
  rw [readCaptureRecords, splitLines_records portable, readLines_records portable version]

theorem fullRecord_version (capture : TerminalCapture) :
    hasSchemaVersion (fullRecord capture) = true := by
  rw [hasSchemaVersion, (fullRecord_get? capture).1]
  rfl

/-- Every record that is written in full mode replays the request and the events that it was
made of, and so do the records of a file, in the order in which they were written. Their
members are sorted there. -/
theorem full_captures_replay {captures : List TerminalCapture} {records : List JsonObject}
    (written : List.Forall₂ (fun capture record =>
      recordTerminal .full capture = .ok (some record)) captures records)
    (built : ∀ capture ∈ captures, ∀ event ∈ capture.events, event.Constructed) :
    List.Forall₂ Replays captures records ∧
      ((∀ record ∈ records, record.Portable) → ∃ content, writeRecords records = some content ∧
        readCaptureRecords content = .ok (records.map JsonObject.sorted) ∧
        List.Forall₂ Replays captures (records.map JsonObject.sorted)) := by
  have made : records = captures.map fullRecord := by
    clear built
    induction written with
    | nil => rfl
    | cons here later induction => rw [List.map_cons, ← recordTerminal_eq_some here, ← induction]
  have replays : ∀ capture ∈ captures, Replays capture (fullRecord capture) :=
    fun capture member => fullRecord_replays (built capture member)
  subst made
  constructor
  · rw [List.forall₂_map_right_iff, List.forall₂_same]
    exact replays
  · intro portable
    have version : ∀ record ∈ captures.map fullRecord, hasSchemaVersion record = true := by
      intro record member
      rcases List.mem_map.mp member with ⟨capture, _, rfl⟩
      exact fullRecord_version capture
    rcases readCaptureRecords_written portable version with ⟨content, stored, read⟩
    refine ⟨content, stored, read, ?_⟩
    rw [List.map_map, List.forall₂_map_right_iff, List.forall₂_same]
    intro capture member
    exact (replays capture member).sorted (portable _ (List.mem_map_of_mem member))

theorem sampleCapture_id : NonBlank (py "r") := by decide

theorem sampleCapture_model : NonBlank (py "m") := by decide

theorem sampleSeconds_mantissa : 0 < 2 ^ 53 := by decide

theorem sampleSeconds_least : (-1074 : Int) ≤ -1074 := by decide

theorem sampleSeconds_most : (-1074 : Int) ≤ 971 := by decide

theorem sampleSeconds_normal : 2 ^ 52 ≤ 0 ∨ (-1074 : Int) = -1074 := by decide

def sampleCapture : TerminalCapture where
  request := .canonical
    ⟨py "r", py "m", [.message ⟨.user, py "hi"⟩], sampleCapture_id, sampleCapture_model⟩
  promptHash := none
  status := py "completed"
  elapsedSeconds := ⟨false, 0, -1074, sampleSeconds_mantissa, sampleSeconds_least,
    sampleSeconds_most, sampleSeconds_normal⟩
  usage := ObservedSession.noUsage
  timing := ObservedSession.noTiming
  error := none
  events := [.generationStarted (py "r"), .semantic (.textDelta (py "r") (py "yes")),
    .generationCompleted (py "r") .stop (some ObservedSession.noUsage) none]
  runtimeTrace := []
  execution := none

theorem sampleError_code : NonBlank (py "lost") := by decide

def sampleError : CanonicalError :=
  ⟨.runtimeFailure, py "lost", py "the backend is gone", true, some .runtimeRecovering,
    sampleError_code⟩

theorem sampleUsage_within :
    ∀ input ∈ some 2, ∀ cached ∈ (none : Option Nat), cached ≤ input := by
  simp

def failedCapture : TerminalCapture where
  request := .rawPrompt
    ⟨py "r", py "m", .tokenIds [1, 2] (List.cons_ne_nil 1 [2]), sampleCapture_id,
      sampleCapture_model⟩
  promptHash := some (py "0")
  status := py "failed"
  elapsedSeconds := sampleCapture.elapsedSeconds
  usage := ⟨some 2, none, none, none, sampleUsage_within⟩
  timing := ObservedSession.noTiming
  error := some sampleError
  events := [.generationStarted (py "r"), .semantic (.reasoningStarted (py "r")),
    .generationFailed (py "r") sampleError]
  runtimeTrace := [[(py "stage", .str (py "submit"))]]
  execution := some [(py "family", .str (py "raw"))]

theorem full_captures_replay_sample :
    ∃ content,
      writeRecords [fullRecord sampleCapture, fullRecord failedCapture] = some content ∧
      readCaptureRecords content =
        .ok [(fullRecord sampleCapture).sorted, (fullRecord failedCapture).sorted] ∧
      List.Forall₂ Replays [sampleCapture, failedCapture]
        [(fullRecord sampleCapture).sorted, (fullRecord failedCapture).sorted] := by
  have first : recordTerminal .full sampleCapture = .ok (some (fullRecord sampleCapture)) := rfl
  have second : recordTerminal .full failedCapture = .ok (some (fullRecord failedCapture)) := rfl
  have built : ∀ capture ∈ [sampleCapture, failedCapture], ∀ event ∈ capture.events,
      event.Constructed := by
    simp [sampleCapture, failedCapture, ServingEvent.Constructed, GenerationEvent.Constructed,
      sampleCapture_id]
    decide
  have small : 1 < 10 ^ Json.maxIntDigits := Nat.one_lt_pow (by decide) (by decide)
  have small' : 2 < 10 ^ Json.maxIntDigits :=
    (by decide : 2 < 10 ^ 1).trans_le (Nat.pow_le_pow_right (by decide) (by decide))
  have portable : ∀ record ∈ [fullRecord sampleCapture, fullRecord failedCapture],
      record.Portable := by
    simp [JsonObject.Portable, fullRecord, recordMetadata, recordContent, sampleCapture,
      failedCapture, sampleError, encodeUsage, encodeTiming, encodeRequest, encodeEvent,
      encodeGenerationEvent, eventBase, encodeItem, encodeOptional, encodeErrorFull,
      encodeErrorMetadata, encodeNat, ObservedSession.noUsage, ObservedSession.noTiming,
      CapturedRequest.requestId, CapturedRequest.model, CapturedRequest.items, schemaVersion,
      JsonValue.portable, JsonValue.portableItems, JsonValue.portableEntries, CaptureMode.value,
      MessageRole.value, CompletionReason.value, ErrorCategory.value, FailureCause.value, small,
      small', py_inj]
  exact (full_captures_replay (.cons first (.cons second .nil)) built).2 portable

end Observability

end ExQServe
