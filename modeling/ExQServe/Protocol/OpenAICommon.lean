import ExQServe.Agent.Tools
import ExQServe.Core.Events

/-! # The OpenAI wire

The model of these parts of `protocol/openai/common.py`. -/

namespace ExQServe.OpenAI

open ExQServe.Model

structure OpenAIProtocolError where
  statusCode : Nat
  type : PyStr
  code : PyStr
  message : PyStr
  param : Option PyStr
  exqserveCause : Option PyStr
deriving DecidableEq

def OpenAIProtocolError.toErrorObject (error : OpenAIProtocolError) (includeParam : Bool) :
    JsonObject :=
  [(py "message", .str error.message), (py "type", .str error.type),
    (py "code", .str error.code)] ++
    (if includeParam then
      [(py "param", match error.param with
        | none => .null
        | some param => .str param)] else []) ++
    match error.exqserveCause with
    | none => []
    | some cause => [(py "exqserve_cause", .str cause)]

/-- The constructor refuses a blank message; the other texts are never blank here. -/
def protocolError (statusCode : Nat) (type code message : PyStr) (exqserveCause : Option PyStr) :
    Option OpenAIProtocolError :=
  if NonBlank message then some ⟨statusCode, type, code, message, none, exqserveCause⟩ else none

def invalidRequest (code message : PyStr) (param : Option PyStr) : OpenAIProtocolError :=
  ⟨400, py "invalid_request_error", code, message, param, none⟩

/-- `map_canonical_error`; `none` where the error's constructor raises. -/
def mapCanonicalError (error : CanonicalError) : Option OpenAIProtocolError :=
  let cause := error.cause.map FailureCause.value
  let wireCode := (publicErrorCode error).getD error.code
  match error.category with
  | .overloaded =>
      protocolError (if error.code = py "runtime_recovering" then 503 else 429)
        (py "rate_limit_error") wireCode error.message cause
  | .contextLength =>
      protocolError 400 (py "invalid_request_error") wireCode
        (py "Request exceeds the model context window.") cause
  | .invalidRequest | .unsupportedCapability =>
      protocolError 400 (py "invalid_request_error") wireCode error.message cause
  | .modelFailure | .runtimeFailure | .internal =>
      protocolError 500 (py "server_error") wireCode error.message cause

/-! ## Reading a body -/

abbrev Parsed := Except OpenAIProtocolError

def member (entries : JsonObject) (key : PyStr) : JsonValue := (entries.get? key).getD .null

def entryPath (param : PyStr) (index : Nat) : PyStr :=
  param ++ chr '[' :: (decimalDigits index ++ [chr ']'])

def asDict (value : JsonValue) (code param : PyStr) : Parsed JsonObject :=
  match value with
  | .dict entries => .ok entries
  | _ => .error (invalidRequest code (param ++ py " must be an object.") (some param))

def readEntries {α : Type} (read : Nat → JsonValue → Parsed α) : Nat → List JsonValue →
    Parsed (List α)
  | _, [] => .ok []
  | index, entry :: entries => do
      let first ← read index entry
      let others ← readEntries read (index + 1) entries
      .ok (first :: others)

namespace Parsed

variable {α β : Type}

@[simp] theorem toOption_bind (read : Parsed α) (next : α → Parsed β) :
    (read >>= next).toOption = read.toOption.bind fun value => (next value).toOption := by
  cases read <;> rfl

@[simp] theorem toOption_map (read : Parsed α) (change : α → β) :
    (Except.map change read).toOption = read.toOption.map change := by
  cases read <;> rfl

theorem ok_bind (value : α) (next : α → Parsed β) :
    ((.ok value : Parsed α) >>= next) = next value :=
  rfl

theorem bind_eq_ok {read : Parsed α} {next : α → Parsed β} {value : β} :
    (read >>= next) = .ok value ↔ ∃ middle, read = .ok middle ∧ next middle = .ok value := by
  cases read with
  | error error =>
      constructor
      · intro made
        cases made
      · rintro ⟨middle, read, _⟩
        cases read
  | ok middle =>
      constructor
      · exact fun made => ⟨middle, rfl, made⟩
      · rintro ⟨other, read, made⟩
        cases read
        exact made

theorem of_toOption {first second : Parsed α} (same : first.toOption = second.toOption) {value : α}
    (read : first = .ok value) : second = .ok value := by
  subst read
  cases second with
  | error error => cases same
  | ok other => rw [Option.some.inj same]

end Parsed

/-! The paths of the entries are only in the errors. -/

theorem toOption_asDict (value : JsonValue) (code param other : PyStr) :
    (asDict value code param).toOption = (asDict value code other).toOption := by
  cases value <;> rfl

theorem toOption_readEntries {α : Type} {first second : Nat → JsonValue → Parsed α}
    (same : ∀ index other entry, (first index entry).toOption = (second other entry).toOption)
    (index other : Nat) (entries : List JsonValue) :
    (readEntries first index entries).toOption = (readEntries second other entries).toOption := by
  induction entries generalizing index other with
  | nil => rfl
  | cons entry entries induction =>
      simp only [readEntries, Parsed.toOption_bind, same index other,
        induction (index + 1) (other + 1)]

/-! ## Usage -/

def usageCounts (usage : TokenUsage) : Nat × Nat × Nat :=
  let inputCount := usage.inputTokens.getD 0
  let outputCount := usage.outputTokens.getD 0
  (inputCount, outputCount, inputCount + outputCount)

def usageObject (inputName outputName : String) (usage : TokenUsage) : JsonObject :=
  let counts := usageCounts usage
  [(py (inputName ++ "_tokens"), .int counts.1), (py (outputName ++ "_tokens"), .int counts.2.1),
    (py "total_tokens", .int counts.2.2)] ++
    match usage.cachedInputTokens with
    | none => []
    | some cached =>
        [(py (inputName ++ "_tokens_details"), .dict [(py "cached_tokens", .int cached)])]

def responsesUsage : TokenUsage → JsonObject := usageObject "input" "output"

end ExQServe.OpenAI
