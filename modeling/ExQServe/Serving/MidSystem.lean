import ExQServe.Agent.Validation
import ExQServe.Core.Errors

/-! # System messages in mid-conversation

The model of the normalization in `serving/engine.py` of system messages behind the
leading instructions. Of the request only the fields it reads are kept, and of a rejection
the error. -/

namespace ExQServe.Serving

open ExQServe.Model

inductive MidSystemPolicy
  | legacyUnspecified
  | strict
  | bestEffort
deriving DecidableEq, Repr

inductive MidSystemCapability
  | leadingOnly
  | inline
deriving DecidableEq, Repr

inductive BestEffortMidSystemLowering
  | mergedLeading
  | inPlaceUserMeta
deriving DecidableEq, Repr

@[ext] structure CanonicalRequest where
  requestId : PyStr
  model : PyStr
  items : List CanonicalItem
  requestIdNonBlank : NonBlank requestId
  modelNonBlank : NonBlank model

instance : DecidableEq CanonicalRequest := fun _ _ => decidable_of_iff' _ CanonicalRequest.ext_iff

def CanonicalRequest.withItems (source : CanonicalRequest) (items : List CanonicalItem) :
    CanonicalRequest := { source with items := items }

structure MidSystemRequest where
  input : CanonicalRequest
  midSystemPolicy : MidSystemPolicy
deriving DecidableEq

/-- `isinstance(item, MessageItem) and item.role is MessageRole.SYSTEM` -/
def isSystem : CanonicalItem → Bool
  | .message item => item.role == .system
  | _ => false

def isInstructionItem : CanonicalItem → Bool
  | .message item => item.role == .system || item.role == .developer
  | _ => false

/-- `items[:leading_end]` -/
def leadingItems (items : List CanonicalItem) : List CanonicalItem :=
  items.takeWhile isInstructionItem

/-- `items[leading_end:]` -/
def laterItems (items : List CanonicalItem) : List CanonicalItem :=
  items.dropWhile isInstructionItem

/-- The loop of `_mid_system_counts` over the tail: messages and sections. -/
def midSystemCounts : Bool → List CanonicalItem → Nat × Nat
  | _, [] => (0, 0)
  | inSection, item :: items =>
      let counts := midSystemCounts (isSystem item) items
      if isSystem item then
        (counts.1 + 1, if inSection then counts.2 else counts.2 + 1)
      else counts

def systemReminder (text : PyStr) : PyStr :=
  py "<system-reminder>\n" ++ text ++ py "\n</system-reminder>"

def renderMidSystemReminder (behind : List PyStr) : PyStr :=
  (py "\n\n").intercalate (behind.map systemReminder)

def messageText : CanonicalItem → PyStr
  | .message item => item.text
  | _ => []

def invalidMidSystemAttachment : CanonicalError where
  category := .invalidRequest
  code := py "mid_conversation_system_invalid_placement"
  message := py
    "A mid-conversation system section could not be attached to the preceding user turn."
  retryable := false
  cause := none
  codeNonBlank := by decide

def midSystemUnsupported : CanonicalError where
  category := .unsupportedCapability
  code := py "mid_conversation_system_unsupported"
  message := py ("The active model dialect cannot preserve mid-conversation system authority; " ++
    "use an explicit compatibility profile for best-effort lowering.")
  retryable := false
  cause := none
  codeNonBlank := by decide

def attach (predecessor : CanonicalItem) (reminder : PyStr) :
    Except CanonicalError (List CanonicalItem) :=
  match predecessor with
  | .message item =>
      if item.role = .user then
        .ok [.message ⟨.user, item.text ++ py "\n\n" ++ reminder⟩]
      else .error invalidMidSystemAttachment
  | .multimodalMessage item => .ok [.multimodalMessage
      { role := .user
        parts := item.parts ++ [.text ⟨py "\n\n" ++ reminder⟩]
        fromUser := rfl
        someImage := by rw [List.any_append, item.someImage]; rfl }]
  | .toolResult _ | .multimodalToolResult _ => .ok [predecessor, .message ⟨.user, reminder⟩]
  | .reasoning _ | .toolCall _ => .error invalidMidSystemAttachment

def lowerLoop (lowered : List CanonicalItem) :
    List CanonicalItem → Except CanonicalError (List CanonicalItem)
  | [] => .ok lowered
  | item :: items =>
      if isSystem item then
        let behind := item :: items.takeWhile isSystem
        match lowered.getLast? with
        | none => .error invalidMidSystemAttachment
        | some predecessor =>
            match attach predecessor (renderMidSystemReminder (behind.map messageText)) with
            | .error failure => .error failure
            | .ok replaced => lowerLoop (lowered.dropLast ++ replaced) (items.dropWhile isSystem)
      else lowerLoop (lowered ++ [item]) items
termination_by items => items.length
decreasing_by
  · exact Nat.lt_succ_of_le (List.length_dropWhile_le _ _)
  · exact Nat.lt_succ_self _

def lowerMidSystemInPlace (source : CanonicalRequest) : Except CanonicalError CanonicalRequest :=
  (lowerLoop (leadingItems source.items) (laterItems source.items)).map source.withItems

/-- Late system messages behind the leading instructions, and then the rest. -/
def mergeLeading (items : List CanonicalItem) : List CanonicalItem :=
  leadingItems items ++ (laterItems items).filter isSystem ++
    (laterItems items).filter fun item => !isSystem item

def normalizeMidSystemInput (request : MidSystemRequest) (capability : MidSystemCapability)
    (bestEffortLowering : BestEffortMidSystemLowering) : Except CanonicalError CanonicalRequest :=
  let source := request.input
  let counts := midSystemCounts false (laterItems source.items)
  if counts.1 = 0 ∨ request.midSystemPolicy = .legacyUnspecified then .ok source
  else if capability = .inline then .ok source
  else if request.midSystemPolicy = .strict then .error midSystemUnsupported
  else if bestEffortLowering = .inPlaceUserMeta then lowerMidSystemInPlace source
  else .ok (source.withItems (mergeLeading source.items))

end ExQServe.Serving
