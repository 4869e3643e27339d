import ExQServe.Model.Contracts

/-! # Canonical items

The model of `core/items.py`. The checks of a constructor are fields of its
structure. -/

namespace ExQServe

open ExQServe.Search ExQServe.Model

inductive MessageRole
  | system
  | developer
  | user
  | assistant
deriving DecidableEq, Repr

def MessageRole.value : MessageRole → PyStr
  | .system => py "system"
  | .developer => py "developer"
  | .user => py "user"
  | .assistant => py "assistant"

def MessageRole.members : List MessageRole := [.system, .developer, .user, .assistant]

structure MessageItem where
  role : MessageRole
  text : PyStr
deriving DecidableEq

structure TextContentPart where
  text : PyStr
deriving DecidableEq

@[ext] structure ImageContentPart where
  source : PyStr
  detail : Option PyStr
  sourceNonBlank : NonBlank source
  detailKnown : ∀ known ∈ detail, known ∈ [py "auto", py "low", py "high"]

instance : DecidableEq ImageContentPart := fun _ _ => decidable_of_iff' _ ImageContentPart.ext_iff

inductive MessageContentPart
  | text (part : TextContentPart)
  | image (part : ImageContentPart)
deriving DecidableEq

namespace MessageContentPart

def isImage : MessageContentPart → Bool
  | .text _ => false
  | .image _ => true

end MessageContentPart

structure MultimodalMessageItem where
  role : MessageRole
  parts : List MessageContentPart
  fromUser : role = .user
  someImage : parts.any MessageContentPart.isImage = true
deriving DecidableEq

structure ReasoningItem where
  text : PyStr
  startsNewAssistantSegment : Bool
deriving DecidableEq

@[ext] structure ToolResultItem where
  callId : PyStr
  text : PyStr
  isError : Bool
  callIdNonBlank : NonBlank callId

instance : DecidableEq ToolResultItem := fun _ _ => decidable_of_iff' _ ToolResultItem.ext_iff

@[ext] structure MultimodalToolResultItem where
  callId : PyStr
  parts : List MessageContentPart
  isError : Bool
  callIdNonBlank : NonBlank callId
  someImage : parts.any MessageContentPart.isImage = true

instance : DecidableEq MultimodalToolResultItem := fun _ _ =>
  decidable_of_iff' _ MultimodalToolResultItem.ext_iff

inductive CanonicalItem
  | message (item : MessageItem)
  | multimodalMessage (item : MultimodalMessageItem)
  | reasoning (item : ReasoningItem)
  | toolCall (item : ToolCallItem)
  | toolResult (item : ToolResultItem)
  | multimodalToolResult (item : MultimodalToolResultItem)
deriving DecidableEq

end ExQServe
