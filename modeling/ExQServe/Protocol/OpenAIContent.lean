import ExQServe.Core.Items
import ExQServe.Protocol.OpenAICommon

/-! # Message content on the OpenAI wire

The content of messages in the two OpenAI requests: a text, or parts that are texts and images.
The adapters differ in the names of the parts and in their errors. -/

namespace ExQServe.OpenAI

open ExQServe.Model

/-- The names and the errors of an adapter's content. -/
structure ContentWire where
  code : PyStr
  kindCode : PyStr
  textTypes : List PyStr
  listMessage : PyStr
  textMessage : PyStr
  kindMessage : PyStr

namespace ContentWire

variable (wire : ContentWire)

def isText : JsonValue → Bool
  | .str partType => decide (partType ∈ wire.textTypes)
  | _ => false

def malformed (param : PyStr) : OpenAIProtocolError :=
  invalidRequest wire.code wire.listMessage (some param)

def unsupported (param : PyStr) : OpenAIProtocolError :=
  invalidRequest wire.kindCode wire.kindMessage (some (param ++ py ".type"))

def partText (part : JsonObject) (param : PyStr) : Parsed PyStr :=
  match member part (py "text") with
  | .str text => .ok text
  | _ => .error (invalidRequest wire.code wire.textMessage (some (param ++ py ".text")))

def textPart (param : PyStr) (index : Nat) (rawPart : JsonValue) : Parsed PyStr := do
  let part ← asDict rawPart wire.code (entryPath param index)
  if wire.isText (member part (py "type")) then wire.partText part (entryPath param index)
  else .error (wire.unsupported (entryPath param index))

def text (value : JsonValue) (param : PyStr) : Parsed PyStr :=
  match value with
  | .str text => .ok text
  | .list parts => (readEntries (wire.textPart param) 0 parts).map List.flatten
  | _ => .error (wire.malformed param)

end ContentWire

/-! ## Images -/

def imageDetails : List PyStr := [py "auto", py "low", py "high"]

def readImage (source detail : JsonValue) (missing unknown : OpenAIProtocolError) :
    Parsed ImageContentPart :=
  match source with
  | .str source =>
      if visible : NonBlank source then
        match detail with
        | .null => .ok ⟨source, none, visible, by simp⟩
        | .str detail =>
            if known : detail ∈ imageDetails then
              .ok ⟨source, some detail, visible, by simpa [imageDetails] using known⟩
            else .error unknown
        | _ => .error unknown
      else .error missing
  | _ => .error missing

/-- Content of texts and images; without an image it is one text. -/
inductive MixedContent
  | text (text : PyStr)
  | parts (parts : List MessageContentPart)
      (someImage : parts.any MessageContentPart.isImage = true)

def joinTexts (parts : List MessageContentPart) : PyStr :=
  parts.flatMap fun part => match part with
    | .text part => part.text
    | .image _ => []

namespace ContentWire

variable (wire : ContentWire) (imageType : PyStr)
  (image : JsonObject → PyStr → Parsed ImageContentPart)

def mixedPart (param : PyStr) (index : Nat) (rawPart : JsonValue) : Parsed MessageContentPart := do
  let part ← asDict rawPart wire.code (entryPath param index)
  if wire.isText (member part (py "type")) then
    (wire.partText part (entryPath param index)).map fun text => .text ⟨text⟩
  else
    match member part (py "type") with
    | .str kind =>
        if kind = imageType then (image part (entryPath param index)).map .image
        else .error (wire.unsupported (entryPath param index))
    | _ => .error (wire.unsupported (entryPath param index))

def mixed (value : JsonValue) (param : PyStr) : Parsed MixedContent :=
  match value with
  | .str text => .ok (.text text)
  | .list (first :: others) => do
      let parts ← readEntries (wire.mixedPart imageType image param) 0 (first :: others)
      if someImage : parts.any MessageContentPart.isImage = true then .ok (.parts parts someImage)
      else .ok (.text (joinTexts parts))
  | _ => .error (wire.malformed param)

/-! The paths are only in the errors. -/

variable (param other : PyStr)

theorem toOption_partText (part : JsonObject) :
    (wire.partText part param).toOption = (wire.partText part other).toOption := by
  rw [partText, partText]
  cases member part (py "text") <;> rfl

theorem toOption_textPart (index place : Nat) (rawPart : JsonValue) :
    (wire.textPart param index rawPart).toOption =
      (wire.textPart other place rawPart).toOption := by
  simp only [textPart, Parsed.toOption_bind,
    toOption_asDict rawPart wire.code (entryPath param index) (entryPath other place)]
  congr 1
  funext part
  split
  · exact wire.toOption_partText _ _ part
  · rfl

theorem toOption_text (value : JsonValue) :
    (wire.text value param).toOption = (wire.text value other).toOption := by
  cases value with
  | list parts =>
      simp only [text, Parsed.toOption_map,
        toOption_readEntries (wire.toOption_textPart param other) 0 0 parts]
  | _ => rfl

variable {imageType : PyStr} {image : JsonObject → PyStr → Parsed ImageContentPart}

theorem toOption_mixedPart (images : ∀ part param other,
      (image part param).toOption = (image part other).toOption) (index place : Nat)
    (rawPart : JsonValue) : (wire.mixedPart imageType image param index rawPart).toOption =
      (wire.mixedPart imageType image other place rawPart).toOption := by
  simp only [mixedPart, Parsed.toOption_bind,
    toOption_asDict rawPart wire.code (entryPath param index) (entryPath other place)]
  congr 1
  funext part
  split
  · simp only [Parsed.toOption_map,
      wire.toOption_partText (entryPath param index) (entryPath other place)]
  · cases member part (py "type") with
    | str kind =>
        dsimp only
        split
        · simp only [Parsed.toOption_map,
            images part (entryPath param index) (entryPath other place)]
        · rfl
    | _ => rfl

theorem toOption_mixed (images : ∀ part param other,
      (image part param).toOption = (image part other).toOption) (value : JsonValue) :
    (wire.mixed imageType image value param).toOption =
      (wire.mixed imageType image value other).toOption := by
  cases value with
  | list parts =>
      cases parts with
      | nil => rfl
      | cons first others =>
          simp only [mixed, Parsed.toOption_bind,
            toOption_readEntries (wire.toOption_mixedPart param other images) 0 0]
  | _ => rfl

end ContentWire

theorem toOption_readImage (source detail : JsonValue)
    (missing unknown missing' unknown' : OpenAIProtocolError) :
    (readImage source detail missing unknown).toOption =
      (readImage source detail missing' unknown').toOption := by
  cases source with
  | str source =>
      simp only [readImage]
      split
      · cases detail with
        | str detail =>
            dsimp only
            split <;> rfl
        | _ => rfl
      · rfl
  | _ => rfl

end ExQServe.OpenAI
