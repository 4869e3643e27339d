import ExQServe.Protocol.ResponsesItems
import ExQServe.Protocol.ResponsesRequest
import ExQServe.State.Session

/-! # Continuing a conversation

A client continues a conversation from the stored responses, or it sends the input and output
items of all turns again. -/

namespace ExQServe.OpenAI.Responses

open ExQServe.Model ExQServe.Canonical ExQServe.State

/-! ## The place of an item -/

theorem toOption_inputImage (part : JsonObject) (param other : PyStr) :
    (inputImage part param).toOption = (inputImage part other).toOption :=
  toOption_readImage _ _ _ _ _ _

theorem toOption_parseUserMessage (content : JsonValue) (path other : PyStr) :
    (parseUserMessage content path).toOption = (parseUserMessage content other).toOption := by
  simp only [parseUserMessage, userMessageContent, Parsed.toOption_bind,
    ContentWire.toOption_mixed _ (path ++ py ".content") (other ++ py ".content")
      toOption_inputImage]

theorem toOption_parseMessageItem (state : InputState) (item : JsonObject) (path other : PyStr) :
    (parseMessageItem state item path).toOption = (parseMessageItem state item other).toOption := by
  rw [parseMessageItem, parseMessageItem]
  cases member item (py "role") with
  | str role =>
      dsimp only
      cases roleOf role with
      | none => rfl
      | some role =>
          cases role with
          | user => exact toOption_parseUserMessage _ path other
          | _ =>
              simp only [messageText, Parsed.toOption_bind,
                ContentWire.toOption_text _ (path ++ py ".content") (other ++ py ".content")]
  | _ => rfl

theorem toOption_parseFunctionCall (state : InputState) (item : JsonObject) (path other : PyStr) :
    (parseFunctionCall state item path).toOption =
      (parseFunctionCall state item other).toOption := by
  simp only [parseFunctionCall]
  split
  · split <;> rfl
  · rfl

theorem toOption_parseFunctionOutput (item : JsonObject) (path other : PyStr) :
    (parseFunctionOutput item path).toOption = (parseFunctionOutput item other).toOption := by
  simp only [parseFunctionOutput]
  split
  · split
    · simp only [functionOutputContent, Parsed.toOption_bind,
        ContentWire.toOption_mixed _ (path ++ py ".output") (other ++ py ".output")
          toOption_inputImage]
    · rfl
  · rfl

theorem toOption_reasoningText (value : JsonValue) (param other : PyStr) :
    (reasoningText value param).toOption = (reasoningText value other).toOption := by
  cases value with
  | list parts => exact reasoningWire.toOption_text param other (.list parts)
  | _ => rfl

theorem toOption_parseItem (state : InputState) (index other : Nat) (rawItem : JsonValue) :
    (parseItem state index rawItem).toOption = (parseItem state other rawItem).toOption := by
  simp only [parseItem, Parsed.toOption_bind, toOption_asDict rawItem (py "invalid_input")
    (entryPath (py "input") index) (entryPath (py "input") other)]
  congr 1
  funext item
  cases member item (py "type") with
  | null => exact toOption_parseMessageItem state item _ _
  | str itemType =>
      dsimp only
      split
      · exact toOption_parseMessageItem state item _ _
      · split
        · simp only [Parsed.toOption_bind, toOption_reasoningText (member item (py "content"))
            (entryPath (py "input") index ++ py ".content")
            (entryPath (py "input") other ++ py ".content")]
        · split
          · exact toOption_parseFunctionCall state item _ _
          · split
            · exact toOption_parseFunctionOutput item _ _
            · rfl
  | _ => rfl

theorem toOption_parseItems (state : InputState) (index other : Nat)
    (rawItems : List JsonValue) :
    (parseItems state index rawItems).toOption = (parseItems state other rawItems).toOption := by
  induction rawItems generalizing state index other with
  | nil => rfl
  | cons rawItem rawItems induction =>
      simp only [parseItems, Parsed.toOption_bind, toOption_parseItem state index other]
      congr 1
      funext read
      simp only [induction read.2 (index + 1) (other + 1)]

theorem parseItems_append {state middle last : InputState} {index : Nat}
    {first second : List JsonValue} {items later : List CanonicalItem}
    (read : parseItems state index first = .ok (items, middle))
    (readLater : parseItems middle (index + first.length) second = .ok (later, last)) :
    parseItems state index (first ++ second) = .ok (items ++ later, last) := by
  induction first generalizing state index items with
  | nil =>
      cases read
      exact readLater
  | cons rawItem rawItems induction =>
      rw [parseItems] at read
      rcases Parsed.bind_eq_ok.mp read with ⟨⟨item, next⟩, parsed, rest⟩
      rcases Parsed.bind_eq_ok.mp rest with ⟨⟨others, ended⟩, parsedRest, made⟩
      cases made
      have joined := induction parsedRest (by
        rwa [List.length_cons, Nat.add_comm rawItems.length 1, ← Nat.add_assoc] at readLater)
      rw [List.cons_append, parseItems, parsed]
      exact Parsed.bind_eq_ok.mpr ⟨_, rfl, Parsed.bind_eq_ok.mpr ⟨_, joined, rfl⟩⟩

theorem parseInput_eq_ok {rawItems : List JsonValue} {items : List CanonicalItem} :
    parseInput (.list rawItems) = .ok items ↔
      rawItems ≠ [] ∧ ∃ last, parseItems .initial 0 rawItems = .ok (items, last) := by
  cases rawItems with
  | nil => simp [parseInput]
  | cons rawItem rawItems =>
      rw [parseInput]
      cases parseItems .initial 0 (rawItem :: rawItems) with
      | error error => simp [Except.map]
      | ok found =>
          rcases found with ⟨read, last⟩
          simp [Except.map]

/-! ## Items that begin a turn of the user -/

def isUserTurn : JsonValue → Bool
  | .dict item =>
      let byUser := match member item (py "role") with
        | .str role => decide (role = py "user")
        | _ => false
      match member item (py "type") with
      | .null => byUser
      | .str itemType =>
          decide (itemType = py "function_call_output") ||
            decide (itemType = py "message") && byUser
      | _ => false
  | _ => false

/-- What the item is does not depend on the items in front of it, nor do the items behind it. -/
def Resets (index : Nat) (rawItem : JsonValue) : Prop :=
  ∃ read : Parsed CanonicalItem, ∀ state,
    parseItem state index rawItem = Except.map (fun item => (item, InputState.initial)) read

theorem parseUserMessage_initial (content : JsonValue) (path : PyStr) :
    ∃ read : Parsed CanonicalItem, parseUserMessage content path =
      Except.map (fun item => (item, InputState.initial)) read := by
  rw [parseUserMessage]
  cases userMessageContent content (path ++ py ".content") with
  | error error => exact ⟨.error error, rfl⟩
  | ok content =>
      cases content with
      | text text => exact ⟨.ok _, rfl⟩
      | parts parts someImage => exact ⟨.ok _, rfl⟩

theorem parseFunctionOutput_initial (item : JsonObject) (path : PyStr) :
    ∃ read : Parsed CanonicalItem, parseFunctionOutput item path =
      Except.map (fun item => (item, InputState.initial)) read := by
  rw [parseFunctionOutput]
  cases member item (py "call_id") with
  | str callId =>
      dsimp only
      split
      · cases functionOutputContent (member item (py "output")) (path ++ py ".output") with
        | error error => exact ⟨.error error, rfl⟩
        | ok content =>
            cases content with
            | text text => exact ⟨.ok _, rfl⟩
            | parts parts someImage => exact ⟨.ok _, rfl⟩
      · exact ⟨.error _, rfl⟩
  | _ => exact ⟨.error _, rfl⟩

theorem roleOf_user : roleOf (py "user") = some .user := by decide

theorem parseMessageItem_user {item : JsonObject} {role : PyStr}
    (named : member item (py "role") = .str role) (user : role = py "user") (state : InputState)
    (path : PyStr) : parseMessageItem state item path =
      parseUserMessage (member item (py "content")) path := by
  subst user
  rw [parseMessageItem, named]
  simp only [roleOf_user]

theorem resets_of_isUserTurn {rawItem : JsonValue} (turn : isUserTurn rawItem = true)
    (index : Nat) : Resets index rawItem := by
  cases rawItem with
  | dict item =>
      have byUser (state : InputState) {role : PyStr}
          (named : member item (py "role") = .str role) (user : role = py "user") :=
        parseMessageItem_user named user state (entryPath (py "input") index)
      rcases parseUserMessage_initial (member item (py "content")) (entryPath (py "input") index)
        with ⟨message, messageRead⟩
      rcases parseFunctionOutput_initial item (entryPath (py "input") index) with
        ⟨answer, answerRead⟩
      rw [isUserTurn] at turn
      cases kind : member item (py "type") with
      | null =>
          cases named : member item (py "role") with
          | str role =>
              simp only [kind, named, decide_eq_true_eq] at turn
              refine ⟨message, fun state => ?_⟩
              rw [parseItem, asDict, Parsed.ok_bind, kind]
              exact (byUser state named turn).trans messageRead
          | _ => simp [kind, named] at turn
      | str itemType =>
          simp only [kind, Bool.or_eq_true, Bool.and_eq_true, decide_eq_true_eq] at turn
          rcases turn with rfl | ⟨rfl, turn⟩
          · refine ⟨answer, fun state => ?_⟩
            rw [parseItem, asDict, Parsed.ok_bind, kind]
            exact answerRead
          · cases named : member item (py "role") with
            | str role =>
                simp only [named, decide_eq_true_eq] at turn
                refine ⟨message, fun state => ?_⟩
                rw [parseItem, asDict, Parsed.ok_bind, kind]
                exact (byUser state named turn).trans messageRead
            | _ => simp [named] at turn
      | _ => simp [kind] at turn
  | _ => cases turn

/-- Behind such an item the parser is where it began. -/
theorem parseItems_ends {state last : InputState} {index : Nat} {front : List JsonValue}
    {rawItem : JsonValue} {items : List CanonicalItem} (turn : isUserTurn rawItem = true)
    (read : parseItems state index (front ++ [rawItem]) = .ok (items, last)) :
    last = .initial := by
  induction front generalizing state index items with
  | nil =>
      rcases resets_of_isUserTurn turn index with ⟨item, resets⟩
      rw [List.nil_append, parseItems, resets] at read
      cases item with
      | error error => cases read
      | ok item =>
          cases read
          rfl
  | cons first front induction =>
      rw [List.cons_append, parseItems] at read
      rcases Parsed.bind_eq_ok.mp read with ⟨⟨item, next⟩, -, rest⟩
      rcases Parsed.bind_eq_ok.mp rest with ⟨⟨others, ended⟩, parsedRest, made⟩
      cases made
      exact induction parsedRest

/-- What begins with such an item is read the same at any place. -/
theorem parseItems_begins {index other : Nat} {rawItem : JsonValue} {rawItems : List JsonValue}
    {found : List CanonicalItem × InputState} (turn : isUserTurn rawItem = true)
    (read : parseItems .initial index (rawItem :: rawItems) = .ok found) (state : InputState) :
    parseItems state other (rawItem :: rawItems) = .ok found := by
  rcases resets_of_isUserTurn turn index with ⟨item, resets⟩
  have same : parseItems state index (rawItem :: rawItems) = .ok found := by
    rw [parseItems, resets] at read ⊢
    exact read
  exact Parsed.of_toOption (toOption_parseItems state index other _) same

/-! ## Output items that come back -/

/-- What a completed piece is in the history that is stored. -/
inductive Keeps : Piece → CanonicalItem → Prop
  | reasoning (text : PyStr) : Keeps (.segment .reasoning text true) (.reasoning ⟨text, false⟩)
  | message (text : PyStr) : Keeps (.segment .message text true) (.message ⟨.assistant, text⟩)
  | call (call : ToolCallItem) :
      Keeps (.call call.callId call.name call.index call.argumentsJson true) (.toolCall call)

/-- An item of the history and the output item that the client has of it. -/
inductive Returns : CanonicalItem → OutputItem → Prop
  | reasoning (id text : PyStr) :
      Returns (.reasoning ⟨text, false⟩) ⟨id, true, .reasoning (some text)⟩
  | message (id text : PyStr) :
      Returns (.message ⟨.assistant, text⟩) ⟨id, true, .message (some text)⟩
  | call (id : PyStr) (call : ToolCallItem) :
      Returns (.toolCall call)
        ⟨id, true, .functionCall call.callId call.name call.argumentsJson⟩

def readAgain (state : InputState) : CanonicalItem → CanonicalItem × InputState
  | .reasoning item => parseReasoning state item.text
  | .message item => parseMessage state item.role item.text
  | .toolCall call => (.toolCall call,
      { state with callIndex := state.callIndex + 1, assistantToolCallInSegment := true })
  | item => (item, .initial)

def readAllAgain (state : InputState) : List CanonicalItem → List CanonicalItem × InputState
  | [] => ([], state)
  | item :: items =>
      let again := readAgain state item
      let others := readAllAgain again.2 items
      (again.1 :: others.1, others.2)

def Numbered (item : CanonicalItem) (state : InputState) : Prop :=
  ∀ call, item = .toolCall call → call.index = state.callIndex

theorem roleOf_assistant : roleOf (py "assistant") = some .assistant := by decide

theorem parseItem_returned {item : CanonicalItem} {returned : OutputItem}
    (returns : Returns item returned) {state : InputState} (numbered : Numbered item state)
    (index : Nat) : parseItem state index (.dict returned.toJson) = .ok (readAgain state item) := by
  cases returns with
  | reasoning id text =>
      have kind : member (OutputItem.toJson ⟨id, true, .reasoning (some text)⟩) (py "type") =
          .str (py "reasoning") := rfl
      have content : member (OutputItem.toJson ⟨id, true, .reasoning (some text)⟩)
          (py "content") = .list [.dict (reasoningPart text)] := rfl
      have read (path : PyStr) : reasoningText (.list [.dict (reasoningPart text)]) path =
          .ok (text ++ []) := rfl
      have other : py "reasoning" ≠ py "message" := by decide
      rw [parseItem, asDict, Parsed.ok_bind, kind]
      simp only [if_neg other, if_true, content, read, List.append_nil]
      rfl
  | message id text =>
      have kind : member (OutputItem.toJson ⟨id, true, .message (some text)⟩) (py "type") =
          .str (py "message") := rfl
      have role : member (OutputItem.toJson ⟨id, true, .message (some text)⟩) (py "role") =
          .str (py "assistant") := rfl
      have content : member (OutputItem.toJson ⟨id, true, .message (some text)⟩)
          (py "content") = .list [.dict (messagePart text)] := rfl
      have read (path : PyStr) : messageText (.list [.dict (messagePart text)]) path =
          .ok (text ++ []) := rfl
      rw [parseItem, asDict, Parsed.ok_bind, kind]
      simp only [if_true, parseMessageItem, role, roleOf_assistant, content, read,
        List.append_nil]
      rfl
  | call id call =>
      have kind : member (OutputItem.toJson ⟨id, true, .functionCall call.callId call.name
          call.argumentsJson⟩) (py "type") = .str (py "function_call") := rfl
      have callId : member (OutputItem.toJson ⟨id, true, .functionCall call.callId call.name
          call.argumentsJson⟩) (py "call_id") = .str call.callId := rfl
      have name : member (OutputItem.toJson ⟨id, true, .functionCall call.callId call.name
          call.argumentsJson⟩) (py "name") = .str call.name := rfl
      have arguments : member (OutputItem.toJson ⟨id, true, .functionCall call.callId call.name
          call.argumentsJson⟩) (py "arguments") = .str call.argumentsJson := rfl
      have noMessage : py "function_call" ≠ py "message" := by decide
      have noReasoning : py "function_call" ≠ py "reasoning" := by decide
      have index : state.callIndex = call.index := (numbered call rfl).symm
      rw [parseItem, asDict, Parsed.ok_bind, kind]
      simp only [if_neg noMessage, if_neg noReasoning, if_true, parseFunctionCall, callId, name,
        arguments, dif_pos (And.intro call.callIdNonBlank call.nameNonBlank), readAgain, index]

def callIndex? : CanonicalItem → Option Nat
  | .toolCall call => some call.index
  | _ => none

theorem parseItems_returned {items : List CanonicalItem} {returned : List OutputItem}
    (returns : List.Forall₂ Returns items returned) {state : InputState}
    (numbered : items.filterMap callIndex? =
      List.range' state.callIndex (items.filterMap callIndex?).length) (index : Nat) :
    parseItems state index (returned.map fun item => .dict item.toJson) =
      .ok (readAllAgain state items) := by
  induction returns generalizing state index with
  | nil => rfl
  | @cons item out items returned first others induction =>
      have here : Numbered item state := by
        rintro call rfl
        simp only [List.filterMap_cons, callIndex?, List.length_cons, List.range'_succ,
          List.cons.injEq] at numbered
        exact numbered.1
      have rest := @induction (readAgain state item).2 (by
        cases first with
        | reasoning id text =>
            rw [readAgain, parseReasoning]
            dsimp only
            split <;> exact numbered
        | message id text => exact numbered
        | call id call =>
            simp only [List.filterMap_cons, callIndex?, List.length_cons, List.range'_succ,
              List.cons.injEq] at numbered
            exact numbered.2) (index + 1)
      rw [List.map_cons, parseItems, parseItem_returned first here]
      exact Parsed.bind_eq_ok.mpr ⟨_, rfl, Parsed.bind_eq_ok.mpr ⟨_, rest, rfl⟩⟩

/-! ## What reading again changes -/

def unflagged : CanonicalItem → CanonicalItem
  | .reasoning item => .reasoning { item with startsNewAssistantSegment := false }
  | item => item

/-- A reasoning item behind a text that is not blank and in front of the first call. -/
def Reopens (items : List CanonicalItem) : Prop :=
  ∃ front item rest, items = front ++ .reasoning item :: rest ∧
    (∃ message, .message message ∈ front ∧ NonBlank message.text) ∧
    ∀ call, .toolCall call ∉ front

/-- The same behind other items, which held such a text or a call. -/
def ReopensFrom (texts calls : Prop) (items : List CanonicalItem) : Prop :=
  ∃ front item rest, items = front ++ .reasoning item :: rest ∧
    (texts ∨ ∃ message, .message message ∈ front ∧ NonBlank message.text) ∧
    ¬calls ∧ ∀ call, .toolCall call ∉ front

theorem reopensFrom_cons {texts calls : Prop} {item : CanonicalItem}
    {items : List CanonicalItem} :
    ReopensFrom texts calls (item :: items) ↔
      ((∃ reasoning, item = .reasoning reasoning) ∧ texts ∧ ¬calls) ∨
        ReopensFrom (texts ∨ ∃ message, item = .message message ∧ NonBlank message.text)
          (calls ∨ ∃ call, item = .toolCall call) items := by
  constructor
  · rintro ⟨front, reasoning, rest, same, said, noCalls, free⟩
    cases front with
    | nil =>
        cases same
        left
        refine ⟨⟨reasoning, rfl⟩, ?_, noCalls⟩
        rcases said with texts | ⟨message, member, _⟩
        · exact texts
        · cases member
    | cons first front =>
        rcases List.cons.inj same with ⟨rfl, rfl⟩
        right
        refine ⟨front, reasoning, rest, rfl, ?_, ?_, fun call member =>
          free call (.tail _ member)⟩
        · rcases said with texts | ⟨message, member, visible⟩
          · exact .inl (.inl texts)
          · rcases List.mem_cons.mp member with here | later
            · exact .inl (.inr ⟨message, here.symm, visible⟩)
            · exact .inr ⟨message, later, visible⟩
        · rintro (calls | ⟨call, rfl⟩)
          · exact noCalls calls
          · exact free call (.head _)
  · rintro (⟨⟨reasoning, rfl⟩, texts, noCalls⟩ |
      ⟨front, reasoning, rest, rfl, said, noCalls, free⟩)
    · exact ⟨[], reasoning, items, rfl, .inl texts, noCalls, by simp⟩
    · refine ⟨item :: front, reasoning, rest, rfl, ?_, fun calls => noCalls (.inl calls), ?_⟩
      · rcases said with (texts | ⟨message, rfl, visible⟩) | ⟨message, member, visible⟩
        · exact .inl texts
        · exact .inr ⟨message, .head _, visible⟩
        · exact .inr ⟨message, .tail _ member, visible⟩
      · intro call member
        rcases List.mem_cons.mp member with here | later
        · exact noCalls (.inr ⟨call, here.symm⟩)
        · exact free call later

/-- Reading again gives the items of a response back unless one of them reopens the turn. -/
theorem readAllAgain_eq_iff {items : List CanonicalItem} {returned : List OutputItem}
    (returns : List.Forall₂ Returns items returned) (state : InputState) :
    (readAllAgain state items).1 = items ↔
      ¬ReopensFrom (state.assistantTextInSegment = true)
        (state.assistantToolCallInSegment = true) items := by
  induction returns generalizing state with
  | nil =>
      refine iff_of_true rfl ?_
      rintro ⟨front, item, rest, same, -⟩
      simp at same
  | @cons item out items returned first others induction =>
      rw [readAllAgain, List.cons.injEq, induction, reopensFrom_cons]
      cases first with
      | reasoning id text =>
          have noMessage : ¬∃ message, CanonicalItem.reasoning ⟨text, false⟩ = .message message ∧
              NonBlank message.text := by
            rintro ⟨message, same, -⟩
            cases same
          have noCall : ¬∃ call, CanonicalItem.reasoning ⟨text, false⟩ = .toolCall call := by
            rintro ⟨call, same⟩
            cases same
          cases said : state.assistantTextInSegment with
          | false => simp [readAgain, parseReasoning, said]
          | true =>
              cases called : state.assistantToolCallInSegment with
              | false => simp [readAgain, parseReasoning, said, called]
              | true => simp [readAgain, parseReasoning, said, called]
      | message id text => simp [readAgain, parseMessage]
      | call id call =>
          have closed (texts : Prop) : ¬ReopensFrom texts True items := by
            rintro ⟨front, item, rest, -, -, open', -⟩
            exact open' trivial
          simp [readAgain, closed]

theorem reopensFrom_initial (items : List CanonicalItem) :
    ReopensFrom (InputState.initial.assistantTextInSegment = true)
      (InputState.initial.assistantToolCallInSegment = true) items ↔ Reopens items := by
  simp [ReopensFrom, Reopens, InputState.initial]

theorem readAllAgain_unflagged (items : List CanonicalItem) (state : InputState) :
    (readAllAgain state items).1.map unflagged = items.map unflagged := by
  induction items generalizing state with
  | nil => rfl
  | cons item items induction =>
      rw [readAllAgain, List.map_cons, List.map_cons, induction]
      cases item <;> rfl

/-! ## A turn of the model -/

def EarlierDone (output : Output) (position : Nat) : Prop :=
  ∀ earlier piece, earlier < position → output.pieces[earlier]? = some piece → piece.done = true

/-- Calls are numbered, and pieces are completed in the order in which they were started. -/
def historyRules : Rules where
  apart := False
  starts output callId index := callId ∉ output.callIds ∧ index = output.callIndices.length
  continues output position := ∀ kind text,
    output.pieces[position]? = some (.segment kind text false) → EarlierDone output position
  completes output position before arguments := before = arguments ∧ EarlierDone output position

theorem historyRules_implies : historyRules.Implies responseRules where
  apart := id
  starts _ _ _ starts := starts.1
  continues _ _ _ := trivial
  completes _ _ _ _ completes := completes.1

/-- The pieces that are completed are the first ones, and the session has kept them. -/
def Kept (pieces : List Piece) (items : List CanonicalItem) : Prop :=
  ∃ front rest, pieces = front ++ rest ∧ List.Forall₂ Keeps front items ∧
    ∀ piece ∈ rest, piece.done = false

theorem Keeps.done {piece : Piece} {item : CanonicalItem} (keeps : Keeps piece item) :
    piece.done = true := by
  cases keeps <;> rfl

theorem all_done {front : List Piece} {items : List CanonicalItem}
    (keeps : List.Forall₂ Keeps front items) : ∀ piece ∈ front, piece.done = true := by
  induction keeps with
  | nil => simp
  | cons first others induction =>
      intro piece member
      rcases List.mem_cons.mp member with rfl | later
      · exact first.done
      · exact induction piece later

namespace Kept

variable {pieces : List Piece} {items : List CanonicalItem} {position : Nat} {piece : Piece}

theorem append (kept : Kept pieces items) (running : piece.done = false) :
    Kept (pieces ++ [piece]) items := by
  rcases kept with ⟨front, rest, rfl, keeps, waiting⟩
  refine ⟨front, rest ++ [piece], List.append_assoc _ _ _, keeps, ?_⟩
  intro other member
  rcases List.mem_append.mp member with old | new
  · exact waiting other old
  · rw [List.mem_singleton.mp new]
    exact running

/-- A piece that is not completed stands behind those that are. -/
theorem behind {front rest : List Piece} (keeps : List.Forall₂ Keeps front items)
    (found : (front ++ rest)[position]? = some piece) (running : piece.done = false) :
    front.length ≤ position := by
  by_contra inside
  rw [List.getElem?_append_left (Nat.lt_of_not_le inside)] at found
  have done := all_done keeps piece (List.mem_of_getElem? found)
  rw [running] at done
  cases done

theorem set (kept : Kept pieces items) (found : pieces[position]? = some piece)
    (running : piece.done = false) {next : Piece} (runs : next.done = false) :
    Kept (pieces.set position next) items := by
  rcases kept with ⟨front, rest, rfl, keeps, waiting⟩
  have outside := behind keeps found running
  refine ⟨front, rest.set (position - front.length) next,
    List.set_append_right _ _ outside, keeps, ?_⟩
  intro other member
  rcases List.mem_or_eq_of_mem_set member with old | rfl
  · exact waiting other old
  · exact runs

/-- The next piece to be completed is the first one that is not. -/
theorem complete (kept : Kept pieces items) (found : pieces[position]? = some piece)
    (running : piece.done = false) (earlier : ∀ earlier other, earlier < position →
      pieces[earlier]? = some other → other.done = true) {next : Piece} {item : CanonicalItem}
    (keeps : Keeps next item) : Kept (pieces.set position next) (items ++ [item]) := by
  rcases kept with ⟨front, rest, rfl, kept, waiting⟩
  have outside := behind kept found running
  cases rest with
  | nil =>
      rw [List.append_nil] at found
      rw [List.getElem?_eq_none outside] at found
      cases found
  | cons first rest =>
      have here : position = front.length := by
        rcases Nat.eq_or_lt_of_le outside with same | later
        · exact same.symm
        · have done := earlier front.length first later (by simp)
          rw [waiting first (.head _)] at done
          cases done
      subst here
      refine ⟨front ++ [next], rest, ?_, List.rel_append kept (.cons keeps .nil),
        fun other member => waiting other (.tail _ member)⟩
      rw [List.set_append_right _ _ (Nat.le_refl _), Nat.sub_self, List.set_cons_zero,
        List.append_assoc]
      rfl

end Kept

variable {output next : Output} {items : List CanonicalItem}

theorem Kept.stays {pieces : List Piece} {event : ServingEvent} (kept : Kept pieces items)
    (none : completedItem event = none) : Kept pieces (items ++ (completedItem event).toList) := by
  rw [none, Option.toList_none, List.append_nil]
  exact kept

theorem kept_step {event : ServingEvent} (kept : Kept output.pieces items)
    (step : Step historyRules output event next) :
    Kept next.pieces (items ++ (completedItem event).toList) := by
  cases step with
  | started kind requestId closed apart => exact (kept.append rfl).stays (by cases kind <;> rfl)
  | delta kind requestId text current piece continues =>
      exact (kept.set piece rfl rfl).stays (by cases kind <;> rfl)
  | completed kind requestId text current piece continues =>
      obtain ⟨item, completed, keeps⟩ : ∃ item,
          completedItem (.semantic (kind.completed requestId text)) = some item ∧
          Keeps (.segment kind text true) item := by
        cases kind with
        | reasoning => exact ⟨_, rfl, .reasoning text⟩
        | message => exact ⟨_, rfl, .message text⟩
      rw [completed, Option.toList_some]
      exact kept.complete piece rfl (continues kind text piece) keeps
  | callStarted requestId callId name index callIdNonBlank nameNonBlank starts =>
      exact (kept.append rfl).stays rfl
  | callDelta requestId text piece continues => exact (kept.set piece rfl rfl).stays rfl
  | callCompleted requestId call piece completes =>
      exact kept.complete piece rfl completes.2 (.call call)
  | usageUpdated requestId usage => exact kept.stays rfl
  | timingUpdated requestId timing => exact kept.stays rfl

theorem numbered_step {event : ServingEvent}
    (numbered : output.callIndices = List.range output.callIndices.length)
    (step : Step historyRules output event next) :
    next.callIndices = List.range next.callIndices.length := by
  cases step with
  | started kind requestId closed apart =>
      have same : (output.append (.segment kind [] false)).callIndices = output.callIndices := by
        rw [callIndices_append]
        simp [Piece.index?]
      rw [← same] at numbered
      exact numbered
  | @delta kind requestId text position before current piece continues =>
      rw [callIndices_set piece (.segment kind (before ++ text) false) rfl]
      exact numbered
  | @completed kind requestId text position current piece continues =>
      rw [← callIndices_set piece (.segment kind text true) rfl] at numbered
      exact numbered
  | callStarted requestId callId name index callIdNonBlank nameNonBlank starts =>
      rw [callIndices_append, Piece.index?, Option.toList_some, List.length_append,
        List.length_singleton, List.range_succ, ← numbered, starts.2]
  | @callDelta requestId callId name text index position before piece continues =>
      rw [callIndices_set piece (.call callId name index (before ++ text) false) rfl]
      exact numbered
  | @callCompleted requestId call position before piece completes =>
      rw [callIndices_set piece (.call call.callId call.name call.index call.argumentsJson true)
        rfl]
      exact numbered
  | usageUpdated requestId usage => exact numbered
  | timingUpdated requestId timing => exact numbered

theorem kept_run {events : List ServingEvent} (run : Run historyRules events output) :
    Kept output.pieces (events.filterMap completedItem) ∧
      output.callIndices = List.range output.callIndices.length := by
  induction run with
  | start => exact ⟨⟨[], [], rfl, .nil, by simp⟩, rfl⟩
  | @step events output next event run step induction =>
      have stepped := kept_step induction.1 step
      rw [List.filterMap_append]
      refine ⟨?_, numbered_step induction.2 step⟩
      cases completed : completedItem event <;> simpa [completed] using stepped

theorem indices_of_keeps {pieces : List Piece} (keeps : List.Forall₂ Keeps pieces items) :
    items.filterMap callIndex? = pieces.filterMap Piece.index? := by
  induction keeps with
  | nil => rfl
  | cons first others induction =>
      cases first with
      | reasoning text => exact induction
      | message text => exact induction
      | call call => exact congrArg (List.cons call.index) induction

theorem returns_of_keeps {pieces : List Piece} (keeps : List.Forall₂ Keeps pieces items)
    (identity : Nat → PyStr) : List.Forall₂ Returns items
      ((pieces.mapIdx fun position piece => doneItem identity position piece).filterMap id) := by
  induction keeps generalizing identity with
  | nil => exact .nil
  | cons first others induction =>
      rw [List.mapIdx_cons]
      have rest := induction fun position => identity (position + 1)
      cases first with
      | reasoning text => exact .cons (.reasoning _ text) rest
      | message text => exact .cons (.message _ text) rest
      | call call => exact .cons (.call _ call) rest

/-- The items of a finished turn, what the client has of them, and the numbers of the calls. -/
theorem returns_run {events : List ServingEvent} (run : Run historyRules events output)
    (closed : output.Closed) (identity : Nat → PyStr) :
    List.Forall₂ Returns (events.filterMap completedItem) (doneItems identity output) ∧
      (events.filterMap completedItem).filterMap callIndex? =
        List.range' 0 ((events.filterMap completedItem).filterMap callIndex?).length := by
  rcases kept_run run with ⟨⟨front, rest, split, keeps, waiting⟩, numbered⟩
  have whole : rest = [] := by
    rw [List.eq_nil_iff_forall_not_mem]
    intro piece member
    have done := closed piece (by rw [split]; exact List.mem_append_right _ member)
    rw [waiting piece member] at done
    cases done
  rw [whole, List.append_nil] at split
  rw [← split] at keeps
  refine ⟨returns_of_keeps keeps identity, ?_⟩
  rw [indices_of_keeps keeps, ← List.range_eq_range']
  exact numbered

/-! ## Conversations -/

/-- A turn of the user and the response to it. The response is what the accumulator gives, and
the session with the input of the turn has heard the same events. -/
structure Turn where
  config : ResponseConfig
  input : List JsonValue
  inputItems : List CanonicalItem
  events : List ServingEvent
  output : Output
  last : ServingEvent
  response : ResponseObject
  session : StatefulServingSession
  parsed : parseInput (.list input) = .ok inputItems
  asks : ∃ front rawItem, input = front ++ [rawItem] ∧ isUserTurn rawItem = true
  run : Run historyRules events output
  closed : output.Closed
  completes : ∃ requestId reason usage stopSequence,
    last = .generationCompleted requestId reason usage stopSequence
  answered : (ResponsesAccumulator.new.consumeAll config (events ++ [last])).map (·.result) =
    some (.ok response)
  heard : ∃ before : StatefulServingSession, before.currentInput = inputItems ∧
    before.outputs = [] ∧
    before.nextAll (fun _ => (.ok .stored : Except Empty _)) events = .ok session

namespace Turn

def transcript (turn : Turn) : List JsonValue :=
  turn.input ++ turn.response.output.map fun item => .dict item.toJson

def delta (turn : Turn) : List CanonicalItem := turn.session.record.deltaItems

def written (turn : Turn) : List CanonicalItem := turn.events.filterMap completedItem

/-- The turn begins with a message of the user or the output of a function. -/
def Follows (turn : Turn) : Prop :=
  ∃ rawItem rawItems, turn.input = rawItem :: rawItems ∧ isUserTurn rawItem = true

theorem running {events : List ServingEvent} {output : Output}
    (run : Run historyRules events output) :
    ∀ event ∈ events, event.isTerminal = false := by
  induction run with
  | start => simp
  | step run step induction =>
      intro event member
      rcases List.mem_append.mp member with old | new
      · exact induction event old
      · rw [List.mem_singleton.mp new]
        cases step with
        | started kind => cases kind <;> rfl
        | delta kind => cases kind <;> rfl
        | completed kind => cases kind <;> rfl
        | _ => rfl

theorem delta_eq (turn : Turn) : turn.delta = turn.inputItems ++ turn.written := by
  rcases turn.heard with ⟨before, given, empty, heard⟩
  rw [StatefulServingSession.nextAll_of_running (running turn.run)] at heard
  have same := Except.ok.inj heard
  rw [delta, ← same, StatefulServingSession.record, given, empty, List.nil_append, written]

theorem complete_output {accumulator : ResponsesAccumulator} (unfailed : accumulator.error = none)
    (reason : CompletionReason) (usage : Option TokenUsage) {response : ResponseObject}
    (result : (accumulator.complete reason usage).result = .ok response) :
    response.output = accumulator.state.output := by
  rw [ResponsesAccumulator.complete] at result
  split at result
  · simp only [ResponsesAccumulator.result, unfailed] at result
    rw [← Except.ok.inj result]
  · simp only [ResponsesAccumulator.result, unfailed] at result
    rw [← Except.ok.inj result]

theorem returned_eq (turn : Turn) :
    turn.response.output = doneItems turn.config.identity turn.output := by
  rcases turn.completes with ⟨requestId, reason, usage, stopSequence, last⟩
  rcases InStep.new.feedAll turn.config (running turn.run) with
    ⟨serializer, emitted, accumulator, fed, consumed, same⟩
  rcases @Tracks.run turn.config _ .new _
    (turn.run.weaken historyRules_implies) .initial rfl with ⟨after, emitted', fedAgain, -, tracks⟩
  rw [fed] at fedAgain
  cases fedAgain
  have answered := turn.answered
  rw [ResponsesAccumulator.consumeAll] at consumed answered
  rw [List.foldlM_append, consumed, last] at answered
  have result : (accumulator.complete reason usage).result = .ok turn.response :=
    Option.some.inj answered
  rw [complete_output same.error reason usage result, ← same.state]
  exact tracks.framed.output

/-- The whole turn, read behind other items. -/
theorem parse_turn (turn : Turn) {state : InputState} {index : Nat}
    (fresh : turn.Follows ∨ state = .initial) :
    parseItems state index turn.transcript =
      .ok (turn.inputItems ++ (readAllAgain .initial turn.written).1,
        (readAllAgain .initial turn.written).2) := by
  rcases turn.asks with ⟨front, rawItem, ends, asked⟩
  rcases returns_run turn.run turn.closed turn.config.identity with ⟨returns, numbered⟩
  rcases parseInput_eq_ok.mp turn.parsed with ⟨-, last, parsed⟩
  have settled : last = .initial := by
    rw [ends] at parsed
    exact parseItems_ends asked parsed
  subst settled
  have input : parseItems state index turn.input = .ok (turn.inputItems, .initial) := by
    rcases fresh with ⟨first, others, begins, asks⟩ | rfl
    · rw [begins] at parsed ⊢
      exact parseItems_begins asks parsed state
    · exact Parsed.of_toOption (toOption_parseItems .initial 0 index _) parsed
  rw [transcript, returned_eq]
  exact parseItems_append input (parseItems_returned returns numbered _)

def replayed (turn : Turn) : List CanonicalItem :=
  turn.inputItems ++ (readAllAgain .initial turn.written).1

theorem parse_turns {turns : List Turn} (follow : ∀ turn ∈ turns, turn.Follows)
    (state : InputState) (index : Nat) :
    ∃ last, parseItems state index (turns.flatMap transcript) =
      .ok (turns.flatMap replayed, last) := by
  induction turns generalizing state index with
  | nil => exact ⟨state, rfl⟩
  | cons turn turns induction =>
      have first := @parse_turn turn state index (.inl (follow turn (.head _)))
      rcases induction (fun other member => follow other (.tail _ member))
        (readAllAgain .initial turn.written).2 (index + turn.transcript.length) with ⟨last, others⟩
      exact ⟨last, parseItems_append first others⟩

theorem replayed_eq_iff (turn : Turn) : turn.replayed = turn.delta ↔ ¬Reopens turn.written := by
  rw [delta_eq, replayed, List.append_cancel_left_eq, ← reopensFrom_initial]
  exact readAllAgain_eq_iff (returns_run turn.run turn.closed turn.config.identity).1 .initial

theorem replayed_unflagged (turn : Turn) :
    turn.replayed.map unflagged = turn.delta.map unflagged := by
  rw [delta_eq, replayed, List.map_append, List.map_append, readAllAgain_unflagged]

end Turn

theorem flatMap_eq_iff {α β : Type} {first second : α → List β} (values : List α)
    (sizes : ∀ value ∈ values, (first value).length = (second value).length) :
    values.flatMap first = values.flatMap second ↔
      ∀ value ∈ values, first value = second value := by
  induction values with
  | nil => simp
  | cons value values induction =>
      rw [List.flatMap_cons, List.flatMap_cons, List.forall_mem_cons,
        ← induction fun other member => sizes other (.tail _ member)]
      constructor
      · exact fun same => List.append_inj same (sizes value (.head _))
      · rintro ⟨here, there⟩
        rw [here, there]

/-- A conversation that a client continues by sending everything again, and the same from the
responses that are stored: the items are the same but for the mark on reasoning that follows a
text, and all the same where no response has reasoning behind a text and in front of its first
call. -/
theorem continuation_agrees {first : Turn} {others : List Turn}
    (follow : ∀ turn ∈ others, turn.Follows) {followUp : List JsonValue}
    {followItems : List CanonicalItem} (parsed : parseInput (.list followUp) = .ok followItems)
    (asks : ∃ rawItem rawItems, followUp = rawItem :: rawItems ∧ isUserTurn rawItem = true) :
    ∃ replayed,
      parseInput (.list ((first :: others).flatMap Turn.transcript ++ followUp)) =
        .ok (replayed ++ followItems) ∧
      replayed.map unflagged = ((first :: others).flatMap Turn.delta).map unflagged ∧
      (replayed = (first :: others).flatMap Turn.delta ↔
        ∀ turn ∈ first :: others, ¬Reopens turn.written) := by
  rcases asks with ⟨rawItem, rawItems, rfl, turn⟩
  refine ⟨(first :: others).flatMap Turn.replayed, ?_, ?_, ?_⟩
  · have begin := @Turn.parse_turn first .initial 0 (.inr rfl)
    rcases Turn.parse_turns follow (readAllAgain .initial first.written).2
      (0 + first.transcript.length) with ⟨state, rest⟩
    have history : parseItems .initial 0 ((first :: others).flatMap Turn.transcript) =
        .ok ((first :: others).flatMap Turn.replayed, state) := parseItems_append begin rest
    rcases parseInput_eq_ok.mp parsed with ⟨-, last, followed⟩
    exact parseInput_eq_ok.mpr ⟨by simp,
      last, parseItems_append history (parseItems_begins turn followed state)⟩
  · rw [List.map_flatMap, List.map_flatMap]
    simp only [Turn.replayed_unflagged]
  · rw [flatMap_eq_iff]
    · simp only [Turn.replayed_eq_iff]
    · intro turn _
      have same := congrArg List.length turn.replayed_unflagged
      rwa [List.length_map, List.length_map] at same

/-! A call behind a text, and reasoning behind a text. -/

theorem lookup_responseId : NonBlank (py "resp_1") := by decide

theorem lookup_model : NonBlank (py "m") := by decide

theorem lookup_parent : ∀ parent ∈ (none : Option PyStr), NonBlank parent := by simp

def lookupSession (currentInput outputs : List CanonicalItem) : StatefulServingSession :=
  ⟨py "resp_1", py "m", none, currentInput, true, outputs, false, lookup_responseId,
    lookup_model, lookup_parent⟩

def lookupQuestion : List JsonValue :=
  [.dict [(py "role", .str (py "user")), (py "content", .str (py "a"))]]

def lookupAnswer : List JsonValue :=
  [.dict [(py "type", .str (py "function_call_output")), (py "call_id", .str (py "c")),
    (py "output", .str (py "b"))]]

def lookupResponse : ResponseObject :=
  ⟨py "completed", [⟨py "msg_0", true, .message (some (py "hi"))⟩,
    ⟨py "fc_00", true, .functionCall (py "c") (py "look") (py "\x7b\x7d")⟩], none, none, none⟩

theorem lookupQuestion_parsed :
    parseInput (.list lookupQuestion) = .ok [.message ⟨.user, py "a"⟩] := rfl

theorem lookupQuestion_asks : ∃ front rawItem, lookupQuestion = front ++ [rawItem] ∧
    isUserTurn rawItem = true := ⟨[], _, rfl, rfl⟩

theorem earlierDone_first (output : Output) : EarlierDone output 0 :=
  fun _ _ earlier => absurd earlier (Nat.not_lt_zero _)

/-- The arguments of a call are no segment. -/
theorem continues_call {output : Output} {position : Nat} {callId name arguments : PyStr}
    {index : Nat} {done : Bool}
    (found : output.pieces[position]? = some (.call callId name index arguments done)) :
    historyRules.continues output position := by
  intro kind text segment
  rw [found] at segment
  cases segment

theorem lookupTurnRun : Run historyRules lookupEvents lookupOutput := by
  have started : Run historyRules [.semantic (.textStarted (py "r"))] _ :=
    .step .start (.started .message (py "r") rfl False.elim)
  have called := Run.step started (.callStarted (py "r") (py "c") (py "look") 0 lookup_callId
    lookup_name ⟨by rintro ⟨⟩, rfl⟩)
  have spoken := Run.step called (@Step.delta _ _ .message (py "r") (py "hi") 0 _ rfl rfl
    fun _ _ _ => earlierDone_first _)
  have argued := Run.step spoken (@Step.callDelta _ _ (py "r") _ _ (py "\x7b") _ 1 _ rfl
    (continues_call rfl))
  have ended := Run.step argued (@Step.completed _ _ .message (py "r") _ 0 rfl rfl
    fun _ _ _ => earlierDone_first _)
  have closed := Run.step ended (@Step.callDelta _ _ (py "r") _ _ (py "\x7d") _ 1 _ rfl
    (continues_call rfl))
  have first : ∀ earlier piece, earlier < 1 →
      [Piece.segment .message (py "hi") true,
        .call (py "c") (py "look") 0 (py "\x7b\x7d") false][earlier]? = some piece →
      piece.done = true := by
    intro earlier piece inside found
    rw [Nat.lt_one_iff.mp inside] at found
    cases found
    rfl
  have made := Run.step closed (@Step.callCompleted _ _ (py "r") lookupCall 1 _ rfl ⟨rfl, first⟩)
  have same : lookupOutput.openAt = Function.update (Function.update (fun _ => none) .message
      (some 0)) .message none := by
    funext channel
    exact (lookup_closed channel).symm
  have whole : lookupOutput = ⟨lookupOutput.pieces, lookupOutput.openAt⟩ := rfl
  rw [whole, same]
  exact made

theorem lookupOutput_closed : lookupOutput.Closed := by
  simp [Output.Closed, lookupOutput, Piece.done]

def lookupEnd : ServingEvent := .generationCompleted (py "r") .toolCalls none none

theorem lookupEnd_completes : ∃ requestId reason usage stopSequence,
    lookupEnd = .generationCompleted requestId reason usage stopSequence := ⟨_, _, _, _, rfl⟩

theorem lookupTurn_answered :
    (ResponsesAccumulator.new.consumeAll lookupConfig (lookupEvents ++ [lookupEnd])).map
      (·.result) = some (.ok lookupResponse) := rfl

theorem lookupTurn_heard : ∃ before : StatefulServingSession,
    before.currentInput = [.message ⟨.user, py "a"⟩] ∧ before.outputs = [] ∧
    before.nextAll (fun _ => (.ok .stored : Except Empty _)) lookupEvents =
      .ok (lookupSession [.message ⟨.user, py "a"⟩]
        [.message ⟨.assistant, py "hi"⟩, .toolCall lookupCall]) :=
  ⟨lookupSession [.message ⟨.user, py "a"⟩] [], rfl, rfl, rfl⟩

def lookupTurn : Turn where
  config := lookupConfig
  input := lookupQuestion
  inputItems := [.message ⟨.user, py "a"⟩]
  events := lookupEvents
  output := lookupOutput
  last := lookupEnd
  response := lookupResponse
  session := lookupSession [.message ⟨.user, py "a"⟩]
    [.message ⟨.assistant, py "hi"⟩, .toolCall lookupCall]
  parsed := lookupQuestion_parsed
  asks := lookupQuestion_asks
  run := lookupTurnRun
  closed := lookupOutput_closed
  completes := lookupEnd_completes
  answered := lookupTurn_answered
  heard := lookupTurn_heard

def againEvents : List ServingEvent :=
  [.semantic (.textStarted (py "r")), .semantic (.textDelta (py "r") (py "hi")),
    .semantic (.textCompleted (py "r") (py "hi")), .semantic (.reasoningStarted (py "r")),
    .semantic (.reasoningDelta (py "r") (py "so")),
    .semantic (.reasoningCompleted (py "r") (py "so"))]

def againOutput : Output :=
  ⟨[.segment .message (py "hi") true, .segment .reasoning (py "so") true], fun _ => none⟩

def againItems : List CanonicalItem := [.message ⟨.assistant, py "hi"⟩, .reasoning ⟨py "so", false⟩]

def againResponse : ResponseObject :=
  ⟨py "completed", [⟨py "msg_0", true, .message (some (py "hi"))⟩,
    ⟨py "rs_00", true, .reasoning (some (py "so"))⟩], none, none, none⟩

theorem lookupAnswer_parsed :
    parseInput (.list lookupAnswer) = .ok [.toolResult ⟨py "c", py "b", false, lookup_callId⟩] :=
  rfl

theorem lookupAnswer_asks : ∃ front rawItem, lookupAnswer = front ++ [rawItem] ∧
    isUserTurn rawItem = true := ⟨[], _, rfl, rfl⟩

theorem againRun : Run historyRules againEvents againOutput := by
  have started : Run historyRules [.semantic (.textStarted (py "r"))] _ :=
    .step .start (.started .message (py "r") rfl False.elim)
  have spoken := Run.step started (@Step.delta _ _ .message (py "r") (py "hi") 0 _ rfl rfl
    fun _ _ _ => earlierDone_first _)
  have ended := Run.step spoken (@Step.completed _ _ .message (py "r") _ 0 rfl rfl
    fun _ _ _ => earlierDone_first _)
  have thinks := Run.step ended (.started .reasoning (py "r") rfl False.elim)
  have first (text : PyStr) : ∀ earlier piece, earlier < 1 →
      [Piece.segment .message (py "hi") true, .segment .reasoning text false][earlier]? =
        some piece → piece.done = true := by
    intro earlier piece inside found
    rw [Nat.lt_one_iff.mp inside] at found
    cases found
    rfl
  have thought := Run.step thinks (@Step.delta _ _ .reasoning (py "r") (py "so") 1 _ rfl rfl
    fun _ _ _ => first _)
  have closed := Run.step thought (@Step.completed _ _ .reasoning (py "r") _ 1 rfl rfl
    fun _ _ _ => first _)
  have same : againOutput.openAt = Function.update (Function.update (Function.update
      (Function.update (fun _ => none) .message (some 0)) .message none) .reasoning (some 1))
        .reasoning none := by
    funext kind
    cases kind <;> rfl
  have whole : againOutput = ⟨againOutput.pieces, againOutput.openAt⟩ := rfl
  rw [whole, same]
  exact closed

theorem againOutput_closed : againOutput.Closed := by
  simp [Output.Closed, againOutput, Piece.done]

theorem againTurn_answered :
    (ResponsesAccumulator.new.consumeAll lookupConfig (againEvents ++ [lookupEnd])).map
      (·.result) = some (.ok againResponse) := rfl

theorem againTurn_heard : ∃ before : StatefulServingSession,
    before.currentInput = [.toolResult ⟨py "c", py "b", false, lookup_callId⟩] ∧
    before.outputs = [] ∧
    before.nextAll (fun _ => (.ok .stored : Except Empty _)) againEvents =
      .ok (lookupSession [.toolResult ⟨py "c", py "b", false, lookup_callId⟩] againItems) :=
  ⟨lookupSession [.toolResult ⟨py "c", py "b", false, lookup_callId⟩] [], rfl, rfl, rfl⟩

def againTurn : Turn where
  config := lookupConfig
  input := lookupAnswer
  inputItems := [.toolResult ⟨py "c", py "b", false, lookup_callId⟩]
  events := againEvents
  output := againOutput
  last := lookupEnd
  response := againResponse
  session := lookupSession [.toolResult ⟨py "c", py "b", false, lookup_callId⟩] againItems
  parsed := lookupAnswer_parsed
  asks := lookupAnswer_asks
  run := againRun
  closed := againOutput_closed
  completes := lookupEnd_completes
  answered := againTurn_answered
  heard := againTurn_heard

/-- Behind the first turn both histories are the same; behind the second one they are not. -/
theorem continuation_agrees_lookup :
    (∃ replayed, parseInput (.list (lookupTurn.transcript ++ lookupAnswer)) =
        .ok (replayed ++ againTurn.inputItems) ∧ replayed = lookupTurn.delta) ∧
    ∃ replayed,
      parseInput (.list ((lookupTurn.transcript ++ againTurn.transcript) ++ lookupQuestion)) =
        .ok (replayed ++ lookupTurn.inputItems) ∧
      replayed.map unflagged = (lookupTurn.delta ++ againTurn.delta).map unflagged ∧
      replayed ≠ lookupTurn.delta ++ againTurn.delta := by
  have follows : ∀ turn ∈ [againTurn], turn.Follows := by
    intro turn member
    rw [List.mem_singleton.mp member]
    exact ⟨_, [], rfl, rfl⟩
  have plain : ¬Reopens lookupTurn.written := by
    rintro ⟨front, item, rest, same, -⟩
    have member : CanonicalItem.reasoning item ∈ lookupTurn.written := by rw [same]; simp
    have written : lookupTurn.written = [.message ⟨.assistant, py "hi"⟩, .toolCall lookupCall] :=
      rfl
    rw [written] at member
    simp at member
  have reopens : Reopens againTurn.written :=
    ⟨[.message ⟨.assistant, py "hi"⟩], ⟨py "so", false⟩, [], rfl,
      ⟨_, .head _, by decide⟩, by simp⟩
  rcases @continuation_agrees lookupTurn [] (by simp) _ _
    lookupAnswer_parsed ⟨_, [], rfl, rfl⟩ with ⟨once, read, -, agrees⟩
  rcases @continuation_agrees lookupTurn [againTurn] follows
    _ _ lookupQuestion_parsed ⟨_, [], rfl, rfl⟩ with ⟨twice, readTwice, same, differs⟩
  have answer : againTurn.inputItems = [.toolResult ⟨py "c", py "b", false, lookup_callId⟩] := rfl
  have question : lookupTurn.inputItems = [.message ⟨.user, py "a"⟩] := rfl
  refine ⟨⟨once, by simpa [answer] using read, ?_⟩, twice, by simpa [question] using readTwice,
    by simpa using same, ?_⟩
  · simpa using agrees.mpr (by simpa using plain)
  · intro equal
    exact differs.mp (by simpa using equal) againTurn (by simp) reopens

end ExQServe.OpenAI.Responses
