import ExQServe.Foundation.Failing
import ExQServe.Model.DeepSeekV4.Prompt

/-! # Prompts that grow

With tools a turn is rendered without a look at the turns far behind it, and items only add
turns at the end, so the prompt of a longer history begins with the shorter one's. -/

namespace ExQServe.Model.DeepSeekV4

open ExQServe.Failing

/-! ## Leading instructions -/

theorem splitInstructions_append {items later : List CanonicalItem}
    (ended : (splitInstructions items).2 ≠ []) :
    splitInstructions (items ++ later) =
      ((splitInstructions items).1, (splitInstructions items).2 ++ later) := by
  induction items with
  | nil => exact absurd rfl ended
  | cons item items induction =>
      cases item with
      | message item =>
          rw [splitInstructions] at ended
          rw [List.cons_append, splitInstructions, splitInstructions]
          by_cases leads : item.role = .system ∨ item.role = .developer
          · rw [if_pos leads] at ended
            rw [if_pos leads, if_pos leads, induction ended]
          · rw [if_neg leads, if_neg leads]
            rfl
      | _ => rfl

def Prompts : CanonicalItem → Prop
  | .message item => item.role = .user
  | .toolResult _ => True
  | _ => False

theorem splitInstructions_ends {items : List CanonicalItem} {item : CanonicalItem}
    (prompts : Prompts item) : ∃ front,
      splitInstructions (items ++ [item]) =
        ((splitInstructions (items ++ [item])).1, front ++ [item]) := by
  induction items with
  | nil =>
      refine ⟨[], ?_⟩
      cases item with
      | message item =>
          have user : item.role = .user := prompts
          simp [splitInstructions, user]
      | _ => rfl
  | cons first items induction =>
      rcases induction with ⟨front, same⟩
      cases first with
      | message first =>
          rw [List.cons_append, splitInstructions]
          by_cases leads : first.role = .system ∨ first.role = .developer
          · rw [if_pos leads]
            exact ⟨front, by rw [same]⟩
          · rw [if_neg leads]
            exact ⟨.message first :: items, rfl⟩
      | _ => exact ⟨_ :: items, rfl⟩

namespace TurnState

variable {state next : TurnState}

/-! ## Between the model's turns -/

structure Paused (state : TurnState) : Prop where
  reasoning : state.reasoningParts = []
  text : state.assistantText = none
  calls : state.assistantCalls = []

theorem flushAssistant_paused (state : TurnState) : state.flushAssistant.Paused := by
  rw [flushAssistant]
  split
  · rename_i empty
    exact ⟨empty.1, empty.2.1, empty.2.2⟩
  · exact ⟨rfl, rfl, rfl⟩

theorem Paused.flushAssistant (paused : state.Paused) : state.flushAssistant = state :=
  if_pos ⟨paused.reasoning, paused.text, paused.calls⟩

theorem Paused.flushResults (paused : state.Paused) : state.flushResults.Paused := by
  rw [TurnState.flushResults]
  split
  · exact paused
  · exact ⟨paused.reasoning, paused.text, paused.calls⟩

theorem Paused.finish (paused : state.Paused) : state.finish = state.flushResults.turns := by
  rw [TurnState.finish, paused.flushResults.flushAssistant]

theorem flushResults_pending (state : TurnState) : state.flushResults.pendingResults = [] := by
  rw [flushResults]
  split
  · assumption
  · rfl

theorem flushResults_of_none (none : state.pendingResults = []) : state.flushResults = state :=
  if_pos none

theorem flushAssistant_pending (state : TurnState) :
    state.flushAssistant.pendingResults = state.pendingResults := by
  rw [flushAssistant]
  split
  · rfl
  · rfl

theorem appendUser_fields (state : TurnState) (content : PyStr) :
    state.appendUser content = { state with turns := (state.appendUser content).turns } := by
  rw [appendUser]
  split
  · split
    · rfl
    · rfl
  · rfl

/-- A user message is a new turn, or it goes on with the user turn at the end. -/
theorem appendUser_turns (state : TurnState) (content : PyStr) : ∃ front turn,
    (state.appendUser content).turns = front ++ [turn] ∧ turn.role = .user ∧
      (state.turns = front ∨ ∃ previous, state.turns = front ++ [previous] ∧
        previous.role = .user) := by
  rw [appendUser]
  cases ended : state.turns.getLast? with
  | none => exact ⟨state.turns, .user content false, rfl, rfl, .inl rfl⟩
  | some previous =>
      dsimp only
      split
      · rename_i merged
        have split := List.dropLast_append_getLast? previous ended
        exact ⟨_, _, rfl, rfl, .inr ⟨previous, split.symm, merged.1⟩⟩
      · exact ⟨state.turns, .user content false, rfl, rfl, .inl rfl⟩

theorem flushResults_turns (state : TurnState) : state.flushResults.turns = state.turns ∧
    state.pendingResults = [] ∨ ∃ turn, state.flushResults.turns = state.turns ++ [turn] ∧
      turn.role = .user := by
  rw [flushResults]
  split
  · exact .inl ⟨rfl, ‹_›⟩
  · exact .inr ⟨_, rfl, rfl⟩

theorem flushAssistant_turns (state : TurnState) :
    ∃ turns, state.flushAssistant.turns = state.turns ++ turns := by
  rw [flushAssistant]
  split
  · exact ⟨[], (List.append_nil _).symm⟩
  · exact ⟨_, rfl⟩

theorem addResult_eq {item : ToolResultItem} (added : state.addResult item = .ok next) :
    next = { state.flushAssistant with
      pendingResults := state.flushAssistant.pendingResults ++ [item] } := by
  rw [addResult] at added
  split at added
  · cases added
  · cases added
    rfl

/-- Behind a user message or a tool result the model's turn begins anew. -/
theorem step_prompts {item : CanonicalItem} (prompts : Prompts item)
    (stepped : state.step item = .ok next) :
    next.Paused ∧ ∃ front turn, next.flushResults.turns = front ++ [turn] ∧ turn.role = .user := by
  cases item with
  | message item =>
      have user : item.role = .user := prompts
      rw [step, addMessage, user] at stepped
      cases stepped
      have paused := flushAssistant_paused state.flushResults
      have fields := appendUser_fields state.flushResults.flushAssistant item.text
      have pending :
          (state.flushResults.flushAssistant.appendUser item.text).pendingResults = [] := by
        rw [fields, flushAssistant_pending, flushResults_pending]
      rcases appendUser_turns state.flushResults.flushAssistant item.text with
        ⟨front, turn, turns, role, -⟩
      constructor
      · rw [fields]
        exact ⟨paused.reasoning, paused.text, paused.calls⟩
      · rw [flushResults_of_none pending]
        exact ⟨front, turn, turns, role⟩
  | toolResult item =>
      rw [step] at stepped
      have paused := flushAssistant_paused state
      have shape := addResult_eq stepped
      constructor
      · rw [shape]
        exact ⟨paused.reasoning, paused.text, paused.calls⟩
      · rcases flushResults_turns next with none | ⟨turn, turns, role⟩
        · rw [shape] at none
          exact absurd none.2 (List.append_ne_nil_of_right_ne_nil _ (List.cons_ne_nil _ _))
        · exact ⟨_, turn, turns, role⟩
  | _ => exact prompts.elim

/-! ## The model's output -/

/-- The assistant turn that is being collected behind these turns. -/
structure Collects (state : TurnState) (turns : List Turn) (reasoning : List PyStr)
    (text : Option PyStr) (calls : List Call) : Prop where
  turns : state.turns = turns
  reasoning : state.reasoningParts = reasoning
  text : state.assistantText = text
  calls : state.assistantCalls = calls
  settled : state.pendingResults = []

variable {turns : List Turn} {reasoning : List PyStr} {text : Option PyStr} {calls : List Call}

theorem Paused.collects (paused : state.Paused) :
    state.flushResults.Collects state.flushResults.turns [] none [] :=
  ⟨rfl, paused.flushResults.reasoning, paused.flushResults.text, paused.flushResults.calls,
    flushResults_pending state⟩

theorem Collects.addReasoning (collects : state.Collects turns reasoning none [])
    {item : ReasoningItem} (stepped : state.step (.reasoning item) = .ok next) :
    next.Collects turns (reasoning ++ [item.text]) none [] := by
  have stays : ¬(item.startsNewAssistantSegment = true ∧
      (∃ text ∈ state.assistantText, NonBlank text) ∧ state.assistantCalls = []) := by
    rw [collects.text]
    simp
  have unspoken : ¬(state.assistantText ≠ none ∨ state.assistantCalls ≠ []) := by
    rw [collects.text, collects.calls]
    simp
  rw [step, flushResults_of_none collects.settled, TurnState.addReasoning] at stepped
  simp only [if_neg stays, if_neg unspoken] at stepped
  cases stepped
  exact ⟨collects.turns, by rw [collects.reasoning], collects.text, collects.calls,
    collects.settled⟩

theorem Collects.addText (collects : state.Collects turns reasoning none []) {content : PyStr}
    (stepped : state.step (.message ⟨.assistant, content⟩) = .ok next) :
    next.Collects turns reasoning (some content) [] := by
  rw [step, flushResults_of_none collects.settled, addMessage, collects.text] at stepped
  cases stepped
  exact ⟨collects.turns, collects.reasoning, rfl, collects.calls, collects.settled⟩

theorem Collects.addCall (collects : state.Collects turns reasoning text calls)
    {item : ToolCallItem} (stepped : state.step (.toolCall item) = .ok next) :
    next.Collects turns reasoning text (calls ++ [⟨item.name, item.argumentsJson⟩]) := by
  rw [step, flushResults_of_none collects.settled, TurnState.addCall] at stepped
  split at stepped
  · cases stepped
  · split at stepped
    · cases stepped
    · cases stepped
      exact ⟨collects.turns, collects.reasoning, collects.text, by rw [collects.calls],
        collects.settled⟩

theorem Collects.addCalls (collects : state.Collects turns reasoning text calls)
    {items : List ToolCallItem}
    (ran : (items.map CanonicalItem.toolCall).foldlM step state = .ok next) :
    next.Collects turns reasoning text
      (calls ++ items.map fun item => ⟨item.name, item.argumentsJson⟩) := by
  induction items generalizing state calls with
  | nil =>
      cases ran
      simpa using collects
  | cons item items induction =>
      rcases bind_eq_ok ran with ⟨middle, stepped, later⟩
      simpa using induction (collects.addCall stepped) later

end TurnState

/-- What the model may have written: reasoning, a text and calls, in this order. -/
structure AssistantOutput where
  reasoning : Option ReasoningItem
  text : Option PyStr
  calls : List ToolCallItem
  someItem : reasoning ≠ none ∨ text ≠ none ∨ calls ≠ []

namespace AssistantOutput

def items (output : AssistantOutput) : List CanonicalItem :=
  output.reasoning.toList.map .reasoning ++
    (output.text.toList.map (fun text => .message ⟨.assistant, text⟩) ++
      output.calls.map .toolCall)

def wireCalls (output : AssistantOutput) : List Call :=
  output.calls.map fun item => ⟨item.name, item.argumentsJson⟩

def turn (output : AssistantOutput) : Turn :=
  .assistant (output.text.getD []) (output.reasoning.map (·.text)) output.wireCalls

/-- The text that the model wrote; it reasons only where thinking is on. -/
def written (thinking : Bool) (output : AssistantOutput) : Option PyStr :=
  (if output.calls = [] then some [] else encodeCalls output.wireCalls).map fun calls =>
    (if thinking then (output.reasoning.map (·.text)).getD [] ++ thinkClose else []) ++
      (output.text.getD [] ++ (calls ++ eos))

theorem items_ne_nil (output : AssistantOutput) : output.items ≠ [] := by
  rcases output.someItem with some | some | some
  · rcases Option.ne_none_iff_exists'.mp some with ⟨item, same⟩
    simp [items, same]
  · rcases Option.ne_none_iff_exists'.mp some with ⟨text, same⟩
    simp [items, same]
  · simp [items, some]

end AssistantOutput

namespace TurnState

variable {state next : TurnState}

theorem step_flushResults {item : CanonicalItem} (other : ∀ result, item ≠ .toolResult result) :
    state.step item = state.flushResults.step item := by
  have settled := flushResults_of_none (flushResults_pending state)
  cases item with
  | toolResult result => exact absurd rfl (other result)
  | _ => simp [step, settled]

theorem run_flushResults {items : List CanonicalItem} (nonEmpty : items ≠ [])
    (others : ∀ item ∈ items, ∀ result, item ≠ .toolResult result) :
    items.foldlM step state = items.foldlM step state.flushResults := by
  cases items with
  | nil => exact absurd rfl nonEmpty
  | cons item items =>
      rw [List.foldlM_cons, List.foldlM_cons, step_flushResults (others item List.mem_cons_self)]

/-- Behind the model's output its turn is collected. -/
theorem run_output (paused : state.Paused) {output : AssistantOutput}
    (ran : output.items.foldlM step state = .ok next) :
    next.Collects state.flushResults.turns (output.reasoning.toList.map (·.text)) output.text
      output.wireCalls := by
  have others : ∀ item ∈ output.items, ∀ result, item ≠ .toolResult result := by
    intro item member result same
    subst same
    simp [AssistantOutput.items] at member
  rw [run_flushResults output.items_ne_nil others, AssistantOutput.items, List.foldlM_append]
    at ran
  rcases bind_eq_ok ran with ⟨reasoned, ranReasoning, ran⟩
  rw [List.foldlM_append] at ran
  rcases bind_eq_ok ran with ⟨spoken, ranText, ranCalls⟩
  have afterReasoning : reasoned.Collects state.flushResults.turns
      (output.reasoning.toList.map (·.text)) none [] := by
    cases given : output.reasoning with
    | none =>
        rw [given] at ranReasoning
        cases ranReasoning
        exact paused.collects
    | some item =>
        rw [given] at ranReasoning
        rcases bind_eq_ok ranReasoning with ⟨middle, stepped, done⟩
        cases done
        exact paused.collects.addReasoning stepped
  have afterText : spoken.Collects state.flushResults.turns
      (output.reasoning.toList.map (·.text)) output.text [] := by
    cases given : output.text with
    | none =>
        rw [given] at ranText
        cases ranText
        exact afterReasoning
    | some content =>
        rw [given] at ranText
        rcases bind_eq_ok ranText with ⟨middle, stepped, done⟩
        cases done
        exact afterReasoning.addText stepped
  exact afterText.addCalls ranCalls

theorem Collects.flushAssistant {turns : List Turn} {output : AssistantOutput}
    (collects : state.Collects turns (output.reasoning.toList.map (·.text)) output.text
      output.wireCalls) : state.flushAssistant.turns = turns ++ [output.turn] := by
  have some : ¬(state.reasoningParts = [] ∧ state.assistantText = none ∧
      state.assistantCalls = []) := by
    rw [collects.reasoning, collects.text, collects.calls]
    intro none
    rcases output.someItem with some | some | some
    · exact some (by simpa using none.1)
    · exact some none.2.1
    · exact some (by simpa [AssistantOutput.wireCalls] using none.2.2)
  have reasoned : (if state.reasoningParts = [] then none
      else Option.some state.reasoningParts.flatten) = output.reasoning.map (·.text) := by
    rw [collects.reasoning]
    cases output.reasoning with
    | none => rfl
    | some item => simp
  rw [TurnState.flushAssistant, if_neg some, reasoned, collects.turns, collects.text,
    collects.calls]
  rfl

/-! ## Later items -/

def Behind (base : List Turn) (state : TurnState) : Prop := ∃ later, state.turns = base ++ later

namespace Behind

variable {base : List Turn}

theorem flushResults (behind : state.Behind base) : state.flushResults.Behind base := by
  rcases behind with ⟨later, turns⟩
  rcases flushResults_turns state with none | ⟨turn, added, -⟩
  · exact ⟨later, none.1.trans turns⟩
  · exact ⟨later ++ [turn], by rw [added, turns, List.append_assoc]⟩

theorem flushAssistant (behind : state.Behind base) : state.flushAssistant.Behind base := by
  rcases behind with ⟨later, turns⟩
  rcases flushAssistant_turns state with ⟨more, added⟩
  exact ⟨later ++ more, by rw [added, turns, List.append_assoc]⟩

/-- A user message changes no turn in front of an assistant's. -/
theorem appendUser (behind : state.Behind base)
    (spoken : ∀ turn ∈ base.getLast?, turn.role ≠ .user) (content : PyStr) :
    (state.appendUser content).Behind base := by
  rcases behind with ⟨later, turns⟩
  rcases appendUser_turns state content with ⟨front, turn, made, -, same | ⟨previous, same, role⟩⟩
  · exact ⟨later ++ [turn], by rw [made, ← same, turns, List.append_assoc]⟩
  · rcases List.eq_nil_or_concat later with none | ⟨inner, last, split⟩
    · rw [none, List.append_nil] at turns
      have ended : base.getLast? = some previous := by
        rw [← turns, same, List.getLast?_append_of_ne_nil _ (List.cons_ne_nil _ _)]
        rfl
      exact absurd role (spoken previous ended)
    · have front' : front = base ++ inner := by
        have both : front ++ [previous] = (base ++ inner) ++ [last] := by
          rw [← same, turns, split, List.concat_eq_append, List.append_assoc]
        exact (List.append_inj' both rfl).1
      exact ⟨inner ++ [turn], by rw [made, front', List.append_assoc]⟩

theorem step (behind : state.Behind base) (spoken : ∀ turn ∈ base.getLast?, turn.role ≠ .user)
    {item : CanonicalItem} (stepped : state.step item = .ok next) : next.Behind base := by
  cases item with
  | message item =>
      rw [TurnState.step, addMessage] at stepped
      cases role : item.role with
      | user =>
          rw [role] at stepped
          cases stepped
          exact behind.flushResults.flushAssistant.appendUser spoken _
      | assistant =>
          rw [role] at stepped
          cases stepped
          exact behind.flushResults
      | system | developer =>
          rw [role] at stepped
          cases stepped
  | reasoning item =>
      rw [TurnState.step, addReasoning] at stepped
      split at stepped
      · split at stepped
        · cases stepped
        · cases stepped
          exact behind.flushResults.flushAssistant
      · split at stepped
        · cases stepped
        · cases stepped
          exact behind.flushResults
  | toolCall item =>
      rw [TurnState.step, addCall] at stepped
      split at stepped
      · cases stepped
      · split at stepped
        · cases stepped
        · cases stepped
          exact behind.flushResults
  | toolResult item =>
      rw [TurnState.step] at stepped
      rw [addResult_eq stepped]
      exact behind.flushAssistant
  | multimodalMessage item | multimodalToolResult item => cases stepped

theorem run (behind : state.Behind base) (spoken : ∀ turn ∈ base.getLast?, turn.role ≠ .user)
    {items : List CanonicalItem} (ran : items.foldlM TurnState.step state = .ok next) :
    next.Behind base := by
  induction items generalizing state with
  | nil =>
      cases ran
      exact behind
  | cons item items induction =>
      rcases bind_eq_ok ran with ⟨middle, stepped, later⟩
      exact induction (behind.step spoken stepped) later

end Behind

end TurnState

/-! ## Rendering -/

section Rendering

variable {tools : List TemplateTool} {reasoning : ReasoningPolicy}

/-- With tools, no turn is rendered by its place. -/
theorem renderTurn_place (withTools : tools ≠ []) (last last' : Int) (index index' : Nat)
    (turn : Turn) (next : Option Turn) :
    renderTurn tools reasoning last index turn next =
      renderTurn tools reasoning last' index' turn next := by
  simp [renderTurn, withTools]

theorem renderTurns_place (withTools : tools ≠ []) (last last' : Int) (index index' : Nat)
    (turns : List Turn) : renderTurns tools reasoning last index turns =
      renderTurns tools reasoning last' index' turns := by
  induction turns generalizing index index' with
  | nil => rfl
  | cons turn turns induction =>
      rw [renderTurns, renderTurns, renderTurn_place withTools last last' index index',
        induction (index + 1) (index' + 1)]

/-- A user turn is rendered in front of the model's turn as it is at the end. -/
theorem renderTurn_answered {turn answer : Turn} (user : turn.role = .user)
    (assistant : answer.role = .assistant) (last : Int) (index : Nat) :
    renderTurn tools reasoning last index turn (some answer) =
      renderTurn tools reasoning last index turn none := by
  simp [renderTurn, user, assistant]

theorem renderTurns_answered (withTools : tools ≠ []) {front : List Turn} {asked answer : Turn}
    (user : asked.role = .user) (assistant : answer.role = .assistant) (later : List Turn)
    (last : Int) (index : Nat) :
    renderTurns tools reasoning last index (front ++ [asked] ++ answer :: later) = (do
      let shown ← renderTurns tools reasoning last index (front ++ [asked])
      let rest ← renderTurns tools reasoning last index (answer :: later)
      some (shown ++ rest)) := by
  induction front generalizing index with
  | nil =>
      have rest := @renderTurns_place _ reasoning withTools last last (index + 1) index
        (answer :: later)
      have alone : renderTurns tools reasoning last index ([] ++ [asked]) =
          renderTurn tools reasoning last index asked none := by
        cases made : renderTurn tools reasoning last index asked none with
        | none => simp [renderTurns, made]
        | some text => simp [renderTurns, made]
      have first : renderTurns tools reasoning last index ([] ++ [asked] ++ answer :: later) = (do
          let here ← renderTurn tools reasoning last index asked (some answer)
          let rest ← renderTurns tools reasoning last (index + 1) (answer :: later)
          some (here ++ rest)) := rfl
      rw [first, alone, rest, renderTurn_answered user assistant]
  | cons turn front induction =>
      have following : (front ++ [asked] ++ answer :: later).head? = (front ++ [asked]).head? := by
        cases front with
        | nil => rfl
        | cons other front => rfl
      have rest := @renderTurns_place _ reasoning withTools last last (index + 1) index
        (answer :: later)
      rw [List.cons_append, List.cons_append, renderTurns, renderTurns, following,
        induction (index + 1), rest]
      cases renderTurn tools reasoning last index turn (front ++ [asked]).head? with
      | none => rfl
      | some text =>
          cases renderTurns tools reasoning last (index + 1) (front ++ [asked]) with
          | none => rfl
          | some shown =>
              cases renderTurns tools reasoning last index (answer :: later) with
              | none => rfl
              | some more => simp

/-- The model's turn as it is rendered is what the model wrote. -/
theorem renderTurn_output (withTools : tools ≠ []) (output : AssistantOutput) (last : Int)
    (index : Nat) (next : Option Turn) : renderTurn tools reasoning last index output.turn next =
      output.written reasoning.thinking := by
  have calls : output.turn.calls = [] ↔ output.calls = [] := by
    simp [AssistantOutput.turn, Turn.assistant, AssistantOutput.wireCalls]
  cases thinks : reasoning.thinking with
  | true =>
      simp [renderTurn, AssistantOutput.written, withTools, thinks, calls]
      simp [AssistantOutput.turn, Turn.assistant]
  | false =>
      simp [renderTurn, AssistantOutput.written, withTools, thinks, calls]
      simp [AssistantOutput.turn, Turn.assistant]

theorem withSystem_append {turns : List Turn} (nonEmpty : turns ≠ []) (later : List Turn) :
    withSystem tools (turns ++ later) = withSystem tools turns ++ later := by
  have same : (turns ++ later).head? = turns.head? := by
    cases turns with
    | nil => exact absurd rfl nonEmpty
    | cons turn turns => rfl
  rw [withSystem, withSystem, same]
  split
  · rfl
  · rfl

theorem withSystem_ends (front : List Turn) (asked : Turn) :
    ∃ front', withSystem tools (front ++ [asked]) = front' ++ [asked] := by
  rw [withSystem]
  split
  · exact ⟨.system [] :: front, rfl⟩
  · exact ⟨front, rfl⟩

end Rendering

/-! ## Growth -/

/-- The turns of a longer history are those of the shorter one, the model's turn and more. -/
theorem canonicalTurns_grow {history later : List CanonicalItem} {asked answered : CanonicalItem}
    {output : AssistantOutput} {turns : List Turn} (asks : Prompts asked)
    (answers : Prompts answered) (accepted : canonicalTurns
      (history ++ [asked] ++ (output.items ++ answered :: later)) = .ok turns) :
    ∃ front turn more, canonicalTurns (history ++ [asked]) = .ok (front ++ [turn]) ∧
      turn.role = .user ∧ turns = front ++ [turn] ++ output.turn :: more := by
  rcases @splitInstructions_ends history _ asks with ⟨front, split⟩
  have nonEmpty : (splitInstructions (history ++ [asked])).2 ≠ [] := by
    rw [split]
    simp
  rw [canonicalTurns, splitInstructions_append nonEmpty] at accepted
  rw [canonicalTurns]
  generalize TurnState.initial (splitInstructions (history ++ [asked])).1 = start at accepted ⊢
  rcases map_eq_ok accepted with ⟨final, ran, finished⟩
  rw [split] at ran ⊢
  rw [List.foldlM_append, List.foldlM_append] at ran
  rcases bind_eq_ok ran with ⟨shown, ranShown, ran⟩
  rcases bind_eq_ok ranShown with ⟨before, ranFront, ranAsked⟩
  rcases bind_eq_ok ranAsked with ⟨_, stepped, done⟩
  cases done
  rw [List.foldlM_append] at ran
  rcases bind_eq_ok ran with ⟨collected, ranOutput, ran⟩
  rcases bind_eq_ok ran with ⟨resumed, steppedAnswer, ranLater⟩
  rcases TurnState.step_prompts asks stepped with ⟨paused, front', turn, ends, user⟩
  have collects := TurnState.run_output paused ranOutput
  have spoken : ∀ turn ∈ (shown.flushResults.turns ++ [output.turn]).getLast?,
      turn.role ≠ .user := by
    intro turn member
    rw [List.getLast?_concat] at member
    cases member
    simp [AssistantOutput.turn, Turn.assistant]
  have behind : resumed.Behind (shown.flushResults.turns ++ [output.turn]) := by
    have flushed : collected.flushAssistant.Behind (shown.flushResults.turns ++ [output.turn]) :=
      ⟨[], by rw [collects.flushAssistant, List.append_nil]⟩
    cases answered with
    | message item =>
        have role : item.role = .user := answers
        rw [TurnState.step, TurnState.addMessage, role,
          TurnState.flushResults_of_none collects.settled] at steppedAnswer
        cases steppedAnswer
        exact flushed.appendUser spoken _
    | toolResult item =>
        rw [TurnState.step] at steppedAnswer
        rw [TurnState.addResult_eq steppedAnswer]
        exact flushed
    | _ => exact answers.elim
  rcases (behind.run spoken ranLater).flushResults.flushAssistant with ⟨more, whole⟩
  refine ⟨front', turn, more, ?_, user, ?_⟩
  · have again : (front ++ [asked]).foldlM TurnState.step start = .ok shown := by
      rw [List.foldlM_append]
      exact ranShown
    rw [again, Except.map, paused.finish, ends]
  · rw [← finished, TurnState.finish, whole, ends, List.append_assoc]
    rfl

/-- With tools, the prompt of a history that goes on with the model's output and the user's or
the tools' answer begins with the prompt that the model was shown and the text it wrote. -/
theorem prompts_append_only {tools : List TemplateTool} {reasoning : ReasoningPolicy}
    {history later : List CanonicalItem} {asked answered : CanonicalItem}
    {output : AssistantOutput} {turns : List Turn} {text : PyStr} (withTools : tools ≠ [])
    (asks : Prompts asked) (answers : Prompts answered)
    (accepted : canonicalTurns (history ++ [asked] ++ (output.items ++ answered :: later)) =
      .ok turns)
    (rendered : renderPrompt turns tools reasoning = some text) :
    ∃ shownTurns shown written, canonicalTurns (history ++ [asked]) = .ok shownTurns ∧
      renderPrompt shownTurns tools reasoning = some shown ∧
      output.written reasoning.thinking = some written ∧ shown ++ written <+: text := by
  rcases canonicalTurns_grow asks answers accepted with ⟨front, turn, more, before, user, rfl⟩
  rcases @withSystem_ends tools front turn with ⟨front', ends⟩
  have nonEmpty : front ++ [turn] ≠ [] := by simp
  have whole : withSystem tools (front ++ [turn] ++ output.turn :: more) =
      front' ++ [turn] ++ output.turn :: more := by
    rw [withSystem_append nonEmpty, ends]
  rw [renderPrompt, whole, if_neg (by simp)] at rendered
  rcases Option.map_eq_some_iff.mp rendered with ⟨body, made, same⟩
  rw [renderTurns_answered withTools user rfl] at made
  rcases Option.bind_eq_some_iff.mp made with ⟨shown, shownMade, made⟩
  rcases Option.bind_eq_some_iff.mp made with ⟨rest, restMade, joined⟩
  rw [renderTurns.eq_2, renderTurn_output withTools output] at restMade
  rcases Option.bind_eq_some_iff.mp restMade with ⟨written, writtenMade, restMade⟩
  rcases Option.bind_eq_some_iff.mp restMade with ⟨behind, -, restJoined⟩
  refine ⟨front ++ [turn], bos ++ effortPrefix reasoning ++ shown, written, before, ?_,
    writtenMade, behind, ?_⟩
  · rw [renderPrompt, ends, if_neg (by simp), renderTurns_place withTools _
      (lastUser (front' ++ [turn] ++ output.turn :: more)) _ 0, shownMade]
    rfl
  · cases joined
    cases restJoined
    rw [← same]
    simp

def lookTool : TemplateTool := ⟨py "look", none, py "\x7b\x7d"⟩

theorem lookCall_id : NonBlank (py "c1") := by decide

theorem lookCall_name : NonBlank (py "look") := by decide

theorem lookOutput_reasoned : (some ⟨py "hm", false⟩ : Option ReasoningItem) ≠ none := by simp

def lookOutput : AssistantOutput where
  reasoning := some ⟨py "hm", false⟩
  text := some (py "wait")
  calls := [⟨py "c1", py "look", py "\x7b\x7d", 0, lookCall_id, lookCall_name⟩]
  someItem := .inl lookOutput_reasoned

def lookQuestion : CanonicalItem := .message ⟨.user, py "hi"⟩

def lookAnswer : CanonicalItem := .toolResult ⟨py "c1", py "a cat", false, lookCall_id⟩

theorem lookTool_schemas : toolSchemaLines [lookTool] =
    some (py "\x7b\"name\": \"look\", \"parameters\": \x7b\x7d\x7d") := by
  decide

def lookShown : PyStr :=
  bos ++ effortPrefix ⟨.enabled, none⟩ ++ py "\n\n" ++
    toolInstructions (py "\x7b\"name\": \"look\", \"parameters\": \x7b\x7d\x7d") ++
    userMarker ++ py "hi" ++ assistantMarker ++ thinkOpen

def lookWritten : PyStr :=
  py "hm" ++ thinkClose ++ py "wait\n\n<｜DSML｜tool_calls>\n<｜DSML｜invoke name=\"look\">\n" ++
    py "</｜DSML｜invoke>\n</｜DSML｜tool_calls>" ++ eos

theorem lookOutput_written : lookOutput.written true = some lookWritten := by decide

def lookAnswered : PyStr :=
  userMarker ++ toolResultOpen ++ py "a cat" ++ toolResultClose ++ assistantMarker ++ thinkOpen

def lookAsked : Turn := .user (py "hi") false

def lookReply : Turn := .user (toolResultOpen ++ py "a cat" ++ toolResultClose) true

theorem lookAsked_rendered :
    renderPrompt [lookAsked] [lookTool] ⟨.enabled, none⟩ = some lookShown := by
  simp [renderPrompt, withSystem, renderTurns, renderTurn, lookTool_schemas, lookShown, lookAsked,
    Turn.user, Turn.system, ReasoningPolicy.thinking]

theorem lookReply_rendered :
    renderPrompt [lookAsked, lookOutput.turn, lookReply] [lookTool] ⟨.enabled, none⟩ =
      some (lookShown ++ lookWritten ++ lookAnswered) := by
  have wrote (last : Int) (next : Option Turn) :
      renderTurn [lookTool] ⟨.enabled, none⟩ last 2 lookOutput.turn next = some lookWritten := by
    rw [renderTurn_output (List.cons_ne_nil _ _)]
    exact lookOutput_written
  have assistant : lookOutput.turn.role = .assistant := rfl
  have framed : withSystem [lookTool] [lookAsked, lookOutput.turn, lookReply] =
      [.system [], lookAsked, lookOutput.turn, lookReply] := rfl
  rw [renderPrompt, framed, if_neg (List.cons_ne_nil _ _)]
  simp only [renderTurns, Nat.zero_add, Nat.reduceAdd, wrote]
  simp [renderTurn, assistant, lookTool_schemas, lookShown, lookAnswered, lookAsked, lookReply,
    Turn.user, Turn.system, ReasoningPolicy.thinking]

/-- A question, reasoning with a call, and the call's result. -/
theorem prompts_append_only_look :
    canonicalTurns ([lookQuestion] ++ (lookOutput.items ++ [lookAnswer])) =
        .ok [lookAsked, lookOutput.turn, lookReply] ∧
      renderPrompt [lookAsked, lookOutput.turn, lookReply] [lookTool] ⟨.enabled, none⟩ =
        some (lookShown ++ lookWritten ++ lookAnswered) ∧
      canonicalTurns [lookQuestion] = .ok [lookAsked] ∧
      renderPrompt [lookAsked] [lookTool] ⟨.enabled, none⟩ = some lookShown ∧
      lookOutput.written true = some lookWritten ∧
      lookShown ++ lookWritten <+: lookShown ++ lookWritten ++ lookAnswered := by
  have accepted : canonicalTurns ([] ++ [lookQuestion] ++ (lookOutput.items ++ lookAnswer :: [])) =
      .ok [lookAsked, lookOutput.turn, lookReply] := rfl
  have first : canonicalTurns ([] ++ [lookQuestion]) = .ok [lookAsked] := rfl
  have grown := prompts_append_only (List.cons_ne_nil _ _) (show Prompts lookQuestion from rfl)
    (show Prompts lookAnswer from trivial) accepted lookReply_rendered
  rcases grown with ⟨turns, shown, written, asked, rendered, wrote, grown⟩
  cases first.symm.trans asked
  cases lookAsked_rendered.symm.trans rendered
  cases lookOutput_written.symm.trans wrote
  exact ⟨accepted, lookReply_rendered, first, rendered, wrote, grown⟩

end ExQServe.Model.DeepSeekV4
