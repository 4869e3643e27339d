import ExQServe.Serving.MidSystem

/-! # What the normalization of system messages conserves

A lowering is read as a list of pieces: an item that is no system message, the section
behind it, and what stands for both in the result. -/

namespace ExQServe.Serving

open ExQServe.Model

/-! ## Pieces -/

/-- A text with those of a section in it: each once, in order, under a tag of its own. -/
inductive Reminds : List CanonicalItem → PyStr → Prop
  | last (text : PyStr) :
      Reminds [.message ⟨.system, text⟩]
        (py "<system-reminder>\n" ++ text ++ py "\n</system-reminder>")
  | before (text : PyStr) {behind : List CanonicalItem} {reminder : PyStr} :
      Reminds behind reminder →
      Reminds (.message ⟨.system, text⟩ :: behind)
        (py "<system-reminder>\n" ++ text ++ py "\n</system-reminder>\n\n" ++ reminder)

inductive Carried : CanonicalItem → List CanonicalItem → List CanonicalItem → Prop
  | kept {item} : isSystem item = false → Carried item [] [item]
  | appended {text behind reminder} :
      Reminds behind reminder → Carried (.message ⟨.user, text⟩) behind
        [.message ⟨.user, text ++ py "\n\n" ++ reminder⟩]
  | appendedPart {item image : MultimodalMessageItem} {behind reminder} :
      Reminds behind reminder →
      image.parts = item.parts ++ [.text ⟨py "\n\n" ++ reminder⟩] →
      Carried (.multimodalMessage item) behind [.multimodalMessage image]
  | insertedAfter {item behind reminder} :
      Reminds behind reminder → (∃ answer, item = .toolResult answer) ∨
        (∃ answer, item = .multimodalToolResult answer) →
      Carried item behind [item, .message ⟨.user, reminder⟩]

/-- An item, the system messages behind it up to the next other item, and their image. -/
structure Piece where
  item : CanonicalItem
  behind : List CanonicalItem
  image : List CanonicalItem
  system : ∀ message ∈ behind, isSystem message = true
  carried : Carried item behind image

namespace Piece

def source (piece : Piece) : List CanonicalItem := piece.item :: piece.behind

theorem item_other (piece : Piece) : isSystem piece.item = false := by
  rcases piece with ⟨item, behind, image, system, carried⟩
  cases carried with
  | kept other => exact other
  | appended _ => rfl
  | appendedPart _ _ => rfl
  | insertedAfter _ result =>
      dsimp only
      rcases result with ⟨answer, same⟩ | ⟨answer, same⟩
      · rw [same]; rfl
      · rw [same]; rfl

theorem image_other (piece : Piece) : ∀ item ∈ piece.image, isSystem item = false := by
  have other := piece.item_other
  intro item member
  rcases piece with ⟨head, behind, image, system, carried⟩
  cases carried with
  | kept _ =>
      rw [List.mem_singleton.mp member]
      exact other
  | appended _ | appendedPart _ _ =>
      rw [List.mem_singleton.mp member]
      rfl
  | insertedAfter _ _ =>
      rcases List.mem_cons.mp member with rfl | member
      · exact other
      · rw [List.mem_singleton.mp member]
        rfl

theorem isTool_of_system {item : CanonicalItem} (system : isSystem item = true) :
    item.isTool = false := by
  cases item with
  | message _ => rfl
  | _ => cases system

/-- The calls and results are the same on both sides. -/
theorem same_tools (piece : Piece) :
    piece.image.filter CanonicalItem.isTool = piece.source.filter CanonicalItem.isTool := by
  have noTools : piece.behind.filter CanonicalItem.isTool = [] :=
    List.filter_eq_nil_iff.mpr fun message member => by
      rw [isTool_of_system (piece.system message member)]
      exact Bool.false_ne_true
  rw [source, List.filter_cons, noTools]
  rcases piece with ⟨head, behind, image, system, carried⟩
  cases carried with
  | kept _ => rw [List.filter_cons, List.filter_nil]
  | appended _ | appendedPart _ _ => rfl
  | insertedAfter _ _ =>
      rw [List.filter_cons, List.filter_cons_of_neg (by exact Bool.false_ne_true), List.filter_nil]

end Piece

/-! ## Lowering in place -/

theorem render_singleton (text : PyStr) :
    renderMidSystemReminder [text] =
      py "<system-reminder>\n" ++ text ++ py "\n</system-reminder>" := by
  rw [renderMidSystemReminder, List.map_singleton, List.intercalate_singleton, systemReminder]

theorem render_cons (text : PyStr) {texts : List PyStr} (more : texts ≠ []) :
    renderMidSystemReminder (text :: texts) =
      py "<system-reminder>\n" ++ text ++ py "\n</system-reminder>\n\n" ++
        renderMidSystemReminder texts := by
  have split : py "\n</system-reminder>\n\n" = py "\n</system-reminder>" ++ py "\n\n" := rfl
  cases texts with
  | nil => exact absurd rfl more
  | cons next texts =>
      rw [renderMidSystemReminder, List.map_cons, List.map_cons, List.intercalate_cons_cons,
        renderMidSystemReminder, List.map_cons, systemReminder, split]
      simp only [List.append_assoc]

theorem message_of_system {item : CanonicalItem} (system : isSystem item = true) :
    item = .message ⟨.system, messageText item⟩ := by
  cases item with
  | message item =>
      rcases item with ⟨role, text⟩
      cases (beq_iff_eq.mp system : role = .system)
      rfl
  | _ => cases system

/-- The text of a section is what its reminder says. -/
theorem reminds_render {behind : List CanonicalItem} (nonempty : behind ≠ [])
    (system : ∀ message ∈ behind, isSystem message = true) :
    Reminds behind (renderMidSystemReminder (behind.map messageText)) := by
  induction behind with
  | nil => exact absurd rfl nonempty
  | cons message behind induction =>
      have said := message_of_system (system message (.head _))
      cases behind with
      | nil =>
          rw [List.map_singleton, render_singleton, said]
          exact .last _
      | cons next behind =>
          rw [List.map_cons, render_cons _ (by simp), said]
          exact .before _ (induction (by simp) fun other member => system other (.tail _ member))

theorem attach_carried {item : CanonicalItem} {behind image : List CanonicalItem}
    (nonempty : behind ≠ []) (system : ∀ message ∈ behind, isSystem message = true)
    (attached : attach item (renderMidSystemReminder (behind.map messageText)) = .ok image) :
    Carried item behind image := by
  have reminds := reminds_render nonempty system
  cases item with
  | message item =>
      rcases item with ⟨role, text⟩
      rw [attach] at attached
      dsimp only at attached
      split at attached
      · rename_i user
        cases attached
        subst user
        exact .appended reminds
      · cases attached
  | multimodalMessage item =>
      cases attached
      exact .appendedPart reminds rfl
  | toolResult answer =>
      cases attached
      exact .insertedAfter reminds (.inl ⟨answer, rfl⟩)
  | multimodalToolResult answer =>
      cases attached
      exact .insertedAfter reminds (.inr ⟨answer, rfl⟩)
  | reasoning _ | toolCall _ => cases attached

/-- The loop on a tail that begins with no system message. -/
theorem lowerLoop_pieces {lowered items result : List CanonicalItem}
    (starts : ∀ first ∈ items.head?, isSystem first = false)
    (ended : lowerLoop lowered items = .ok result) :
    ∃ pieces : List Piece, items = pieces.flatMap Piece.source ∧
      result = lowered ++ pieces.flatMap Piece.image := by
  induction length : items.length using Nat.strong_induction_on
    generalizing lowered items result with
  | _ size induction =>
  cases items with
  | nil =>
      rw [lowerLoop] at ended
      cases ended
      exact ⟨[], rfl, (List.append_nil _).symm⟩
  | cons item items =>
      have other := starts item rfl
      rw [lowerLoop, if_neg (by rw [other]; exact Bool.false_ne_true)] at ended
      cases items with
      | nil =>
          rw [lowerLoop] at ended
          cases ended
          exact ⟨[⟨item, [], [item], by simp, .kept other⟩], rfl, rfl⟩
      | cons next rest =>
          cases system : isSystem next with
          | false =>
              rcases induction (next :: rest).length (by rw [← length]; exact Nat.lt_succ_self _)
                (fun first found => by cases found; exact system) ended rfl with
                ⟨pieces, whole, image⟩
              refine ⟨⟨item, [], [item], by simp, .kept other⟩ :: pieces, ?_, ?_⟩
              · rw [List.flatMap_cons, ← whole]
                rfl
              · rw [image, List.flatMap_cons, List.append_assoc]
          | true =>
              rw [lowerLoop, if_pos system] at ended
              simp only [List.getLast?_append, List.getLast?_singleton, Option.some_or,
                List.dropLast_concat] at ended
              split at ended
              · cases ended
              · rename_i replaced attached
                have systems : ∀ message ∈ next :: rest.takeWhile isSystem,
                    isSystem message = true := by
                  intro message member
                  rcases List.mem_cons.mp member with rfl | member
                  · exact system
                  · exact List.mem_takeWhile_imp member
                have carried := attach_carried (List.cons_ne_nil _ _) systems attached
                have startsNext : ∀ first ∈ (rest.dropWhile isSystem).head?,
                    isSystem first = false := by
                  intro first found
                  have all := List.head?_dropWhile_not isSystem rest
                  rw [Option.mem_def.mp found] at all
                  simpa using all
                rcases induction (rest.dropWhile isSystem).length (by
                  rw [← length, List.length_cons, List.length_cons]
                  exact Nat.lt_succ_of_le (Nat.le_succ_of_le (List.length_dropWhile_le _ _)))
                  startsNext ended rfl with
                  ⟨pieces, whole, image⟩
                refine ⟨⟨item, next :: rest.takeWhile isSystem, replaced, systems, carried⟩ ::
                  pieces, ?_, ?_⟩
                · rw [List.flatMap_cons, ← whole, Piece.source]
                  simp only [List.cons_append, List.takeWhile_append_dropWhile]
                · rw [image, List.flatMap_cons, List.append_assoc]

/-! ## What holds of a result -/

theorem midSystemCounts_eq_zero_iff (inSection : Bool) (items : List CanonicalItem) :
    (midSystemCounts inSection items).1 = 0 ↔ ∀ item ∈ items, isSystem item = false := by
  induction items generalizing inSection with
  | nil => exact iff_of_true rfl fun _ member => (List.not_mem_nil member).elim
  | cons item items induction =>
      rw [midSystemCounts, List.forall_mem_cons, ← induction (isSystem item)]
      cases system : isSystem item <;> simp

structure Normalized (lowering : BestEffortMidSystemLowering) (source result : List CanonicalItem) :
    Prop where
  /-- No system message behind the leading instructions. -/
  settled : ∀ item ∈ laterItems result, isSystem item = false
  /-- Merged: both the system messages and the other items are the same, in their order. -/
  merged : lowering = .mergedLeading →
    (result.filter fun item => !isSystem item) = (source.filter fun item => !isSystem item) ∧
      result.filter isSystem = source.filter isSystem
  /-- In place: each later item is followed or extended by the section behind it. -/
  inPlace : lowering = .inPlaceUserMeta → ∃ pieces : List Piece,
    laterItems source = pieces.flatMap Piece.source ∧
      result = leadingItems source ++ pieces.flatMap Piece.image ∧
      (laterItems source).filter isSystem = pieces.flatMap Piece.behind ∧
      ((laterItems source).filter fun item => !isSystem item) = pieces.map Piece.item

theorem isInstruction_leading (items : List CanonicalItem) :
    ∀ item ∈ leadingItems items, isInstructionItem item = true := fun _ member =>
  List.mem_takeWhile_imp member

theorem isInstruction_of_system {item : CanonicalItem} (system : isSystem item = true) :
    isInstructionItem item = true := by
  cases item with
  | message item => exact Bool.or_eq_true_iff.mpr (.inl system)
  | _ => cases system

/-- What stands behind instructions only can hold nothing that is not in the rest. -/
theorem laterItems_subset {front rest : List CanonicalItem}
    (instructions : ∀ item ∈ front, isInstructionItem item = true) :
    ∀ item ∈ laterItems (front ++ rest), item ∈ rest := by
  intro item member
  rw [laterItems, List.dropWhile_append_of_pos instructions] at member
  exact (List.dropWhile_sublist _).subset member

theorem leading_append_later (items : List CanonicalItem) :
    leadingItems items ++ laterItems items = items := List.takeWhile_append_dropWhile

theorem merged_normalized (items : List CanonicalItem) :
    Normalized .mergedLeading items (mergeLeading items) := by
  refine ⟨?_, fun _ => ⟨?_, ?_⟩, nofun⟩
  · intro item member
    have instructions : ∀ item ∈ leadingItems items ++ (laterItems items).filter isSystem,
        isInstructionItem item = true := by
      intro item member
      rcases List.mem_append.mp member with member | member
      · exact isInstruction_leading items item member
      · exact isInstruction_of_system (List.mem_filter.mp member).2
    have inRest := laterItems_subset instructions item member
    exact Bool.not_eq_true' _ ▸ (List.mem_filter.mp inRest).2
  · conv_rhs => rw [← leading_append_later items]
    rw [mergeLeading, List.filter_append, List.filter_append, List.filter_append,
      List.filter_filter, List.filter_filter]
    simp
  · conv_rhs => rw [← leading_append_later items]
    rw [mergeLeading, List.filter_append, List.filter_append, List.filter_append,
      List.filter_filter, List.filter_filter]
    simp

theorem pieces_filter (pieces : List Piece) :
    (pieces.flatMap Piece.source).filter isSystem = pieces.flatMap Piece.behind ∧
      ((pieces.flatMap Piece.source).filter fun item => !isSystem item) =
        pieces.map Piece.item := by
  induction pieces with
  | nil => exact ⟨rfl, rfl⟩
  | cons piece pieces induction =>
      have systems : piece.behind.filter isSystem = piece.behind :=
        List.filter_eq_self.mpr piece.system
      have noOthers : (piece.behind.filter fun item => !isSystem item) = [] :=
        List.filter_eq_nil_iff.mpr fun message member => by
          rw [piece.system message member]
          exact Bool.false_ne_true
      rw [List.flatMap_cons, List.filter_append, List.filter_append, induction.1, induction.2,
        Piece.source, List.filter_cons, List.filter_cons, piece.item_other, systems, noOthers]
      exact ⟨rfl, rfl⟩

theorem pieces_tools (pieces : List Piece) :
    (pieces.flatMap Piece.image).filter CanonicalItem.isTool =
      (pieces.flatMap Piece.source).filter CanonicalItem.isTool := by
  induction pieces with
  | nil => rfl
  | cons piece pieces induction =>
      rw [List.flatMap_cons, List.flatMap_cons, List.filter_append, List.filter_append, induction,
        piece.same_tools]

theorem later_starts (items : List CanonicalItem) :
    ∀ first ∈ (laterItems items).head?, isSystem first = false := by
  intro first found
  have all := List.head?_dropWhile_not isInstructionItem items
  rw [laterItems] at found
  rw [Option.mem_def.mp found] at all
  dsimp only at all
  cases system : isSystem first with
  | false => rfl
  | true =>
      rw [isInstruction_of_system system] at all
      cases all

theorem lowered_normalized {items result : List CanonicalItem}
    (lowered : lowerLoop (leadingItems items) (laterItems items) = .ok result) :
    Normalized .inPlaceUserMeta items result ∧
      result.filter CanonicalItem.isTool = items.filter CanonicalItem.isTool := by
  rcases lowerLoop_pieces (later_starts items) lowered with ⟨pieces, whole, rfl⟩
  have filters := pieces_filter pieces
  rw [← whole] at filters
  constructor
  · refine ⟨?_, nofun, fun _ => ⟨pieces, whole, rfl, filters.1, filters.2⟩⟩
    intro item member
    have inImage := laterItems_subset (isInstruction_leading items) item member
    rcases List.mem_flatMap.mp inImage with ⟨piece, _, inPiece⟩
    exact piece.image_other item inPiece
  · conv_rhs => rw [← leading_append_later items, whole]
    rw [List.filter_append, List.filter_append, pieces_tools]

theorem merged_tools (items : List CanonicalItem) :
    (mergeLeading items).filter CanonicalItem.isTool = items.filter CanonicalItem.isTool := by
  have toolsOther : ∀ items : List CanonicalItem, items.filter CanonicalItem.isTool =
      (items.filter fun item => !isSystem item).filter CanonicalItem.isTool := by
    intro items
    rw [List.filter_filter]
    refine List.filter_congr fun item _ => ?_
    cases system : isSystem item with
    | true => rw [Piece.isTool_of_system system]; rfl
    | false => rw [Bool.not_false, Bool.and_true]
  rw [toolsOther, toolsOther items, ((merged_normalized items).merged rfl).1]

/-! ## The normalization -/

/-- The two ways in which the normalization returns. -/
theorem normalize_cases {request : MidSystemRequest} {capability : MidSystemCapability}
    {lowering : BestEffortMidSystemLowering} {result : CanonicalRequest}
    (normalized : normalizeMidSystemInput request capability lowering = .ok result) :
    (result = request.input ∧ ((∀ item ∈ laterItems request.input.items, isSystem item = false) ∨
        request.midSystemPolicy = .legacyUnspecified ∨ capability = .inline)) ∨
      ∃ items, result = request.input.withItems items ∧
        Normalized lowering request.input.items items ∧
        items.filter CanonicalItem.isTool = request.input.items.filter CanonicalItem.isTool := by
  rw [normalizeMidSystemInput] at normalized
  split at normalized
  · rename_i unchanged
    cases normalized
    rw [midSystemCounts_eq_zero_iff] at unchanged
    exact .inl ⟨rfl, unchanged.imp_right .inl⟩
  · split at normalized
    · rename_i inline
      cases normalized
      exact .inl ⟨rfl, .inr (.inr inline)⟩
    · split at normalized
      · cases normalized
      · split at normalized
        · rename_i inPlace
          subst inPlace
          rw [lowerMidSystemInPlace] at normalized
          cases lowered : lowerLoop (leadingItems request.input.items)
            (laterItems request.input.items) with
          | error failure =>
              rw [lowered] at normalized
              cases normalized
          | ok items =>
              rw [lowered] at normalized
              cases normalized
              exact .inr ⟨items, rfl, (lowered_normalized lowered).1,
                (lowered_normalized lowered).2⟩
        · rename_i notInPlace
          cases normalized
          have merged : lowering = .mergedLeading := by
            cases lowering with
            | mergedLeading => rfl
            | inPlaceUserMeta => exact absurd rfl notInPlace
          subst merged
          exact .inr ⟨_, rfl, merged_normalized _, merged_tools _⟩

theorem normalize_settled {request : MidSystemRequest} (capability : MidSystemCapability)
    (lowering : BestEffortMidSystemLowering)
    (settled : ∀ item ∈ laterItems request.input.items, isSystem item = false) :
    normalizeMidSystemInput request capability lowering = .ok request.input := by
  rw [normalizeMidSystemInput]
  exact if_pos (.inl ((midSystemCounts_eq_zero_iff false _).mpr settled))

/-- Whenever it returns, it conserves the items, the validity of the history and itself. -/
theorem normalize_conserves {request : MidSystemRequest} {capability : MidSystemCapability}
    {lowering : BestEffortMidSystemLowering} {result : CanonicalRequest}
    (normalized : normalizeMidSystemInput request capability lowering = .ok result) :
    ((result = request.input ∧ ((∀ item ∈ laterItems request.input.items, isSystem item = false) ∨
        request.midSystemPolicy = .legacyUnspecified ∨ capability = .inline)) ∨
      (result = request.input.withItems result.items ∧
        Normalized lowering request.input.items result.items)) ∧
    ((validateToolHistory request.input.items).isValid = true →
      (validateToolHistory result.items).isValid = true) ∧
    normalizeMidSystemInput { request with input := result } capability lowering = .ok result := by
  rcases normalize_cases normalized with unchanged | changed
  · rcases unchanged with ⟨rfl, why⟩
    exact ⟨.inl ⟨rfl, why⟩, id, normalized⟩
  · rcases changed with ⟨items, rfl, conserved, tools⟩
    refine ⟨.inr ⟨rfl, conserved⟩, fun valid => ?_, normalize_settled capability lowering
      conserved.settled⟩
    exact (validateToolHistory_of_same_tools tools).trans valid

theorem sampleMidSystem_id : NonBlank (py "r") := by decide

theorem sampleMidSystem_model : NonBlank (py "m") := by decide

def sampleMidSystem : MidSystemRequest where
  input := ⟨py "r", py "m", [.message ⟨.developer, py "d"⟩, .message ⟨.user, py "a"⟩,
    .message ⟨.system, py "b"⟩, .message ⟨.system, py "e"⟩, .message ⟨.assistant, py "f"⟩],
    sampleMidSystem_id, sampleMidSystem_model⟩
  midSystemPolicy := .bestEffort

def sampleLowered : List CanonicalItem :=
  [.message ⟨.developer, py "d"⟩,
    .message ⟨.user, py ("a\n\n<system-reminder>\nb\n</system-reminder>" ++
      "\n\n<system-reminder>\ne\n</system-reminder>")⟩,
    .message ⟨.assistant, py "f"⟩]

theorem sampleMidSystem_lowered :
    normalizeMidSystemInput sampleMidSystem .leadingOnly .inPlaceUserMeta =
      .ok (sampleMidSystem.input.withItems sampleLowered) := by
  have lowered : lowerLoop [.message ⟨.developer, py "d"⟩]
      [.message ⟨.user, py "a"⟩, .message ⟨.system, py "b"⟩, .message ⟨.system, py "e"⟩,
        .message ⟨.assistant, py "f"⟩] = .ok sampleLowered := by
    have user : ¬isSystem (.message ⟨.user, py "a"⟩) = true := Bool.false_ne_true
    have system : isSystem (.message ⟨.system, py "b"⟩) = true := rfl
    have assistant : ¬isSystem (.message ⟨.assistant, py "f"⟩) = true := Bool.false_ne_true
    have rest : ([.message ⟨.system, py "e"⟩, .message ⟨.assistant, py "f"⟩] :
        List CanonicalItem).dropWhile isSystem = [.message ⟨.assistant, py "f"⟩] := rfl
    rw [lowerLoop, if_neg user, lowerLoop, if_pos system, rest]
    exact (lowerLoop.eq_2 _ _ _).trans ((if_neg assistant).trans (lowerLoop.eq_1 _))
  rw [normalizeMidSystemInput, if_neg (by decide), if_neg (by decide), if_neg (by decide),
    if_pos rfl, lowerMidSystemInPlace]
  exact congrArg (Except.map _) lowered

theorem normalize_conserves_sample :
    ∃ result, normalizeMidSystemInput sampleMidSystem .leadingOnly .inPlaceUserMeta = .ok result ∧
      result.items = sampleLowered ∧
      Normalized .inPlaceUserMeta sampleMidSystem.input.items result.items ∧
      (validateToolHistory result.items).isValid = true ∧
      normalizeMidSystemInput { sampleMidSystem with input := result } .leadingOnly
        .inPlaceUserMeta = .ok result := by
  rcases normalize_conserves sampleMidSystem_lowered with ⟨changed, conserved, again⟩
  refine ⟨_, sampleMidSystem_lowered, rfl, ?_, conserved (by decide), again⟩
  rcases changed with unchanged | changed
  · exact absurd (congrArg CanonicalRequest.items unchanged.1) (by decide)
  · exact changed.2

end ExQServe.Serving
