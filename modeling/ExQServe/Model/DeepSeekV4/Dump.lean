import ExQServe.Agent.JsonDump
import ExQServe.Model.DeepSeekV4.Blocks

/-! # JSON values that are written

`_json_dump` writes a value that was read as text of the JSON grammar again, as long as the
numbers in it come back. -/

namespace ExQServe.Model.DeepSeekV4

open ExQServe.Json

/-! ## Numbers -/

/-- The first value is the second or inside it. -/
inductive Inside : JsonValue → JsonValue → Prop
  | here (value : JsonValue) : Inside value value
  | item {value item : JsonValue} {items : List JsonValue} (member : item ∈ items)
      (inside : Inside value item) : Inside value (.list items)
  | entry {value : JsonValue} {entry : PyStr × JsonValue} {entries : List (PyStr × JsonValue)}
      (member : entry ∈ entries) (inside : Inside value entry.2) : Inside value (.dict entries)

def isNumber : JsonValue → Bool
  | .int _ => true
  | .float _ => true
  | _ => false

/-- Every number in the value is read back from its text. -/
def NumbersReturn (value : JsonValue) : Prop :=
  ∀ number, Inside number value → isNumber number = true →
    parseJsonStrict (jsonDump number) = some number

theorem NumbersReturn.item {items : List JsonValue} (returns : NumbersReturn (.list items))
    {item : JsonValue} (member : item ∈ items) : NumbersReturn item :=
  fun number inside isNumber => returns number (.item member inside) isNumber

theorem NumbersReturn.entry {entries : List (PyStr × JsonValue)}
    (returns : NumbersReturn (.dict entries)) {entry : PyStr × JsonValue}
    (member : entry ∈ entries) : NumbersReturn entry.2 :=
  fun number inside isNumber => returns number (.entry member inside) isNumber

theorem isNumber_of_scanNumber {text after : PyStr} {value : JsonValue}
    (read : scanNumber text = some (value, after)) : isNumber value = true := by
  rw [scanNumber] at read
  dsimp only at read
  split at read
  · cases read
  · split at read
    · split at read
      · cases read
      · cases read
        rfl
    · rcases Option.map_eq_some_iff.mp read with ⟨float, -, same⟩
      cases same
      rfl

/-! ## The text -/

def partValues : Part → List JsonValue
  | .value value => [value]
  | .items items => items
  | .entries entries => entries.map Prod.snd

def dumpPart : Part → PyStr
  | .value value => jsonDump value
  | .items [] => py "]"
  | .items (item :: items) => jsonDump item ++ (dumpItems items ++ py "]")
  | .entries [] => py "\x7d"
  | .entries ((key, value) :: entries) =>
      dumpsString key ++ (py ": " ++ (jsonDump value ++ (dumpEntries entries ++ py "\x7d")))

/-- The text of the part with whitespace around it, behind it only where no bracket ends it. -/
def Shown (part : Part) (text : PyStr) : Prop :=
  ∃ gap front gap', Spaces gap ∧ Spaces gap' ∧ Written part front ∧ text = gap ++ (front ++ gap') ∧
    ((∃ value, part = .value value) ∨ gap' = [])

theorem dump_list {items : List JsonValue} (nonempty : items ≠ []) :
    jsonDump (.list items) = chr '[' :: dumpPart (.items items) := by
  cases items with
  | nil => exact absurd rfl nonempty
  | cons item items => rfl

theorem dump_dict {entries : List (PyStr × JsonValue)} (nonempty : entries ≠ []) :
    jsonDump (.dict entries) = chr '\x7b' :: dumpPart (.entries entries) := by
  cases entries with
  | nil => exact absurd rfl nonempty
  | cons entry entries => rfl

theorem dumpItems_cons {item : JsonValue} {items : List JsonValue} :
    dumpItems (item :: items) ++ py "]" = py ", " ++ dumpPart (.items (item :: items)) := by
  rw [dumpItems, dumpPart, List.append_assoc, List.append_assoc]

theorem dumpEntries_cons {entry : PyStr × JsonValue} {entries : List (PyStr × JsonValue)} :
    dumpEntries (entry :: entries) ++ py "\x7d" =
      py ", " ++ dumpPart (.entries (entry :: entries)) := by
  rcases entry with ⟨key, value⟩
  rw [dumpEntries, dumpPart]
  simp only [List.append_assoc]

theorem shown_value {value : JsonValue} {text : PyStr} (written : Written (.value value) text) :
    Shown (.value value) text :=
  ⟨[], text, [], .nil, .nil, written, (List.append_nil text).symm, .inl ⟨value, rfl⟩⟩

theorem shown_dict {entries : List (PyStr × JsonValue)} {text : PyStr}
    (written : Written (.entries entries) text) : Shown (.entries entries) text :=
  ⟨[], text, [], .nil, .nil, written, (List.append_nil text).symm, .inr rfl⟩

theorem Shown.bracketed {part : Part} {text : PyStr} (shown : Shown part text)
    (ended : ∀ value, part ≠ .value value) :
    ∃ gap front, Spaces gap ∧ Written part front ∧ text = gap ++ front := by
  rcases shown with ⟨gap, front, gap', spaces, -, written, split, isValue | none⟩
  · rcases isValue with ⟨value, same⟩
    exact absurd same (ended value)
  · rw [none, List.append_nil] at split
    exact ⟨gap, front, spaces, written, split⟩

theorem space : Spaces [chr ' '] := by
  intro char member
  rw [List.mem_singleton.mp member]
  decide

/-- A value that was read is shown again. -/
theorem shown_dump {part : Part} {text : PyStr} (written : Written part text)
    (returns : ∀ value ∈ partValues part, NumbersReturn value) : Shown part (dumpPart part) := by
  induction written with
  | name named =>
      simp only [List.mem_cons, List.not_mem_nil, or_false, Prod.mk.injEq] at named
      rcases named with ⟨-, same⟩ | ⟨-, same⟩ | ⟨-, same⟩
      · rw [same]
        exact shown_value (@Written.name (py "null") .null (by simp))
      · rw [same]
        exact shown_value (@Written.name (py "true") (.bool true) (by simp))
      · rw [same]
        exact shown_value (@Written.name (py "false") (.bool false) (by simp))
  | @number text value shape read =>
      have isNumber := isNumber_of_scanNumber (read [] .nil)
      rcases parseJsonStrict_eq_some.mp
        (returns value List.mem_cons_self value (.here value) isNumber) with
        ⟨gap, front, gap', spaces, spaces', written, split⟩
      exact ⟨gap, front, gap', spaces, spaces', written, split, .inl ⟨value, rfl⟩⟩
  | @str body content string read =>
      rcases dumpsString_written content with ⟨body', same, string', read'⟩
      have text : dumpPart (.value (.str content)) = chr '"' :: body' := same
      rw [text]
      exact shown_value (.str string' read')
  | emptyList spaces => exact shown_value (@Written.emptyList [] .nil)
  | @list gap text items spaces inside induction =>
      have later := (induction fun item member =>
        (returns _ List.mem_cons_self).item member).bracketed nofun
      rcases later with ⟨gap', front, spaces', written, split⟩
      have nonempty : items ≠ [] := by
        intro nil
        rw [nil] at inside
        cases inside
      rw [dumpPart, dump_list nonempty, split]
      exact shown_value (.list spaces' written)
  | emptyDict spaces => exact shown_value (@Written.emptyDict [] .nil)
  | @dict gap text entries spaces inside distinct induction =>
      have later := (induction fun value member => by
        rcases List.mem_map.mp member with ⟨entry, inside, same⟩
        exact same ▸ (returns _ List.mem_cons_self).entry inside).bracketed nofun
      rcases later with ⟨gap', front, spaces', written, split⟩
      have nonempty : entries ≠ [] := by
        intro nil
        rw [nil] at inside
        cases inside
      rw [dumpPart, dump_dict nonempty, split]
      exact shown_value (.dict spaces' written distinct)
  | @lastItem text gap item here spaces induction =>
      rcases induction returns with ⟨gap₁, front, gap₂, spaces₁, spaces₂, written, split, -⟩
      have whole : dumpPart (.items [item]) = gap₁ ++ (front ++ (gap₂ ++ [chr ']'])) := by
        have dumped : jsonDump item = gap₁ ++ (front ++ gap₂) := split
        rw [dumpPart, dumpItems, dumped]
        simp only [List.append_assoc]
        rfl
      rw [whole]
      exact ⟨gap₁, _, [], spaces₁, .nil, .lastItem written spaces₂,
        by rw [List.append_nil], .inr rfl⟩
  | @item text gap gap' rest item items here spaces spaces' later induction inductionLater =>
      rcases induction fun value member => returns value (by
        rw [List.mem_singleton.mp member]
        exact List.mem_cons_self) with ⟨gap₁, front, gap₂, spaces₁, spaces₂, written, split, -⟩
      rcases (inductionLater fun value member =>
        returns value (List.mem_cons_of_mem _ member)).bracketed nofun with
        ⟨gap₃, front', spaces₃, written', split'⟩
      have whole : dumpPart (.items (item :: items)) =
          gap₁ ++ (front ++ (gap₂ ++ chr ',' :: ((chr ' ' :: gap₃) ++ front'))) := by
        have dumped : jsonDump item = gap₁ ++ (front ++ gap₂) := split
        cases items with
        | nil => cases later
        | cons next items =>
            rw [dumpPart, dumpItems_cons, split', dumped]
            simp only [List.append_assoc]
            rfl
      rw [whole]
      refine ⟨gap₁, _, [], spaces₁, .nil, .item written spaces₂ ?_ written',
        by rw [List.append_nil], .inr rfl⟩
      exact space.append spaces₃
  | @lastEntry body gap gap' text gap'' key value string read spaces spaces' here spaces''
      induction =>
      rcases induction returns with ⟨gap₁, front, gap₂, spaces₁, spaces₂, written, split, -⟩
      rcases dumpsString_written key with ⟨body', same, string', read'⟩
      have whole : dumpPart (.entries [(key, value)]) = chr '"' :: (body' ++ ([] ++ chr ':' ::
          ((chr ' ' :: gap₁) ++ (front ++ (gap₂ ++ [chr '\x7d']))))) := by
        have dumped : jsonDump value = gap₁ ++ (front ++ gap₂) := split
        rw [dumpPart, dumpEntries, same, dumped]
        simp only [List.append_assoc, List.cons_append, List.nil_append]
        rfl
      rw [whole]
      exact shown_dict (.lastEntry string' read' .nil (space.append spaces₁) written spaces₂)
  | @entry body gap gap' text gap'' gap₃ rest key value entries string read spaces spaces' here
      spaces''
      spaces₃ later induction inductionLater =>
      rcases induction fun value member => returns value (by
        rw [List.mem_singleton.mp member]
        exact List.mem_cons_self) with ⟨gap₁, front, gap₂, spaces₁, spaces₂, written, split, -⟩
      rcases (inductionLater fun value member =>
        returns value (List.mem_cons_of_mem _ member)).bracketed nofun with
        ⟨gap₄, front', spaces₄, written', split'⟩
      rcases dumpsString_written key with ⟨body', same, string', read'⟩
      have whole : dumpPart (.entries ((key, value) :: entries)) = chr '"' :: (body' ++ ([] ++
          chr ':' :: ((chr ' ' :: gap₁) ++ (front ++ (gap₂ ++ chr ',' ::
            ((chr ' ' :: gap₄) ++ front')))))) := by
        have dumped : jsonDump value = gap₁ ++ (front ++ gap₂) := split
        cases entries with
        | nil => cases later
        | cons next entries =>
            rw [dumpPart, dumpEntries_cons, split', same, dumped]
            simp only [List.append_assoc, List.cons_append, List.nil_append]
            rfl
      rw [whole]
      exact shown_dict (.entry string' read' .nil (space.append spaces₁) written spaces₂
        (space.append spaces₄) written')

/-- A value that was read, with numbers that come back, comes back. -/
theorem parse_jsonDump {value : JsonValue} {text : PyStr}
    (written : Written (.value value) text) (returns : NumbersReturn value) :
    parseJsonStrict (jsonDump value) = some value := by
  have shown := shown_dump written fun inner member => List.mem_singleton.mp member ▸ returns
  rcases shown with ⟨gap, front, gap', spaces, spaces', written, split, -⟩
  exact parseJsonStrict_eq_some.mpr ⟨gap, front, gap', spaces, spaces', written, split⟩

/-! ## Strings in the text -/

/-- No tag starts in the text outside of its strings, and its strings are closed. -/
def Quoted (text : PyStr) : Prop :=
  ∀ pattern rest, pattern.head? = some (chr '<') →
    findOutside pattern .outside (text ++ rest) =
      (findOutside pattern .outside rest).map (text.length + ·)

def plainChar (char : PyChar) : Bool := char != chr '<' && char != chr '"'

theorem Quoted.append {first second : PyStr} (quoted : Quoted first) (quoted' : Quoted second) :
    Quoted (first ++ second) := by
  intro pattern rest tag
  rw [List.append_assoc, quoted pattern _ tag, quoted' pattern _ tag, Option.map_map,
    List.length_append]
  congr 1
  funext position
  exact (Nat.add_assoc _ _ _).symm

theorem quoted_char {char : PyChar} (plain : plainChar char = true) : Quoted [char] := by
  intro pattern rest tag
  rw [plainChar, Bool.and_eq_true, bne_iff_ne, bne_iff_ne] at plain
  have noTag : ¬pattern <+: char :: rest := by
    intro starts
    cases pattern with
    | nil => cases tag
    | cons first tail =>
        have same := (List.cons_prefix_cons.mp starts).1
        cases tag
        exact plain.1 same.symm
  have stays : QuoteState.outside.step char = .outside := if_neg plain.2
  rw [List.singleton_append, findOutside, if_neg fun both => noTag both.2, stays,
    List.length_singleton]
  congr 1
  funext position
  exact Nat.add_comm _ _

theorem quoted_plain {text : PyStr} (plain : text.all plainChar = true) : Quoted text := by
  induction text with
  | nil =>
      intro pattern rest _
      rw [List.nil_append, List.length_nil]
      cases findOutside pattern .outside rest with
      | none => rfl
      | some position => exact congrArg some (Nat.zero_add position).symm
  | cons char text induction =>
      rw [List.all_cons, Bool.and_eq_true] at plain
      exact (quoted_char plain.1).append (induction plain.2)

theorem quoted_string {body : PyStr} (string : StringText body) : Quoted (chr '"' :: body) := by
  have inside : ∀ pattern rest, findOutside pattern ⟨true, false⟩ (body ++ rest) =
      (findOutside pattern .outside rest).map (body.length + ·) := by
    intro pattern rest
    have next : ∀ (found : Option Nat) (size : Nat), (found.map (size + ·)).map (· + 1) =
        found.map (size + 1 + ·) := by
      intro found size
      rw [Option.map_map]
      congr 1
      funext position
      exact Nat.add_right_comm _ _ _
    induction string with
    | close =>
        have closes : QuoteState.step ⟨true, false⟩ (chr '"') = .outside := rfl
        rw [List.singleton_append, findOutside, if_neg fun both => Bool.noConfusion both.1, closes,
          List.length_singleton]
        congr 1
        funext position
        exact Nat.add_comm _ _
    | @plain char rest' noQuote noEscape visible text induction =>
        have stays : QuoteState.step ⟨true, false⟩ char = ⟨true, false⟩ := by
          rw [QuoteState.step, if_pos rfl, if_neg Bool.false_ne_true, if_neg noEscape,
            if_neg noQuote]
        rw [List.cons_append, findOutside, if_neg fun both => Bool.noConfusion both.1, stays,
          induction, next, List.length_cons]
    | @escape char rest' text induction =>
        have escapes : QuoteState.step ⟨true, false⟩ (chr '\\') = ⟨true, true⟩ := rfl
        have skips : QuoteState.step ⟨true, true⟩ char = ⟨true, false⟩ := rfl
        rw [List.cons_append, List.cons_append, findOutside,
          if_neg fun both => Bool.noConfusion both.1, escapes, findOutside,
          if_neg fun both => Bool.noConfusion both.1, skips, induction, next, next,
          List.length_cons, List.length_cons]
  intro pattern rest tag
  have noTag : ¬pattern <+: chr '"' :: (body ++ rest) := by
    intro starts
    cases pattern with
    | nil => cases tag
    | cons first tail =>
        have same := (List.cons_prefix_cons.mp starts).1
        cases tag
        exact absurd same (by decide)
  have opens : QuoteState.outside.step (chr '"') = ⟨true, false⟩ := rfl
  rw [List.cons_append, findOutside, if_neg fun both => noTag both.2, opens, inside, Option.map_map,
    List.length_cons]
  congr 1
  funext position
  exact Nat.add_right_comm _ _ _

theorem plainChar_of_isWhitespace {char : PyChar} (white : isWhitespace char = true) :
    plainChar char = true := by
  simp only [isWhitespace, Bool.or_eq_true, beq_iff_eq] at white
  rcases white with ((here | here) | here) | here
  · rw [here]; decide
  · rw [here]; decide
  · rw [here]; decide
  · rw [here]; decide

theorem plainChar_of_numberChar {char : PyChar} (number : numberChar char = true) :
    plainChar char = true := by
  rw [plainChar, Bool.and_eq_true, bne_iff_ne, bne_iff_ne]
  constructor
  · intro same
    rw [same] at number
    exact absurd number (by decide)
  · intro same
    rw [same] at number
    exact absurd number (by decide)

theorem quoted_spaces {gap : PyStr} (spaces : Spaces gap) : Quoted gap :=
  quoted_plain (List.all_eq_true.mpr fun char member =>
    plainChar_of_isWhitespace (spaces char member))

theorem quoted_written {part : Part} {text : PyStr} (written : Written part text) :
    Quoted text := by
  have plain : ∀ {char : PyChar} {text : PyStr}, plainChar char = true → Quoted text →
      Quoted (char :: text) := fun plain quoted => (quoted_char plain).append quoted
  induction written with
  | name named =>
      simp only [List.mem_cons, List.not_mem_nil, or_false, Prod.mk.injEq] at named
      rcases named with ⟨same, -⟩ | ⟨same, -⟩ | ⟨same, -⟩
      · exact same ▸ quoted_plain (by decide)
      · exact same ▸ quoted_plain (by decide)
      · exact same ▸ quoted_plain (by decide)
  | number shape read =>
      exact quoted_plain (List.all_eq_true.mpr fun char member =>
        plainChar_of_numberChar (shape.chars char member))
  | str string read => exact quoted_string string
  | emptyList spaces =>
      exact plain (by decide) ((quoted_spaces spaces).append (quoted_char (by decide)))
  | list spaces inside induction =>
      exact plain (by decide) ((quoted_spaces spaces).append induction)
  | emptyDict spaces =>
      exact plain (by decide) ((quoted_spaces spaces).append (quoted_char (by decide)))
  | dict spaces inside distinct induction =>
      exact plain (by decide) ((quoted_spaces spaces).append induction)
  | lastItem here spaces induction =>
      exact induction.append ((quoted_spaces spaces).append (quoted_char (by decide)))
  | item here spaces spaces' later induction inductionLater =>
      exact induction.append ((quoted_spaces spaces).append
        (plain (by decide) ((quoted_spaces spaces').append inductionLater)))
  | @lastEntry body gap gap' text gap'' key value string read spaces spaces' here spaces''
      induction =>
      have rest := (quoted_spaces spaces).append (@plain (chr ':') _ (by decide)
        ((quoted_spaces spaces').append (induction.append
          ((quoted_spaces spaces'').append (@quoted_char (chr '\x7d') (by decide))))))
      exact (quoted_string string).append rest
  | @entry body gap gap' text gap'' gap₃ rest key value entries string read spaces spaces' here
      spaces''
      spaces₃ later induction inductionLater =>
      have rest := (quoted_spaces spaces).append (@plain (chr ':') _ (by decide)
        ((quoted_spaces spaces').append (induction.append ((quoted_spaces spaces'').append
          (@plain (chr ',') _ (by decide) ((quoted_spaces spaces₃).append inductionLater))))))
      exact (quoted_string string).append rest

/-- The text of a value that was read, with numbers that come back, holds tags only in strings. -/
theorem quoted_jsonDump {value : JsonValue} {text : PyStr}
    (written : Written (.value value) text) (returns : NumbersReturn value) :
    Quoted (jsonDump value) := by
  have shown := shown_dump written fun inner member => List.mem_singleton.mp member ▸ returns
  rcases shown with ⟨gap, front, gap', spaces, spaces', written, split, -⟩
  have dumped : jsonDump value = gap ++ (front ++ gap') := split
  rw [dumped]
  exact (quoted_spaces spaces).append ((quoted_written written).append (quoted_spaces spaces'))

end ExQServe.Model.DeepSeekV4
