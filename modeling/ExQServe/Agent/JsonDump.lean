import ExQServe.Agent.JsonText

/-! # Strings that are written

A string literal that is written reads as the string. -/

namespace ExQServe.Json

/-- The control characters, by their code. -/
theorem hexUnit_control : ∀ value : Fin 32,
    hexUnit (chr '0') (chr '0') (hexDigit (value.val / 16)) (hexDigit (value.val % 16)) =
      some (value.castLE (by decide)) := by
  decide

theorem control_not_surrogate : ∀ value : Fin 32,
    PyChar.isHighSurrogate (value.castLE (by decide)) = false := by
  decide

/-- One character: it is read back, and it is no half of a pair of escapes. -/
theorem escapeChar_reads (char : PyChar) : ∃ escaped : Bool,
    (escaped = true → char.isHighSurrogate = false) ∧
      (∀ rest, scanStringUnits (escapeChar char ++ rest) =
        (scanStringUnits rest).map fun found => ((escaped, char) :: found.1, found.2)) ∧
      ∀ rest, StringText rest → StringText (escapeChar char ++ rest) := by
  have short : ∀ {escape : PyChar}, escape ≠ chr 'u' → simpleEscape escape = some char →
      escapeChar char = [chr '\\', escape] → ∃ escaped : Bool,
        (escaped = true → char.isHighSurrogate = false) ∧
          (∀ rest, scanStringUnits (escapeChar char ++ rest) =
            (scanStringUnits rest).map fun found => ((escaped, char) :: found.1, found.2)) ∧
          ∀ rest, StringText rest → StringText (escapeChar char ++ rest) := by
    intro escape noHex known same
    rw [same]
    exact ⟨false, nofun, fun rest => scanStringUnits_escape rest noHex known,
      fun rest text => .escape text⟩
  by_cases quote : char = chr '"'
  · subst quote
    exact @short (chr '"') (by decide) (by decide) (by decide)
  · by_cases backslash : char = chr '\\'
    · subst backslash
      exact @short (chr '\\') (by decide) (by decide) (by decide)
    · by_cases control : char.val < 0x20
      · by_cases named : char.val = 8 ∨ char.val = 12 ∨ char.val = 10 ∨ char.val = 13 ∨ char.val = 9
        · have same : ∀ {value : PyChar}, char.val = value.val → char = value := Fin.ext
          rcases named with known | known | known | known | known
          · rw [@same (chr '\x08') known] at short ⊢
            exact @short (chr 'b') (by decide) (by decide) (by decide)
          · rw [@same (chr '\x0c') known] at short ⊢
            exact @short (chr 'f') (by decide) (by decide) (by decide)
          · rw [@same (chr '\n') known] at short ⊢
            exact @short (chr 'n') (by decide) (by decide) (by decide)
          · rw [@same (chr '\r') known] at short ⊢
            exact @short (chr 'r') (by decide) (by decide) (by decide)
          · rw [@same (chr '\t') known] at short ⊢
            exact @short (chr 't') (by decide) (by decide) (by decide)
        · have coded : escapeChar char = [chr '\\', chr 'u', chr '0', chr '0',
              hexDigit (char.val / 16), hexDigit (char.val % 16)] := by
            rw [escapeChar, if_neg quote, if_neg backslash, if_neg (by omega), if_neg (by omega),
              if_neg (by omega), if_neg (by omega), if_neg (by omega), if_pos control]
            rfl
          have unit := hexUnit_control ⟨char.val, control⟩
          rw [coded]
          refine ⟨true, fun _ => control_not_surrogate ⟨char.val, control⟩, ?_, ?_⟩
          · exact fun rest => scanStringUnits_hex rest unit
          · exact fun rest text => text.hex unit
      · have plain : escapeChar char = [char] := by
          rw [escapeChar, if_neg quote, if_neg backslash, if_neg (by omega), if_neg (by omega),
            if_neg (by omega), if_neg (by omega), if_neg (by omega), if_neg control]
        rw [plain]
        have visible := Nat.le_of_not_lt control
        exact ⟨false, nofun, fun rest => scanStringUnits_plain rest quote backslash visible,
          fun rest text => .plain quote backslash visible text⟩

theorem joinUnits_single {units : List StringUnit}
    (single : ∀ unit ∈ units, unit.1 = true → unit.2.isHighSurrogate = false) :
    joinUnits units = units.map Prod.snd := by
  induction units with
  | nil => rfl
  | cons high rest induction =>
      have later := induction fun unit member => single unit (List.mem_cons_of_mem _ member)
      cases rest with
      | nil => rfl
      | cons low rest =>
          have apart : ¬(high.1 ∧ low.1 ∧ high.2.isHighSurrogate ∧ low.2.isLowSurrogate) := by
            intro pair
            rw [single high List.mem_cons_self pair.1] at pair
            exact absurd pair.2.2.1 Bool.false_ne_true
          rw [joinUnits, if_neg apart, later]
          rfl

/-- The string behind its opening quote. -/
theorem dumpsString_units (value : PyStr) : ∃ units : List StringUnit,
    units.map Prod.snd = value ∧
      (∀ unit ∈ units, unit.1 = true → unit.2.isHighSurrogate = false) ∧
        Reads (fun _ => True) scanStringUnits units (value.flatMap escapeChar ++ [chr '"']) ∧
          StringText (value.flatMap escapeChar ++ [chr '"']) := by
  induction value with
  | nil => exact ⟨[], rfl, nofun, fun tail _ => scanStringUnits_close tail, .close⟩
  | cons char value induction =>
      rcases induction with ⟨units, same, single, reads, string⟩
      rcases escapeChar_reads char with ⟨escaped, apart, here, text⟩
      refine ⟨(escaped, char) :: units, congrArg (char :: ·) same, ?_, ?_, ?_⟩
      · intro unit member
        rcases List.mem_cons.mp member with first | member
        · rw [first]
          exact apart
        · exact single unit member
      · intro tail anything
        rw [List.flatMap_cons, List.append_assoc, List.append_assoc, here, ← List.append_assoc,
          reads tail anything]
        rfl
      · rw [List.flatMap_cons, List.append_assoc]
        exact text _ string

/-- A string that is written is the text of the string. -/
theorem dumpsString_written (value : PyStr) : ∃ body, dumpsString value = chr '"' :: body ∧
    StringText body ∧ Reads (fun _ => True) scanString value body := by
  rcases dumpsString_units value with ⟨units, same, single, reads, string⟩
  refine ⟨value.flatMap escapeChar ++ [chr '"'], rfl, string, ?_⟩
  intro tail anything
  rw [scanString, reads tail anything, Option.map_some, joinUnits_single single, same]

end ExQServe.Json
