import ExQServe.Agent.Json

/-! # The texts of JSON values

The grammar of the strict parser. What the parser reads is a text of the grammar, and a text of
the grammar is read as its value whatever follows, but for what would continue a number. -/

namespace ExQServe.Json

def Spaces (text : PyStr) : Prop := ∀ char ∈ text, isWhitespace char = true

theorem Spaces.nil : Spaces [] := fun _ member => (List.not_mem_nil member).elim

theorem Spaces.append {first second : PyStr} (spaces : Spaces first) (spaces' : Spaces second) :
    Spaces (first ++ second) := by
  intro char member
  rcases List.mem_append.mp member with inside | inside
  · exact spaces char inside
  · exact spaces' char inside

theorem skipWhitespace_append {gap rest : PyStr} (spaces : Spaces gap) :
    skipWhitespace (gap ++ rest) = skipWhitespace rest :=
  List.dropWhile_append_of_pos spaces

theorem skipWhitespace_cons {char : PyChar} {rest : PyStr} (solid : isWhitespace char = false) :
    skipWhitespace (char :: rest) = char :: rest :=
  List.dropWhile_cons_of_neg (by rw [solid]; decide)

theorem skipWhitespace_split (text : PyStr) :
    ∃ gap, Spaces gap ∧ text = gap ++ skipWhitespace text :=
  ⟨text.takeWhile isWhitespace, fun _ member => List.mem_takeWhile_imp member,
    (List.takeWhile_append_dropWhile).symm⟩

/-- What the parser reads from a text it reads from the same front with another end. -/
def Reads {β : Type} (ends : PyStr → Prop) (scan : PyStr → Option (β × PyStr)) (value : β)
    (front : PyStr) : Prop :=
  ∀ tail, ends tail → scan (front ++ tail) = some (value, tail)

/-! ## Strings -/

inductive StringText : PyStr → Prop
  | close : StringText [chr '"']
  | plain {char : PyChar} {rest : PyStr} (noQuote : char ≠ chr '"') (noEscape : char ≠ chr '\\')
      (visible : 0x20 ≤ char.val) (text : StringText rest) : StringText (char :: rest)
  | escape {char : PyChar} {rest : PyStr} (text : StringText rest) :
      StringText (chr '\\' :: char :: rest)

theorem hexValue_plain {char : PyChar} {value : Nat} (hex : hexValue char = some value) :
    char ≠ chr '"' ∧ char ≠ chr '\\' ∧ 0x20 ≤ char.val := by
  have range : 48 ≤ char.val ∧ char.val ≤ 57 ∨ 65 ≤ char.val ∧ char.val ≤ 70 ∨
      97 ≤ char.val ∧ char.val ≤ 102 := by
    rw [hexValue] at hex
    split at hex
    · exact .inl ‹_›
    · split at hex
      · exact .inr (.inl ‹_›)
      · split at hex
        · exact .inr (.inr ‹_›)
        · cases hex
  have quote : (chr '"' : PyChar).val = 34 := rfl
  have backslash : (chr '\\' : PyChar).val = 92 := rfl
  refine ⟨?_, ?_, by omega⟩
  · intro same
    rw [same, quote] at range
    omega
  · intro same
    rw [same, backslash] at range
    omega

theorem hexUnit_values {a b c d : PyChar} {unit : Fin 0x10000} (hex : hexUnit a b c d = some unit) :
    (∃ value, hexValue a = some value) ∧ (∃ value, hexValue b = some value) ∧
      (∃ value, hexValue c = some value) ∧ ∃ value, hexValue d = some value := by
  rw [hexUnit] at hex
  split at hex
  · exact ⟨⟨_, ‹_›⟩, ⟨_, ‹_›⟩, ⟨_, ‹_›⟩, ⟨_, ‹_›⟩⟩
  · cases hex

theorem StringText.hex {a b c d : PyChar} {unit : Fin 0x10000} {rest : PyStr}
    (hex : hexUnit a b c d = some unit) (text : StringText rest) :
    StringText (chr '\\' :: chr 'u' :: a :: b :: c :: d :: rest) := by
  rcases hexUnit_values hex with ⟨⟨_, ha⟩, ⟨_, hb⟩, ⟨_, hc⟩, ⟨_, hd⟩⟩
  have plain : ∀ {char : PyChar} {value : Nat} {rest : PyStr}, hexValue char = some value →
      StringText rest → StringText (char :: rest) := by
    intro char value rest known text
    have visible := hexValue_plain known
    exact .plain visible.1 visible.2.1 visible.2.2 text
  exact .escape (plain ha (plain hb (plain hc (plain hd text))))

theorem scanStringUnits_close (rest : PyStr) :
    scanStringUnits (chr '"' :: rest) = some ([], rest) := by
  rw [scanStringUnits.eq_def]
  dsimp only
  rw [if_pos rfl]

theorem scanStringUnits_plain {char : PyChar} (rest : PyStr) (noQuote : char ≠ chr '"')
    (noEscape : char ≠ chr '\\') (visible : 0x20 ≤ char.val) :
    scanStringUnits (char :: rest) =
      (scanStringUnits rest).map fun found => ((false, char) :: found.1, found.2) := by
  rw [scanStringUnits.eq_def]
  dsimp only
  rw [if_neg noQuote, if_neg noEscape, if_neg (Nat.not_lt_of_le visible)]

theorem scanStringUnits_hex {a b c d : PyChar} {unit : Fin 0x10000} (rest : PyStr)
    (known : hexUnit a b c d = some unit) :
    scanStringUnits (chr '\\' :: chr 'u' :: a :: b :: c :: d :: rest) =
      (scanStringUnits rest).map fun found => ((true, unitChar unit) :: found.1, found.2) := by
  rw [scanStringUnits.eq_def]
  dsimp only
  rw [if_neg (by decide), if_pos rfl, if_pos rfl, known]

theorem scanStringUnits_escape {escape value : PyChar} (rest : PyStr)
    (noHex : escape ≠ chr 'u') (known : simpleEscape escape = some value) :
    scanStringUnits (chr '\\' :: escape :: rest) =
      (scanStringUnits rest).map fun found => ((false, value) :: found.1, found.2) := by
  rw [scanStringUnits.eq_def]
  dsimp only
  rw [if_neg (by decide), if_pos rfl, if_neg noHex, known]

theorem scanStringUnits_reads {text after : PyStr} {units : List StringUnit}
    (read : scanStringUnits text = some (units, after)) :
    ∃ front, text = front ++ after ∧ StringText front ∧
      Reads (fun _ => True) scanStringUnits units front := by
  fun_induction scanStringUnits text generalizing units with
  | case2 rest =>
      cases read
      exact ⟨[chr '"'], rfl, .close, fun tail _ => scanStringUnits_close tail⟩
  | case5 a b c d rest unit known noQuote induction =>
      rcases Option.map_eq_some_iff.mp read with ⟨⟨inner, rest⟩, found, same⟩
      cases same
      rcases induction found with ⟨front, split, string, reads⟩
      refine ⟨chr '\\' :: chr 'u' :: a :: b :: c :: d :: front, by rw [split]; rfl,
        string.hex known, ?_⟩
      intro tail ends
      simp only [List.cons_append]
      rw [scanStringUnits_hex _ known, reads tail ends]
      rfl
  | case8 escape after noHex value known noQuote induction =>
      rcases Option.map_eq_some_iff.mp read with ⟨⟨inner, rest⟩, found, same⟩
      cases same
      rcases induction found with ⟨front, split, string, reads⟩
      refine ⟨chr '\\' :: escape :: front, by rw [split]; rfl, string.escape, ?_⟩
      intro tail ends
      simp only [List.cons_append]
      rw [scanStringUnits_escape _ noHex known, reads tail ends]
      rfl
  | case10 char rest noQuote noEscape visible induction =>
      rcases Option.map_eq_some_iff.mp read with ⟨⟨inner, tail⟩, found, same⟩
      cases same
      rcases induction found with ⟨front, split, string, reads⟩
      have shown := Nat.le_of_not_lt visible
      refine ⟨char :: front, by rw [split]; rfl, string.plain noQuote noEscape shown, ?_⟩
      intro tail ends
      simp only [List.cons_append]
      rw [scanStringUnits_plain _ noQuote noEscape shown, reads tail ends]
      rfl
  | _ => cases read

theorem scanString_reads {text after content : PyStr}
    (read : scanString text = some (content, after)) :
    ∃ front, text = front ++ after ∧ StringText front ∧
      Reads (fun _ => True) scanString content front := by
  rcases Option.map_eq_some_iff.mp read with ⟨⟨units, rest⟩, found, same⟩
  cases same
  rcases scanStringUnits_reads found with ⟨front, split, string, reads⟩
  refine ⟨front, split, string, ?_⟩
  intro tail anything
  rw [scanString, reads tail anything]
  rfl

/-! ## Numbers -/

def numberChar (char : PyChar) : Bool :=
  isAsciiDigit char || char == chr '-' || char == chr '+' || char == chr '.' || char == chr 'e' ||
    char == chr 'E'

def NumberEnds (tail : PyStr) : Prop := ∀ char ∈ tail.head?, numberChar char = false

theorem NumberEnds.nil : NumberEnds [] := fun _ member => nomatch member

def DigitsEnd (tail : PyStr) : Prop := ∀ char ∈ tail.head?, isAsciiDigit char = false

theorem NumberEnds.digitsEnd {tail : PyStr} (ends : NumberEnds tail) : DigitsEnd tail := by
  intro char first
  cases digit : isAsciiDigit char with
  | false => rfl
  | true =>
      have other := ends char first
      rw [numberChar, digit] at other
      cases other

theorem takeWhile_digits {digits tail : PyStr} (all : ∀ char ∈ digits, isAsciiDigit char)
    (ends : DigitsEnd tail) : (digits ++ tail).takeWhile isAsciiDigit = digits := by
  rw [List.takeWhile_append_of_pos all]
  cases tail with
  | nil => exact List.append_nil digits
  | cons char rest =>
      rw [List.takeWhile_cons_of_neg (by rw [ends char rfl]; decide), List.append_nil]

theorem dropWhile_digits {digits tail : PyStr} (all : ∀ char ∈ digits, isAsciiDigit char)
    (ends : DigitsEnd tail) : (digits ++ tail).dropWhile isAsciiDigit = tail := by
  rw [List.dropWhile_append_of_pos all]
  cases tail with
  | nil => rfl
  | cons char rest => exact List.dropWhile_cons_of_neg (by rw [ends char rfl]; decide)

theorem digits_of_takeWhile (text : PyStr) :
    ∀ char ∈ text.takeWhile isAsciiDigit, isAsciiDigit char :=
  fun _ member => List.mem_takeWhile_imp member

theorem numberChar_of_digit {char : PyChar} (digit : isAsciiDigit char = true) :
    numberChar char = true := by
  rw [numberChar, digit]
  rfl

theorem scanIntegerPart_reads {text digits after : PyStr}
    (read : scanIntegerPart text = some (digits, after)) :
    text = digits ++ after ∧ (∃ first rest, digits = first :: rest) ∧
      (∀ char ∈ digits, isAsciiDigit char) ∧ Reads DigitsEnd scanIntegerPart digits digits := by
  cases text with
  | nil => cases read
  | cons first rest =>
      rw [scanIntegerPart] at read
      by_cases zero : first = chr '0'
      · rw [if_pos zero] at read
        cases read
        refine ⟨rfl, ⟨_, _, rfl⟩, ?_, ?_⟩
        · intro char member
          rw [List.mem_singleton.mp member, zero]
          decide
        · intro tail _
          exact if_pos zero
      · rw [if_neg zero] at read
        by_cases digit : isAsciiDigit first = true
        · rw [if_pos digit] at read
          cases read
          refine ⟨List.takeWhile_append_dropWhile.symm, ⟨first, rest.takeWhile isAsciiDigit,
            List.takeWhile_cons_of_pos digit⟩, digits_of_takeWhile _, ?_⟩
          intro tail ends
          have all := digits_of_takeWhile rest
          rw [List.takeWhile_cons_of_pos digit, List.cons_append, scanIntegerPart, if_neg zero,
            if_pos digit, List.takeWhile_cons_of_pos digit, List.dropWhile_cons_of_pos digit,
            takeWhile_digits all ends, dropWhile_digits all ends]
        · rw [if_neg digit] at read
          cases read

theorem ne_of_numberEnds {tail : PyStr} (ends : NumberEnds tail) {char : PyChar}
    (inNumbers : numberChar char = true) : ∀ first ∈ tail.head?, first ≠ char := by
  intro first member same
  have other := ends first member
  rw [same, inNumbers] at other
  cases other

theorem scanFraction_absent {text : PyStr} (noPoint : ∀ char ∈ text.head?, char ≠ chr '.') :
    scanFraction text = ([], text) := by
  cases text with
  | nil => rfl
  | cons point rest => exact if_neg fun both => noPoint point rfl both.1

theorem scanFraction_cases (text : PyStr) :
    scanFraction text = ([], text) ∨ ∃ digits after, text = chr '.' :: digits ++ after ∧
      digits ≠ [] ∧ (∀ char ∈ digits, isAsciiDigit char) ∧
        scanFraction text = (digits, after) ∧
          ∀ tail, DigitsEnd tail → scanFraction (chr '.' :: digits ++ tail) = (digits, tail) := by
  cases text with
  | nil => exact .inl rfl
  | cons point rest =>
      rw [scanFraction]
      by_cases both : point = chr '.' ∧ rest.takeWhile isAsciiDigit ≠ []
      · rw [if_pos both]
        right
        refine ⟨rest.takeWhile isAsciiDigit, rest.dropWhile isAsciiDigit, ?_, both.2,
          digits_of_takeWhile rest, rfl, ?_⟩
        · rw [both.1, List.cons_append, List.takeWhile_append_dropWhile]
        · intro tail ends
          have all := digits_of_takeWhile rest
          rw [List.cons_append, scanFraction, takeWhile_digits all ends, dropWhile_digits all ends,
            if_pos ⟨rfl, both.2⟩]
      · rw [if_neg both]
        exact .inl rfl

theorem scanExponent_absent {text : PyStr}
    (noMark : ∀ char ∈ text.head?, char ≠ chr 'e' ∧ char ≠ chr 'E') :
    scanExponent text = (none, text) := by
  cases text with
  | nil => rfl
  | cons mark rest =>
      have other := noMark mark rfl
      exact if_neg fun either => either.elim other.1 other.2

theorem scanExponent_cases (text : PyStr) :
    scanExponent text = (none, text) ∨ ∃ mark body after exponent,
      text = mark :: body ++ after ∧ (mark = chr 'e' ∨ mark = chr 'E') ∧
        (∀ char ∈ body, numberChar char) ∧ scanExponent text = (some exponent, after) ∧
          ∀ tail, DigitsEnd tail → scanExponent (mark :: body ++ tail) = (some exponent, tail) := by
  cases text with
  | nil => exact .inl rfl
  | cons mark rest =>
      by_cases marked : mark = chr 'e' ∨ mark = chr 'E'
      · by_cases signed : rest.head? = some (chr '-') ∨ rest.head? = some (chr '+')
        · cases rest with
          | nil => rcases signed with absurd | absurd <;> cases absurd
          | cons sign rest =>
              have signs : sign = chr '-' ∨ sign = chr '+' := by
                rcases signed with here | here
                · exact .inl (Option.some.inj here)
                · exact .inr (Option.some.inj here)
              have signChar : numberChar sign = true := by
                rcases signs with here | here
                · rw [here]; decide
                · rw [here]; decide
              by_cases empty : rest.takeWhile isAsciiDigit = []
              · left
                simp [scanExponent, marked, signs, empty]
              · right
                refine ⟨mark, sign :: rest.takeWhile isAsciiDigit, rest.dropWhile isAsciiDigit,
                  if sign = chr '-' then -(digitsValue (rest.takeWhile isAsciiDigit) : Int)
                    else digitsValue (rest.takeWhile isAsciiDigit), ?_, marked, ?_, ?_, ?_⟩
                · simp [List.takeWhile_append_dropWhile]
                · intro char member
                  rcases List.mem_cons.mp member with here | member
                  · rw [here]
                    exact signChar
                  · exact numberChar_of_digit (digits_of_takeWhile rest char member)
                · simp [scanExponent, marked, signs, empty]
                · intro tail ends
                  have all := digits_of_takeWhile rest
                  simp [scanExponent, marked, signs, takeWhile_digits all ends,
                    dropWhile_digits all ends, empty]
        · by_cases empty : rest.takeWhile isAsciiDigit = []
          · left
            simp [scanExponent, marked, signed, empty]
          · right
            have minus : rest.head? ≠ some (chr '-') := fun here => signed (.inl here)
            have plus : rest.head? ≠ some (chr '+') := fun here => signed (.inr here)
            refine ⟨mark, rest.takeWhile isAsciiDigit, rest.dropWhile isAsciiDigit,
              digitsValue (rest.takeWhile isAsciiDigit), ?_, marked, ?_, ?_, ?_⟩
            · simp [List.takeWhile_append_dropWhile]
            · intro char member
              exact numberChar_of_digit (digits_of_takeWhile rest char member)
            · simp [scanExponent, marked, minus, plus, empty]
            · intro tail ends
              have all := digits_of_takeWhile rest
              have head : ∀ tail, (rest.takeWhile isAsciiDigit ++ tail).head? = rest.head? := by
                intro tail
                cases rest with
                | nil => exact absurd rfl empty
                | cons first rest =>
                    by_cases digit : isAsciiDigit first = true
                    · rw [List.takeWhile_cons_of_pos digit]
                      rfl
                    · exact absurd (List.takeWhile_cons_of_neg digit) empty
              simp [scanExponent, marked, head, minus, plus, takeWhile_digits all ends,
                dropWhile_digits all ends, empty]
      · left
        exact if_neg marked

/-- The exponent, if there is one, is read whatever follows it. -/
theorem scanExponent_reads (text : PyStr) :
    ∃ front, text = front ++ (scanExponent text).2 ∧ (∀ char ∈ front, numberChar char = true) ∧
      (∀ tail, NumberEnds tail → ∀ char ∈ (front ++ tail).head?,
        char ≠ chr '.' ∧ isAsciiDigit char = false) ∧
      ∀ tail, NumberEnds tail → scanExponent (front ++ tail) = ((scanExponent text).1, tail) := by
  rcases scanExponent_cases text with
    absent | ⟨mark, body, after, exponent, split, marked, chars, found, reads⟩
  · rw [absent]
    refine ⟨[], rfl, fun _ member => (List.not_mem_nil member).elim, ?_, ?_⟩
    · intro tail ends char first
      exact ⟨ne_of_numberEnds ends (by decide) char first, ends.digitsEnd char first⟩
    · intro tail ends
      exact scanExponent_absent fun char first =>
        ⟨ne_of_numberEnds ends (by decide) char first, ne_of_numberEnds ends (by decide) char first⟩
  · have plain : mark ≠ chr '.' ∧ isAsciiDigit mark = false ∧ numberChar mark = true := by
      rcases marked with here | here
      · rw [here]; decide
      · rw [here]; decide
    rw [found]
    refine ⟨mark :: body, split, ?_, ?_, fun tail ends => reads tail ends.digitsEnd⟩
    · intro char member
      rcases List.mem_cons.mp member with here | member
      · rw [here]
        exact plain.2.2
      · exact chars char member
    · intro tail _ char first
      cases first
      exact ⟨plain.1, plain.2.1⟩

def scanScale (text : PyStr) : (PyStr × Option Int) × PyStr :=
  let fraction := scanFraction text
  let exponent := scanExponent fraction.2
  ((fraction.1, exponent.1), exponent.2)

theorem scanScale_reads (text : PyStr) :
    ∃ front, text = front ++ (scanScale text).2 ∧ (∀ char ∈ front, numberChar char = true) ∧
      ∀ tail, NumberEnds tail → DigitsEnd (front ++ tail) ∧
        scanScale (front ++ tail) = ((scanScale text).1, tail) := by
  rcases scanFraction_cases text with
    absent | ⟨digits, after, split, some, all, found, reads⟩
  · rcases scanExponent_reads text with ⟨front, frontSplit, chars, first, exponent⟩
    simp only [scanScale, absent]
    refine ⟨front, frontSplit, chars, ?_⟩
    intro tail ends
    have noPoint := fun char member => (first tail ends char member).1
    refine ⟨fun char member => (first tail ends char member).2, ?_⟩
    rw [scanFraction_absent noPoint]
    dsimp only
    rw [exponent tail ends]
  · rcases scanExponent_reads after with ⟨front, frontSplit, chars, first, exponent⟩
    simp only [scanScale, found]
    refine ⟨chr '.' :: digits ++ front, ?_, ?_, ?_⟩
    · rw [split, List.append_assoc, ← frontSplit]
    · intro char member
      rcases List.mem_append.mp member with member | member
      · rcases List.mem_cons.mp member with here | member
        · rw [here]
          decide
        · exact numberChar_of_digit (all char member)
      · exact chars char member
    · intro tail ends
      constructor
      · intro char here
        cases here
        decide
      · rw [List.append_assoc, reads (front ++ tail) fun char member =>
          (first tail ends char member).2]
        dsimp only
        rw [exponent tail ends]

def scanMagnitude (negative : Bool) (body : PyStr) : Option (JsonValue × PyStr) :=
  (scanIntegerPart body).bind fun integer =>
    let scale := scanScale integer.2
    if scale.1.1 = [] ∧ scale.1.2 = none then
      if maxIntDigits < integer.1.length then none
      else
        let value : Int := digitsValue integer.1
        some (.int (if negative then -value else value), scale.2)
    else
      (PyFloat.ofDecimal negative (digitsValue (integer.1 ++ scale.1.1))
        (scale.1.2.getD 0 - scale.1.1.length)).map fun value => (.float value, scale.2)

theorem scanScale_none {text : PyStr} (fraction : (scanScale text).1.1 = [])
    (exponent : (scanScale text).1.2 = none) : (scanScale text).2 = text := by
  rcases scanFraction_cases text with absent | ⟨digits, after, -, some, -, found, -⟩
  · rw [scanScale, absent] at exponent ⊢
    dsimp only at exponent ⊢
    rcases scanExponent_cases text with none | ⟨_, _, _, _, -, -, -, found, -⟩
    · rw [none]
    · rw [found] at exponent
      cases exponent
  · rw [scanScale, found] at fraction
    exact absurd fraction some

theorem scanNumber_eq (text : PyStr) :
    scanNumber text = scanMagnitude (decide (text.head? = some (chr '-')))
      (if text.head? = some (chr '-') then text.drop 1 else text) := by
  rw [scanNumber, scanMagnitude]
  simp only [decide_eq_true_eq]
  generalize scanIntegerPart (if text.head? = some (chr '-') then text.drop 1 else text) = scanned
  cases scanned with
  | none => rfl
  | some integer =>
      dsimp only [Option.bind_some]
      by_cases whole : (scanScale integer.2).1.1 = [] ∧ (scanScale integer.2).1.2 = none
      · rw [if_pos whole, scanScale_none whole.1 whole.2]
        exact if_pos whole
      · rw [if_neg whole]
        exact if_neg whole

theorem scanMagnitude_reads {negative : Bool} {body after : PyStr} {value : JsonValue}
    (read : scanMagnitude negative body = some (value, after)) :
    ∃ first front, body = first :: front ++ after ∧ isAsciiDigit first = true ∧
      (∀ char ∈ front, numberChar char = true) ∧
        Reads NumberEnds (scanMagnitude negative) value (first :: front) := by
  rcases Option.bind_eq_some_iff.mp read with ⟨⟨integer, afterInteger⟩, scanned, finished⟩
  rcases scanIntegerPart_reads scanned with ⟨split, ⟨first, others, shape⟩, all, integerReads⟩
  rcases scanScale_reads afterInteger with ⟨front, frontSplit, chars, scaleReads⟩
  dsimp only at finished
  have ending : (scanScale afterInteger).2 = after := by
    split at finished
    · split at finished
      · cases finished
      · cases finished
        rfl
    · rcases Option.map_eq_some_iff.mp finished with ⟨float, -, same⟩
      cases same
      rfl
  refine ⟨first, others ++ front, ?_, all first (by rw [shape]; exact List.mem_cons_self), ?_, ?_⟩
  · rw [split, shape, frontSplit, ending]
    simp
  · intro char member
    rcases List.mem_append.mp member with member | member
    · exact numberChar_of_digit (all char (by rw [shape]; exact List.mem_cons_of_mem _ member))
    · exact chars char member
  · intro tail ends
    rcases scaleReads tail ends with ⟨digitsEnd, scale⟩
    have whole : first :: (others ++ front) ++ tail = integer ++ (front ++ tail) := by
      rw [shape]
      simp
    rw [whole, scanMagnitude, integerReads _ digitsEnd, Option.bind_some]
    dsimp only
    rw [scale]
    dsimp only
    split at finished
    · rename_i none
      rw [if_pos none]
      split at finished
      · cases finished
      · rename_i short
        rw [if_neg short]
        cases finished
        rfl
    · rename_i none
      rw [if_neg none]
      rcases Option.map_eq_some_iff.mp finished with ⟨float, computed, same⟩
      cases same
      rw [computed]
      rfl

/-- A number is a digit, perhaps after a minus, and characters of numbers. -/
structure NumberShape (text : PyStr) : Prop where
  nonempty : text ≠ []
  starts : ∀ first ∈ text.head?, first = chr '-' ∨ isAsciiDigit first = true
  chars : ∀ char ∈ text, numberChar char = true

theorem scanNumber_reads {text after : PyStr} {value : JsonValue}
    (read : scanNumber text = some (value, after)) :
    ∃ front, text = front ++ after ∧ NumberShape front ∧
      Reads NumberEnds scanNumber value front := by
  rw [scanNumber_eq] at read
  by_cases negative : text.head? = some (chr '-')
  · cases text with
    | nil => cases negative
    | cons sign rest =>
        rw [if_pos negative, decide_eq_true negative] at read
        rw [Option.some.inj negative]
        rcases scanMagnitude_reads read with ⟨first, front, split, digit, chars, reads⟩
        rw [List.drop_one, List.tail_cons] at split
        refine ⟨chr '-' :: first :: front, by rw [split]; rfl, ⟨by simp, ?_, ?_⟩, ?_⟩
        · intro char member
          cases member
          exact .inl rfl
        · intro char member
          rcases List.mem_cons.mp member with here | member
          · rw [here]
            decide
          · rcases List.mem_cons.mp member with here | member
            · rw [here]
              exact numberChar_of_digit digit
            · exact chars char member
        · intro tail ends
          have signed : (chr '-' :: (first :: front ++ tail)).head? = some (chr '-') := rfl
          rw [List.cons_append, scanNumber_eq, if_pos signed, decide_eq_true signed]
          exact reads tail ends
  · rw [if_neg negative, decide_eq_false negative] at read
    rcases scanMagnitude_reads read with ⟨first, front, split, digit, chars, reads⟩
    refine ⟨first :: front, split, ⟨by simp, ?_, ?_⟩, ?_⟩
    · intro char member
      cases member
      exact .inr digit
    · intro char member
      rcases List.mem_cons.mp member with here | member
      · rw [here]
        exact numberChar_of_digit digit
      · exact chars char member
    · intro tail ends
      have unsigned : ¬(first :: front ++ tail).head? = some (chr '-') := by
        rw [split] at negative
        exact negative
      rw [scanNumber_eq, if_neg unsigned, decide_eq_false unsigned]
      exact reads tail ends

/-! ## The grammar -/

theorem scanName_reads {text after : PyStr} {value : JsonValue}
    (read : scanName text = some (value, after)) :
    ∃ front, text = front ++ after ∧
      (front, value) ∈ [(py "null", .null), (py "true", .bool true),
        (py "false", .bool false)] := by
  rw [scanName] at read
  split at read
  · cases read
    exact ⟨_, (List.prefix_iff_eq_append.mp ‹_›).symm, by simp⟩
  · split at read
    · cases read
      exact ⟨_, (List.prefix_iff_eq_append.mp ‹_›).symm, by simp⟩
    · split at read
      · cases read
        exact ⟨_, (List.prefix_iff_eq_append.mp ‹_›).symm, by simp⟩
      · cases read

/-- What a text can stand for: a value, or the items or members up to the closing bracket. -/
inductive Part
  | value (value : JsonValue)
  | items (items : List JsonValue)
  | entries (entries : List (PyStr × JsonValue))

/-- The text of a part, without whitespace around it. -/
inductive Written : Part → PyStr → Prop
  | name {text : PyStr} {value : JsonValue} (named : (text, value) ∈
      [(py "null", .null), (py "true", .bool true), (py "false", .bool false)]) :
      Written (.value value) text
  | number {text : PyStr} {value : JsonValue} (shape : NumberShape text)
      (read : Reads NumberEnds scanNumber value text) : Written (.value value) text
  | str {body content : PyStr} (string : StringText body)
      (read : Reads (fun _ => True) scanString content body) :
      Written (.value (.str content)) (chr '"' :: body)
  | emptyList {gap : PyStr} (spaces : Spaces gap) :
      Written (.value (.list [])) (chr '[' :: (gap ++ [chr ']']))
  | list {gap text : PyStr} {items : List JsonValue} (spaces : Spaces gap)
      (inside : Written (.items items) text) :
      Written (.value (.list items)) (chr '[' :: (gap ++ text))
  | emptyDict {gap : PyStr} (spaces : Spaces gap) :
      Written (.value (.dict [])) (chr '\x7b' :: (gap ++ [chr '\x7d']))
  | dict {gap text : PyStr} {entries : List (PyStr × JsonValue)} (spaces : Spaces gap)
      (inside : Written (.entries entries) text) (distinct : (entries.map Prod.fst).Nodup) :
      Written (.value (.dict entries)) (chr '\x7b' :: (gap ++ text))
  | lastItem {text gap : PyStr} {item : JsonValue} (here : Written (.value item) text)
      (spaces : Spaces gap) : Written (.items [item]) (text ++ (gap ++ [chr ']']))
  | item {text gap gap' rest : PyStr} {item : JsonValue} {items : List JsonValue}
      (here : Written (.value item) text) (spaces : Spaces gap) (spaces' : Spaces gap')
      (later : Written (.items items) rest) :
      Written (.items (item :: items)) (text ++ (gap ++ chr ',' :: (gap' ++ rest)))
  | lastEntry {body gap gap' text gap'' key : PyStr} {value : JsonValue}
      (string : StringText body) (read : Reads (fun _ => True) scanString key body)
      (spaces : Spaces gap) (spaces' : Spaces gap') (here : Written (.value value) text)
      (spaces'' : Spaces gap'') : Written (.entries [(key, value)])
        (chr '"' :: (body ++ (gap ++ chr ':' :: (gap' ++ (text ++ (gap'' ++ [chr '\x7d']))))))
  | entry {body gap gap' text gap'' gap₃ rest key : PyStr} {value : JsonValue}
      {entries : List (PyStr × JsonValue)}
      (string : StringText body) (read : Reads (fun _ => True) scanString key body)
      (spaces : Spaces gap) (spaces' : Spaces gap') (here : Written (.value value) text)
      (spaces'' : Spaces gap'') (spaces₃ : Spaces gap₃) (later : Written (.entries entries) rest) :
      Written (.entries ((key, value) :: entries))
        (chr '"' :: (body ++ (gap ++ chr ':' :: (gap' ++ (text ++ (gap'' ++
          chr ',' :: (gap₃ ++ rest)))))))

/-! ## Reading a text -/

/-- A character that no value starts with but a bracket, a quote, a letter or a number may. -/
def valueStart (char : PyChar) : Bool :=
  char == chr '"' || char == chr '[' || char == chr '\x7b' || char == chr '-' ||
    isAsciiDigit char || char == chr 'n' || char == chr 't' || char == chr 'f'

theorem digit_plain {char : PyChar} (digit : isAsciiDigit char = true) :
    char ≠ chr '"' ∧ char ≠ chr '[' ∧ char ≠ chr '\x7b' ∧ char ≠ chr ']' ∧ char ≠ chr '\x7d' ∧
      char.isSpace = false := by
  have range : 48 ≤ char.val ∧ char.val ≤ 57 := of_decide_eq_true digit
  refine ⟨?_, ?_, ?_, ?_, ?_, ?_⟩
  · intro same; rw [same] at range; exact absurd range (by decide)
  · intro same; rw [same] at range; exact absurd range (by decide)
  · intro same; rw [same] at range; exact absurd range (by decide)
  · intro same; rw [same] at range; exact absurd range (by decide)
  · intro same; rw [same] at range; exact absurd range (by decide)
  · rw [PyChar.isSpace, Bool.eq_false_iff]
    intro member
    have codes := List.contains_iff_mem.mp member
    simp only [PyChar.spaceCodes, List.mem_cons, List.not_mem_nil, or_false] at codes
    omega

theorem isSpace_of_isWhitespace {char : PyChar} (white : isWhitespace char = true) :
    char.isSpace = true := by
  simp only [isWhitespace, Bool.or_eq_true, beq_iff_eq] at white
  rcases white with ((here | here) | here) | here
  · rw [here]; decide
  · rw [here]; decide
  · rw [here]; decide
  · rw [here]; decide

theorem valueStart_plain {char : PyChar} (start : valueStart char = true) :
    char ≠ chr ']' ∧ char ≠ chr '\x7d' ∧ char.isSpace = false := by
  simp only [valueStart, Bool.or_eq_true, beq_iff_eq] at start
  rcases start with ((((((here | here) | here) | here) | digit) | here) | here) | here
  · rw [here]; decide
  · rw [here]; decide
  · rw [here]; decide
  · rw [here]; decide
  · have plain := digit_plain digit
    exact ⟨plain.2.2.2.1, plain.2.2.2.2.1, plain.2.2.2.2.2⟩
  · rw [here]; decide
  · rw [here]; decide
  · rw [here]; decide

theorem isWhitespace_of_valueStart {char : PyChar} (start : valueStart char = true) :
    isWhitespace char = false := by
  cases white : isWhitespace char with
  | false => rfl
  | true =>
      have space := isSpace_of_isWhitespace white
      rw [(valueStart_plain start).2.2] at space
      cases space

def Part.Starts : Part → PyStr → Prop
  | .value _, text => ∃ first rest, text = first :: rest ∧ valueStart first = true
  | .items _, text => ∃ first rest, text = first :: rest ∧ valueStart first = true
  | .entries _, text => ∃ rest, text = chr '"' :: rest

theorem Written.starts {part : Part} {text : PyStr} (written : Written part text) :
    part.Starts text := by
  induction written with
  | name named =>
      simp only [List.mem_cons, Prod.mk.injEq, List.not_mem_nil, or_false] at named
      rcases named with ⟨here, -⟩ | ⟨here, -⟩ | ⟨here, -⟩
      · rw [here]; exact ⟨chr 'n', py "ull", by decide, by decide⟩
      · rw [here]; exact ⟨chr 't', py "rue", by decide, by decide⟩
      · rw [here]; exact ⟨chr 'f', py "alse", by decide, by decide⟩
  | @number text value shape read =>
      cases text with
      | nil => exact absurd rfl shape.nonempty
      | cons first rest =>
          refine ⟨first, rest, rfl, ?_⟩
          rcases shape.starts first rfl with here | digit
          · rw [here]; decide
          · simp [valueStart, digit]
  | str => exact ⟨_, _, rfl, by decide⟩
  | emptyList => exact ⟨_, _, rfl, by decide⟩
  | list => exact ⟨_, _, rfl, by decide⟩
  | emptyDict => exact ⟨_, _, rfl, by decide⟩
  | dict => exact ⟨_, _, rfl, by decide⟩
  | lastItem here spaces starts =>
      rcases starts with ⟨first, rest, split, start⟩
      exact ⟨first, _, by rw [split]; rfl, start⟩
  | item here spaces spaces' later starts =>
      rcases starts with ⟨first, rest, split, start⟩
      exact ⟨first, _, by rw [split]; rfl, start⟩
  | lastEntry => exact ⟨_, rfl⟩
  | entry => exact ⟨_, rfl⟩

theorem skipWhitespace_start {part : Part} {text : PyStr} (written : Written part text)
    (tail : PyStr) : skipWhitespace (text ++ tail) = text ++ tail := by
  have starts := written.starts
  cases part with
  | value value =>
      rcases starts with ⟨first, rest, split, start⟩
      rw [split]
      exact skipWhitespace_cons (isWhitespace_of_valueStart start)
  | items items =>
      rcases starts with ⟨first, rest, split, start⟩
      rw [split]
      exact skipWhitespace_cons (isWhitespace_of_valueStart start)
  | entries entries =>
      rcases starts with ⟨rest, split⟩
      rw [split]
      exact skipWhitespace_cons (by decide)

theorem numberEnds_of_plain {char : PyChar} {rest : PyStr} (plain : numberChar char = false) :
    NumberEnds (char :: rest) := by
  intro first here
  cases here
  exact plain

theorem numberEnds_append {gap rest : PyStr} (spaces : Spaces gap) (ends : NumberEnds rest) :
    NumberEnds (gap ++ rest) := by
  cases gap with
  | nil => exact ends
  | cons char gap =>
      apply numberEnds_of_plain
      have white := spaces char List.mem_cons_self
      simp only [isWhitespace, Bool.or_eq_true, beq_iff_eq] at white
      rcases white with ((here | here) | here) | here
      · rw [here]; decide
      · rw [here]; decide
      · rw [here]; decide
      · rw [here]; decide

/-- With enough fuel the text of the part is read as the part, whatever follows. -/
def Part.Read : Part → PyStr → Prop
  | .value read, text => ∀ fuel, 2 * text.length ≤ fuel + 1 →
      Reads NumberEnds (scanValue fuel) read text
  | .items read, text => ∀ fuel, 2 * text.length ≤ fuel + 2 →
      Reads (fun _ => True) (scanItems fuel) read text
  | .entries read, text => ∀ fuel, 2 * text.length ≤ fuel + 2 →
      Reads (fun _ => True) (scanEntries fuel) read text

theorem scanValue_quote (fuel : Nat) (rest : PyStr) : scanValue (fuel + 1) (chr '"' :: rest) =
    (scanString rest).map fun found => (.str found.1, found.2) := by
  rw [scanValue]
  exact if_pos rfl

theorem scanValue_bracket (fuel : Nat) (rest : PyStr) : scanValue (fuel + 1) (chr '[' :: rest) =
    if (skipWhitespace rest).head? = some (chr ']') then
      some (.list [], (skipWhitespace rest).drop 1)
    else (scanItems fuel (skipWhitespace rest)).map fun found => (.list found.1, found.2) := by
  rw [scanValue]
  dsimp only
  rw [if_neg (by decide), if_pos rfl]

theorem scanValue_brace (fuel : Nat) (rest : PyStr) :
    scanValue (fuel + 1) (chr '\x7b' :: rest) =
      if (skipWhitespace rest).head? = some (chr '\x7d') then
        some (.dict [], (skipWhitespace rest).drop 1)
      else
        match scanEntries fuel (skipWhitespace rest) with
        | none => none
        | some (entries, after) =>
            if (entries.map Prod.fst).Nodup then some (.dict entries, after) else none := by
  rw [scanValue]
  dsimp only
  rw [if_neg (by decide), if_neg (by decide)]
  exact if_pos rfl

theorem scanValue_number (fuel : Nat) {first : PyChar} {rest : PyStr}
    (number : first = chr '-' ∨ isAsciiDigit first = true) :
    scanValue (fuel + 1) (first :: rest) = scanNumber (first :: rest) := by
  have plain : first ≠ chr '"' ∧ first ≠ chr '[' ∧ first ≠ chr '\x7b' := by
    rcases number with here | digit
    · rw [here]; decide
    · have plain := digit_plain digit
      exact ⟨plain.1, plain.2.1, plain.2.2.1⟩
  rw [scanValue]
  dsimp only
  rw [if_neg plain.1, if_neg plain.2.1, if_neg plain.2.2, if_pos number]

theorem scanValue_name (fuel : Nat) {text tail : PyStr} {value : JsonValue} (named : (text, value) ∈
      [(py "null", JsonValue.null), (py "true", .bool true), (py "false", .bool false)]) :
    scanValue (fuel + 1) (text ++ tail) = some (value, tail) := by
  simp only [List.mem_cons, Prod.mk.injEq, List.not_mem_nil, or_false] at named
  rcases named with ⟨text, value⟩ | ⟨text, value⟩ | ⟨text, value⟩
  · subst text value
    rfl
  · subst text value
    rfl
  · subst text value
    rfl

theorem scanItems_step {fuel : Nat} {text gap rest : PyStr} {item : JsonValue} {next : PyChar}
    (read : Reads NumberEnds (scanValue fuel) item text) (spaces : Spaces gap)
    (solid : isWhitespace next = false) (ends : numberChar next = false) :
    scanItems (fuel + 1) (text ++ (gap ++ next :: rest)) =
      if next = chr ']' then some ([item], rest)
      else if next = chr ',' then
        (scanItems fuel (skipWhitespace rest)).map fun found => (item :: found.1, found.2)
      else none := by
  rw [scanItems, read _ (numberEnds_append spaces (numberEnds_of_plain ends))]
  dsimp only
  rw [skipWhitespace_append spaces, skipWhitespace_cons solid]

theorem scanEntries_step {fuel : Nat} {body gap gap' text gap'' rest key : PyStr}
    {value : JsonValue} {next : PyChar} (string : Reads (fun _ => True) scanString key body)
    (spaces : Spaces gap) (spaces' : Spaces gap') (written : Written (.value value) text)
    (read : Reads NumberEnds (scanValue fuel) value text) (spaces'' : Spaces gap'')
    (solid : isWhitespace next = false) (ends : numberChar next = false) :
    scanEntries (fuel + 1)
        (chr '"' :: (body ++ (gap ++ chr ':' :: (gap' ++ (text ++ (gap'' ++ next :: rest)))))) =
      if next = chr '\x7d' then some ([(key, value)], rest)
      else if next = chr ',' then
        (scanEntries fuel (skipWhitespace rest)).map fun found => ((key, value) :: found.1, found.2)
      else none := by
  rw [scanEntries, if_pos rfl, string _ trivial]
  dsimp only
  rw [skipWhitespace_append spaces, skipWhitespace_cons (by decide)]
  dsimp only
  rw [if_pos rfl, skipWhitespace_append spaces', skipWhitespace_start written,
    read _ (numberEnds_append spaces'' (numberEnds_of_plain ends))]
  dsimp only
  rw [skipWhitespace_append spaces'', skipWhitespace_cons solid]

theorem Written.read {part : Part} {text : PyStr} (written : Written part text) :
    part.Read text := by
  induction written with
  | name named =>
      intro fuel enough tail _
      cases fuel with
      | zero =>
          simp only [List.mem_cons, Prod.mk.injEq, List.not_mem_nil, or_false] at named
          rcases named with ⟨here, -⟩ | ⟨here, -⟩ | ⟨here, -⟩
          · rw [here] at enough; exact absurd enough (by decide)
          · rw [here] at enough; exact absurd enough (by decide)
          · rw [here] at enough; exact absurd enough (by decide)
      | succ fuel => exact scanValue_name fuel named
  | @number text value shape read =>
      intro fuel enough tail ends
      cases text with
      | nil => exact absurd rfl shape.nonempty
      | cons first rest =>
          cases fuel with
          | zero => simp only [List.length_cons] at enough; omega
          | succ fuel =>
              rw [List.cons_append, scanValue_number fuel (shape.starts first rfl)]
              exact read tail ends
  | str string read =>
      intro fuel enough tail _
      cases fuel with
      | zero => simp only [List.length_cons] at enough; omega
      | succ fuel =>
          rw [List.cons_append, scanValue_quote, read tail trivial]
          rfl
  | emptyList spaces =>
      intro fuel enough tail _
      cases fuel with
      | zero => simp only [List.length_cons] at enough; omega
      | succ fuel =>
          rw [List.cons_append, scanValue_bracket, List.append_assoc, skipWhitespace_append spaces]
          rfl
  | @list gap text items spaces inside induction =>
      intro fuel enough tail _
      simp only [List.length_cons, List.length_append] at enough
      cases fuel with
      | zero => omega
      | succ fuel =>
          rcases inside.starts with ⟨first, rest, split, start⟩
          have open_ : ¬(text ++ tail).head? = some (chr ']') := by
            rw [split]
            exact fun here => (valueStart_plain start).1 (Option.some.inj here)
          rw [List.cons_append, scanValue_bracket, List.append_assoc, skipWhitespace_append spaces,
            skipWhitespace_start inside, if_neg open_, induction fuel (by omega) tail trivial]
          rfl
  | emptyDict spaces =>
      intro fuel enough tail _
      cases fuel with
      | zero => simp only [List.length_cons] at enough; omega
      | succ fuel =>
          rw [List.cons_append, scanValue_brace, List.append_assoc, skipWhitespace_append spaces]
          rfl
  | @dict gap text entries spaces inside distinct induction =>
      intro fuel enough tail _
      simp only [List.length_cons, List.length_append] at enough
      cases fuel with
      | zero => omega
      | succ fuel =>
          rcases inside.starts with ⟨rest, split⟩
          have open_ : ¬(text ++ tail).head? = some (chr '\x7d') := by
            rw [split]
            exact fun here => absurd (Option.some.inj here) (by decide)
          rw [List.cons_append, scanValue_brace, List.append_assoc, skipWhitespace_append spaces,
            skipWhitespace_start inside, if_neg open_, induction fuel (by omega) tail trivial]
          exact if_pos distinct
  | @lastItem text gap item here spaces induction =>
      intro fuel enough tail _
      rcases here.starts with ⟨first, rest, split, -⟩
      simp only [List.length_append, List.length_cons] at enough
      cases fuel with
      | zero => rw [split, List.length_cons] at enough; omega
      | succ fuel =>
          have read := induction fuel (by omega)
          rw [List.append_assoc, List.append_assoc]
          exact scanItems_step read spaces (by decide) (by decide)
  | @item text gap gap' rest item items here spaces spaces' later induction inductionLater =>
      intro fuel enough tail _
      simp only [List.length_append, List.length_cons] at enough
      rcases here.starts with ⟨first, _, split, -⟩
      cases fuel with
      | zero => rw [split, List.length_cons] at enough; omega
      | succ fuel =>
          have read := induction fuel (by omega)
          simp only [List.append_assoc, List.cons_append]
          rw [scanItems_step read spaces (by decide) (by decide), if_neg (by decide), if_pos rfl,
            skipWhitespace_append spaces', skipWhitespace_start later,
            inductionLater fuel (by omega) tail trivial]
          rfl
  | @lastEntry body gap gap' text gap'' key value string read spaces spaces' here spaces''
      induction =>
      intro fuel enough tail _
      simp only [List.length_append, List.length_cons] at enough
      cases fuel with
      | zero => omega
      | succ fuel =>
          have readValue := induction fuel (by omega)
          simp only [List.append_assoc, List.cons_append]
          exact scanEntries_step read spaces spaces' here readValue spaces'' (by decide) (by decide)
  | @entry body gap gap' text gap'' gap₃ rest key value entries string read spaces spaces' here
      spaces'' spaces₃ later induction inductionLater =>
      intro fuel enough tail _
      simp only [List.length_append, List.length_cons] at enough
      cases fuel with
      | zero => omega
      | succ fuel =>
          have readValue := induction fuel (by omega)
          simp only [List.append_assoc, List.cons_append]
          rw [scanEntries_step read spaces spaces' here readValue spaces'' (by decide) (by decide),
            if_neg (by decide), if_pos rfl, skipWhitespace_append spaces₃,
            skipWhitespace_start later, inductionLater fuel (by omega) tail trivial]
          rfl

/-! ## What is read is a text -/

/-- What is read from the text of a part is a part, and the text before the rest is its text. -/
def Sound (fuel : Nat) : Prop :=
  (∀ text value after, scanValue fuel text = some (value, after) →
    ∃ front, text = front ++ after ∧ Written (.value value) front) ∧
  (∀ text items after, scanItems fuel text = some (items, after) →
    ∃ front, text = front ++ after ∧ Written (.items items) front) ∧
  ∀ text entries after, scanEntries fuel text = some (entries, after) →
    ∃ front, text = front ++ after ∧ Written (.entries entries) front

theorem skipWhitespace_eq_cons {text rest : PyStr} {next : PyChar}
    (skipped : skipWhitespace text = next :: rest) :
    ∃ gap, Spaces gap ∧ text = gap ++ next :: rest := by
  rcases skipWhitespace_split text with ⟨gap, spaces, split⟩
  exact ⟨gap, spaces, skipped ▸ split⟩

theorem scanValue_sound {fuel : Nat} (sound : Sound fuel) {text after : PyStr} {value : JsonValue}
    (read : scanValue (fuel + 1) text = some (value, after)) :
    ∃ front, text = front ++ after ∧ Written (.value value) front := by
  cases text with
  | nil =>
      rw [scanValue] at read
      cases read
  | cons first rest =>
      by_cases quote : first = chr '"'
      · rw [quote, scanValue_quote] at read
        rcases Option.map_eq_some_iff.mp read with ⟨⟨content, tail⟩, scanned, same⟩
        cases same
        rcases scanString_reads scanned with ⟨front, split, string, reads⟩
        exact ⟨chr '"' :: front, by rw [quote, split]; rfl, .str string reads⟩
      · by_cases bracket : first = chr '['
        · rw [bracket, scanValue_bracket] at read
          rcases skipWhitespace_split rest with ⟨gap, spaces, split⟩
          split at read
          · rename_i closes
            cases read
            cases inside : skipWhitespace rest with
            | nil =>
                rw [inside] at closes
                cases closes
            | cons next tail =>
                rw [inside] at closes split
                refine ⟨chr '[' :: (gap ++ [chr ']']), ?_, .emptyList spaces⟩
                rw [bracket, split, Option.some.inj closes]
                simp
          · rcases Option.map_eq_some_iff.mp read with ⟨⟨items, tail⟩, scanned, same⟩
            cases same
            rcases sound.2.1 _ _ _ scanned with ⟨front, inside, written⟩
            refine ⟨chr '[' :: (gap ++ front), ?_, .list spaces written⟩
            rw [bracket, split, inside]
            simp
        · by_cases brace : first = chr '\x7b'
          · rw [brace, scanValue_brace] at read
            rcases skipWhitespace_split rest with ⟨gap, spaces, split⟩
            split at read
            · rename_i closes
              cases read
              cases inside : skipWhitespace rest with
              | nil =>
                  rw [inside] at closes
                  cases closes
              | cons next tail =>
                  rw [inside] at closes split
                  refine ⟨chr '\x7b' :: (gap ++ [chr '\x7d']), ?_, .emptyDict spaces⟩
                  rw [brace, split, Option.some.inj closes]
                  simp
            · cases scanned : scanEntries fuel (skipWhitespace rest) with
              | none =>
                  rw [scanned] at read
                  cases read
              | some found =>
                  rcases found with ⟨entries, tail⟩
                  rw [scanned] at read
                  dsimp only at read
                  split at read
                  · rename_i distinct
                    cases read
                    rcases sound.2.2 _ _ _ scanned with ⟨front, inside, written⟩
                    refine ⟨chr '\x7b' :: (gap ++ front), ?_, .dict spaces written distinct⟩
                    rw [brace, split, inside]
                    simp
                  · cases read
          · by_cases number : first = chr '-' ∨ isAsciiDigit first = true
            · rw [scanValue_number fuel number] at read
              rcases scanNumber_reads read with ⟨front, split, shape, reads⟩
              exact ⟨front, split, .number shape reads⟩
            · rw [scanValue] at read
              dsimp only at read
              rw [if_neg quote, if_neg bracket, if_neg brace, if_neg number] at read
              rcases scanName_reads read with ⟨front, split, named⟩
              exact ⟨front, split, .name named⟩

theorem scanItems_sound {fuel : Nat} (sound : Sound fuel) {text after : PyStr}
    {items : List JsonValue} (read : scanItems (fuel + 1) text = some (items, after)) :
    ∃ front, text = front ++ after ∧ Written (.items items) front := by
  rw [scanItems] at read
  cases scanned : scanValue fuel text with
  | none =>
      rw [scanned] at read
      cases read
  | some found =>
      rcases found with ⟨item, tail⟩
      rw [scanned] at read
      dsimp only at read
      rcases sound.1 _ _ _ scanned with ⟨front, split, written⟩
      cases skipped : skipWhitespace tail with
      | nil =>
          rw [skipped] at read
          cases read
      | cons next rest =>
          rcases skipWhitespace_eq_cons skipped with ⟨gap, spaces, gapSplit⟩
          rw [skipped] at read
          dsimp only at read
          split at read
          · rename_i closes
            cases read
            refine ⟨front ++ (gap ++ [chr ']']), ?_, .lastItem written spaces⟩
            rw [split, gapSplit, closes]
            simp
          · split at read
            · rename_i more
              rcases Option.map_eq_some_iff.mp read with ⟨⟨others, last⟩, later, same⟩
              cases same
              rcases skipWhitespace_split rest with ⟨gap', spaces', restSplit⟩
              rcases sound.2.1 _ _ _ later with ⟨back, backSplit, writtenLater⟩
              refine ⟨front ++ (gap ++ chr ',' :: (gap' ++ back)), ?_,
                .item written spaces spaces' writtenLater⟩
              rw [split, gapSplit, more, restSplit, backSplit]
              simp
            · cases read

theorem scanEntries_sound {fuel : Nat} (sound : Sound fuel) {text after : PyStr}
    {entries : List (PyStr × JsonValue)}
    (read : scanEntries (fuel + 1) text = some (entries, after)) :
    ∃ front, text = front ++ after ∧ Written (.entries entries) front := by
  cases text with
  | nil =>
      rw [scanEntries] at read
      cases read
  | cons quote rest =>
      rw [scanEntries] at read
      split at read
      · rename_i quoted
        cases scannedKey : scanString rest with
        | none =>
            rw [scannedKey] at read
            cases read
        | some found =>
            rcases found with ⟨key, afterKey⟩
            rw [scannedKey] at read
            dsimp only at read
            rcases scanString_reads scannedKey with ⟨body, bodySplit, string, reads⟩
            cases skipped : skipWhitespace afterKey with
            | nil =>
                rw [skipped] at read
                cases read
            | cons colon afterColon =>
                rcases skipWhitespace_eq_cons skipped with ⟨gap, spaces, gapSplit⟩
                rw [skipped] at read
                dsimp only at read
                split at read
                · rename_i colon
                  rcases skipWhitespace_split afterColon with ⟨gap', spaces', colonSplit⟩
                  cases scanned : scanValue fuel (skipWhitespace afterColon) with
                  | none =>
                      rw [scanned] at read
                      cases read
                  | some found =>
                      rcases found with ⟨value, tail⟩
                      rw [scanned] at read
                      dsimp only at read
                      rcases sound.1 _ _ _ scanned with ⟨front, frontSplit, written⟩
                      cases skippedTail : skipWhitespace tail with
                      | nil =>
                          rw [skippedTail] at read
                          cases read
                      | cons next rest' =>
                          rcases skipWhitespace_eq_cons skippedTail with
                            ⟨gap'', spaces'', tailSplit⟩
                          rw [skippedTail] at read
                          dsimp only at read
                          split at read
                          · rename_i closes
                            cases read
                            refine ⟨_, ?_,
                              .lastEntry string reads spaces spaces' written spaces''⟩
                            rw [quoted, bodySplit, gapSplit, colon, colonSplit, frontSplit,
                              tailSplit, closes]
                            simp
                          · split at read
                            · rename_i more
                              rcases Option.map_eq_some_iff.mp read with
                                ⟨⟨others, last⟩, later, same⟩
                              cases same
                              rcases skipWhitespace_split rest' with ⟨gap₃, spaces₃, restSplit⟩
                              rcases sound.2.2 _ _ _ later with ⟨back, backSplit, writtenLater⟩
                              refine ⟨_, ?_, .entry string reads spaces spaces' written
                                spaces'' spaces₃ writtenLater⟩
                              rw [quoted, bodySplit, gapSplit, colon, colonSplit, frontSplit,
                                tailSplit, more, restSplit, backSplit]
                              simp
                            · cases read
                · cases read
      · cases read

theorem sound (fuel : Nat) : Sound fuel := by
  induction fuel with
  | zero =>
      refine ⟨?_, ?_, ?_⟩
      · intro text value after read
        rw [scanValue] at read
        cases read
      · intro text items after read
        rw [scanItems] at read
        cases read
      · intro text entries after read
        rw [scanEntries] at read
        cases read
  | succ fuel induction =>
      exact ⟨fun _ _ _ => scanValue_sound induction, fun _ _ _ => scanItems_sound induction,
        fun _ _ _ => scanEntries_sound induction⟩

end ExQServe.Json

namespace ExQServe

open Json

/-- The strict parser accepts exactly the texts of the grammar, with whitespace around. -/
theorem parseJsonStrict_eq_some {text : PyStr} {value : JsonValue} :
    parseJsonStrict text = some value ↔ ∃ gap front gap', Spaces gap ∧ Spaces gap' ∧
      Written (.value value) front ∧ text = gap ++ (front ++ gap') := by
  constructor
  · intro parsed
    rw [parseJsonStrict] at parsed
    cases scanned : scanValue (2 * text.length + 1) (skipWhitespace text) with
    | none =>
        rw [scanned] at parsed
        cases parsed
    | some found =>
        rcases found with ⟨read, after⟩
        rw [scanned] at parsed
        dsimp only at parsed
        split at parsed
        · rename_i empty
          cases parsed
          rcases (sound _).1 _ _ _ scanned with ⟨front, split, written⟩
          rcases skipWhitespace_split text with ⟨gap, spaces, gapSplit⟩
          rcases skipWhitespace_split after with ⟨gap', spaces', afterSplit⟩
          rw [empty, List.append_nil] at afterSplit
          exact ⟨gap, front, after, spaces, afterSplit ▸ spaces', written, split ▸ gapSplit⟩
        · cases parsed
  · intro shape
    rcases shape with ⟨gap, front, gap', spaces, spaces', written, split⟩
    have enough : 2 * front.length ≤ 2 * text.length + 1 + 1 := by
      rw [split]
      simp only [List.length_append]
      omega
    have ends := numberEnds_append spaces' NumberEnds.nil
    rw [List.append_nil] at ends
    have blank := @skipWhitespace_append _ [] spaces'
    rw [List.append_nil] at blank
    have read := written.read (2 * text.length + 1) enough gap' ends
    rw [parseJsonStrict, split, skipWhitespace_append spaces, skipWhitespace_start written, ← split,
      read]
    exact if_pos blank

namespace Json

theorem StringText.ends {text : PyStr} (string : StringText text) :
    text.getLast? = some (chr '"') := by
  induction string with
  | close => rfl
  | plain noQuote noEscape visible string induction =>
      cases string with
      | close => rfl
      | plain => rw [List.getLast?_cons_cons]; exact induction
      | escape => rw [List.getLast?_cons_cons]; exact induction
  | escape string induction =>
      rw [List.getLast?_cons_cons]
      cases string with
      | close => rfl
      | plain => rw [List.getLast?_cons_cons]; exact induction
      | escape => rw [List.getLast?_cons_cons]; exact induction

theorem isSpace_of_numberChar {char : PyChar} (number : numberChar char = true) :
    char.isSpace = false := by
  simp only [numberChar, Bool.or_eq_true, beq_iff_eq] at number
  rcases number with ((((digit | here) | here) | here) | here) | here
  · exact (digit_plain digit).2.2.2.2.2
  · rw [here]; decide
  · rw [here]; decide
  · rw [here]; decide
  · rw [here]; decide
  · rw [here]; decide

theorem getLast?_append_of_some {front back : PyStr} {last : PyChar}
    (ends : back.getLast? = some last) : (front ++ back).getLast? = some last := by
  rw [List.getLast?_append, ends]
  rfl

/-- The text of a part ends in a character that is not whitespace. -/
theorem Written.ends {part : Part} {text : PyStr} (written : Written part text) :
    ∃ last, text.getLast? = some last ∧ last.isSpace = false := by
  induction written with
  | name named =>
      simp only [List.mem_cons, Prod.mk.injEq, List.not_mem_nil, or_false] at named
      rcases named with ⟨here, -⟩ | ⟨here, -⟩ | ⟨here, -⟩
      · rw [here]; exact ⟨chr 'l', by decide, by decide⟩
      · rw [here]; exact ⟨chr 'e', by decide, by decide⟩
      · rw [here]; exact ⟨chr 'e', by decide, by decide⟩
  | @number text value shape read =>
      cases last : text.getLast? with
      | none => exact absurd (List.getLast?_eq_none_iff.mp last) shape.nonempty
      | some char =>
          exact ⟨char, rfl, isSpace_of_numberChar (shape.chars char (List.mem_of_getLast? last))⟩
  | @str body content string read =>
      exact ⟨chr '"', @getLast?_append_of_some [chr '"'] _ _ string.ends, by decide⟩
  | @emptyList gap spaces =>
      exact ⟨chr ']', @getLast?_append_of_some (chr '[' :: gap) _ _ rfl, by decide⟩
  | @list gap text items spaces inside induction =>
      rcases induction with ⟨last, final, solid⟩
      exact ⟨last, @getLast?_append_of_some (chr '[' :: gap) _ _ final, solid⟩
  | @emptyDict gap spaces =>
      exact ⟨chr '\x7d', @getLast?_append_of_some (chr '\x7b' :: gap) _ _ rfl, by decide⟩
  | @dict gap text entries spaces inside distinct induction =>
      rcases induction with ⟨last, final, solid⟩
      exact ⟨last, @getLast?_append_of_some (chr '\x7b' :: gap) _ _ final, solid⟩
  | lastItem =>
      exact ⟨chr ']', getLast?_append_of_some (getLast?_append_of_some rfl), by decide⟩
  | @item text gap gap' rest item items here spaces spaces' later induction inductionLater =>
      rcases inductionLater with ⟨last, final, solid⟩
      refine ⟨last, ?_, solid⟩
      rw [show text ++ (gap ++ chr ',' :: (gap' ++ rest)) =
        text ++ gap ++ chr ',' :: gap' ++ rest by simp]
      exact getLast?_append_of_some final
  | @lastEntry body gap gap' text gap'' key value string read spaces spaces' here spaces'' _ =>
      refine ⟨chr '\x7d', ?_, by decide⟩
      rw [show chr '"' ::
            (body ++ (gap ++ chr ':' :: (gap' ++ (text ++ (gap'' ++ [chr '\x7d']))))) =
        chr '"' :: body ++ gap ++ chr ':' :: gap' ++ text ++ gap'' ++ [chr '\x7d'] by simp]
      exact getLast?_append_of_some rfl
  | @entry body gap gap' text gap'' gap₃ rest key value entries string read spaces spaces' here
      spaces'' spaces₃ later _ inductionLater =>
      rcases inductionLater with ⟨last, final, solid⟩
      refine ⟨last, ?_, solid⟩
      rw [show chr '"' :: (body ++ (gap ++ chr ':' :: (gap' ++ (text ++ (gap'' ++
          chr ',' :: (gap₃ ++ rest)))))) =
        chr '"' :: body ++ gap ++ chr ':' :: gap' ++ text ++ gap'' ++ chr ',' :: gap₃ ++ rest by
          simp]
      exact getLast?_append_of_some final

theorem scanNumber_ne_dict {text after : PyStr} {entries : List (PyStr × JsonValue)} :
    scanNumber text ≠ some (.dict entries, after) := by
  intro read
  rw [scanNumber] at read
  dsimp only at read
  split at read
  · cases read
  · split at read
    · split at read
      · cases read
      · cases read
    · rcases Option.map_eq_some_iff.mp read with ⟨float, -, same⟩
      cases same

/-- The values of written members are written. -/
theorem written_entry {entries : List (PyStr × JsonValue)} {text : PyStr}
    (written : Written (.entries entries) text) {entry : PyStr × JsonValue}
    (member : entry ∈ entries) : ∃ text, Written (.value entry.2) text := by
  generalize whole : Part.entries entries = part at written
  induction written generalizing entries with
  | lastEntry string read spaces spaces' here spaces'' =>
      cases whole
      rw [List.mem_singleton.mp member]
      exact ⟨_, here⟩
  | entry string read spaces spaces' here spaces'' spaces₃ later _ induction =>
      cases whole
      rcases List.mem_cons.mp member with first | member
      · exact first ▸ ⟨_, here⟩
      · exact induction member rfl
  | _ => cases whole

/-- A written object has each name once, and its values are written. -/
theorem written_dict {entries : List (PyStr × JsonValue)} {text : PyStr}
    (written : Written (.value (.dict entries)) text) :
    (entries.map Prod.fst).Nodup ∧ ∀ entry ∈ entries, ∃ text, Written (.value entry.2) text := by
  cases written with
  | name named => simp at named
  | number shape read => exact absurd (read [] .nil) scanNumber_ne_dict
  | emptyDict spaces => exact ⟨List.nodup_nil, by simp⟩
  | dict spaces inside distinct => exact ⟨distinct, fun entry member => written_entry inside member⟩

end Json

/-- The whitespace around a text does not matter. -/
theorem parseJsonStrict_strip {text : PyStr} {value : JsonValue}
    (parsed : parseJsonStrict text = some value) : parseJsonStrict text.strip = some value := by
  rcases parseJsonStrict_eq_some.mp parsed with
    ⟨gap, front, gap', spaces, spaces', written, split⟩
  rcases written.starts with ⟨first, rest, shape, start⟩
  rcases written.ends with ⟨last, final, solid⟩
  have stripped : text.strip = front := by
    rw [split]
    apply PyStr.strip_append
    · exact fun char member => isSpace_of_isWhitespace (spaces char member)
    · exact fun char member => isSpace_of_isWhitespace (spaces' char member)
    · intro char here
      rw [shape] at here
      cases here
      exact (valueStart_plain start).2.2
    · intro char here
      rw [final] at here
      cases here
      exact solid
  rw [stripped, parseJsonStrict_eq_some]
  exact ⟨[], front, [], .nil, .nil, written, (List.append_nil front).symm⟩

end ExQServe
