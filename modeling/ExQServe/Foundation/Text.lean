import ExQServe.Foundation.Search

/-! # Python strings

A Python `str` is a sequence of code points, lone surrogates included, so text
is a list of numbers below `0x110000` rather than a Lean `String`. -/

namespace ExQServe

abbrev PyChar := Fin 0x110000

abbrev PyStr := List PyChar

instance codePointsNonZero : NeZero 0x110000 := ⟨by decide⟩

instance : LawfulBEq PyChar := inferInstance

instance : LawfulBEq PyStr := inferInstance

namespace PyChar

def ofChar (char : Char) : PyChar := ⟨char.toNat, by
  rcases char.valid with low | high
  · exact Nat.lt_trans low (by decide)
  · exact high.2⟩

def spaceCodes : List Nat :=
  [0x09, 0x0a, 0x0b, 0x0c, 0x0d, 0x1c, 0x1d, 0x1e, 0x1f, 0x20, 0x85, 0xa0,
    0x1680, 0x2000, 0x2001, 0x2002, 0x2003, 0x2004, 0x2005, 0x2006, 0x2007,
    0x2008, 0x2009, 0x200a, 0x2028, 0x2029, 0x202f, 0x205f, 0x3000]

def isSpace (char : PyChar) : Bool := spaceCodes.contains char.val

def digitRanges : List (Nat × Nat) :=
  [(48, 57), (178, 179), (185, 185), (1632, 1641), (1776, 1785), (1984, 1993),
    (2406, 2415), (2534, 2543), (2662, 2671), (2790, 2799), (2918, 2927),
    (3046, 3055), (3174, 3183), (3302, 3311), (3430, 3439), (3558, 3567),
    (3664, 3673), (3792, 3801), (3872, 3881), (4160, 4169), (4240, 4249),
    (4969, 4977), (6112, 6121), (6160, 6169), (6470, 6479), (6608, 6618),
    (6784, 6793), (6800, 6809), (6992, 7001), (7088, 7097), (7232, 7241),
    (7248, 7257), (8304, 8304), (8308, 8313), (8320, 8329), (9312, 9320),
    (9332, 9340), (9352, 9360), (9450, 9450), (9461, 9469), (9471, 9471),
    (10102, 10110), (10112, 10120), (10122, 10130), (42528, 42537),
    (43216, 43225), (43264, 43273), (43472, 43481), (43504, 43513),
    (43600, 43609), (44016, 44025), (65296, 65305), (66720, 66729),
    (68160, 68163), (68912, 68921), (69216, 69224), (69714, 69722),
    (69734, 69743), (69872, 69881), (69942, 69951), (70096, 70105),
    (70384, 70393), (70736, 70745), (70864, 70873), (71248, 71257),
    (71360, 71369), (71472, 71481), (71904, 71913), (72016, 72025),
    (72784, 72793), (73040, 73049), (73120, 73129), (73552, 73561),
    (92768, 92777), (92864, 92873), (93008, 93017), (120782, 120831),
    (123200, 123209), (123632, 123641), (124144, 124153), (125264, 125273),
    (127232, 127242), (130032, 130041)]

def isDigit (char : PyChar) : Bool :=
  digitRanges.any fun range => decide (range.1 ≤ char.val ∧ char.val ≤ range.2)

def isSurrogate (char : PyChar) : Bool :=
  decide (0xd800 ≤ char.val ∧ char.val ≤ 0xdfff)

def isHighSurrogate (char : PyChar) : Bool :=
  decide (0xd800 ≤ char.val ∧ char.val ≤ 0xdbff)

def isLowSurrogate (char : PyChar) : Bool :=
  decide (0xdc00 ≤ char.val ∧ char.val ≤ 0xdfff)

/-- Bytes of one code point in UTF-8. -/
def utf8Length (char : PyChar) : Nat :=
  if char.val < 0x80 then 1
  else if char.val < 0x800 then 2
  else if char.val < 0x10000 then 3
  else 4

end PyChar

/-- A Python string literal. -/
def py (literal : String) : PyStr := literal.toList.map PyChar.ofChar

theorem py_inj {first second : String} : py first = py second ↔ first = second := by
  have apart : Function.Injective PyChar.ofChar := by
    intro char other same
    have codes : char.toNat = other.toNat := congrArg (fun code : PyChar => code.val) same
    exact Char.toNat_inj.mp codes
  rw [py, py, apart.list_map.eq_iff, String.toList_inj]

/-- A one-character Python literal. -/
abbrev chr (literal : Char) : PyChar := PyChar.ofChar literal

example : py "<a>" = [60, 97, 62] := by decide

/-- `str` of a natural number. -/
def pyNat (value : Nat) : PyStr := (Nat.toDigits 10 value).map PyChar.ofChar

namespace PyStr

/-- `text[start:stop]` for `0 ≤ start`. -/
def slice (text : PyStr) (start stop : Nat) : PyStr := (text.take stop).drop start

def lstrip (text : PyStr) : PyStr := text.dropWhile PyChar.isSpace

def rstrip (text : PyStr) : PyStr := text.rdropWhile PyChar.isSpace

def strip (text : PyStr) : PyStr := (lstrip text).rdropWhile PyChar.isSpace

/-- A text that neither starts nor ends with whitespace, without the whitespace around it. -/
theorem strip_append {gap text gap' : PyStr} (spaces : ∀ char ∈ gap, char.isSpace = true)
    (spaces' : ∀ char ∈ gap', char.isSpace = true)
    (starts : ∀ first ∈ text.head?, first.isSpace = false)
    (ends : ∀ last ∈ text.getLast?, last.isSpace = false) :
    strip (gap ++ (text ++ gap')) = text := by
  rw [strip, lstrip, List.dropWhile_append_of_pos spaces]
  cases text with
  | nil =>
      have blank : List.dropWhile PyChar.isSpace gap' = [] :=
        List.dropWhile_eq_nil_iff.mpr spaces'
      rw [List.nil_append, blank]
      rfl
  | cons first rest =>
      rw [List.cons_append, List.dropWhile_cons_of_neg (by rw [starts first rfl]; decide),
        ← List.cons_append, List.rdropWhile, List.reverse_append,
        List.dropWhile_append_of_pos fun char member => spaces' char (List.mem_reverse.mp member)]
      cases shape : (first :: rest).reverse with
      | nil => exact absurd shape (by simp)
      | cons last others =>
          have final : (first :: rest).getLast? = some last := by
            rw [← List.head?_reverse, shape]
            rfl
          rw [List.dropWhile_cons_of_neg (by rw [ends last final]; decide), ← shape,
            List.reverse_reverse]

/-- `text.encode("utf-8")` does not raise. -/
def utf8Encodable (text : PyStr) : Bool := text.all fun char => !char.isSurrogate

/-- `len(text.encode("utf-8"))` of an encodable text. -/
def utf8Length (text : PyStr) : Nat := (text.map PyChar.utf8Length).sum

/-- `not text.strip()`. -/
def isBlank (text : PyStr) : Bool := text.all PyChar.isSpace

end PyStr

inductive MessagePart
  | text (literal : String)
  | repr (value : PyStr)
  | str (value : PyStr)
deriving DecidableEq, Repr

abbrev Message := List MessagePart

def plain (literal : String) : Message := [.text literal]

end ExQServe
