import ExQServe.Agent.FloatText
import ExQServe.Agent.JsonText

/-! # Numbers that are written

The text of an integer or of a float reads as the number. -/

namespace ExQServe.Json

/-! ## Digits -/

def Digits (text : PyStr) : Prop := ∀ char ∈ text, isAsciiDigit char = true

theorem digits_nil : Digits [] := fun _ member => (List.not_mem_nil member).elim

theorem Digits.append {first second : PyStr} (digits : Digits first) (digits' : Digits second) :
    Digits (first ++ second) := by
  intro char member
  rcases List.mem_append.mp member with inside | inside
  · exact digits char inside
  · exact digits' char inside

theorem digits_zeros (count : Nat) : Digits (List.replicate count (chr '0')) := by
  intro char member
  rw [List.eq_of_mem_replicate member]
  decide

theorem digits_decimalDigits (value : Nat) : Digits (decimalDigits value) := by
  intro char member
  rcases List.mem_map.mp member with ⟨digit, inside, rfl⟩
  have range := Nat.isDigit_of_mem_toDigits (by decide) (by decide) inside
  rw [Char.isDigit, Bool.and_eq_true, decide_eq_true_eq, decide_eq_true_eq] at range
  rw [isAsciiDigit, decide_eq_true_eq]
  exact range

theorem digitsValue_append (first second : PyStr) :
    digitsValue (first ++ second) =
      digitsValue first * 10 ^ second.length + digitsValue second := by
  have shifted (digits : PyStr) (start : Nat) :
      digits.foldl (fun value char => 10 * value + (char.val - 48)) start =
        start * 10 ^ digits.length + digitsValue digits := by
    rw [digitsValue]
    induction digits generalizing start with
    | nil => simp
    | cons char digits induction =>
        rw [List.foldl_cons, List.foldl_cons, induction, induction (10 * 0 + _), List.length_cons,
          pow_succ]
        ring
  rw [digitsValue, List.foldl_append, shifted]
  rfl

theorem digitsValue_zeros (count : Nat) : digitsValue (List.replicate count (chr '0')) = 0 := by
  induction count with
  | zero => rfl
  | succ count induction =>
      rw [List.replicate_succ', digitsValue_append, induction]
      rfl

theorem digitsValue_decimalDigits (value : Nat) : digitsValue (decimalDigits value) = value := by
  rw [digitsValue, decimalDigits, List.foldl_map]
  exact Nat.ofDigitChars_ten_toDigits

theorem decimalDigits_ne_nil (value : Nat) : decimalDigits value ≠ [] := by
  rw [decimalDigits, ne_eq, List.map_eq_nil_iff]
  exact Nat.toDigits_ne_nil

theorem length_decimalDigits_le {value count : Nat} (positive : 0 < count)
    (small : value < 10 ^ count) : (decimalDigits value).length ≤ count := by
  rw [decimalDigits, List.length_map]
  exact (Nat.length_toDigits_le_iff (by decide) positive).mpr small

def WholeText (whole : PyStr) : Prop :=
  whole = [chr '0'] ∨ ∃ first rest, whole = first :: rest ∧ first ≠ chr '0' ∧ Digits whole

theorem scanIntegerPart_whole {whole tail : PyStr} (text : WholeText whole)
    (ends : DigitsEnd tail) : scanIntegerPart (whole ++ tail) = some (whole, tail) := by
  rcases text with zero | ⟨first, rest, shape, nonzero, all⟩
  · rw [zero, List.singleton_append, scanIntegerPart, if_pos rfl]
  · have digit := all first (shape ▸ List.mem_cons_self)
    have joined : whole ++ tail = first :: (rest ++ tail) := by
      rw [shape]
      rfl
    rw [joined, scanIntegerPart, if_neg nonzero, if_pos digit, ← joined,
      takeWhile_digits all ends, dropWhile_digits all ends]

theorem digitChar_ne_zero : ∀ digit : Fin 10, digit.val ≠ 0 →
    chr (Nat.digitChar digit.val) ≠ chr '0' := by
  decide

/-- The digits of a number that is not zero do not start with a zero. -/
theorem decimalDigits_shape {value : Nat} (nonzero : value ≠ 0) :
    ∃ first rest, decimalDigits value = first :: rest ∧ first ≠ chr '0' := by
  induction value using Nat.strong_induction_on with
  | h value induction =>
      by_cases small : value < 10
      · use chr (Nat.digitChar value), []
        constructor
        · rw [decimalDigits, Nat.toDigits_of_lt_base small]
          rfl
        · exact digitChar_ne_zero ⟨value, small⟩ nonzero
      · have large := Nat.le_of_not_lt small
        rcases induction (value / 10) (by omega) (by omega) with ⟨first, rest, shape, other⟩
        use first, rest ++ [chr (Nat.digitChar (value % 10))]
        constructor
        · rw [decimalDigits, Nat.toDigits_of_base_le (by decide) large, List.map_append]
          rw [decimalDigits] at shape
          rw [shape]
          rfl
        · exact other

theorem whole_decimalDigits (value : Nat) : WholeText (decimalDigits value) := by
  by_cases zero : value = 0
  · rw [zero]
    exact .inl rfl
  · rcases decimalDigits_shape zero with ⟨first, rest, shape, nonzero⟩
    exact .inr ⟨first, rest, shape, nonzero, digits_decimalDigits value⟩

/-! ## Texts of numbers -/

def fractionText (fraction : PyStr) : PyStr :=
  if fraction = [] then [] else chr '.' :: fraction

def exponentText : Option Int → PyStr
  | none => []
  | some power =>
      let magnitude := decimalDigits power.natAbs
      let padded := if magnitude.length < 2 then chr '0' :: magnitude else magnitude
      chr 'e' :: (if power < 0 then chr '-' else chr '+') :: padded

theorem scanExponent_text (exponent : Option Int) :
    scanExponent (exponentText exponent) = (exponent, []) := by
  cases exponent with
  | none => rfl
  | some power =>
      rw [exponentText]
      generalize same : (if (decimalDigits power.natAbs).length < 2 then
        chr '0' :: decimalDigits power.natAbs else decimalDigits power.natAbs) = padded
      have all : Digits padded := by
        rw [← same]
        split
        · exact (digits_zeros 1).append (digits_decimalDigits _)
        · exact digits_decimalDigits _
      have value : digitsValue padded = power.natAbs := by
        rw [← same]
        split
        · have zero := digitsValue_append [chr '0'] (decimalDigits power.natAbs)
          have none : digitsValue [chr '0'] = 0 := rfl
          rw [digitsValue_decimalDigits, none, Nat.zero_mul, Nat.zero_add] at zero
          exact zero
        · exact digitsValue_decimalDigits _
      have nonempty : padded ≠ [] := by
        rw [← same]
        split
        · exact List.cons_ne_nil _ _
        · exact decimalDigits_ne_nil _
      have taken : padded.takeWhile isAsciiDigit = padded := by
        have whole := @takeWhile_digits padded [] all fun _ member => nomatch member
        rwa [List.append_nil] at whole
      have dropped : padded.dropWhile isAsciiDigit = [] := by
        have whole := @dropWhile_digits padded [] all fun _ member => nomatch member
        rwa [List.append_nil] at whole
      have plus : chr '+' ≠ chr '-' := by decide
      by_cases negative : power < 0
      · simp [scanExponent, negative, taken, dropped, nonempty, value, abs_of_neg negative]
      · simp [scanExponent, negative, plus, taken, dropped, nonempty, value,
          abs_of_nonneg (not_lt.mp negative)]

theorem exponentText_head (exponent : Option Int) :
    ∀ char ∈ (exponentText exponent).head?, char = chr 'e' := by
  intro char first
  cases exponent with
  | none => cases first
  | some power =>
      cases first
      rfl

theorem scanScale_text {fraction : PyStr} (all : Digits fraction) (exponent : Option Int) :
    scanScale (fractionText fraction ++ exponentText exponent) = ((fraction, exponent), []) := by
  have head := exponentText_head exponent
  have digitsEnd : DigitsEnd (exponentText exponent) := by
    intro char first
    rw [head char first]
    decide
  have fractions : scanFraction (fractionText fraction ++ exponentText exponent) =
      (fraction, exponentText exponent) := by
    rw [fractionText]
    split
    · rename_i none
      rw [none, List.nil_append]
      apply scanFraction_absent
      intro char first
      rw [head char first]
      decide
    · rename_i some
      rw [List.cons_append, scanFraction, takeWhile_digits all digitsEnd,
        dropWhile_digits all digitsEnd, if_pos ⟨rfl, some⟩]
  rw [scanScale, fractions]
  dsimp only
  rw [scanExponent_text]

def numberText (negative : Bool) (whole fraction : PyStr) (exponent : Option Int) : PyStr :=
  (if negative then [chr '-'] else []) ++ (whole ++ (fractionText fraction ++
    exponentText exponent))

theorem scanNumber_text (negative : Bool) {whole fraction : PyStr} {exponent : Option Int}
    (text : WholeText whole) (all : Digits fraction) :
    scanNumber (numberText negative whole fraction exponent) =
      if fraction = [] ∧ exponent = none then
        if maxIntDigits < whole.length then none
        else
          some (.int (if negative then -(digitsValue whole : Int) else digitsValue whole), [])
      else
        (PyFloat.ofDecimal negative (digitsValue (whole ++ fraction))
          (exponent.getD 0 - fraction.length)).map fun value => (.float value, []) := by
  have unsigned : ¬(whole ++ (fractionText fraction ++ exponentText exponent)).head? =
      some (chr '-') := by
    intro sign
    rcases text with zero | ⟨first, rest, shape, _, digits⟩
    · rw [zero] at sign
      cases sign
    · rw [shape] at sign
      have digit := digits first (shape ▸ List.mem_cons_self)
      rw [Option.some.inj sign] at digit
      cases digit
  have ends : DigitsEnd (fractionText fraction ++ exponentText exponent) := by
    intro char first
    rw [fractionText] at first
    split at first
    · rw [exponentText_head exponent char first]
      decide
    · cases first
      decide
  have magnitude : scanNumber (numberText negative whole fraction exponent) =
      scanMagnitude negative (whole ++ (fractionText fraction ++ exponentText exponent)) := by
    rw [scanNumber_eq, numberText]
    cases negative with
    | true => rfl
    | false =>
        simp only [Bool.false_eq_true, if_false, List.nil_append]
        rw [if_neg unsigned, decide_eq_false unsigned]
  rw [magnitude, scanMagnitude, scanIntegerPart_whole text ends, Option.bind_some]
  dsimp only
  rw [scanScale_text all]

/-! ## Integers -/

/-- An integer that the parser can read. -/
theorem scanNumber_dumpsInt {value : Int} (small : value.natAbs < 10 ^ maxIntDigits) :
    scanNumber (dumpsInt value) = some (.int value, []) := by
  have text : dumpsInt value =
      numberText (decide (value < 0)) (decimalDigits value.natAbs) [] none := by
    rw [dumpsInt, numberText, fractionText, exponentText]
    simp only [decide_eq_true_eq, if_true, List.append_nil]
    split
    · rfl
    · rfl
  have short := length_decimalDigits_le (by decide) small
  rw [text, scanNumber_text _ (whole_decimalDigits _) digits_nil,
    if_pos ⟨rfl, rfl⟩, if_neg (Nat.not_lt_of_le short), digitsValue_decimalDigits]
  congr 3
  simp only [decide_eq_true_eq]
  omega

/-! ## Floats -/

/-- A text that is read as the float of a decimal. -/
theorem scanNumber_float {value : PyFloat} {whole fraction : PyStr} {exponent : Option Int}
    (text : WholeText whole) (all : Digits fraction)
    (float : ¬(fraction = [] ∧ exponent = none))
    (rounded : PyFloat.ofDecimal value.negative (digitsValue (whole ++ fraction))
      (exponent.getD 0 - fraction.length) = some value) :
    scanNumber (numberText value.negative whole fraction exponent) =
      some (.float value, []) := by
  rw [scanNumber_text _ text all, if_neg float, rounded]
  rfl

/-- The front of the digits of a number that is not zero. -/
theorem whole_of_front {value : Nat} (nonzero : value ≠ 0) {front rest more : PyStr}
    (split : decimalDigits value = front ++ rest) (some : front ≠ []) (all : Digits more) :
    WholeText (front ++ more) := by
  rcases decimalDigits_shape nonzero with ⟨first, others, shape, other⟩
  have digits : Digits front := by
    intro char member
    exact digits_decimalDigits value char (split ▸ List.mem_append_left rest member)
  cases front with
  | nil => exact absurd rfl some
  | cons head tail =>
      rw [shape] at split
      have same := (List.cons.inj split).1
      exact .inr ⟨head, tail ++ more, rfl, same ▸ other, digits.append all⟩

/-! ### The layouts of `float.__repr__` -/

section Layouts

variable {value : PyFloat} {number : Nat} {scale : Int}

/-- A decimal below one: zeros, then the digits. -/
theorem scanNumber_below
    (rounded : PyFloat.ofDecimal value.negative number scale = some value) {zeros : Nat}
    (point : (decimalDigits number).length + scale = -zeros) :
    scanNumber (numberText value.negative [chr '0']
      (List.replicate zeros (chr '0') ++ decimalDigits number) none) =
        some (.float value, []) := by
  apply scanNumber_float (.inl rfl) ((digits_zeros zeros).append (digits_decimalDigits number))
  · intro none
    exact decimalDigits_ne_nil number (List.append_eq_nil_iff.mp none.1).2
  · have zero : digitsValue [chr '0'] = 0 := rfl
    rw [digitsValue_append, digitsValue_append, digitsValue_decimalDigits, digitsValue_zeros, zero,
      Nat.zero_mul, Nat.zero_mul, Nat.zero_add, Nat.zero_add, List.length_append,
      List.length_replicate, Option.getD_none]
    have same : (0 : Int) - ((zeros + (decimalDigits number).length : Nat) : Int) = scale := by
      omega
    rw [same, rounded]

/-- A whole number: the digits, then zeros. -/
theorem scanNumber_whole (nonzero : number ≠ 0)
    (rounded : PyFloat.ofDecimal value.negative number scale = some value) {zeros : Nat}
    (point : scale = zeros) :
    scanNumber (numberText value.negative
      (decimalDigits number ++ List.replicate zeros (chr '0')) [chr '0'] none) =
        some (.float value, []) := by
  have text : WholeText (decimalDigits number ++ List.replicate zeros (chr '0')) :=
    whole_of_front nonzero (List.append_nil _).symm (decimalDigits_ne_nil number)
      (digits_zeros zeros)
  have all : Digits [chr '0'] := digits_zeros 1
  apply scanNumber_float text all
  · intro none
    cases none.1
  · have zero : digitsValue [chr '0'] = 0 := rfl
    have digits : digitsValue (decimalDigits number ++ List.replicate zeros (chr '0') ++
        [chr '0']) = number * 10 ^ (zeros + 1) := by
      rw [digitsValue_append, digitsValue_append, digitsValue_decimalDigits, digitsValue_zeros,
        zero,
        List.length_replicate, List.length_singleton, Nat.add_zero, Nat.add_zero, Nat.mul_assoc,
        pow_one, pow_succ]
    have same : (none : Option Int).getD 0 - (([chr '0'] : PyStr).length : Int) =
        scale - (zeros + 1 : Nat) := by
      rw [point, Option.getD_none, List.length_singleton]
      omega
    rw [digits, same, PyFloat.ofDecimal_shift, rounded]

/-- The digits with the point, or the start of the exponent, among them. -/
theorem scanNumber_split (nonzero : number ≠ 0)
    (rounded : PyFloat.ofDecimal value.negative number scale = some value)
    {front back : PyStr} {exponent : Option Int} (split : decimalDigits number = front ++ back)
    (some : front ≠ []) (float : ¬(back = [] ∧ exponent = none))
    (point : exponent.getD 0 - back.length = scale) :
    scanNumber (numberText value.negative front back exponent) =
      Option.some (.float value, []) := by
  have text : WholeText (front ++ []) := whole_of_front nonzero split some digits_nil
  rw [List.append_nil] at text
  apply scanNumber_float text _ float
  · rw [← split, digitsValue_decimalDigits, point, rounded]
  · intro char member
    exact digits_decimalDigits number char (split ▸ List.mem_append_right front member)

end Layouts

theorem numberText_point (negative : Bool) (whole : PyStr) {fraction : PyStr}
    (some : fraction ≠ []) :
    numberText negative whole fraction none =
      (if negative then py "-" else []) ++ (whole ++ chr '.' :: fraction) := by
  rw [numberText, fractionText, if_neg some, exponentText, List.append_nil]
  rfl

theorem exponentText_some (power : Int) :
    exponentText (some power) = py "e" ++ ((if power < 0 then py "-" else py "+") ++
      (if (decimalDigits power.natAbs).length < 2 then chr '0' :: decimalDigits power.natAbs
        else decimalDigits power.natAbs)) := by
  rw [exponentText]
  by_cases negative : power < 0
  · rw [if_pos negative, if_pos negative]
    rfl
  · rw [if_neg negative, if_neg negative]
    rfl

/-- The text of a float reads as the float. -/
theorem scanNumber_repr (value : PyFloat) : scanNumber value.repr = some (.float value, []) := by
  by_cases zero : value.mantissa = 0
  · have text : value.repr = numberText value.negative [chr '0'] [chr '0'] none := by
      rw [numberText_point _ _ (List.cons_ne_nil _ _), PyFloat.repr]
      exact if_pos zero
    have all : Digits [chr '0'] := digits_zeros 1
    rw [text]
    apply scanNumber_float (.inl rfl) all (by simp)
    exact PyFloat.ofDecimal_zero zero _
  · have rounded := PyFloat.ofDecimal_shortest zero
    have nonzero := PyFloat.shortest_ne_zero zero
    rw [PyFloat.repr]
    dsimp only
    rw [if_neg zero]
    generalize value.shortest.1 = number at rounded nonzero ⊢
    generalize value.shortest.2 = scale at rounded ⊢
    have some := decimalDigits_ne_nil number
    have length := List.length_pos_of_ne_nil some
    generalize same : ((decimalDigits number).length : Int) + scale = point
    split
    · split
      · rename_i below
        have read := @scanNumber_below _ _ _ rounded (-point).toNat (by omega)
        have fraction : List.replicate (-point).toNat (chr '0') ++ decimalDigits number ≠ [] :=
          List.append_ne_nil_of_right_ne_nil _ some
        rw [numberText_point _ _ fraction] at read
        rw [List.append_assoc, List.append_assoc]
        exact read
      · split
        · rename_i whole
          have read := @scanNumber_whole _ _ _ nonzero rounded
            (point.toNat - (decimalDigits number).length) (by omega)
          rw [numberText_point _ _ (List.cons_ne_nil _ _)] at read
          rw [List.append_assoc, List.append_assoc]
          rw [List.append_assoc] at read
          exact read
        · rename_i inside
          have back : (decimalDigits number).drop point.toNat ≠ [] := by
            rw [ne_eq, List.drop_eq_nil_iff]
            omega
          have front : (decimalDigits number).take point.toNat ≠ [] := by
            rw [ne_eq, List.take_eq_nil_iff]
            rintro (none | none)
            · omega
            · exact some none
          have read := @scanNumber_split value _ _ nonzero rounded _ _ none
            (List.take_append_drop point.toNat _).symm front (fun both => back both.1) (by
              rw [Option.getD_none, List.length_drop]
              omega)
          rw [numberText_point _ _ back] at read
          rw [List.append_assoc, List.append_assoc]
          exact read
    · have front : (decimalDigits number).take 1 ≠ [] := by
        rw [ne_eq, List.take_eq_nil_iff]
        rintro (none | none)
        · cases none
        · exact some none
      have read := @scanNumber_split value _ _ nonzero rounded _ _ (Option.some (point - 1))
        (List.take_append_drop 1 _).symm front (fun both => nomatch both.2) (by
          rw [Option.getD_some, List.length_drop]
          omega)
      have single : (decimalDigits number).drop 1 = [] ↔ (decimalDigits number).length = 1 := by
        rw [List.drop_eq_nil_iff]
        omega
      have fraction : (if (decimalDigits number).length = 1 then []
          else py "." ++ (decimalDigits number).drop 1) =
            fractionText ((decimalDigits number).drop 1) := by
        rw [fractionText]
        simp only [single]
        rfl
      rw [fraction]
      simp only [List.append_assoc]
      rw [numberText, exponentText_some] at read
      exact read

end ExQServe.Json
