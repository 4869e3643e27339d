import ExQServe.Foundation.Text

/-! # Python floats

`json.loads` turns a number with a fraction or an exponent into a binary64
value and `json.dumps` writes the shortest decimal that reads back as that
value. Both directions are exact integer arithmetic. -/

namespace ExQServe

/-- A finite binary64 value `(-1) ^ negative * mantissa * 2 ^ exponent`, in the
one representation binary64 has for it. -/
structure PyFloat where
  negative : Bool
  mantissa : Nat
  exponent : Int
  mantissa_lt : mantissa < 2 ^ 53
  exponent_ge : -1074 ≤ exponent
  exponent_le : exponent ≤ 971
  normal : 2 ^ 52 ≤ mantissa ∨ exponent = -1074
deriving DecidableEq

namespace PyFloat

/-- `numerator / denominator` rounded half to even. -/
def divideEven (numerator denominator : Nat) : Nat :=
  let quotient := numerator / denominator
  let remainder := numerator % denominator
  if denominator < 2 * remainder ∨ (2 * remainder = denominator ∧ quotient % 2 = 1) then
    quotient + 1
  else
    quotient

/-- `numerator / denominator * 2 ^ (-exponent)` as a ratio of naturals. -/
def scaleRatio (numerator denominator : Nat) (exponent : Int) : Nat × Nat :=
  if 0 ≤ exponent then (numerator, denominator * 2 ^ exponent.toNat)
  else (numerator * 2 ^ (-exponent).toNat, denominator)

/-- The exponent at which the ratio has 53 significant bits, or the least
exponent of binary64. -/
def ratioExponent (numerator denominator : Nat) : Int :=
  let difference : Int := (Nat.log2 numerator : Int) - (Nat.log2 denominator : Int)
  let scaled := scaleRatio numerator denominator difference
  let logarithm := if scaled.2 ≤ scaled.1 then difference else difference - 1
  max (logarithm - 52) (-1074)

def roundRatio (numerator denominator : Nat) : Nat × Int :=
  if numerator = 0 then (0, -1074)
  else
    let exponent := ratioExponent numerator denominator
    let scaled := scaleRatio numerator denominator exponent
    let mantissa := divideEven scaled.1 scaled.2
    if mantissa = 2 ^ 53 then (2 ^ 52, exponent + 1) else (mantissa, exponent)

/-- `float(text)` of the decimal `(-1) ^ negative * digits * 10 ^ scale`; `none`
when the result is not finite. -/
def ofDecimal (negative : Bool) (digits : Nat) (scale : Int) : Option PyFloat :=
  let ratio := if 0 ≤ scale then (digits * 10 ^ scale.toNat, 1)
    else (digits, 10 ^ (-scale).toNat)
  let rounded := roundRatio ratio.1 ratio.2
  if valid : rounded.1 < 2 ^ 53 ∧ -1074 ≤ rounded.2 ∧ rounded.2 ≤ 971 ∧
      (2 ^ 52 ≤ rounded.1 ∨ rounded.2 = -1074) then
    some ⟨negative, rounded.1, rounded.2, valid.1, valid.2.1, valid.2.2.1, valid.2.2.2⟩
  else
    none

def magnitude (value : PyFloat) : Nat × Nat :=
  if 0 ≤ value.exponent then (value.mantissa * 2 ^ value.exponent.toNat, 1)
  else (value.mantissa, 2 ^ (-value.exponent).toNat)

/-! ## Shortest decimal -/

/-- `numerator / denominator * 10 ^ (-scale)`, rounded down. -/
def decimalFloor (numerator denominator : Nat) (scale : Int) : Nat :=
  if 0 ≤ scale then numerator / (denominator * 10 ^ scale.toNat)
  else numerator * 10 ^ (-scale).toNat / denominator

/-- The decimal point position of `numerator / denominator`: the number of
digits before the point, negative for leading zeros after it. -/
def decimalPoint (numerator denominator : Nat) : Int :=
  let difference : Int := (Nat.log 10 numerator : Int) - (Nat.log 10 denominator : Int)
  if 1 ≤ decimalFloor numerator denominator difference then difference + 1 else difference

/-- Both neighbours of the value with `count` significant digits. -/
def neighbours (value : PyFloat) (count : Nat) : Nat × Int :=
  let ratio := value.magnitude
  let scale := decimalPoint ratio.1 ratio.2 - count
  (decimalFloor ratio.1 ratio.2 scale, scale)

/-- The candidate with `count` digits that reads back as the value, if there is
one; of two such candidates the nearer one. -/
def shortestWith (value : PyFloat) (count : Nat) : Option (Nat × Int) :=
  let candidate := value.neighbours count
  let reads := fun digits => decide (ofDecimal value.negative digits candidate.2 = some value)
  let ratio := value.magnitude
  -- twice the value against the sum of both neighbours, at the candidate scale
  let doubled := decimalFloor (2 * ratio.1) ratio.2 candidate.2
  match reads candidate.1, reads (candidate.1 + 1) with
  | true, true =>
      some (if doubled < 2 * candidate.1 + 1 then candidate.1 else candidate.1 + 1, candidate.2)
  | true, false => some candidate
  | false, true => some (candidate.1 + 1, candidate.2)
  | false, false => none

def exactDecimal (value : PyFloat) : Nat × Int :=
  if 0 ≤ value.exponent then (value.mantissa * 2 ^ value.exponent.toNat, 0)
  else (value.mantissa * 5 ^ (-value.exponent).toNat, value.exponent)

/-- The first count in `counts` that has a candidate; binary64 needs at most 17
digits, the exact expansion only closes the definition. -/
def shortestFrom (value : PyFloat) : List Nat → Nat × Int
  | [] => value.exactDecimal
  | count :: counts => (value.shortestWith count).getD (value.shortestFrom counts)

def shortest (value : PyFloat) : Nat × Int :=
  if value.mantissa = 0 then (0, 0) else value.shortestFrom ((List.range 17).map (· + 1))

end PyFloat

def decimalDigits (value : Nat) : PyStr := (Nat.toDigits 10 value).map PyChar.ofChar

namespace PyFloat

def repr (value : PyFloat) : PyStr :=
  let sign := if value.negative then py "-" else []
  if value.mantissa = 0 then sign ++ py "0.0"
  else
    let decimal := value.shortest
    let digits := decimalDigits decimal.1
    let point : Int := digits.length + decimal.2
    if -4 < point ∧ point ≤ 16 then
      if point ≤ 0 then
        sign ++ py "0." ++ List.replicate (-point).toNat (chr '0') ++ digits
      else if digits.length ≤ point.toNat then
        sign ++ digits ++ List.replicate (point.toNat - digits.length) (chr '0') ++ py ".0"
      else
        sign ++ digits.take point.toNat ++ py "." ++ digits.drop point.toNat
    else
      let power := point - 1
      let magnitude := decimalDigits power.natAbs
      let padded := if magnitude.length < 2 then chr '0' :: magnitude else magnitude
      sign ++ digits.take 1 ++
        (if digits.length = 1 then [] else py "." ++ digits.drop 1) ++
        py "e" ++ (if power < 0 then py "-" else py "+") ++ padded

end PyFloat

end ExQServe
