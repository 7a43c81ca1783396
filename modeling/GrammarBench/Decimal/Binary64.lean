import GrammarBench.Json.Basic

/-!
# Binary fractions

Numbers of double precision as exact values, `mantissa * 2 ^ exponent` with a mantissa below
`2 ^ 53`. A decimal is rounded to the nearest of them, a tie to the even mantissa; a number is
written with the fewest digits that are read back as the same number, and with the nearest of
those. Everything is computed with whole numbers.
-/

namespace GrammarBench.Decimal

/-- A finite number of double precision. -/
structure Binary64 where
  negative : Bool
  mantissa : Nat
  exponent : Int
deriving Repr, DecidableEq

/-- The quotient rounded to the nearest whole number, a tie to the even one. -/
def roundDiv (num den : Nat) : Nat :=
  let q := num / den
  let r := num % den
  if 2 * r < den then q
  else if 2 * r > den then q + 1
  else if q % 2 = 0 then q else q + 1

def bitLength (n : Nat) : Nat :=
  if n = 0 then 0 else n.log2 + 1

def digitCount (n : Nat) : Nat :=
  (Nat.toDigits 10 n).length

def minExponent : Int := -1074

/-- The nearest number to the positive fraction `num / den`; none when it is too large. -/
def roundFraction (negative : Bool) (num den : Nat) : Option Binary64 :=
  let guess := (bitLength num : Int) - bitLength den - 53
  let scaled (e : Int) : Nat :=
    if 0 ≤ e then roundDiv num (den * Nat.pow 2 e.toNat)
    else roundDiv (num * Nat.pow 2 (-e).toNat) den
  let low := max guess minExponent
  let e := if scaled low < Nat.pow 2 53 then low else low + 1
  let m := scaled e
  let (m, e) := if m = Nat.pow 2 53 then (Nat.pow 2 52, e + 1) else (m, e)
  if e > 971 then none else some ⟨negative, m, e⟩

/-- The nearest number to a numeral; none when it is too large. -/
def ofNumeral (n : Numeral) : Option Binary64 :=
  if n.significand = 0 then some ⟨n.negative, 0, minExponent⟩
  else
    let top := (digitCount n.significand : Int) + n.exponent
    if top > 310 then none
    else if top < -330 then some ⟨n.negative, 0, minExponent⟩
    else if 0 ≤ n.exponent then
      roundFraction n.negative (n.significand * Nat.pow 10 n.exponent.toNat) 1
    else roundFraction n.negative n.significand (Nat.pow 10 (-n.exponent).toNat)

/-- Digits of a decimal: `digits * 10 ^ power`. -/
structure Digits where
  digits : Nat
  power : Int
deriving Repr, DecidableEq

/-- The point of a decimal grid nearest to a number among its two neighbours, if one of them is
read back as the number. -/
def onGrid (b : Binary64) (power : Int) : Option Digits :=
  -- the number and the point as multiples of a common unit
  let m := b.mantissa
  let (num, den) :=
    if 0 ≤ b.exponent then (m * Nat.pow 2 b.exponent.toNat, 1)
    else (m, Nat.pow 2 (-b.exponent).toNat)
  let (num, den) :=
    if 0 ≤ power then (num, den * Nat.pow 10 power.toNat)
    else (num * Nat.pow 10 (-power).toNat, den)
  let below := num / den
  let fits (d : Nat) : Bool :=
    ofNumeral ⟨b.negative, d, power, true⟩ == some b
  let nearer := roundDiv num den
  let other := if nearer = below then below + 1 else below
  if fits nearer then some ⟨nearer, power⟩
  else if fits other then some ⟨other, power⟩
  else none

/-- The first grid, from coarse to fine, that has a point for the number. -/
def firstGrid (b : Binary64) (power : Int) : Nat → Option Digits
  | 0 => onGrid b power
  | tries + 1 =>
    match onGrid b power with
    | some d => some d
    | none => firstGrid b (power - 1) tries

def trimZeros (d : Digits) : Nat → Digits
  | 0 => d
  | tries + 1 =>
    if d.digits ≠ 0 ∧ d.digits % 10 = 0 then trimZeros ⟨d.digits / 10, d.power + 1⟩ tries else d

/-- The power of ten that has about the size of the number. -/
def sizePower (b : Binary64) : Int :=
  if b.exponent ≥ 0 then (digitCount (b.mantissa * Nat.pow 2 b.exponent.toNat) : Int)
  else (digitCount (b.mantissa * Nat.pow 10 (-b.exponent).toNat / Nat.pow 2 (-b.exponent).toNat) : Int)
    + b.exponent

/-- The fewest digits that are read back as the number. -/
def shortest (b : Binary64) : Digits :=
  if b.mantissa = 0 then ⟨0, 0⟩
  else
    match firstGrid b (sizePower b) 20 with
    | some d => trimZeros d 20
    | none => ⟨0, 0⟩

/-- The text of a number: positional when the exponent of its first digit is from -5 to 15, and
with a signed exponent otherwise; a whole number keeps one zero after the point. -/
def text (b : Binary64) : String :=
  let d := shortest b
  let ds := Nat.toDigits 10 d.digits
  let n := (ds.length : Int)
  let lead := n + d.power - 1
  let sign := if b.negative then ['-'] else []
  let zeros (k : Int) : List Char := List.replicate k.toNat '0'
  let body :=
    if d.digits = 0 then ['0', '.', '0']
    else if lead < -5 ∨ 16 ≤ lead then
      let fraction := if ds.length ≤ 1 then [] else '.' :: ds.drop 1
      ds.take 1 ++ fraction ++ 'e' :: (if lead < 0 then '-' else '+') :: Nat.toDigits 10 lead.natAbs
    else if 0 ≤ d.power then ds ++ zeros d.power ++ ['.', '0']
    else if 0 ≤ lead then ds.take (lead.toNat + 1) ++ '.' :: ds.drop (lead.toNat + 1)
    else '0' :: '.' :: (zeros (-lead - 1) ++ ds)
  String.ofList (sign ++ body)

/-- The text of a numeral that is no integer; nothing for one that is too large. -/
def numeralText (n : Numeral) : String :=
  match ofNumeral n with
  | some b => text b
  | none => ""

end GrammarBench.Decimal
