/-!
# Digits

Numbers written with digits, in bases up to sixteen. Letters serve as digits from ten on, in
either case.
-/

namespace GrammarBench.Text

def digitValue? (c : Char) : Option Nat :=
  if '0' ≤ c ∧ c ≤ '9' then some (c.toNat - '0'.toNat)
  else if 'a' ≤ c ∧ c ≤ 'f' then some (c.toNat - 'a'.toNat + 10)
  else if 'A' ≤ c ∧ c ≤ 'F' then some (c.toNat - 'A'.toNat + 10)
  else none

/-- The digit with a value below sixteen, as a small letter from ten on. -/
def digitChar (n : Nat) : Char :=
  if n < 10 then Char.ofNat ('0'.toNat + n) else Char.ofNat ('a'.toNat + (n - 10))

def isDigitOf (base : Nat) (c : Char) : Bool :=
  match digitValue? c with
  | some value => value < base
  | none => false

/-- The number that digits write in a base. No digits write zero; a character that is no digit of
the base spoils the number. -/
def number? (base : Nat) (digits : List Char) : Option Nat :=
  if digits.all (isDigitOf base) then
    some (digits.foldl (fun n c => n * base + (digitValue? c).getD 0) 0)
  else none

/-- The digits of a number in base sixteen, without leading zeros. -/
def hexDigits (n : Nat) : List Char :=
  Nat.toDigits 16 n

end GrammarBench.Text
