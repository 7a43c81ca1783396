import GrammarBench.Text.DecimalDigit

/-!
# The value of decimal digits

Digits have a value exactly when all of them are digits of ASCII, and it is the number that they
write in base ten. The digits of a number write that number, so a number below the bound is read
back from them.
-/

namespace GrammarBench.Text

theorem asciiDigit?_of_isDigit {c : Char} (h : c.isDigit = true) :
    asciiDigit? c = some (c.toNat - '0'.toNat) :=
  if_pos (Char.isDigit_iff_toNat.mp h)

theorem asciiDigit?_of_not_isDigit {c : Char} (h : c.isDigit = false) : asciiDigit? c = none := by
  refine if_neg fun hrange => ?_
  rw [Char.isDigit_iff_toNat.mpr hrange] at h
  cases h

theorem decimalFrom?_eq (acc : Nat) (digits : List Char) :
    decimalFrom? acc digits =
      if digits.all Char.isDigit then some (Nat.ofDigitChars 10 digits acc) else none := by
  induction digits generalizing acc with
  | nil => rfl
  | cons c cs ih =>
      cases hc : c.isDigit with
      | true =>
          rw [decimalFrom?, asciiDigit?_of_isDigit hc, Option.bind_some, ih,
            Nat.ofDigitChars_cons, List.all_cons, hc, Bool.true_and]
      | false =>
          rw [decimalFrom?, asciiDigit?_of_not_isDigit hc, List.all_cons, hc]
          rfl

/-- The value of a number of 32 bits, if the digits write one. -/
def u32? (digits : List Char) : Option Nat :=
  if digits.all Char.isDigit ∧ Nat.ofDigitChars 10 digits 0 ≤ 4294967295 then
    some (Nat.ofDigitChars 10 digits 0)
  else none

theorem boundedDecimal?_eq_u32? {digits : List Char} (h : digits ≠ []) :
    boundedDecimal? 4294967296 digits = u32? digits := by
  have hempty : digits.isEmpty = false := by simpa using h
  rw [boundedDecimal?, hempty, decimalFrom?_eq, u32?]
  by_cases hall : digits.all Char.isDigit = true
  · by_cases hbound : Nat.ofDigitChars 10 digits 0 ≤ 4294967295
    · have hlt : Nat.ofDigitChars 10 digits 0 < 4294967296 := by omega
      rw [if_neg Bool.false_ne_true, if_pos hall, if_pos ⟨hall, hbound⟩, Option.filter_some,
        if_pos (decide_eq_true hlt)]
    · have hge : ¬Nat.ofDigitChars 10 digits 0 < 4294967296 := by omega
      rw [if_neg Bool.false_ne_true, if_pos hall, if_neg fun h => hbound h.2, Option.filter_some,
        if_neg (by rw [decide_eq_true_eq]; exact hge)]
  · rw [if_neg Bool.false_ne_true, if_neg hall, if_neg fun h => hall h.1]
    rfl

/-- A number is what its digits write. -/
theorem u32?_toDigits {n : Nat} (h : n ≤ 4294967295) : u32? (Nat.toDigits 10 n) = some n := by
  have hall : (Nat.toDigits 10 n).all Char.isDigit = true :=
    List.all_eq_true.mpr fun c hc => Nat.isDigit_of_mem_toDigits (by omega) (by omega) hc
  rw [u32?, Nat.ofDigitChars_ten_toDigits, if_pos ⟨hall, h⟩]

theorem u32?_le {digits : List Char} {n : Nat} (h : u32? digits = some n) : n ≤ 4294967295 := by
  unfold u32? at h
  split at h
  · rename_i hbound
    cases h
    exact hbound.2
  · cases h

end GrammarBench.Text
