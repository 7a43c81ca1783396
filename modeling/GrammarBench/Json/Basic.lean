/-!
# JSON values

Documents as values. Numbers keep the decimal that was written, since a reader may ask for an
integer or for a binary fraction; the members of an object keep their order and their repetitions,
since whether a repeated member matters is decided by who reads it.
-/

namespace GrammarBench

/-- A number as it is written: `significand * 10 ^ exponent` with a sign. -/
structure Numeral where
  negative : Bool
  significand : Nat
  exponent : Int
  /-- The text has neither a fraction nor an exponent. -/
  plain : Bool
deriving Repr, DecidableEq, Inhabited

namespace Numeral

def ofNat (n : Nat) : Numeral :=
  ⟨false, n, 0, true⟩

/-- The integer of a numeral: its text is plain, it is not the negative zero, and it fits 64 bits
with or without a sign. Every other numeral is a binary fraction to its readers. -/
def toInt? (n : Numeral) : Option Int :=
  if !n.plain || (n.negative && n.significand == 0) then none
  else if n.negative then
    if n.significand ≤ Nat.pow 2 63 then some (-(n.significand : Int)) else none
  else if n.significand < Nat.pow 2 64 then some n.significand else none

/-- The natural number below `bound` of a numeral. -/
def below? (bound : Nat) (n : Numeral) : Option Nat :=
  match n.toInt? with
  | some i => if 0 ≤ i ∧ i.toNat < bound then some i.toNat else none
  | none => none

end Numeral

inductive Json where
  | null
  | bool (b : Bool)
  | num (n : Numeral)
  | str (s : String)
  | arr (items : List Json)
  | obj (members : List (String × Json))
  /-- A string with an unpaired surrogate escape, or an object with such a member name. It is
  well-formed and may be passed over, but it has no text, so nobody can read it. -/
  | unreadable
deriving Repr, Inhabited

namespace Json

def ofText? : Option String → Json
  | some s => str s
  | none => null

def ofNat? : Option Nat → Json
  | some n => num (.ofNat n)
  | none => null

def ofTexts (xs : List String) : Json :=
  arr (xs.map str)

def member? (name : String) : Json → Option Json
  | obj members => members.lookup name
  | _ => none

def text? : Json → Option String
  | str s => some s
  | _ => none

end Json

end GrammarBench
