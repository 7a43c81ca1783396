import GrammarBench.Text.Digits
import GrammarBench.Text.Pieces

/-!
# Numeric host names

A host may be named by four numbers below 256 with dots between them. Fewer numbers will do: then
the last one fills all the bytes that are left. Numbers are read in base ten, in base eight behind
a zero, and in base sixteen behind `0x`; they are written in base ten.
-/

namespace GrammarBench

/-- Four bytes that name a host, as one number. -/
structure Ipv4 where
  value : Nat
deriving Repr, DecidableEq

namespace Ipv4

def number? (cs : List Char) : Option Nat :=
  match cs with
  | [] => none
  | '0' :: 'x' :: digits => Text.number? 16 digits
  | '0' :: digits => Text.number? 8 digits
  | digits => Text.number? 10 digits

/-- The texts between the dots, where one dot at the end counts for nothing. -/
def parts (cs : List Char) : List (List Char) :=
  let parts := Text.pieces (· == '.') cs
  if parts.length > 1 && parts.getLast? == some [] then parts.dropLast else parts

/-- The name ends in a number, so that it can only be a numeric one. -/
def endsInNumber (cs : List Char) : Bool :=
  match (parts cs).getLast? with
  | some last => !last.isEmpty && (last.all Char.isDigit || (number? last).isSome)
  | none => false

def read? (cs : List Char) : Option Ipv4 := do
  let numbers ← (parts cs).mapM number?
  let last ← numbers.getLast?
  let bytes := numbers.dropLast
  if bytes.length < 4 ∧ bytes.all (· < 256) ∧ last < Nat.pow 256 (4 - bytes.length) then
    return ⟨bytes.foldl (fun n b => n * 256 + b) 0 * Nat.pow 256 (4 - bytes.length) + last⟩
  else none

def bytes (a : Ipv4) : List Nat :=
  [a.value / Nat.pow 256 3 % 256, a.value / Nat.pow 256 2 % 256, a.value / 256 % 256,
    a.value % 256]

def text (a : Ipv4) : String :=
  ".".intercalate (a.bytes.map toString)

end Ipv4

end GrammarBench
