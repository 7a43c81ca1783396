import GrammarBench.Text.Pieces

/-!
# Punycode

Texts of any characters written with letters and digits only. The ASCII characters come first,
closed by a hyphen. The others follow in ascending order as numbers: how many steps lie between one
insertion and the next, where a step goes to the next place in the text and, behind the last place,
to the first place with the next code point. A number is written in 36 digits, the lowest first;
a digit below the threshold of its place ends the number. The thresholds adapt to the numbers
that came before.
-/

namespace GrammarBench.Text.Punycode

def isBasic (c : Char) : Bool :=
  c.toNat < 0x80

/-- The value of a digit: letters first, then the digits of ASCII. -/
def digitValue? (c : Char) : Option Nat :=
  if 'a' ≤ c ∧ c ≤ 'z' then some (c.toNat - 'a'.toNat)
  else if 'A' ≤ c ∧ c ≤ 'Z' then some (c.toNat - 'A'.toNat)
  else if '0' ≤ c ∧ c ≤ '9' then some (c.toNat - '0'.toNat + 26)
  else none

def digitChar (n : Nat) : Char :=
  if n < 26 then Char.ofNat ('a'.toNat + n) else Char.ofNat ('0'.toNat + (n - 26))

/-- The threshold of a digit; places are counted in steps of 36. -/
def threshold (bias place : Nat) : Nat :=
  min 26 (max 1 (place - bias))

/-- A threshold is never zero, so every number has a last digit. -/
theorem one_le_threshold (bias place : Nat) : 1 ≤ threshold bias place := by
  unfold threshold
  omega

/-- The part of a bias that comes from the size of a number. -/
def biasOf (place n : Nat) : Nat :=
  if 455 < n then biasOf (place + 36) (n / 35) else place + 36 * n / (n + 38)
termination_by n
decreasing_by omega

/-- The bias after a number, when the text has come to `size` characters. -/
def adapt (n size : Nat) (isFirst : Bool) : Nat :=
  let n := if isFirst then n / 700 else n / 2
  biasOf 0 (n + n / size)

/-! ## Reading -/

/-- Where a reader stands: the text so far, the place and the code point of the next insertion, and
what it has read of the number before that. -/
structure Reader where
  text : List Char
  place : Nat := 0
  code : Nat := 128
  bias : Nat := 72
  number : Nat := 0
  weight : Nat := 1
  digitPlace : Nat := 36
deriving Repr, DecidableEq

namespace Reader

/-- Inserts the character that the number leads to. -/
def insert? (r : Reader) : Option Reader :=
  let size := r.text.length + 1
  let steps := r.place + r.number
  let code := r.code + steps / size
  let place := steps % size
  if h : code.isValidChar then some {
    text := r.text.take place ++ Char.ofNatAux code h :: r.text.drop place
    place := place + 1
    code
    bias := adapt r.number size (r.place == 0) }
  else none

def step? (r : Reader) (c : Char) : Option Reader := do
  let value ← digitValue? c
  let limit := threshold r.bias r.digitPlace
  let r := { r with number := r.number + value * r.weight }
  if value < limit then r.insert?
  else return { r with weight := r.weight * (36 - limit), digitPlace := r.digitPlace + 36 }

end Reader

/-- Reads a text; none if it is not written rightly. -/
def decode? (cs : List Char) : Option (List Char) := do
  let (basic, digits) := match cutLast? (· == '-') cs with
    | some ([], _) => ([], cs)
    | some (basic, digits) => (basic, digits)
    | none => ([], cs)
  let r ← digits.foldlM Reader.step? { text := basic }
  if r.digitPlace = 36 && basic.all isBasic then some r.text else none

/-! ## Writing -/

/-- The digits of a number, from a place on. -/
def digitsOf (bias place n : Nat) : List Char :=
  let limit := threshold bias place
  if n < limit then [digitChar n]
  else
    digitChar (limit + (n - limit) % (36 - limit)) ::
      digitsOf bias (place + 36) ((n - limit) / (36 - limit))
termination_by n
decreasing_by
  have := one_le_threshold bias place
  exact Nat.lt_of_le_of_lt (Nat.div_le_self _ _) (by omega)

/-- Where a writer stands: the digits so far, last one first, the steps since the last insertion,
and the number of characters that have been written. -/
structure Writer where
  digits : List Char := []
  steps : Nat := 0
  bias : Nat := 72
  written : Nat
deriving Repr, DecidableEq

namespace Writer

/-- Passes a character of the text while `code` is written. -/
def pass (basic code : Nat) (w : Writer) (c : Char) : Writer :=
  if c.toNat < code then { w with steps := w.steps + 1 }
  else if c.toNat = code then {
    digits := (digitsOf w.bias 36 w.steps).reverse ++ w.digits
    steps := 0
    bias := adapt w.steps (w.written + 1) (w.written == basic)
    written := w.written + 1 }
  else w

/-- Writes code points in ascending order, from `next` on. -/
def run (cs : List Char) (basic next : Nat) (w : Writer) : List Nat → Writer
  | [] => w
  | code :: codes =>
    let w := { w with steps := w.steps + (code - next) * (w.written + 1) }
    let w := cs.foldl (pass basic code) w
    run cs basic (code + 1) { w with steps := w.steps + 1 } codes

end Writer

/-- A number put into an ascending list without repetitions. -/
def insertCode (code : Nat) : List Nat → List Nat
  | [] => [code]
  | c :: cs =>
    if code < c then code :: c :: cs else if code = c then c :: cs else c :: insertCode code cs

def encode (cs : List Char) : List Char :=
  let basic := cs.filter isBasic
  let codes := (cs.filter (!isBasic ·)).foldr (fun c => insertCode c.toNat) []
  let w := Writer.run cs basic.length 128 { written := basic.length } codes
  (if basic.isEmpty then [] else basic ++ ['-']) ++ w.digits.reverse

end GrammarBench.Text.Punycode
