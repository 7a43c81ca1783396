import GrammarBench.Text.Blank
import GrammarBench.Text.Digits
import GrammarBench.Text.Pieces

/-!
# Code tables

Tables that give numbers for code points are too long to be written as terms. They are written as
lines of words, in hexadecimal: `b5=3bc` gives one image, `a8=20+308` an image of two numbers, and
`250-252=61` the same image to a range. In `41-5a:61` the images of a range move along with the
code points, and `100-12e/2:101` does so for every second code point.
-/

namespace GrammarBench.Text

/-- A row of a table: every `step`-th code point from `first` to `last`, and its image. -/
structure CodeRow where
  first : Nat
  last : Nat
  step : Nat
  image : List Nat
  /-- The images of the others are as far from it as the code points are from the first. -/
  moves : Bool
deriving Repr, DecidableEq

namespace CodeRow

def holds (row : CodeRow) (code : Nat) : Bool :=
  row.first ≤ code && code ≤ row.last && (code - row.first) % row.step == 0

def imageOf (row : CodeRow) (code : Nat) : List Nat :=
  if row.moves then row.image.map (· + (code - row.first)) else row.image

/-- The two ends of a range, or the only code point twice. -/
def readRange? (cs : List Char) : Option (Nat × Nat) := do
  match ← (pieces (· == '-') cs).mapM (number? 16) with
  | [code] => some (code, code)
  | [first, last] => some (first, last)
  | _ => none

def read? (word : String) : Option CodeRow := do
  let (codes, image) ← cutFirst? (fun c => c == '=' || c == ':') word.toList
  let (range, step) := (cutFirst? (· == '/') codes).getD (codes, ['1'])
  let (first, last) ← readRange? range
  let step ← number? 16 step
  let image ← (pieces (· == '+') image).mapM (number? 16)
  return { first, last, step, image, moves := word.toList.contains ':' }

end CodeRow

def readTable (lines : List String) : List CodeRow :=
  (lines.flatMap words).filterMap CodeRow.read?

def imageIn? (table : List CodeRow) (code : Nat) : Option (List Nat) :=
  (table.find? (CodeRow.holds · code)).map (CodeRow.imageOf · code)

end GrammarBench.Text
