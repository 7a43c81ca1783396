/-!
# Character ranges

Properties of characters are given as tables of closed ranges of code points. A table is
searched from its front; the tables here are short enough for that, and a list is what the
lemmas about them compute with.
-/

namespace GrammarBench.Text

abbrev CharRange := Nat × Nat

def CharRange.holds (r : CharRange) (code : Nat) : Bool :=
  r.1 ≤ code && code ≤ r.2

/-- The character lies in one of the ranges of a table. -/
def inTable (table : List CharRange) (c : Char) : Bool :=
  table.any fun r => CharRange.holds r c.toNat

end GrammarBench.Text
