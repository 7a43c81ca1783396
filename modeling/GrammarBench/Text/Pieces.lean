/-!
# Pieces

A text taken apart at the characters that separate its pieces. Separators at the ends and next to
each other have empty pieces around them, so that there is always one piece more than separators.
-/

namespace GrammarBench.Text

/-- The pieces of a text between its separators. `piece` holds the one that is being read, last
character first. -/
def splitPieces (isMark : Char → Bool) (piece : List Char) : List Char → List (List Char)
  | [] => [piece.reverse]
  | c :: cs =>
    if isMark c then piece.reverse :: splitPieces isMark [] cs
    else splitPieces isMark (c :: piece) cs

/-- The pieces of a text between its separators, in order. -/
def pieces (isMark : Char → Bool) (cs : List Char) : List (List Char) :=
  splitPieces isMark [] cs

/-- What stands before and after the first separator; none when the text has none. -/
def cutFirst? (isMark : Char → Bool) : List Char → Option (List Char × List Char)
  | [] => none
  | c :: cs =>
    if isMark c then some ([], cs)
    else (cutFirst? isMark cs).map fun (before, after) => (c :: before, after)

/-- What stands before and after the last separator; none when the text has none. -/
def cutLast? (isMark : Char → Bool) : List Char → Option (List Char × List Char)
  | [] => none
  | c :: cs =>
    match cutLast? isMark cs with
    | some (before, after) => some (c :: before, after)
    | none => if isMark c then some ([], cs) else none

end GrammarBench.Text
