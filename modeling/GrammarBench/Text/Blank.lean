import GrammarBench.Text.CharRange

/-!
# Blanks

A *blank* is a character with the standard property `White_Space`; the class of core
(`Char.isWhitespace`) knows ASCII only. Lines of a grammar tool are trimmed and split by this
class, and the values of environment variables are blank by it.
-/

namespace GrammarBench.Text

/-- The code points with the property `White_Space`. -/
def blankRanges : List CharRange :=
  [(0x9, 0xD), (0x20, 0x20), (0x85, 0x85), (0xA0, 0xA0), (0x1680, 0x1680), (0x2000, 0x200A),
   (0x2028, 0x2029), (0x202F, 0x202F), (0x205F, 0x205F), (0x3000, 0x3000)]

/-- The character separates words: it has the property `White_Space`. -/
def isBlank (c : Char) : Bool :=
  inTable blankRanges c

/-- The text without its longest run of blanks at the end. -/
def trimBlanksRight (cs : List Char) : List Char :=
  (cs.reverse.dropWhile isBlank).reverse

/-- Every character of the text is a blank; so is the empty text. -/
def allBlank (s : String) : Bool :=
  s.toList.all isBlank

def trimEnd (s : String) : String :=
  String.ofList (trimBlanksRight s.toList)

/-- The words of a text: its maximal pieces without a blank, in order. `word` holds the piece
that is being read, last character first. -/
def splitWords (word : List Char) : List Char → List (List Char)
  | [] => if word.isEmpty then [] else [word.reverse]
  | c :: cs =>
    if isBlank c then
      if word.isEmpty then splitWords [] cs else word.reverse :: splitWords [] cs
    else splitWords (c :: word) cs

/-- The maximal blank-free pieces of a text, in order. -/
def words (s : String) : List String :=
  (splitWords [] s.toList).map String.ofList

end GrammarBench.Text
