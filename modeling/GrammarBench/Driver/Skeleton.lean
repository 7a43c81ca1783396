/-!
# Skeletons of drivers

A driver is a fixed program with the names of a generated recognizer put into it. A skeleton is the
list of its lines, and a line is a list of pieces: literal text, or the place of a name.
-/

namespace GrammarBench.Driver

/-- What a name stands for in the generated recognizer. -/
inductive Role where
  | lexer
  | parser
  | listener
  | visitor
  | startRule
deriving Repr, DecidableEq

namespace Role

def word : Role → String
  | lexer => "lexer"
  | parser => "parser"
  | listener => "listener"
  | visitor => "visitor"
  | startRule => "start rule"

end Role

inductive Piece where
  | text (s : String)
  | name (role : Role)
deriving Repr, DecidableEq

abbrev Line := List Piece

def plain (s : String) : Line :=
  [.text s]

def Piece.fill (names : Role → String) : Piece → String
  | text s => s
  | name role => names role

def fillLine (names : Role → String) (line : Line) : String :=
  String.join (line.map (Piece.fill names))

/-- The text of a skeleton, given the names; every line is ended. -/
def fill (names : Role → String) (lines : List Line) : String :=
  String.join (lines.map fun line => fillLine names line ++ "\n")

end GrammarBench.Driver
