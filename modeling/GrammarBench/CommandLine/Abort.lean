import GrammarBench.Failure
import GrammarBench.FileTree.Walk

/-!
# Commands that come to nothing

Why a command of the program was given up before it had a report, and the texts of files that a
command reads before it runs.
-/

namespace GrammarBench.CommandLine

inductive Abort where
  | failure (f : Failure)
  /-- The run failed while something was done, which is told first. -/
  | during (context : String) (f : Failure)
  | unreadable (context : String) (fault : IoFault)
  | told (text : String)
deriving Repr, DecidableEq

namespace Abort

def message : Abort → String
  | failure f => f.fullMessage
  | during context f => context ++ ": " ++ f.fullMessage
  | unreadable context fault => context ++ ": " ++ fault.message
  | told text => text

/-- The reason for which the command counts as skipped, if it does. -/
def skipReason? : Abort → Option String
  | failure f => if f.isSkip then some f.message else none
  | during context f => if f.isSkip then some context else none
  | unreadable _ _ => none
  | told _ => none

end Abort

/-- The text of a file, or why the command that wants it is given up. -/
def readText (tree : FileTree) (cwd : Location) (path : Path) (context : String) :
    Except Abort String :=
  match tree.readText cwd path with
  | .ok text => .ok text
  | .error fault => .error (.unreadable (context ++ " " ++ path) fault)

/-- A grammar file as the tool will see it. -/
structure GrammarFile where
  fileName : String
  /-- The name of the grammar: that of the file without its extension. -/
  name : String
  text : String
deriving Repr, DecidableEq

def GrammarFile.read (tree : FileTree) (cwd : Location) (path : Path) :
    Except Abort GrammarFile := do
  let text ← readText tree cwd path "Failed to read grammar"
  match path.fileName? with
  | some fileName => return { fileName, name := Path.stemOf fileName, text }
  | none => throw (.told ("Not a grammar file: " ++ path))

end GrammarBench.CommandLine
