import GrammarBench.Driver.Render
import GrammarBench.Host
import GrammarBench.Text.Quoted

/-!
# Staging areas

A run works in a directory of its own below the staging root. The directory is new when the run
begins, and it is removed when the run ends unless it is to be kept.
-/

namespace GrammarBench

def inputFile : String := "input"

/-- The directory that belongs to one run. -/
structure StagingArea where
  path : Path
  keep : Bool
deriving Repr, DecidableEq

namespace StagingArea

/-- What the names of staging directories begin with. -/
def nameStart : String := "gramtest-"

/-- The name of the staging directory with a number: six digits, or more if the number has more,
so that different numbers give different names. -/
def dirName (serial : Nat) : String :=
  let digits := toString serial
  nameStart ++ String.ofList (List.replicate (6 - digits.length) '0') ++ digits

/-- How many names are tried before the search for a new one is given up. -/
def tryLimit : Nat := 65536

/-- Makes a directory in `root` with the next name, which counts as tried from then on. There is no
path if the name is in use. -/
def makeNext (root : Path) : HostAction (Option Path) := do
  let h ← get
  let path := Path.join root (dirName h.serial)
  let h := { h with serial := h.serial + 1 }
  set h
  match h.tree.makeDir h.cwd path with
  | .ok tree =>
    set { h with tree }
    return some path
  | .error fault =>
    if fault == .alreadyExists then return none
    else throw (.io (.other (fault.message ++ " at path " ++ Text.quoted path)))

/-- Makes a new directory in `root`: names that are in use are passed over. -/
def makeFresh (root : Path) : Nat → HostAction Path
  | 0 => throw (.io (.other "too many temporary files exist"))
  | tries + 1 => do
    match ← makeNext root with
    | some path => return path
    | none => makeFresh root tries

/-- Makes a staging area in `root`, which is made too if it is missing. A relative root is seen
from the working directory. -/
def create (root : Path) (keep : Bool) : HostAction StagingArea := do
  Host.makeDirs root
  let h ← get
  let base := if root.isAbsolute then root else Path.join h.cwd.toPath root
  return { path := ← makeFresh base tryLimit, keep }

def inputPath (a : StagingArea) : Path :=
  Path.join a.path inputFile

/-- Makes a directory in the area, unless it is there, and gives its path. -/
def subdir (a : StagingArea) (name : Path) : HostAction Path := do
  let dir := Path.join a.path name
  Host.makeDirs dir
  return dir

/-- Writes a file of the area, with the directories that it needs, and gives its path. -/
def writeFile (a : StagingArea) (relative : Path) (content : String) : HostAction Path := do
  let target := Path.join a.path relative
  if let some parent := target.parent? then Host.makeDirs parent
  Host.writeText target content
  return target

def stageInput (a : StagingArea) (input : String) : HostAction Path :=
  a.writeFile inputFile input

/-- Puts the driver for `spec` into the area and gives the path of its entry file. A driver that
cannot be rendered leaves the area as it is. -/
def writeDriver (a : StagingArea) (spec : DriverSpec) (backend : BackendKind) :
    HostAction Path := do
  let text ← Driver.render spec backend
  a.writeFile (Driver.Template.select spec backend).fileName text

/-- The directory that receives the grammar and what the tool makes of it. -/
def outputDir (a : StagingArea) : BackendKind → HostAction Path
  | .process => return a.path
  | .browser => a.subdir Driver.pageGrammarDir

/-- Ends the use of the area: the directory is removed unless it is to be kept. -/
def close (a : StagingArea) : HostAction Unit := do
  if a.keep then Host.logInfo ("Keeping staging area " ++ a.path)
  else
    modify fun h =>
      match h.tree.locate h.cwd a.path with
      | .ok loc => { h with tree := h.tree.remove loc }
      | .error _ => h

/-- Ends the use of the area and leaves the directory where it is. -/
def persist (a : StagingArea) : HostAction Path := do
  close { a with keep := true }
  return a.path

def display (a : StagingArea) : String :=
  "StagingArea \x7b path: " ++ Text.quoted a.path ++ ", keep: " ++
    (if a.keep then "true" else "false") ++ " \x7d"

end StagingArea

end GrammarBench
