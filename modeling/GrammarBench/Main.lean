import GrammarBench.CommandLine.Run
import GrammarBench.Shell.Run

/-!
# The program

Takes the arguments, the environment and the files that they name from the host, runs the command,
writes what the command left behind, and shows its log and its result. Tools and interpreters are
the programs that the bench brings with it; no browser is within reach.
-/

namespace GrammarBench.Main

def variableNames : List String :=
  [overrides.interpreter, overrides.runtime, overrides.tool, overrides.remote,
    overrides.stagingRoot, "TMPDIR"]

def readEnvironment : IO (List (String × String)) :=
  variableNames.filterMapM fun name => do
    return (← IO.getEnv name).map (name, ·)

/-- The location that an absolute path leads to. -/
def locationOf (path : Path) : Location :=
  (Path.segments path).filter (!Path.isIdle ·)

/-- Adds a file of the host to a tree, if there is one at the path. -/
def addFile (cwd : Location) (tree : FileTree) (path : Path) : IO FileTree := do
  try
    let content ← IO.FS.readBinFile path
    let tree := match path.parent? with
      | some parent => (tree.makeDirs cwd parent).2
      | none => tree
    return ((tree.write cwd path content.toList).toOption).getD tree
  catch _ => return tree

/-- The paths that the arguments and the environment may name. -/
def namedPaths (args : List String) (env : List (String × String)) : List Path :=
  args.map (fun arg => (((arg.splitOn "=").drop 1).head?).getD arg) ++
    env.flatMap fun (_, value) => Text.words value

/-- Writes the entries of a tree that were not there before. -/
def writeNew (before after : FileTree) : IO Unit :=
  after.entries.reverse.forM fun (loc, node) => do
    if before.node? loc == some node then return ()
    match node with
    | .dir => IO.FS.createDirAll (Location.toPath loc)
    | .file content => IO.FS.writeBinFile (Location.toPath loc) ⟨content.toArray⟩

/-- The host as the bench sees it when the program starts. -/
def readHost (args : List String) (env : List (String × String)) : IO Host := do
  let cwd := locationOf (toString (← IO.currentDir))
  let tree := (FileTree.empty.makeDirs [] (Location.toPath cwd)).2
  let tree ← (namedPaths args env).foldlM (addFile cwd) tree
  let serial := (← IO.monoNanosNow) % 1000000
  return { system := "linux", tree, cwd, serial, ports := [], traffic := [], log := [] }

/-- Nothing but the programs that the bench brings with it is within reach. -/
def outside : Outside where
  launch := Shell.launch fun _ => true
  endpoint := fun _ => .lost

end GrammarBench.Main

open GrammarBench in
def main (args : List String) : IO UInt32 := do
  let env ← Main.readEnvironment
  let host ← Main.readHost args env
  let colours := (← (← IO.getStdout).isTty) && (← IO.getEnv "NO_COLOR").isNone
  let (ended, after) :=
    (CommandLine.run (Environment.ofList env) Main.outside colours args).run host
  Main.writeNew host.tree after.tree
  let written := ended.written after.log
  IO.print written.stdout
  IO.eprint written.stderr
  return ended.code.toUInt32
