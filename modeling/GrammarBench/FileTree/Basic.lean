import GrammarBench.Path

/-!
# Trees of files

A tree of directories and regular files as a finite map from locations to nodes. The root is a
directory that always exists, so it is not listed. Below, an entry is looked up and changed by its
location alone; how the text of a path leads to a location is told in `FileTree.Walk`.
-/

namespace GrammarBench

/-- Where an entry stands: the names from the root down to it. -/
abbrev Location := List String

def Location.toPath (loc : Location) : Path :=
  "/" ++ "/".intercalate loc

inductive Node where
  | dir
  | file (content : List UInt8)
deriving Repr, DecidableEq

/-- A tree of directories and files: what stands at the locations below the root. -/
structure FileTree where
  entries : List (Location × Node)
deriving Repr, DecidableEq

namespace FileTree

def empty : FileTree :=
  ⟨[]⟩

def node? (t : FileTree) (loc : Location) : Option Node :=
  if loc.isEmpty then some .dir else t.entries.lookup loc

def isDir (t : FileTree) (loc : Location) : Bool :=
  t.node? loc == some .dir

/-- The tree with a node put at a location, in place of what stood there. -/
def put (t : FileTree) (loc : Location) (node : Node) : FileTree :=
  ⟨(loc, node) :: t.entries.filter (·.1 != loc)⟩

/-- The tree without what stands at a location and below it. -/
def remove (t : FileTree) (loc : Location) : FileTree :=
  ⟨t.entries.filter (!loc.isPrefixOf ·.1)⟩

/-- The names that lead from a location to one below it. -/
def namesBelow? (loc : Location) : Location → Option (List String)
  | [] => none
  | name :: rest =>
    match loc with
    | [] => some (name :: rest)
    | first :: loc => if first == name then namesBelow? loc rest else none

/-- The entries below a location, by the names that lead to them from there. -/
def below (t : FileTree) (loc : Location) : List (Location × Node) :=
  t.entries.filterMap fun (at_, node) => (namesBelow? loc at_).map (·, node)

/-- The names of the directories that stand directly at a location. -/
def subdirs (t : FileTree) (loc : Location) : List String :=
  (t.below loc).filterMap fun
    | ([name], .dir) => some name
    | _ => none

/-- How an entry is listed: a directory with a slash after its name, a file with its size. -/
def entryText : List String × Node → String
  | (names, .dir) => "/".intercalate names ++ "/"
  | (names, .file content) => "/".intercalate names ++ " " ++ toString content.length

/-- The entries below a location as they are listed, in the order of these texts. -/
def listing (t : FileTree) (loc : Location) : List String :=
  ((t.below loc).map entryText).mergeSort fun a b => decide (a ≤ b)

end FileTree

end GrammarBench
