import GrammarBench.IoFault
import GrammarBench.FileTree.Basic

/-!
# Paths in a tree of files

How a path leads through a tree, and what reading, writing and making a directory do at its end.
Each segment of a path needs a directory to start from, the empty segment and the dot too, so a
slash after the name of a file is a fault. A path that cannot be followed changes nothing.
-/

namespace GrammarBench.FileTree

/-- A path has fewer bytes than this. -/
def pathLimit : Nat := 4096

/-- A name has at most this many bytes. -/
def nameLimit : Nat := 255

/-- What can be said against a path before anything is looked up. -/
def checkText (p : Path) : Except IoFault Unit :=
  if p.toList.contains '\x00' then .error .nulInPath
  else if pathLimit ≤ p.utf8ByteSize then .error .nameTooLong
  else if p.isEmpty then .error .notFound
  else .ok ()

/-- A name that a directory could have as an entry. -/
def checkName (name : String) : Except IoFault Unit :=
  if nameLimit < name.utf8ByteSize then .error .nameTooLong else .ok ()

/-- The location, if a directory stands there. -/
def enter (t : FileTree) (loc : Location) : Except IoFault Location :=
  if t.isDir loc then .ok loc else .error .notDirectory

/-- One segment further: the empty segment and the dot stay, two dots go up, and a name goes down
to an entry of that name. -/
def step (t : FileTree) (loc : Location) (segment : String) : Except IoFault Location := do
  let loc ← t.enter loc
  if Path.isIdle segment then
    return loc
  else if segment == ".." then
    return loc.dropLast
  else
    checkName segment
    if (t.node? (loc ++ [segment])).isSome then return loc ++ [segment] else throw .notFound

def walk (t : FileTree) (loc : Location) (segments : List String) : Except IoFault Location :=
  segments.foldlM t.step loc

/-- Where a path begins that is looked at from a working directory. -/
def start (cwd : Location) (p : Path) : Location :=
  if p.isAbsolute then [] else cwd

/-- The location of the entry that a path leads to. -/
def locate (t : FileTree) (cwd : Location) (p : Path) : Except IoFault Location := do
  checkText p
  t.walk (start cwd p) p.body

def exists? (t : FileTree) (cwd : Location) (p : Path) : Bool :=
  (t.locate cwd p).isOk

def isDirAt (t : FileTree) (cwd : Location) (p : Path) : Bool :=
  match t.locate cwd p with
  | .ok loc => t.isDir loc
  | .error _ => false

def read (t : FileTree) (cwd : Location) (p : Path) : Except IoFault (List UInt8) := do
  let loc ← t.locate cwd p
  match t.node? loc with
  | some (.file content) => return content
  | _ => throw .isDirectory

def readText (t : FileTree) (cwd : Location) (p : Path) : Except IoFault String := do
  match Text.decodeStrict (← t.read cwd p) with
  | .ok text => return text
  | .error _ => throw .notText

/-- The end of a path that is to name a new entry. -/
structure Target where
  parent : Location
  /-- The last segment; absent for the root. -/
  last : Option String
  /-- A slash follows the last segment. -/
  closed : Bool
deriving Repr, DecidableEq

/-- The last segment names an entry: it is neither a dot nor two dots. -/
def isName (segment : String) : Bool :=
  segment != "." && segment != ".."

/-- Follows all but the last segment of a path; slashes at the end do not count as segments. -/
def target (t : FileTree) (cwd : Location) (p : Path) : Except IoFault Target := do
  checkText p
  let segments := (p.body.reverse.dropWhile (· == "")).reverse
  let parent ← t.walk (start cwd p) segments.dropLast
  return {
    parent := ← t.enter parent
    last := segments.getLast?
    closed := segments.length < p.body.length }

def makeDir (t : FileTree) (cwd : Location) (p : Path) : Except IoFault FileTree := do
  let end_ ← t.target cwd p
  match end_.last with
  | some name =>
    if !isName name then throw .alreadyExists
    checkName name
    let loc := end_.parent ++ [name]
    if (t.node? loc).isSome then throw .alreadyExists else return t.put loc .dir
  | none => throw .alreadyExists

/-- Writes a file, in place of the content that it had. -/
def write (t : FileTree) (cwd : Location) (p : Path) (content : List UInt8) :
    Except IoFault FileTree := do
  let end_ ← t.target cwd p
  match end_.last with
  | some name =>
    if end_.closed || !isName name then throw .isDirectory
    checkName name
    let loc := end_.parent ++ [name]
    if t.isDir loc then throw .isDirectory else return t.put loc (.file content)
  | none => throw .isDirectory

/-- Makes a directory, or finds that it is there already. -/
def ensureDir (t : FileTree) (cwd : Location) (p : Path) : Except IoFault Unit × FileTree :=
  match t.makeDir cwd p with
  | .ok made => (.ok (), made)
  | .error fault => if t.isDirAt cwd p then (.ok (), t) else (.error fault, t)

/-- Makes a directory and its missing parents, of which there are fewer than `fuel`. -/
def makeDirsFrom (t : FileTree) (cwd : Location) (p : Path) :
    Nat → Except IoFault Unit × FileTree
  | 0 => (.error .notFound, t)
  | fuel + 1 =>
    if p.isEmpty then (.ok (), t)
    else
      match t.ensureDir cwd p with
      | (.error (.os 2), _) =>
        match p.parent? with
        | none => (.error (.other "failed to create whole tree"), t)
        | some parent =>
          match makeDirsFrom t cwd parent fuel with
          | (.ok (), t) => t.ensureDir cwd p
          | (.error fault, t) => (.error fault, t)
      | result => result

/-- Makes a directory and its missing parents; that a directory is there already is no fault. The
parents that were made before a fault stay. -/
def makeDirs (t : FileTree) (cwd : Location) (p : Path) : Except IoFault Unit × FileTree :=
  t.makeDirsFrom cwd p (p.body.length + 2)

end GrammarBench.FileTree
