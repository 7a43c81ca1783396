import GrammarBench.FileTree.Walk
import GrammarBench.Web.Percent
import GrammarBench.Web.Status

/-!
# Sites

A site shows the files below two directories: what the first does not have is looked for in the
second. Only files are shown, never a list of what a directory holds, and no path leads out of the
directories.

A directory that is shown may have indexes, which are files that stand for the directories they are
in. Those of a site have none.
-/

namespace GrammarBench

/-- A directory whose files are shown. -/
structure ServedDir where
  root : Path
  /-- The file `index.html` of a directory is shown for the directory. -/
  indexed : Bool
deriving Repr, DecidableEq

structure Site where
  primary : Path
  fallback : Path
deriving Repr, DecidableEq

/-- What a site answers. Parts that an answer does not have are absent. -/
structure SiteAnswer where
  status : Nat
  body : List UInt8
  contentType : Option String
  allow : Option String
  /-- The length of the body, or of the body that is left out. -/
  length : Option Nat
  location : Option String
deriving Repr, DecidableEq

namespace Site

/-- The directories of a site, in the order in which they are looked at. -/
def dirs (site : Site) : List ServedDir :=
  [⟨site.primary, false⟩, ⟨site.fallback, false⟩]

/-- What stands below one directory at a path. -/
inductive Finding where
  | file (content : List UInt8) (name : Path)
  /-- A directory that is shown by its index, but its path has to end in a slash. -/
  | directory
  | missing
  /-- The path cannot be looked up at all. -/
  | broken
deriving Repr, DecidableEq

/-- The part of a target before a query or a fragment. -/
def pathOf (target : String) : List Char :=
  target.toList.takeWhile fun c => c != '?' && c != '#'

/-- The query of a target, with its question mark. -/
def queryOf (target : String) : List Char :=
  (target.toList.drop (pathOf target).length).takeWhile (· != '#')

/-- What a path says behind the slashes that it begins with, once percent signs are resolved; a path
that is not UTF-8 then says nothing. -/
def decoded? (path : List Char) : Option Path :=
  Percent.decodeText? (String.ofList (path.dropWhile (· == '/')))

/-- The names that a path stands for. A path that begins at the root or that goes up stands for
none. -/
def names? (path : List Char) : Option (List String) :=
  match decoded? path with
  | none => none
  | some decoded =>
    let segments := Path.segments decoded
    if Path.isAbsolute decoded || segments.contains ".." then none
    else some (segments.filter (!Path.isIdle ·))

/-- The file of a path. A fault is one of the lookup, unless it says that there is no such file or
that it must not be read. -/
def openFile (tree : FileTree) (cwd : Location) (file : Path) : Finding :=
  match tree.read cwd file with
  | .ok content => .file content file
  | .error (.os number) => if [2, 13, 20].contains number then .missing else .broken
  | .error _ => .broken

/-- What stands below a directory at a path. There a directory is nothing that can be shown, unless
there are indexes. -/
def find (tree : FileTree) (cwd : Location) (dir : ServedDir) (path : List Char) : Finding :=
  match names? path with
  | none => .missing
  | some names =>
    let file := names.foldl Path.join dir.root
    if tree.isDirAt cwd file then
      if !dir.indexed then .missing
      else if path.getLast? == some '/' then openFile tree cwd (Path.join file "index.html")
      else .directory
    else openFile tree cwd file

/-- What the first directory finds that is not missing there. -/
def lookUp (tree : FileTree) (cwd : Location) (path : List Char) : List ServedDir → Finding
  | [] => .missing
  | dir :: rest =>
    match find tree cwd dir path with
    | .missing => lookUp tree cwd path rest
    | finding => finding

/-- The types of files by the ends of their names. -/
def contentTypes : List (String × String) :=
  [("html", "text/html"), ("htm", "text/html"), ("js", "text/javascript"), ("css", "text/css"),
   ("json", "application/json"), ("txt", "text/plain"), ("xml", "text/xml"),
   ("svg", "image/svg+xml"), ("png", "image/png"), ("ico", "image/x-icon")]

def contentType (name : Path) : String :=
  let file := (Path.fileName? name).getD ""
  let stem := Path.stemOf file
  let ending := String.ofList ((file.toList.drop (stem.length + 1)).map Char.toLower)
  (contentTypes.lookup ending).getD "application/octet-stream"

def bare (status : Nat) : SiteAnswer :=
  ⟨status, [], none, none, some 0, none⟩

/-- What a site answers to a request. A request that only asks about a file gets no body. -/
def answer (tree : FileTree) (cwd : Location) (site : Site) (method target : String) :
    SiteAnswer :=
  if method != "GET" && method != "HEAD" then { bare 405 with allow := some "GET,HEAD" }
  else
    let path := pathOf target
    match lookUp tree cwd path site.dirs with
    | .file content name => {
        status := 200
        body := if method == "HEAD" then [] else content
        contentType := some (contentType name)
        allow := none
        length := some content.length
        location := none }
    | .directory =>
      { bare 307 with
        location := some (String.ofList (path ++ '/' :: queryOf target)) }
    | .missing => bare 404
    | .broken => bare 500

end Site

end GrammarBench
