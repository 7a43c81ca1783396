/-!
# Paths

Paths are texts in which slashes separate names. Nothing is normalised when paths are joined;
empty segments and single dots count for nothing when a path is taken apart.
-/

namespace GrammarBench

/-- A path, absolute when it begins with a slash. -/
abbrev Path := String

namespace Path

def isAbsolute (p : Path) : Bool :=
  p.toList.head? == some '/'

/-- The texts between the slashes. `word` holds the one that is being read, last character
first. -/
def splitSegments (word : List Char) : List Char → List String
  | [] => [String.ofList word.reverse]
  | c :: cs =>
    if c = '/' then String.ofList word.reverse :: splitSegments [] cs
    else splitSegments (c :: word) cs

def segments (p : Path) : List String :=
  splitSegments [] p.toList

/-- The segment counts for nothing inside a path. -/
def isIdle (segment : String) : Bool :=
  segment == "" || segment == "."

/-- The path `p` seen from the directory `base`: an absolute path stands for itself. -/
def join (base p : Path) : Path :=
  if p.isAbsolute || base.isEmpty then p
  else if base.toList.getLast? == some '/' then base ++ p
  else base ++ "/" ++ p

/-- The segments after the root of an absolute path, or all segments of a relative one. -/
def body (p : Path) : List String :=
  if p.isAbsolute then p.segments.drop 1 else p.segments

/-- Segments without the idle ones at the end. The first segment of a relative path is idle only
when it is empty, since a leading dot names the working directory. -/
def trimIdle (absolute : Bool) (segments : List String) : List String :=
  match segments with
  | [] => []
  | first :: rest =>
    let rest := (rest.reverse.dropWhile isIdle).reverse
    if rest.isEmpty && (first == "" || (absolute && first == ".")) then [] else first :: rest

def ofBody (absolute : Bool) (segments : List String) : Path :=
  (if absolute then "/" else "") ++ "/".intercalate segments

/-- The path without its last name; the root and the empty path have no parent. -/
def parent? (p : Path) : Option Path :=
  let kept := trimIdle p.isAbsolute p.body
  if kept.isEmpty then none
  else some (ofBody p.isAbsolute (trimIdle p.isAbsolute kept.dropLast))

/-- The last name of a path, unless the path ends in a step up or names a working directory. -/
def fileName? (p : Path) : Option String :=
  match (trimIdle p.isAbsolute p.body).getLast? with
  | some name => if name == ".." || name == "." then none else some name
  | none => none

/-- The part of a name before its last dot; a name whose only dot leads it is all stem. -/
def stemOf (name : String) : String :=
  let cs := name.toList
  let before := (cs.reverse.dropWhile (· != '.')).drop 1
  if before.isEmpty then name else String.ofList before.reverse

/-- Segments after a run of names, where idle segments do not count. -/
def dropNames (names : List String) : List String → Option (List String)
  | [] => if names.isEmpty then some [] else none
  | s :: rest =>
    match names with
    | [] => some (s :: rest)
    | n :: names =>
      if isIdle s then dropNames (n :: names) rest
      else if s == n then dropNames names rest
      else none

/-- The path as seen from `base`, when `base` leads to it; both begin at the root or neither. -/
def within? (base p : Path) : Option Path :=
  if p.isAbsolute != base.isAbsolute then none
  else
    (dropNames (base.body.filter (!isIdle ·)) p.body).map fun rest =>
      ofBody false (trimIdle true (rest.dropWhile isIdle))

end Path

end GrammarBench
