import GrammarBench.Web.Url.Authority

/-!
# Paths of addresses

The path of an address is a list of segments, each behind a slash. Steps to the same place and steps
up are resolved while the path is read, also where their dots are written with percent signs. Only
what follows the scheme without a slash, in an address without a host, has no segments.
-/

namespace GrammarBench

inductive UrlPath where
  | segments (segments : List String)
  | plain (text : String)
deriving Repr, DecidableEq

namespace UrlPath

def text : UrlPath → String
  | segments list => String.join (list.map ("/" ++ ·))
  | plain text => text

/-- The path begins with two slashes, as if a host followed. -/
def looksHosted : UrlPath → Bool
  | segments ("" :: _ :: _) => true
  | _ => false

/-- The character may stand in a segment as it is. -/
def isKept (c : Char) : Bool :=
  Percent.isVisibleBut ['"', '#', '<', '>', '?', '\x60', '\x7b', '\x7d'] c

/-- The segment with small letters, as a text. -/
def smallText (segment : List Char) : String :=
  String.ofList (segment.map Char.toLower)

/-- The segment is a step to the same place. -/
def isStay (segment : List Char) : Bool :=
  [".", "%2e"].contains (smallText segment)

def isUp (segment : List Char) : Bool :=
  ["..", ".%2e", "%2e.", "%2e%2e"].contains (smallText segment)

/-- A drive with a colon behind its letter; any other segment as it is. -/
def plainDrive (segment : List Char) : List Char :=
  if Authority.isDrive segment then segment.take 1 ++ [':'] else segment

/-- The segments after a step up: the last one goes, unless it names a drive. -/
def goUp : List (List Char) → List (List Char)
  | [] => []
  | last :: before => if Authority.isDrive last then last :: before else before

/-- Resolves steps. `before` are the segments that stay, last one first. A path that ends in a step
ends in a slash. -/
def resolve (kind : SchemeKind) (before : List (List Char)) :
    List (List Char) → List (List Char)
  | [] => before.reverse
  | segment :: rest =>
    let close (before : List (List Char)) := if rest.isEmpty then [] :: before else before
    if isUp segment then resolve kind (close (goUp before)) rest
    else if isStay segment then resolve kind (close before) rest
    else if kind == .file && before.isEmpty then resolve kind [plainDrive segment] rest
    else resolve kind (segment :: before) rest

/-- The segments of a path; its first slash may be missing. -/
def readSegments (kind : SchemeKind) (cs : List Char) : List (List Char) :=
  let cs := match cs with
    | c :: rest => if kind.isSlash c then rest else cs
    | [] => []
  resolve kind [] (Text.pieces kind.isSlash cs)

def ofSegments (list : List (List Char)) : UrlPath :=
  segments (list.map (Percent.encode isKept))

/-- Reads a path behind an authority. It may be empty only where the syntax is not that of the
web. -/
def read (kind : SchemeKind) (cs : List Char) : UrlPath :=
  if cs.isEmpty && !kind.isSpecial then segments [] else ofSegments (readSegments kind cs)

/-- Reads the path of a file, and tells whether it names a drive. Slashes at its beginning count as
one. -/
def readFile (cs : List Char) : UrlPath × Bool :=
  let list := readSegments .file cs
  let shown := match list.dropWhile List.isEmpty with
    | [] => [[]]
    | list => list
  (ofSegments shown, list.head?.any Authority.isDrive)

def readBare (cs : List Char) : UrlPath :=
  if cs.head? == some '/' then ofSegments (readSegments .other cs)
  else plain (Percent.encode Percent.isBasic cs)

end UrlPath

end GrammarBench
