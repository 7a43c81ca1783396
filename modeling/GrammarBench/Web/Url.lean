import GrammarBench.Web.Url.Path

/-!
# Addresses on the web

An address has a scheme, which decides how the rest is read: an authority, a path, a query and a
fragment. It is read leniently, as browsers do: blanks around it and line breaks in it are dropped,
the scheme and the host are brought to one form, dots in the path are resolved, and what may not
stand in an address is written with percent signs. The written form shows what was read.
-/

namespace GrammarBench

structure Url where
  scheme : String
  authority : Option Authority
  path : UrlPath
  query : Option String
  fragment : Option String
deriving Repr, DecidableEq

namespace Url

/-! ## Reading -/

/-- The text without blanks and controls at its ends, and without tabs and line breaks. -/
def tidy (text : String) : List Char :=
  let isEdge (c : Char) : Bool := c ≤ ' '
  let cs := ((text.toList.dropWhile isEdge).reverse.dropWhile isEdge).reverse
  cs.filter fun c => c != '\t' && c != '\n' && c != '\r'

/-- The scheme at the beginning of an address, and what follows its colon. -/
def takeScheme? (cs : List Char) : Option (String × List Char) :=
  match Text.cutFirst? (· == ':') cs with
  | some (c :: word, rest) =>
    let isPart (c : Char) : Bool := c.isAlphanum || c == '+' || c == '-' || c == '.'
    if c.isAlpha && word.all isPart then
      some (String.ofList ((c :: word).map Char.toLower), rest)
    else none
  | _ => none

def isQueryChar (kind : SchemeKind) (c : Char) : Bool :=
  Percent.isVisibleBut (['"', '#', '<', '>'] ++ if kind.isSpecial then ['\''] else []) c

def isFragmentChar (c : Char) : Bool :=
  Percent.isVisibleBut ['"', '<', '>', '\x60'] c

/-- The path, the query and the fragment in what follows the authority. -/
def cutParts (cs : List Char) : List Char × Option (List Char) × Option (List Char) :=
  let (cs, fragment) := match Text.cutFirst? (· == '#') cs with
    | some (before, after) => (before, some after)
    | none => (cs, none)
  match Text.cutFirst? (· == '?') cs with
  | some (before, after) => (before, some after, fragment)
  | none => (cs, none, fragment)

/-- Reads the authority and the path, from what follows the scheme; `cs` ends in the query and the
fragment. Addresses of the web may have any number of slashes before the authority. -/
def readPlace? (kind : SchemeKind) (cs : List Char) : Option (Option Authority × UrlPath) :=
  let pathOf (cs : List Char) : List Char := (cutParts cs).1
  match kind with
  | .hosted _ =>
    (Authority.take? kind (cs.dropWhile kind.isSlash)).map fun (authority, rest) =>
      (some authority, UrlPath.read kind (pathOf rest))
  | .file =>
    (Authority.takeFileHost? cs).map fun (host, rest) =>
      let (path, hasDrive) := UrlPath.readFile (pathOf rest)
      (some (Authority.ofHost (if hasDrive then .empty else host)), path)
  | .other =>
    match cs with
    | '/' :: '/' :: cs =>
      (Authority.take? kind cs).map fun (authority, rest) =>
        (some authority, UrlPath.read kind (pathOf rest))
    | cs => some (none, UrlPath.readBare (pathOf cs))

def parse? (text : String) : Option Url := do
  let (scheme, cs) ← takeScheme? (tidy text)
  let kind := SchemeKind.of scheme
  let (authority, path) ← readPlace? kind cs
  let (_, query, fragment) := cutParts cs
  return {
    scheme, authority, path
    query := query.map (Percent.encode (isQueryChar kind))
    fragment := fragment.map (Percent.encode isFragmentChar) }

/-! ## Writing -/

/-- A part of an address behind the character that announces it. -/
def announced (mark : String) (part : Option String) : String :=
  (part.map (mark ++ ·)).getD ""

/-- The text of an address. A path that looks as if a host followed is told apart by a dot. -/
def text (u : Url) : String :=
  let place := match u.authority with
    | some authority => "//" ++ authority.text ++ u.path.text
    | none => (if u.path.looksHosted then "/." else "") ++ u.path.text
  u.scheme ++ ":" ++ place ++ announced "?" u.query ++ announced "#" u.fragment

/-! ## Asking -/

def isWeb (u : Url) : Bool :=
  u.scheme == "http" || u.scheme == "https"

/-- The address without credentials, which are sent apart from it. -/
def withoutCredentials (u : Url) : Url :=
  let strip (a : Authority) : Authority :=
    if a.credentials.any Credentials.isUsable then { a with credentials := none } else a
  { u with authority := u.authority.map strip }

def longestAsked : Nat := 65534

/-- Marks that a name may hold and that a host which is asked may not. -/
def unaskableMarks : List Char := ['"', '\x60', '\x7b', '|', '\x7d', '^', '<', '>', '\\']

/-- The address can be asked: it is one of the web, it is not too long, and the name of its host
has none of the marks above. -/
def isAskable (u : Url) : Bool :=
  let host := (u.authority.map Authority.text).getD ""
  u.isWeb && u.text.utf8ByteSize ≤ longestAsked && !host.toList.any unaskableMarks.contains

end Url

end GrammarBench
