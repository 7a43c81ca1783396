/-!
# Schemes

The scheme of an address decides how the rest of it is read. Addresses of the web name a host and a
port, those of files a host that may be missing, and all others are read as little as possible.
-/

namespace GrammarBench

inductive SchemeKind where
  /-- They name a host, and the given port is the usual one. -/
  | hosted (usualPort : Nat)
  | file
  | other
deriving Repr, DecidableEq

namespace SchemeKind

/-- The usual ports of the schemes whose addresses name a host. -/
def usualPorts : List (String × Nat) :=
  [("http", 80), ("https", 443), ("ftp", 21), ("ws", 80), ("wss", 443)]

def of (scheme : String) : SchemeKind :=
  if scheme == "file" then .file
  else match usualPorts.lookup scheme with
    | some port => .hosted port
    | none => .other

/-- The addresses have the same syntax as those of the web. -/
def isSpecial (kind : SchemeKind) : Bool :=
  kind != .other

def usualPort? : SchemeKind → Option Nat
  | hosted port => some port
  | _ => none

def isSlash (kind : SchemeKind) (c : Char) : Bool :=
  c == '/' || (kind.isSpecial && c == '\\')

/-- The character ends what stands before the path. -/
def endsAuthority (kind : SchemeKind) (c : Char) : Bool :=
  kind.isSlash c || c == '?' || c == '#'

end SchemeKind

end GrammarBench
