import GrammarBench.Web.HostName
import GrammarBench.Web.Url.Scheme

/-!
# Authorities

The part of an address between its two slashes and its path: who asks, whom, and through which
port. What comes before the last `@` is the user's name and password, and the port follows the name
of the host behind a colon.
-/

namespace GrammarBench

/-- The name and the password of a user, as they are written in an address. -/
structure Credentials where
  user : String
  password : Option String
deriving Repr, DecidableEq

namespace Credentials

/-- The character may stand in a name or a password as it is. -/
def isKept (c : Char) : Bool :=
  Percent.isVisibleBut
    ['"', '#', '<', '>', '?', '\x60', '\x7b', '\x7d', '/', ':', ';', '=', '@', '[', '\\', ']',
     '^', '|'] c

/-- Reads what stands before the `@`. An empty password is none, and an empty name without a
password is nobody's. -/
def read? (cs : List Char) : Option Credentials :=
  let (user, password) := (Text.cutFirst? (· == ':') cs).getD (cs, [])
  if user.isEmpty && password.isEmpty then none
  else some {
    user := Percent.encode isKept user
    password := if password.isEmpty then none else some (Percent.encode isKept password) }

def text (c : Credentials) : String :=
  match c.password with
  | some password => c.user ++ ":" ++ password ++ "@"
  | none => c.user ++ "@"

/-- The credentials can be handed on apart from the address: the name is a text, and there is a name
or else a password that is a text. -/
def isUsable (c : Credentials) : Bool :=
  (Percent.decodeText? c.user).isSome &&
    (!c.user.isEmpty || (c.password.bind Percent.decodeText?).isSome)

end Credentials

/-- Who is asked, by whom, and through which port. -/
structure Authority where
  credentials : Option Credentials
  host : HostName
  /-- The port, unless it is the usual one of the scheme. -/
  port : Option Nat
deriving Repr, DecidableEq

namespace Authority

def ofHost (host : HostName) : Authority :=
  { credentials := none, host, port := none }

def hostText (a : Authority) : String :=
  match a.port with
  | some port => a.host.text ++ ":" ++ toString port
  | none => a.host.text

def text (a : Authority) : String :=
  (a.credentials.map Credentials.text).getD "" ++ a.hostText

/-- What stands before the last `@` of an authority, and what follows it; when there is no `@`, all
of it follows. -/
def takeCredentials (kind : SchemeKind) (cs : List Char) : Option (List Char) × List Char :=
  let authority := cs.takeWhile (!kind.endsAuthority ·)
  match Text.cutLast? (· == '@') authority with
  | some (before, _) => (some before, cs.drop (before.length + 1))
  | none => (none, cs)

/-- The name of the host: it ends at a colon outside brackets, or with the authority. `name` holds
what has been read, last character first. -/
def takeName (kind : SchemeKind) (inBrackets : Bool) (name : List Char) :
    List Char → List Char × List Char
  | [] => (name.reverse, [])
  | c :: cs =>
    if kind.endsAuthority c || (c == ':' && !inBrackets) then (name.reverse, c :: cs)
    else takeName kind (c == '[' || (inBrackets && c != ']')) (c :: name) cs

/-- Reads a port behind its colon: a number of 16 bits, or nothing. -/
def takePort? (cs : List Char) : Option (Option Nat × List Char) :=
  let digits := cs.takeWhile Char.isDigit
  let rest := cs.drop digits.length
  let ends := match rest with
    | [] => true
    | c :: _ => ['/', '\\', '?', '#'].contains c
  match Text.number? 10 digits with
  | some port =>
    if ends && port < Nat.pow 2 16 then
      some (if digits.isEmpty then none else some port, rest)
    else none
  | none => none

/-- Reads an authority behind its two slashes. A user or a port needs a host, and an `@` without a
user may not be followed by the path. -/
def take? (kind : SchemeKind) (cs : List Char) : Option (Authority × List Char) := do
  let (before, cs) := takeCredentials kind cs
  if before == some [] && cs.head?.any kind.endsAuthority then none
  let credentials := before.bind Credentials.read?
  let (name, cs) := takeName kind false [] cs
  let host ← HostName.read? kind.isSpecial name
  if host == .empty && (credentials.isSome || cs.head? == some ':') then none
  let (port, cs) ← match cs with
    | ':' :: digits => takePort? digits
    | _ => some (none, cs)
  return ({ credentials, host, port := if port == kind.usualPort? then none else port }, cs)

/-- The text names a drive: a letter and a colon, or a bar in its place. -/
def isDrive : List Char → Bool
  | [letter, mark] => letter.isAlpha && (mark == ':' || mark == '|')
  | _ => false

/-- Reads the authority of a file, which is only a host. Fewer than two slashes are followed by the
path; so are two slashes before a drive. The own host is none. -/
def takeFileHost? (cs : List Char) : Option (HostName × List Char) :=
  match cs with
  | a :: b :: rest =>
    let name := rest.takeWhile (!SchemeKind.file.endsAuthority ·)
    if !(SchemeKind.file.isSlash a && SchemeKind.file.isSlash b) then some (.empty, cs)
    else if name.isEmpty || isDrive name then some (.empty, rest)
    else (HostName.read? true name).map fun host =>
      (if host == .named "localhost" then .empty else host, rest.drop name.length)
  | _ => some (.empty, cs)

end Authority

end GrammarBench
