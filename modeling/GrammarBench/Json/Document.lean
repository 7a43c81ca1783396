import GrammarBench.Decimal.Binary64
import GrammarBench.Json.Printer
import GrammarBench.Json.Reader
import GrammarBench.Text.Utf8

/-!
# JSON documents

A document that is read for its own sake: the members of an object are sorted by name, and of
members with one name the last counts. A document may neither be nested too deeply nor hold a
number that is too large.
-/

namespace GrammarBench.Json

/-- Arrays and objects are nested less deeply than this. -/
def depthLimit : Nat := 128

/-- Puts a member where its name belongs among sorted ones, in place of one with its name. -/
def putMember (name : String) (value : Json) : List (String × Json) → List (String × Json)
  | [] => [(name, value)]
  | (n, v) :: rest =>
    if n == name then (name, value) :: rest
    else if name < n then (name, value) :: (n, v) :: rest
    else (n, v) :: putMember name value rest

/-- The members sorted by name; the last of several with one name counts. -/
def sortMembers (members : List (String × Json)) : List (String × Json) :=
  members.foldl (fun sorted (name, value) => putMember name value sorted) []

/-- The number is an integer, or not too large for a binary fraction. -/
def isInRange (n : Numeral) : Bool :=
  n.toInt?.isSome || (Decimal.ofNumeral n).isSome

mutual

/-- The document of a value, when it may be nested `depth` deep. -/
def document? (depth : Nat) : Json → Option Json
  | null => some null
  | bool b => some (bool b)
  | num n => if isInRange n then some (num n) else none
  | str s => some (str s)
  | unreadable => none
  | arr items => if depth ≤ 1 then none else (documentItems? (depth - 1) items).map arr
  | obj members =>
    if depth ≤ 1 then none
    else (documentMembers? (depth - 1) members).map fun ms => obj (sortMembers ms)

def documentItems? (depth : Nat) : List Json → Option (List Json)
  | [] => some []
  | item :: items => do return (← document? depth item) :: (← documentItems? depth items)

def documentMembers? (depth : Nat) : List (String × Json) → Option (List (String × Json))
  | [] => some []
  | (name, value) :: members => do
    return (name, ← document? depth value) :: (← documentMembers? depth members)

end

def readDocument (text : String) : Option Json :=
  (parse text).bind (document? depthLimit)

/-- The document in bytes, which have to be UTF-8. -/
def readBytes (bytes : List UInt8) : Option Json :=
  match Text.decodeStrict bytes with
  | .ok text => readDocument text
  | .error _ => none

def text (j : Json) : String :=
  String.ofList (compact Decimal.numeralText j)

end GrammarBench.Json
