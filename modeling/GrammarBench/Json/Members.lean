import GrammarBench.Json.Basic

/-!
# Records in JSON

A record with named fields is read from an object or from an array of its fields in order. In an
object the order does not matter and unknown members are passed over, but no known member may be
repeated; an array may not be longer than the record. What a missing field means is said by the
reader of that field: an error, nothing, or a default.
-/

namespace GrammarBench.Json

/-- Where the fields of a record are taken from. -/
inductive Members where
  | named (members : List (String × Json))
  | listed (names : List String) (items : List Json)
deriving Repr

/-- The fields of a record with the given field names. -/
def members? (names : List String) : Json → Option Members
  | obj members =>
    if names.all fun name => members.countP (·.1 == name) ≤ 1 then some (.named members) else none
  | arr items => if items.length ≤ names.length then some (.listed names items) else none
  | _ => none

namespace Members

def get? (ms : Members) (name : String) : Option Json :=
  match ms with
  | named members => members.lookup name
  | listed names items => items[names.idxOf name]?

def required {α : Type} (ms : Members) (name : String) (read : Json → Option α) : Option α :=
  (ms.get? name).bind read

/-- A field that may be given another value when it is missing. -/
def withDefault {α : Type} (ms : Members) (name : String) (read : Json → Option α)
    (default : α) : Option α :=
  match ms.get? name with
  | some value => read value
  | none => some default

/-- A field that an object may leave out; an array may not, since it has no other way to reach the
fields that follow. -/
def optional {α : Type} (ms : Members) (name : String) (read : Json → Option (Option α)) :
    Option (Option α) :=
  match ms, ms.get? name with
  | _, some value => read value
  | named _, none => some none
  | listed _ _, none => none

end Members

def orNull {α : Type} (read : Json → Option α) : Json → Option (Option α)
  | null => some none
  | value => (read value).map some

def bool? : Json → Option Bool
  | bool b => some b
  | _ => none

def natBelow? (bound : Nat) : Json → Option Nat
  | num n => n.below? bound
  | _ => none

def listOf? {α : Type} (read : Json → Option α) : Json → Option (List α)
  | arr items => items.mapM read
  | _ => none

/-- One of finitely many words: a string, or an object whose only member is the word with null. -/
def word? : Json → Option String
  | str s => some s
  | obj [(name, null)] => some name
  | _ => none

end GrammarBench.Json
