import GrammarBench.Json.Basic

/-!
# Settings documents

The values of a TOML document together with the places where they were written, which complaints
about them point at. Places are counted in bytes from the *end* of the document: a reader knows
what is left before it knows where it is.
-/

namespace GrammarBench.Toml

/-- The stretch of text of a value: the number of bytes left at its start and at its end. -/
structure Span where
  start : Nat
  stop : Nat
deriving Repr, DecidableEq, Inhabited

structure Complaint where
  label : Option String
  expected : List String
  cause : Option String
deriving Repr, DecidableEq

namespace Complaint

/-- A complaint that only says what is wrong. -/
def because (cause : String) : Complaint :=
  ⟨none, [], some cause⟩

def message (c : Complaint) : String :=
  let label := c.label.toList.map ("invalid " ++ ·)
  let expected :=
    if c.expected.isEmpty then [] else ["expected " ++ ", ".intercalate c.expected]
  "\n".intercalate (label ++ expected ++ c.cause.toList)

end Complaint

/-- A complaint and the place that it is about. -/
structure Fault where
  span : Span
  complaint : Complaint
deriving Repr, DecidableEq

inductive Scalar where
  | text (s : String)
  | integer (i : Int)
  | float (shown : String)
  | boolean (b : Bool)
  | moment
deriving Repr, DecidableEq

/-- How a table came to be, which decides whether it may be added to. -/
inductive Origin where
  | header
  /-- On the way of a header to a table below it. -/
  | onTheWay
  | dotted
  | inline
deriving Repr, DecidableEq

inductive Item where
  | scalar (span : Span) (value : Scalar)
  | array (span : Span) (items : List Item)
  | table (span : Span) (origin : Origin) (entries : List (String × Item))
  /-- The tables of an array of tables, the latest first. -/
  | tables (span : Span) (latestFirst : List (List (String × Item)))
deriving Repr, Inhabited

/-- The entries of a table, in the order in which their keys first occur. -/
abbrev Entries := List (String × Item)

namespace Item

def span : Item → Span
  | scalar span _ => span
  | array span _ => span
  | table span _ _ => span
  | tables span _ => span

end Item

/-- The kind of a value, in the words of a complaint. -/
def Item.kindName : Item → String
  | .scalar _ (.text _) => "string"
  | .scalar _ (.integer _) => "integer"
  | .scalar _ (.float _) => "float"
  | .scalar _ (.boolean _) => "boolean"
  | .scalar _ .moment => "datetime"
  | .array _ _ => "array"
  | .table _ .inline _ => "inline table"
  | .table _ _ _ => "table"
  | .tables _ _ => "array of tables"

/-- The complaint about a key that is defined twice, in the table with the given keys if that is to
be said. -/
def duplicateKey (key : String) (table : Option (List String)) : Complaint :=
  .because ("duplicate key \x60" ++ key ++ "\x60" ++
    match table with
    | none => ""
    | some [] => " in document root"
    | some keys => " in table \x60" ++ ".".intercalate keys ++ "\x60")

/-- The complaint about keys that lead into a value. -/
def closedKey (keys : List String) (item : Item) : Complaint :=
  .because ("dotted key \x60" ++ ".".intercalate keys ++
    "\x60 attempted to extend non-table type (" ++ item.kindName ++ ")")

/-- The entry of a key is put in place of the old one, or at the end. -/
def setEntry (key : String) (item : Item) : Entries → Entries
  | [] => [(key, item)]
  | (k, old) :: rest => if k == key then (k, item) :: rest else (k, old) :: setEntry key item rest

/-- Adds what `add` says to the table at the end of a path of dotted keys, making tables on the
way; `seen` are the keys before the path. A table with a header of its own is closed for dotted
keys, and the last table on the way must have been made by dotted keys. The last table of an array
of tables stands for the array. -/
def addDotted (span : Span) (add : Entries → Except Complaint Entries) (seen : List String) :
    List String → Entries → Except Complaint Entries
  | [], entries => add entries
  | key :: path, entries => do
    let below := addDotted span add (seen ++ [key]) path
    let passed {α : Type} (x : Except Complaint α) : Except Complaint α :=
      if path.isEmpty then throw (duplicateKey key none) else x
    let item ←
      match entries.lookup key with
      | none => pure (Item.table span .dotted (← below []))
      | some (.table s .dotted inner) => pure (Item.table s .dotted (← below inner))
      | some (.table s .onTheWay inner) =>
        pure (Item.table s .onTheWay (← passed (below inner)))
      | some (.tables s (latest :: earlier)) =>
        pure (Item.tables s ((← passed (below latest)) :: earlier))
      | some (.table _ .header _) => throw (duplicateKey key none)
      | some item => throw (closedKey (seen ++ [key]) item)
    return setEntry key item entries

/-- Adds a key and its value, which must be new in the table with the given keys. -/
def addValue (table : Option (List String)) (key : String) (item : Item) (entries : Entries) :
    Except Complaint Entries :=
  match entries.lookup key with
  | none => .ok (entries ++ [(key, item)])
  | some _ => .error (duplicateKey key table)

/-- Changes the table that the keys of a header lead to, making tables on the way; `seen` are the
keys before them. The last table of an array of tables stands for the array. -/
def atHeader (span : Span) (change : Entries → Except Complaint Entries) (seen : List String) :
    List String → Entries → Except Complaint Entries
  | [], entries => change entries
  | key :: path, entries => do
    let below := atHeader span change (seen ++ [key]) path
    let item ←
      match entries.lookup key with
      | none => pure (Item.table span .onTheWay (← below []))
      | some (.table s .inline inner) =>
        throw (closedKey (seen ++ [key]) (.table s .inline inner))
      | some (.table s origin inner) => pure (Item.table s origin (← below inner))
      | some (.tables s (latest :: earlier)) =>
        pure (Item.tables s ((← below latest) :: earlier))
      | some item => throw (closedKey (seen ++ [key]) item)
    return setEntry key item entries

/-- Opens the table of a header, as the last one: it is new, or was only passed on the way to
others. -/
def openTable (span : Span) (parents : List String) (key : String) (entries : Entries) :
    Except Complaint Entries :=
  match entries.lookup key with
  | none => .ok (entries ++ [(key, .table span .header [])])
  | some (.table _ .onTheWay inner) =>
    .ok (entries.filter (·.1 != key) ++ [(key, .table span .header inner)])
  | some _ => .error (duplicateKey key (some parents))

/-- Opens the next table of an array of tables. -/
def openElement (span : Span) (parents : List String) (key : String) (entries : Entries) :
    Except Complaint Entries :=
  match entries.lookup key with
  | none => .ok (entries ++ [(key, .tables span [[]])])
  | some (.tables s latestFirst) => .ok (setEntry key (.tables s ([] :: latestFirst)) entries)
  | some _ => .error (duplicateKey key (some parents))

end GrammarBench.Toml
