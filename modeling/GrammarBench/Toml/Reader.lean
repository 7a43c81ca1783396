import GrammarBench.Toml.Scalar

/-!
# Reading settings documents

The lines of a TOML document: keys with values, headers of tables, comments. A document is its
table of entries; where one line contradicts an earlier one, the complaint is about the later
line.
-/

namespace GrammarBench.Toml

/-- The character may stand in a key without quotes. -/
def isKeyChar (c : Char) : Bool :=
  c.isAlphanum || c == '_' || c == '-'

/-- Values may be nested and keys may be dotted less deep than this. -/
def depthLimit : Nat := 80

/-- The complaint about a document that is nested too deep. -/
def tooDeep : Complaint :=
  .because "recursion limit"

def readKey (cs : List Char) : Outcome String :=
  match cs with
  | '"' :: rest => readLineText (rest.length + 1) [] rest
  | '\'' :: rest => readLiteralLine [] rest
  | cs =>
    let key := cs.takeWhile isKeyChar
    if key.isEmpty then .error (faultAt cs (invalid "key" []))
    else .ok (String.ofList key, cs.dropWhile isKeyChar)

/-- Keys with points between them. Gaps may surround each key. -/
def readPath (fuel : Nat) (cs : List Char) : Outcome (List String) :=
  match fuel with
  | 0 => .error (faultAt cs tooDeep)
  | fuel + 1 =>
    match readKey (skipGaps cs) with
    | .error fault => .error fault
    | .ok (key, rest) =>
      match skipGaps rest with
      | '.' :: rest => (readPath fuel rest).map fun (keys, rest) => (key :: keys, rest)
      | rest => .ok ([key], rest)

/-- The text after a comment, if one stands at the front. -/
def skipComment : List Char → List Char
  | '#' :: rest => rest.dropWhile isShown
  | cs => cs

/-- The text after gaps, comments and line breaks. -/
def skipFiller (fuel : Nat) (cs : List Char) : List Char :=
  match fuel with
  | 0 => cs
  | fuel + 1 =>
    let cs := skipComment (skipGaps cs)
    match lineBreak? cs with
    | some rest => skipFiller fuel rest
    | none => cs

/-- The span from the front of one text to the front of a later one. -/
def spanTo (start stop : List Char) : Span :=
  ⟨bytesOf start, bytesOf stop⟩

mutual

/-- A value; `depth` counts the arrays and tables around it. -/
def readValue (fuel depth : Nat) (cs : List Char) : Outcome Item :=
  match fuel, cs with
  | 0, cs => .error (faultAt cs tooDeep)
  | fuel + 1, '[' :: rest =>
    if depth + 1 < depthLimit then
      (readItems fuel (depth + 1) rest).map fun (items, rest) =>
        (.array (spanTo cs rest) items, rest)
    else .error (faultAt cs tooDeep)
  | fuel + 1, '\x7b' :: rest =>
    if depth + 1 < depthLimit then
      match skipGaps rest with
      | '\x7d' :: rest => .ok (.table (spanTo cs rest) .inline [], rest)
      | rest =>
        (readPairs fuel (depth + 1) [] rest).map fun (entries, rest) =>
          (.table (spanTo cs rest) .inline entries, rest)
    else .error (faultAt cs tooDeep)
  | _ + 1, cs => (readScalar cs).map fun (value, rest) => (.scalar (spanTo cs rest) value, rest)

/-- The items of an array up to its closing bracket. -/
def readItems (fuel depth : Nat) (cs : List Char) : Outcome (List Item) :=
  match fuel with
  | 0 => .error (faultAt cs tooDeep)
  | fuel + 1 =>
    match skipFiller cs.length cs with
    | ']' :: rest => .ok ([], rest)
    | cs =>
      match readValue fuel depth cs with
      | .error fault => .error fault
      | .ok (item, rest) =>
        match skipFiller rest.length rest with
        | ']' :: rest => .ok ([item], rest)
        | ',' :: rest => (readItems fuel depth rest).map fun (items, rest) => (item :: items, rest)
        | rest => .error (faultAt rest (invalid "array" ["`]`"]))

/-- The pairs of a table between braces up to its closing brace. -/
def readPairs (fuel depth : Nat) (entries : Entries) (cs : List Char) : Outcome Entries :=
  match fuel with
  | 0 => .error (faultAt cs tooDeep)
  | fuel + 1 =>
    match readPath (depthLimit - 1) cs with
    | .error fault => .error fault
    | .ok (path, rest) =>
      match rest with
      | '=' :: rest =>
        match readValue fuel depth (skipGaps rest) with
        | .error fault => .error fault
        | .ok (item, rest) =>
          let add := addValue none (path.getLast?.getD "") item
          let added := addDotted item.span add [] path.dropLast entries
          match added with
          | .error c => .error (faultAt cs c)
          | .ok entries =>
            match skipGaps rest with
            | '\x7d' :: rest => .ok (entries, rest)
            | ',' :: rest => readPairs fuel depth entries (skipGaps rest)
            | rest => .error (faultAt rest (invalid "inline table" ["`\x7d`"]))
      | rest => .error (faultAt rest (invalid "inline table" ["`.`", "`=`"]))

end

/-- A document in the making: its entries and the keys of the table that lines add to. -/
structure Draft where
  entries : Entries
  current : List String

/-- The text after the end of a line. -/
def endLine (cs : List Char) : Except Fault (List Char) :=
  let rest := skipComment (skipGaps cs)
  if rest.isEmpty then .ok []
  else
    match lineBreak? rest with
    | some rest => .ok rest
    | none => .error (faultAt rest ⟨none, ["newline", "`#`"], none⟩)

/-- The keys of a header between its brackets. -/
def readHeader (closing : List Char) (cs : List Char) : Outcome (List String) :=
  match readPath (depthLimit - 1) cs with
  | .error fault => .error fault
  | .ok (path, rest) =>
    match Json.readWord closing rest with
    | some rest => .ok (path, rest)
    | none => .error (faultAt rest (invalid "table header" ["`.`", "`]`"]))

/-- A header: the table that the lines after it add to. -/
def openHeader (draft : Draft) (start : List Char) (path : List String) (rest : List Char)
    (change : Span → List String → String → Entries → Except Complaint Entries) :
    Except Fault Draft :=
  let span := spanTo start rest
  let parents := path.dropLast
  let opened := atHeader span (change span parents (path.getLast?.getD "")) [] parents
  match opened draft.entries with
  | .ok entries => .ok ⟨entries, path⟩
  | .error c => .error (faultAt start { c with label := some "table header" })

def readLine (draft : Draft) (cs : List Char) : Outcome Draft :=
  match cs with
  | '[' :: '[' :: rest =>
    match readHeader [']', ']'] rest with
    | .error fault => .error fault
    | .ok (path, rest) => (openHeader draft cs path rest openElement).map fun d => (d, rest)
  | '[' :: rest =>
    match readHeader [']'] rest with
    | .error fault => .error fault
    | .ok (path, rest) => (openHeader draft cs path rest openTable).map fun d => (d, rest)
  | cs =>
    match readPath (depthLimit - 1) cs with
    | .error fault => .error fault
    | .ok (path, '=' :: rest) =>
      match readValue (2 * rest.length + 2) 0 (skipGaps rest) with
      | .error fault => .error fault
      | .ok (item, rest) =>
        let add := addValue (some draft.current) (path.getLast?.getD "") item
        let addAll := addDotted item.span add [] path.dropLast
        match atHeader item.span addAll [] draft.current draft.entries with
        | .ok entries => .ok (⟨entries, draft.current⟩, rest)
        | .error c => .error (faultAt cs c)
    | .ok (_, rest) => .error (faultAt rest ⟨none, ["`.`", "`=`"], none⟩)

def readLines (fuel : Nat) (draft : Draft) (cs : List Char) : Except Fault Draft :=
  match fuel with
  | 0 => .ok draft
  | fuel + 1 =>
    let cs := skipGaps cs
    if cs.isEmpty then .ok draft
    else if cs.head? = some '#' ∨ (lineBreak? cs).isSome then
      match endLine cs with
      | .ok rest => readLines fuel draft rest
      | .error fault => .error fault
    else
      match readLine draft cs with
      | .error fault => .error fault
      | .ok (draft, rest) =>
        match endLine rest with
        | .ok rest => readLines fuel draft rest
        | .error fault => .error fault

/-- The entries of a document. A byte order mark may precede it. -/
def parse (text : String) : Except Fault Entries :=
  let cs := text.toList
  let cs := if cs.head? = some '\uFEFF' then cs.drop 1 else cs
  (readLines (cs.length + 1) ⟨[], []⟩ cs).map Draft.entries

/-- The line and the column, both counted from zero, of the character that begins at the byte
`start`; the text is read from the byte `offset` on. -/
def placeFrom (start offset line column : Nat) : List Char → Nat × Nat
  | [] => (line, column)
  | c :: rest =>
    if start ≤ offset then (line, column)
    else if c = '\n' then placeFrom start (offset + 1) (line + 1) 0 rest
    else placeFrom start (offset + c.utf8Size) line (column + 1) rest

def run (count : Nat) (c : Char) : String :=
  String.ofList (List.replicate count c)

/-- A complaint about a place, with the line it is in: the number of the line and of the column,
the line, marks below the stretch that is meant, and the complaint. -/
def Fault.render (text : String) (fault : Fault) : String :=
  let start := bytesOf text.toList - fault.span.start
  let (line, column) := placeFrom start 0 0 0 text.toList
  let content := ((text.splitOn "\n")[line]?).getD ""
  let marks := max 1 (min (fault.span.start - fault.span.stop) (content.utf8ByteSize - column))
  let number := toString (line + 1)
  let gutter := run (number.length + 1) ' ' ++ "|"
  "TOML parse error at line " ++ number ++ ", column " ++ toString (column + 1) ++ "\n" ++
    gutter ++ "\n" ++ number ++ " | " ++ content ++ "\n" ++
    gutter ++ run (column + 1) ' ' ++ run marks '^' ++ "\n" ++ fault.complaint.message ++ "\n"

end GrammarBench.Toml
