import GrammarBench.Config.Basic
import GrammarBench.Text.Quoted
import GrammarBench.Toml.Reader

/-!
# Settings from a file

Settings are read from the entries of a document. Unknown entries are passed over and missing ones
are as the standard says; an entry of the wrong kind is a fault at its place. Settings may also be
given as an array of the fields in order, of which the items beyond the last field do not count.
-/

namespace GrammarBench.Toml

/-- What stands in a document, in the words of a complaint. -/
def Item.describe : Item → String
  | .scalar _ (.text s) => "string " ++ Text.quoted s
  | .scalar _ (.integer i) => "integer `" ++ toString i ++ "`"
  | .scalar _ (.float shown) => "floating point `" ++ shown ++ "`"
  | .scalar _ (.boolean b) => "boolean `" ++ toString b ++ "`"
  | .scalar _ .moment => "map"
  | .array _ _ => "sequence"
  | .table _ _ _ => "map"
  | .tables _ _ => "sequence"

/-- The fault of an entry that should have been something else. -/
def mismatch (item : Item) (expected : String) : Fault :=
  ⟨item.span, .because ("invalid type: " ++ item.describe ++ ", expected " ++ expected)⟩

def readTextEntry (expected : String) (item : Item) : Except Fault String :=
  match item with
  | .scalar _ (.text s) => .ok s
  | item => .error (mismatch item expected)

def readBoolEntry (item : Item) : Except Fault Bool :=
  match item with
  | .scalar _ (.boolean b) => .ok b
  | item => .error (mismatch item "a boolean")

def readPortEntry (item : Item) : Except Fault Nat :=
  match item with
  | .scalar span (.integer i) =>
    if 0 ≤ i ∧ i < Nat.pow 2 16 then .ok i.toNat
    else .error ⟨span, .because ("invalid value: " ++ item.describe ++ ", expected u16")⟩
  | item => .error (mismatch item "u16")

def readTextsEntry (item : Item) : Except Fault (List String) :=
  match item with
  | .array _ items => items.mapM (readTextEntry "a string")
  | item => .error (mismatch item "a sequence")

/-- The fields of a record: its entries, or the items of an array by their place. -/
def fieldsOf (names : List String) (expected : String) (item : Item) :
    Except Fault Entries :=
  match item with
  | .table _ _ entries => .ok entries
  | .array _ items => .ok (names.zip items)
  | .tables span latestFirst =>
    .ok (names.zip (latestFirst.reverse.map fun entries => .table span .header entries))
  | item => .error (mismatch item expected)

def readBrowserEntry (c : BrowserConfig) (entry : String × Item) : Except Fault BrowserConfig := do
  match entry with
  | ("port", item) => return { c with port := ← readPortEntry item }
  | ("webdriver_url", item) => return { c with remoteUrl := ← readTextEntry "a string" item }
  | ("browser_name", item) => return { c with browserName := ← readTextEntry "a string" item }
  | ("required_os", item) => return { c with requiredOs := some (← readTextEntry "a string" item) }
  | _ => return c

def readBrowserConfig (item : Item) : Except Fault BrowserConfig := do
  let fields ← fieldsOf BrowserConfig.fieldNames "struct BrowserConfig" item
  fields.foldlM readBrowserEntry BrowserConfig.standard

def readHarnessEntry (c : HarnessConfig) (entry : String × Item) : Except Fault HarnessConfig := do
  let path := readTextEntry "path string"
  match entry with
  | ("staging_root", item) => return { c with stagingRoot := ← path item }
  | ("interpreter_path", item) => return { c with interpreterPath := some (← path item) }
  | ("runtime_path", item) => return { c with runtimePath := some (← path item) }
  | ("tool_command", item) => return { c with toolCommand := ← readTextsEntry item }
  | ("keep_staging", item) => return { c with keepStaging := ← readBoolEntry item }
  | ("browser", item) => return { c with browser := ← readBrowserConfig item }
  | _ => return c

/-- The settings of the bench. The first entry of a wrong kind is complained about. -/
def readHarnessConfig (tempDir : Path) (fields : Entries) : Except Fault HarnessConfig :=
  fields.foldlM readHarnessEntry (HarnessConfig.standard tempDir)

end GrammarBench.Toml

namespace GrammarBench.HarnessConfig

def ofText (tempDir : Path) (text : String) : Except Failure HarnessConfig :=
  match Toml.parse text with
  | .error fault => .error (.configText (fault.render text))
  | .ok entries =>
    match Toml.readHarnessConfig tempDir entries with
    | .ok config => .ok config
    | .error fault => .error (.configText (fault.render text))

end GrammarBench.HarnessConfig
