import GrammarBench.Proofs.Json.RoundTrip
import GrammarBench.Proofs.Json.Written

/-!
# Records whose members are moved, added or left out

What a decoder makes of an object depends on the members that it knows, wherever they stand. So the
members of a text may be permuted, and others may stand between them; a member that is left out is
an error or gives its field a default, which is nothing for some fields and a value for others; and
no known member may be repeated (`records_tolerate`).

Every decoder reads its fields one by one, each from the member with its name, and `RecordField`
says how. What an edited text means is proved once for a list of fields (`ReadsFields.tolerates`);
for a type it remains to list its fields and to say which value each default has.
-/

namespace GrammarBench

namespace Json

/-! ## Fields -/

/-- A field of a record: how its member is read, and what the field is without the member. -/
structure RecordField (α : Type) where
  name : String
  {β : Type}
  read : Json → Option β
  get : α → β
  /-- Nothing when the member is required. -/
  missing : Option β

/-- What the member says of the field, or its absence. -/
def RecordField.found {α : Type} (f : RecordField α) (member : Option Json) : Option f.β :=
  member.elim f.missing f.read

section Fields

variable {α : Type} {decode : Json → Option α} {fields : List (RecordField α)}

/-- An object is read as a record when no field is repeated and each field is found. -/
def ReadsFields (decode : Json → Option α) (fields : List (RecordField α)) : Prop :=
  ∀ members v, decode (obj members) = some v ↔
    (∀ f ∈ fields, members.countP (·.1 == f.name) ≤ 1) ∧
      ∀ f ∈ fields, f.found (members.lookup f.name) = some (f.get v)

/-- The change gives the field of this name its default and leaves the others as they are. -/
def Resets (fields : List (RecordField α)) (name : String) (reset : α → α) : Prop :=
  ∀ f ∈ fields, ∀ v,
    if f.name = name then f.missing = some (f.get (reset v)) else f.get (reset v) = f.get v

/-! ## Objects that differ -/

theorem lookup_eq_filter (members : List (String × Json)) (name : String) :
    members.lookup name = (members.filter (·.1 == name)).head?.map Prod.snd := by
  induction members with
  | nil => rfl
  | cons m members ih =>
      obtain ⟨other, value⟩ := m
      by_cases hname : name = other
      · subst hname
        simp
      · rw [lookup_cons_of_ne hname, ih, List.filter_cons_of_neg]
        simpa using Ne.symm hname

/-- A member that is not repeated is found wherever it stands. -/
theorem lookup_eq_of_perm {members members' : List (String × Json)} {name : String}
    (hperm : (members.filter (·.1 == name)).Perm (members'.filter (·.1 == name)))
    (hone : members.countP (·.1 == name) ≤ 1) : members.lookup name = members'.lookup name := by
  rw [List.countP_eq_length_filter] at hone
  rw [lookup_eq_filter, lookup_eq_filter]
  generalize members.filter (·.1 == name) = known at hperm hone
  match known, hone with
  | [], _ => rw [hperm.nil_eq]
  | [m], _ => rw [List.singleton_perm.mp hperm]

/-- Objects with the same known members are read alike. -/
theorem ReadsFields.eq_of_perm (h : ReadsFields decode fields)
    {members members' : List (String × Json)}
    (hperm : ∀ f ∈ fields,
      (members.filter (·.1 == f.name)).Perm (members'.filter (·.1 == f.name))) {v : α}
    (hv : decode (obj members) = some v) : decode (obj members') = some v := by
  obtain ⟨hone, hfound⟩ := (h members v).mp hv
  refine (h members' v).mpr ⟨fun f hf => ?_, fun f hf => ?_⟩
  · rw [List.countP_eq_length_filter, ← (hperm f hf).length_eq, ← List.countP_eq_length_filter]
    exact hone f hf
  · rw [← lookup_eq_of_perm (hperm f hf) (hone f hf)]
    exact hfound f hf

theorem ReadsFields.repeated (h : ReadsFields decode fields) {f : RecordField α} (hf : f ∈ fields)
    {members : List (String × Json)} (htwo : 1 < members.countP (·.1 == f.name)) :
    decode (obj members) = none := by
  rw [Option.eq_none_iff_forall_ne_some]
  intro v hv
  have hone := ((h members v).mp hv).1 f hf
  omega

section Removed

variable {front back : List (String × Json)} {m : String × Json} {v : α}

theorem lookup_removed_of_ne {name : String} (hname : name ≠ m.1) :
    (front ++ back).lookup name = (front ++ m :: back).lookup name := by
  rw [List.lookup_append, List.lookup_append, lookup_cons_of_ne hname]

/-- A member that is not repeated is missing once it is taken out. -/
theorem lookup_removed (hone : (front ++ m :: back).countP (·.1 == m.1) ≤ 1) :
    (front ++ back).lookup m.1 = none := by
  rw [List.countP_append, List.countP_cons_of_pos (by simp)] at hone
  have hnone : (front ++ back).filter (·.1 == m.1) = [] := by
    rw [← List.length_eq_zero_iff, ← List.countP_eq_length_filter, List.countP_append]
    omega
  rw [lookup_eq_filter, hnone]
  rfl

theorem countP_removed (p : String × Json → Bool) :
    (front ++ back).countP p ≤ (front ++ m :: back).countP p :=
  ((List.sublist_cons_self m back).append_left front).countP_le

/-- Without a member that has a default, its field has the default. -/
theorem ReadsFields.removed (h : ReadsFields decode fields) {reset : α → α}
    (hreset : Resets fields m.1 reset) (hv : decode (obj (front ++ m :: back)) = some v) :
    decode (obj (front ++ back)) = some (reset v) := by
  obtain ⟨hone, hfound⟩ := (h _ _).mp hv
  refine (h _ _).mpr ⟨fun f hf => (countP_removed _).trans (hone f hf), fun f hf => ?_⟩
  have hf' := hreset f hf v
  by_cases hname : f.name = m.1
  · rw [if_pos hname] at hf'
    rw [hname, lookup_removed (hname ▸ hone f hf)]
    exact hf'
  · rw [if_neg hname] at hf'
    rw [lookup_removed_of_ne hname, hf']
    exact hfound f hf

/-- Without a required member nothing is read. -/
theorem ReadsFields.removed_required (h : ReadsFields decode fields) {f : RecordField α}
    (hf : f ∈ fields) (hname : f.name = m.1) (hmissing : f.missing = none)
    (hv : decode (obj (front ++ m :: back)) = some v) : decode (obj (front ++ back)) = none := by
  rw [Option.eq_none_iff_forall_ne_some]
  intro w hw
  have hone := ((h _ _).mp hv).1 f hf
  have hfound := ((h _ _).mp hw).2 f hf
  rw [hname, lookup_removed (hname ▸ hone), RecordField.found, Option.elim_none, hmissing] at hfound
  cases hfound

end Removed

end Fields

/-! ## Edited texts -/

/-- The second list has the members of the first one in their order, and between them others whose
names are not among these. -/
inductive Inserted (names : List String) : List WrittenMember → List WrittenMember → Prop
  | done : Inserted names [] []
  | kept {ms ms' : List WrittenMember} (m : WrittenMember) :
      Inserted names ms ms' → Inserted names (m :: ms) (m :: ms')
  | added {ms ms' : List WrittenMember} (m : WrittenMember) :
      m.name ∉ names → Inserted names ms ms' → Inserted names ms (m :: ms')

theorem Inserted.filter_eq {names : List String} {ms ms' : List WrittenMember}
    (h : Inserted names ms ms') {name : String} (hname : name ∈ names) :
    (ms'.map WrittenMember.said).filter (·.1 == name) =
      (ms.map WrittenMember.said).filter (·.1 == name) := by
  induction h with
  | done => rfl
  | kept m _ ih => rw [List.map_cons, List.map_cons, List.filter_cons, List.filter_cons, ih]
  | added m hm _ ih =>
      have hne : m.name ≠ name := fun h => hm (h ▸ hname)
      rw [List.map_cons, List.filter_cons_of_neg (by simpa [WrittenMember.said] using hne), ih]

/-- What a text is decoded to. -/
def fromText {α : Type} (decode : Json → Option α) (text : String) : Option α :=
  (parse text).bind decode

/-- How a decoder takes edits of a text that it decodes, for a record whose fields are required or
have defaults; each default is given as the change that it makes to a value. -/
structure Tolerates {α : Type} (decode : Json → Option α) (required : List String)
    (defaults : List (String × (α → α))) : Prop where
  permuted {text text' : String} {ms ms' : List WrittenMember} {v : α} :
    WrittenAs text ms → WrittenAs text' ms' → ms.Perm ms' →
      fromText decode text = some v → fromText decode text' = some v
  inserted {text text' : String} {ms ms' : List WrittenMember} {v : α} :
    WrittenAs text ms → WrittenAs text' ms' →
      Inserted (required ++ defaults.map Prod.fst) ms ms' →
      fromText decode text = some v → fromText decode text' = some v
  removed {text text' : String} {front back : List WrittenMember} {m : WrittenMember} {v : α}
      {reset : α → α} :
    WrittenAs text (front ++ m :: back) → WrittenAs text' (front ++ back) →
      (m.name, reset) ∈ defaults →
      fromText decode text = some v → fromText decode text' = some (reset v)
  removed_required {text text' : String} {front back : List WrittenMember} {m : WrittenMember}
      {v : α} :
    WrittenAs text (front ++ m :: back) → WrittenAs text' (front ++ back) → m.name ∈ required →
      fromText decode text = some v → fromText decode text' = none
  repeated {text : String} {front back : List WrittenMember} {m : WrittenMember} :
    WrittenAs text (front ++ m :: back) → m.name ∈ required ++ defaults.map Prod.fst →
      m.name ∈ (front ++ back).map WrittenMember.name → fromText decode text = none

section Edited

variable {α : Type} {decode : Json → Option α}

theorem fromText_of_written {text : String} {ms : List WrittenMember} (h : WrittenAs text ms) :
    fromText decode text = decode (obj (ms.map WrittenMember.said)) := by
  rw [fromText, parse_eq_obj_iff.mpr ⟨ms, h, rfl⟩]
  rfl

/-- What each edit of a text means to a decoder that reads its fields. -/
theorem ReadsFields.tolerates {fields : List (RecordField α)} {required : List String}
    {defaults : List (String × (α → α))} (h : ReadsFields decode fields)
    (hnames : (fields.map RecordField.name).Perm (required ++ defaults.map Prod.fst))
    (hrequired : ∀ name ∈ required, ∃ f ∈ fields, f.name = name ∧ f.missing = none)
    (hdefaults : ∀ d ∈ defaults, Resets fields d.1 d.2) : Tolerates decode required defaults where
  permuted htext htext' hperm hv := by
    rw [fromText_of_written htext] at hv
    rw [fromText_of_written htext']
    exact h.eq_of_perm (fun f _ => (hperm.map _).filter _) hv
  inserted htext htext' hinserted hv := by
    rw [fromText_of_written htext] at hv
    rw [fromText_of_written htext']
    refine h.eq_of_perm (fun f hf => ?_) hv
    rw [hinserted.filter_eq (hnames.mem_iff.mp (List.mem_map_of_mem hf))]
  removed {_ _ front back m v reset} htext htext' hdefault hv := by
    rw [fromText_of_written htext, List.map_append, List.map_cons] at hv
    rw [fromText_of_written htext', List.map_append]
    exact h.removed (hdefaults _ hdefault) hv
  removed_required {_ _ front back m v} htext htext' hname hv := by
    obtain ⟨f, hf, hfname, hmissing⟩ := hrequired m.name hname
    rw [fromText_of_written htext, List.map_append, List.map_cons] at hv
    rw [fromText_of_written htext', List.map_append]
    exact h.removed_required hf hfname hmissing hv
  repeated {_ front back m} htext hname hagain := by
    obtain ⟨f, hf, hfname⟩ := List.mem_map.mp (hnames.mem_iff.mpr hname)
    rw [fromText_of_written htext]
    refine h.repeated hf ?_
    -- one is `m` itself, another is among the members around it
    have hother : 0 < ((front ++ back).map WrittenMember.said).countP (·.1 == f.name) := by
      obtain ⟨n, hn, hsame⟩ := List.mem_map.mp hagain
      rw [List.countP_pos_iff]
      exact ⟨n.said, List.mem_map_of_mem hn, by simp [WrittenMember.said, hsame, hfname]⟩
    rw [List.map_append, List.countP_append] at hother
    rw [List.map_append, List.map_cons, List.countP_append,
      List.countP_cons_of_pos (by simp [WrittenMember.said, hfname])]
    omega

end Edited

end Json

open Json

/-! ## The fields of each type -/

namespace Diagnostic

def fields : List (RecordField Diagnostic) :=
  [⟨"severity", Severity.ofJson?, (·.severity), none⟩,
    ⟨"code", orNull (natBelow? numberBound), (·.code), some none⟩,
    ⟨"file", orNull text?, (·.file), some none⟩,
    ⟨"line", orNull (natBelow? numberBound), (·.line), some none⟩,
    ⟨"column", orNull (natBelow? numberBound), (·.column), some none⟩,
    ⟨"message", text?, (·.message), none⟩]

theorem readsFields : ReadsFields ofJson? fields := by
  rintro members ⟨severity, code, file, line, column, message⟩
  simp [ofJson?, fields, fieldNames, Option.bind_eq_some_iff, members?_obj_iff, RecordField.found,
    and_assoc]

end Diagnostic

namespace DiagnosticQueue

def fields : List (RecordField DiagnosticQueue) :=
  [⟨"all", listOf? Diagnostic.ofJson?, (·.all), none⟩]

theorem readsFields : ReadsFields ofJson? fields := by
  rintro members ⟨all⟩
  simp [ofJson?, fields, Option.bind_eq_some_iff, members?_obj_iff, RecordField.found]

end DiagnosticQueue

namespace ExecutionResult

def fields : List (RecordField ExecutionResult) :=
  [⟨"stdout", text?, (·.stdout), none⟩, ⟨"stderr", orNull text?, (·.stderr), some none⟩]

theorem readsFields : ReadsFields ofJson? fields := by
  rintro members ⟨stdout, stderr⟩
  simp [ofJson?, fields, Option.bind_eq_some_iff, members?_obj_iff, RecordField.found, and_assoc]

end ExecutionResult

namespace RunOutcome

def fields : List (RecordField RunOutcome) :=
  [⟨"diagnostics", DiagnosticQueue.ofJson?, (·.diagnostics), none⟩,
    ⟨"result", orNull ExecutionResult.ofJson?, (·.result), some none⟩]

theorem readsFields : ReadsFields ofJson? fields := by
  rintro members ⟨diagnostics, result⟩
  simp [ofJson?, fields, Option.bind_eq_some_iff, members?_obj_iff, RecordField.found, and_assoc]

end RunOutcome

namespace BrowserConfig

def fields : List (RecordField BrowserConfig) :=
  [⟨"port", natBelow? (Nat.pow 2 16), (·.port), some standard.port⟩,
    ⟨"webdriver_url", text?, (·.remoteUrl), some standard.remoteUrl⟩,
    ⟨"browser_name", text?, (·.browserName), some standard.browserName⟩,
    ⟨"required_os", orNull text?, (·.requiredOs), some standard.requiredOs⟩]

theorem readsFields : ReadsFields ofJson? fields := by
  rintro members ⟨port, remoteUrl, browserName, requiredOs⟩
  simp [ofJson?, fields, fieldNames, Option.bind_eq_some_iff, members?_obj_iff, RecordField.found,
    and_assoc]

end BrowserConfig

namespace HarnessConfig

def fields (tempDir : Path) : List (RecordField HarnessConfig) :=
  [⟨"staging_root", text?, (·.stagingRoot), some (standard tempDir).stagingRoot⟩,
    ⟨"interpreter_path", orNull text?, (·.interpreterPath),
      some (standard tempDir).interpreterPath⟩,
    ⟨"runtime_path", orNull text?, (·.runtimePath), some (standard tempDir).runtimePath⟩,
    ⟨"tool_command", listOf? text?, (·.toolCommand), some (standard tempDir).toolCommand⟩,
    ⟨"keep_staging", bool?, (·.keepStaging), some (standard tempDir).keepStaging⟩,
    ⟨"browser", BrowserConfig.ofJson?, (·.browser), some (standard tempDir).browser⟩]

theorem readsFields (tempDir : Path) : ReadsFields (ofJson? tempDir) (fields tempDir) := by
  rintro members ⟨stagingRoot, interpreterPath, runtimePath, toolCommand, keepStaging, browser⟩
  simp [-Bool.exists_bool, ofJson?, fields, fieldNames, Option.bind_eq_some_iff, members?_obj_iff,
    RecordField.found, and_assoc]

end HarnessConfig

namespace CompileRequest

def fields : List (RecordField CompileRequest) :=
  [⟨"grammar_file_name", text?, (·.grammarFileName), none⟩,
    ⟨"grammar_text", text?, (·.grammarText), none⟩,
    ⟨"extra_options", listOf? text?, (·.extraOptions), some []⟩,
    ⟨"default_listener", bool?, (·.defaultListener), some false⟩]

theorem readsFields : ReadsFields ofJson? fields := by
  rintro members ⟨grammarFileName, grammarText, extraOptions, defaultListener⟩
  simp [-Bool.exists_bool, ofJson?, fields, fieldNames, Option.bind_eq_some_iff, members?_obj_iff,
    RecordField.found, and_assoc]

end CompileRequest

namespace DriverSpec

def fields : List (RecordField DriverSpec) :=
  [⟨"lexer_name", text?, (·.lexerName), none⟩,
    ⟨"parser_name", orNull text?, (·.parserName), some none⟩,
    ⟨"listener_name", orNull text?, (·.listenerName), some none⟩,
    ⟨"visitor_name", orNull text?, (·.visitorName), some none⟩,
    ⟨"start_rule_name", orNull text?, (·.startRuleName), some none⟩,
    ⟨"debug", bool?, (·.debug), some false⟩,
    ⟨"show_dfa", bool?, (·.showDfa), some false⟩]

theorem readsFields : ReadsFields ofJson? fields := by
  rintro members ⟨lexerName, parserName, listenerName, visitorName, startRuleName, debug, showDfa⟩
  simp [-Bool.exists_bool, ofJson?, fields, fieldNames, Option.bind_eq_some_iff, members?_obj_iff,
    RecordField.found, and_assoc]

end DriverSpec

namespace LexerCase

def fields : List (RecordField LexerCase) :=
  [⟨"grammar_file_name", text?, (·.grammarFileName), none⟩,
    ⟨"grammar_text", text?, (·.grammarText), none⟩,
    ⟨"lexer_name", text?, (·.lexerName), none⟩,
    ⟨"input", text?, (·.input), none⟩,
    ⟨"show_dfa", bool?, (·.showDfa), some false⟩]

theorem readsFields : ReadsFields ofJson? fields := by
  rintro members ⟨grammarFileName, grammarText, lexerName, input, showDfa⟩
  simp [-Bool.exists_bool, ofJson?, fields, fieldNames, Option.bind_eq_some_iff, members?_obj_iff,
    RecordField.found, and_assoc]

end LexerCase

namespace ParserCase

def fields : List (RecordField ParserCase) :=
  [⟨"grammar_file_name", text?, (·.grammarFileName), none⟩,
    ⟨"grammar_text", text?, (·.grammarText), none⟩,
    ⟨"parser_name", text?, (·.parserName), none⟩,
    ⟨"lexer_name", text?, (·.lexerName), none⟩,
    ⟨"listener_name", text?, (·.listenerName), none⟩,
    ⟨"visitor_name", text?, (·.visitorName), none⟩,
    ⟨"start_rule_name", text?, (·.startRuleName), none⟩,
    ⟨"input", text?, (·.input), none⟩,
    ⟨"debug", bool?, (·.debug), some false⟩]

theorem readsFields : ReadsFields ofJson? fields := by
  rintro members ⟨grammarFileName, grammarText, parserName, lexerName, listenerName, visitorName,
    startRuleName, input, debug⟩
  simp [-Bool.exists_bool, ofJson?, fields, fieldNames, Option.bind_eq_some_iff, members?_obj_iff,
    RecordField.found, and_assoc]

end ParserCase

/-! ## All of them -/

namespace Json

/-- The objects are the texts in which a list of members is written, whichever list it is, and each
type takes edits of this list as its fields say. -/
structure RecordsTolerate (tempDir : Path) : Prop where
  objects (text : String) (members : List (String × Json)) :
    parse text = some (obj members) ↔
      ∃ ms, WrittenAs text ms ∧ ms.map WrittenMember.said = members
  texts (ms : List WrittenMember) : ∃ text, WrittenAs text ms
  diagnostic : Tolerates Diagnostic.ofJson? ["severity", "message"]
    [("code", fun d => { d with code := none }), ("file", fun d => { d with file := none }),
      ("line", fun d => { d with line := none }), ("column", fun d => { d with column := none })]
  queue : Tolerates DiagnosticQueue.ofJson? ["all"] []
  result : Tolerates ExecutionResult.ofJson? ["stdout"]
    [("stderr", fun r => { r with stderr := none })]
  outcome : Tolerates RunOutcome.ofJson? ["diagnostics"]
    [("result", fun o => { o with result := none })]
  config : Tolerates (HarnessConfig.ofJson? tempDir) []
    [("staging_root", fun c => { c with stagingRoot := tempDir }),
      ("interpreter_path", fun c => { c with interpreterPath := none }),
      ("runtime_path", fun c => { c with runtimePath := none }),
      ("tool_command", fun c => { c with toolCommand := [] }),
      ("keep_staging", fun c => { c with keepStaging := false }),
      ("browser", fun c => { c with browser := .standard })]
  browser : Tolerates BrowserConfig.ofJson? []
    [("port", fun c => { c with port := 8080 }),
      ("webdriver_url", fun c => { c with remoteUrl := "http://127.0.0.1:4444" }),
      ("browser_name", fun c => { c with browserName := "safari" }),
      ("required_os", fun c => { c with requiredOs := some "macos" })]
  request : Tolerates CompileRequest.ofJson? ["grammar_file_name", "grammar_text"]
    [("extra_options", fun r => { r with extraOptions := [] }),
      ("default_listener", fun r => { r with defaultListener := false })]
  driver : Tolerates DriverSpec.ofJson? ["lexer_name"]
    [("parser_name", fun s => { s with parserName := none }),
      ("listener_name", fun s => { s with listenerName := none }),
      ("visitor_name", fun s => { s with visitorName := none }),
      ("start_rule_name", fun s => { s with startRuleName := none }),
      ("debug", fun s => { s with debug := false }),
      ("show_dfa", fun s => { s with showDfa := false })]
  lexer : Tolerates LexerCase.ofJson? ["grammar_file_name", "grammar_text", "lexer_name", "input"]
    [("show_dfa", fun c => { c with showDfa := false })]
  parser : Tolerates ParserCase.ofJson?
    ["grammar_file_name", "grammar_text", "parser_name", "lexer_name", "listener_name",
      "visitor_name", "start_rule_name", "input"]
    [("debug", fun c => { c with debug := false })]

theorem records_tolerate (tempDir : Path) : RecordsTolerate tempDir where
  objects _ _ := parse_eq_obj_iff
  texts := exists_writtenAs
  diagnostic := Diagnostic.readsFields.tolerates (by decide) (by simp [Diagnostic.fields])
    (by simp [Diagnostic.fields, Resets])
  queue := DiagnosticQueue.readsFields.tolerates (.refl _) (by simp [DiagnosticQueue.fields])
    (by simp)
  result := ExecutionResult.readsFields.tolerates (.refl _) (by simp [ExecutionResult.fields])
    (by simp [ExecutionResult.fields, Resets])
  outcome := RunOutcome.readsFields.tolerates (.refl _) (by simp [RunOutcome.fields])
    (by simp [RunOutcome.fields, Resets])
  config := (HarnessConfig.readsFields tempDir).tolerates (.refl _) (by simp)
    (by simp [HarnessConfig.fields, HarnessConfig.standard, Resets])
  browser := BrowserConfig.readsFields.tolerates (.refl _) (by simp)
    (by simp [BrowserConfig.fields, BrowserConfig.standard, Resets])
  request := CompileRequest.readsFields.tolerates (.refl _) (by simp [CompileRequest.fields])
    (by simp [CompileRequest.fields, Resets])
  driver := DriverSpec.readsFields.tolerates (.refl _) (by simp [DriverSpec.fields])
    (by simp [DriverSpec.fields, Resets])
  lexer := LexerCase.readsFields.tolerates (.refl _) (by simp [LexerCase.fields])
    (by simp [LexerCase.fields, Resets])
  parser := ParserCase.readsFields.tolerates (.refl _) (by simp [ParserCase.fields])
    (by simp [ParserCase.fields, Resets])

/-- Null clears a setting, and the setting is back at its default once its member is left out. -/
theorem records_tolerate_requiredOs :
    let written := "\x7b \"port\" : 1, \"required_os\": null \x7d\n"
    let edited := "\x7b\"port\" : 1\x7d"
    let v := { BrowserConfig.standard with port := 1, requiredOs := none }
    fromText BrowserConfig.ofJson? written = some v ∧
      fromText BrowserConfig.ofJson? edited = some { v with requiredOs := some "macos" } := by
  intro written edited v
  let port : WrittenMember := ⟨"port", .num (.ofNat 1), "\"port\" ", " 1", by rfl, by rfl⟩
  let os : WrittenMember := ⟨"required_os", .null, " \"required_os\"", " null ", by rfl, by rfl⟩
  have hwritten : WrittenAs written ([port] ++ os :: []) :=
    ⟨"", " ", "\n", by decide, by decide, by decide, by decide⟩
  have hedited : WrittenAs edited ([port] ++ []) :=
    ⟨"", "", "", by decide, by decide, by decide, by decide⟩
  have hv : fromText BrowserConfig.ofJson? written = some v := by decide +kernel
  exact ⟨hv, (records_tolerate "/tmp").browser.removed hwritten hedited
    (.tail _ (.tail _ (.tail _ (.head _)))) hv⟩

end Json

end GrammarBench
