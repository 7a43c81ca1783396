import GrammarBench.Harness
import GrammarBench.Json.Document
import GrammarBench.Proofs.Diagnostic.RoundTrip
import GrammarBench.Proofs.Json.Spelling
import Mathlib.Data.List.Nodup

/-!
# Values that are read back from their texts

Everything that is written as a JSON document is read back from it: the compact text of a value is
taken apart by the strict reader, and the decoder of the type finds each of its fields again, under
the same name and with the same meaning of null (`records_read_back`). The first half is about JSON
alone (`parse_text`); the second half is one lemma for each type, `ofJson?_toJson`, and these rest
on one fact about records, that an object with the fields of a record is read by their names
(`members?_obj`).

Numbers are natural numbers here, while a line number has 32 bits and a port 16, so values with a
number have to be in range.
-/

namespace GrammarBench

namespace Json

/-- The text of a plain value is read as that value. -/
theorem parse_text {j : Json} (h : Plain j) : parse (text j) = some j :=
  parse_of_spells (h.spells_compact Decimal.numeralText)

/-- The compact text of a value is read as the value. -/
def ReadsBack {α : Type} (encode : α → Json) (decode : Json → Option α) (x : α) : Prop :=
  (parse (text (encode x))).bind decode = some x

theorem readsBack_of_plain {α : Type} {encode : α → Json} {decode : Json → Option α} {x : α}
    (hplain : Plain (encode x)) (hdecode : decode (encode x) = some x) :
    ReadsBack encode decode x := by
  rw [ReadsBack, parse_text hplain]
  exact hdecode

/-! ## Fields -/

theorem members?_obj_iff {names : List String} {members : List (String × Json)} {ms : Members} :
    members? names (obj members) = some ms ↔
      (∀ name ∈ names, members.countP (·.1 == name) ≤ 1) ∧ .named members = ms := by
  have hone : (names.all fun name => members.countP (·.1 == name) ≤ 1) = true ↔
      ∀ name ∈ names, members.countP (·.1 == name) ≤ 1 := by
    simp
  rw [members?, ← hone]
  split
  · rename_i hall
    simp only [hall, true_and, Option.some.injEq]
  · rename_i hall
    exact ⟨nofun, fun h => absurd h.1 hall⟩

/-- An object is read by names when it has the fields of a record once each. -/
theorem members?_obj {names : List String} {members : List (String × Json)}
    (hnames : members.map Prod.fst = names) (hnodup : names.Nodup) :
    members? names (obj members) = some (.named members) := by
  refine members?_obj_iff.mpr ⟨fun name _ => ?_, rfl⟩
  have hcount : members.countP (·.1 == name) = names.count name := by
    rw [← hnames, List.count, List.countP_map]
    rfl
  rw [hcount]
  exact List.nodup_iff_count.mp hnodup name

@[simp] theorem lookup_cons_of_ne {members : List (String × Json)} {name other : String}
    {value : Json} (h : name ≠ other) :
    List.lookup name ((other, value) :: members) = members.lookup name := by
  rw [List.lookup_cons, beq_false_of_ne h]

section Named

variable {α : Type} (members : List (String × Json)) (name : String)

@[simp] theorem required_named (read : Json → Option α) :
    (Members.named members).required name read = (members.lookup name).elim none read := by
  rw [Members.required, Members.get?]
  cases members.lookup name <;> rfl

@[simp] theorem withDefault_named (read : Json → Option α) (default : α) :
    (Members.named members).withDefault name read default =
      (members.lookup name).elim (some default) read := by
  rw [Members.withDefault, Members.get?]
  cases members.lookup name <;> rfl

@[simp] theorem optional_named (read : Json → Option (Option α)) :
    (Members.named members).optional name read =
      (members.lookup name).elim (some none) read := by
  rw [Members.optional.eq_def, Members.get?]
  cases members.lookup name <;> rfl

end Named

@[simp] theorem text?_str (s : String) : text? (str s) = some s := rfl

@[simp] theorem bool?_bool (b : Bool) : bool? (bool b) = some b := rfl

@[simp] theorem orNull_ofText? (s : Option String) : orNull text? (ofText? s) = some s := by
  cases s <;> rfl

theorem natBelow?_ofNat {bound n : Nat} (hbound : bound ≤ Nat.pow 2 64) (hn : n < bound) :
    natBelow? bound (num (.ofNat n)) = some n := by
  have hint : (Numeral.ofNat n).toInt? = some (n : Int) := by
    have hfits : n < Nat.pow 2 64 := by omega
    simp only [Numeral.toInt?, Numeral.ofNat]
    simp [hfits]
  simp [natBelow?, Numeral.below?, hint, hn]

theorem orNull_ofNat? {bound : Nat} {n : Option Nat} (hbound : bound ≤ Nat.pow 2 64)
    (hn : ∀ k, n = some k → k < bound) : orNull (natBelow? bound) (ofNat? n) = some n := by
  cases n with
  | none => rfl
  | some k =>
      rw [ofNat?, orNull, natBelow?_ofNat hbound (hn k rfl)]
      · rfl
      · exact fun h => nomatch h

theorem listOf?_map {α : Type} {read : Json → Option α} {write : α → Json} {xs : List α}
    (h : ∀ x ∈ xs, read (write x) = some x) : listOf? read (arr (xs.map write)) = some xs := by
  rw [listOf?]
  induction xs with
  | nil => rfl
  | cons x xs ih =>
      have hrest := ih fun y hy => h y (List.mem_cons_of_mem x hy)
      simp [h x List.mem_cons_self, hrest]

@[simp] theorem listOf?_ofTexts (xs : List String) : listOf? text? (ofTexts xs) = some xs :=
  listOf?_map fun _ _ => rfl

theorem plain_ofText? (s : Option String) : Plain (ofText? s) := by
  cases s with
  | none => exact .null
  | some s => exact .str s

theorem plain_ofNat? {n : Option Nat} (h : ∀ k, n = some k → k < Nat.pow 2 64) :
    Plain (ofNat? n) := by
  cases n with
  | none => exact .null
  | some k => exact .num (h k rfl)

theorem plain_ofTexts (xs : List String) : Plain (ofTexts xs) := by
  refine .arr fun item hitem => ?_
  obtain ⟨s, -, rfl⟩ := List.mem_map.mp hitem
  exact .str s

end Json

open Json

/-! ## Words -/

namespace Severity

theorem ofJson?_toJson (s : Severity) : ofJson? s.toJson = some s := by
  cases s <;> rfl

theorem plain_toJson (s : Severity) : Plain s.toJson :=
  .str _

end Severity

namespace BackendKind

theorem ofJson?_toJson (k : BackendKind) : ofJson? k.toJson = some k := by
  cases k <;> rfl

theorem plain_toJson (k : BackendKind) : Plain k.toJson :=
  .str _

end BackendKind

/-! ## Messages -/

namespace Diagnostic

variable {d : Diagnostic}

theorem InRange.lt (h : d.InRange) {n : Nat}
    (hn : d.code = some n ∨ d.line = some n ∨ d.column = some n) : n < numberBound := by
  have := h n hn
  have hbound : numberBound = 4294967296 := by decide
  omega

theorem ofJson?_toJson (h : d.InRange) : ofJson? d.toJson = some d := by
  have hbound : numberBound ≤ Nat.pow 2 64 := by decide
  have hcode := orNull_ofNat? hbound fun _ hn => h.lt (.inl hn)
  have hline := orNull_ofNat? hbound fun _ hn => h.lt (.inr (.inl hn))
  have hcolumn := orNull_ofNat? hbound fun _ hn => h.lt (.inr (.inr hn))
  rw [ofJson?, toJson, members?_obj (by rfl) (by decide)]
  simp [Severity.ofJson?_toJson, hcode, hline, hcolumn]

theorem plain_toJson (h : d.InRange) : Plain d.toJson := by
  have hfits : ∀ n, d.code = some n ∨ d.line = some n ∨ d.column = some n → n < Nat.pow 2 64 :=
    fun n hn => (h.lt hn).trans_le (by decide)
  refine .obj ?_
  simp only [List.forall_mem_cons, List.not_mem_nil, false_implies, implies_true, and_true]
  exact ⟨d.severity.plain_toJson, plain_ofNat? fun n hn => hfits n (.inl hn), plain_ofText? _,
    plain_ofNat? fun n hn => hfits n (.inr (.inl hn)),
    plain_ofNat? fun n hn => hfits n (.inr (.inr hn)), .str _⟩

end Diagnostic

namespace DiagnosticQueue

/-- The numbers of every message are in range. -/
def InRange (q : DiagnosticQueue) : Prop :=
  ∀ d ∈ q.all, d.InRange

variable {q : DiagnosticQueue}

theorem ofJson?_toJson (h : q.InRange) : ofJson? q.toJson = some q := by
  rw [ofJson?, toJson, members?_obj (by rfl) (by decide)]
  simp [listOf?_map fun d hd => Diagnostic.ofJson?_toJson (h d hd)]

theorem plain_toJson (h : q.InRange) : Plain q.toJson := by
  refine .obj (List.forall_mem_singleton.mpr (.arr fun item hitem => ?_))
  obtain ⟨d, hd, rfl⟩ := List.mem_map.mp hitem
  exact Diagnostic.plain_toJson (h d hd)

end DiagnosticQueue

/-! ## Results -/

namespace ExecutionResult

theorem ofJson?_toJson (r : ExecutionResult) : ofJson? r.toJson = some r := by
  rw [ofJson?, toJson, members?_obj (by rfl) (by decide)]
  simp

theorem plain_toJson (r : ExecutionResult) : Plain r.toJson := by
  refine .obj ?_
  simp only [List.forall_mem_cons, List.not_mem_nil, false_implies, implies_true, and_true]
  exact ⟨.str _, plain_ofText? _⟩

end ExecutionResult

namespace RunOutcome

def InRange (o : RunOutcome) : Prop :=
  o.diagnostics.InRange

variable {o : RunOutcome}

theorem ofJson?_toJson (h : o.InRange) : ofJson? o.toJson = some o := by
  have hqueue := DiagnosticQueue.ofJson?_toJson h
  rw [ofJson?, toJson, members?_obj (by rfl) (by decide)]
  obtain ⟨diagnostics, _ | r⟩ := o
  · simp [hqueue, orNull]
  · have hresult : orNull ExecutionResult.ofJson? r.toJson = some (some r) := by
      -- an encoded result is an object, so it is not taken for a missing one
      rw [orNull, ExecutionResult.ofJson?_toJson]
      · rfl
      · exact fun h => nomatch h
    simp [hqueue, hresult]

theorem plain_toJson (h : o.InRange) : Plain o.toJson := by
  refine .obj ?_
  simp only [List.forall_mem_cons, List.not_mem_nil, false_implies, implies_true, and_true]
  refine ⟨DiagnosticQueue.plain_toJson h, ?_⟩
  cases o.result with
  | none => exact .null
  | some r => exact r.plain_toJson

end RunOutcome

/-! ## Settings -/

namespace BrowserConfig

/-- The port has 16 bits. -/
def InRange (c : BrowserConfig) : Prop :=
  c.port < Nat.pow 2 16

variable {c : BrowserConfig}

theorem ofJson?_toJson (h : c.InRange) : ofJson? c.toJson = some c := by
  have hport := natBelow?_ofNat (by decide) h
  rw [ofJson?, toJson, members?_obj (by rfl) (by decide)]
  simp [hport]

theorem plain_toJson (h : c.InRange) : Plain c.toJson := by
  refine .obj ?_
  simp only [List.forall_mem_cons, List.not_mem_nil, false_implies, implies_true, and_true]
  exact ⟨.num (h.trans_le (by decide)), .str _, .str _, plain_ofText? _⟩

end BrowserConfig

namespace HarnessConfig

def InRange (c : HarnessConfig) : Prop :=
  c.browser.InRange

variable {c : HarnessConfig}

/-- The directory for temporary files does not matter, since every setting is written. -/
theorem ofJson?_toJson (tempDir : Path) (h : c.InRange) :
    ofJson? tempDir c.toJson = some c := by
  have hbrowser := BrowserConfig.ofJson?_toJson h
  rw [ofJson?, toJson, members?_obj (by rfl) (by decide)]
  simp [hbrowser]

theorem plain_toJson (h : c.InRange) : Plain c.toJson := by
  refine .obj ?_
  simp only [List.forall_mem_cons, List.not_mem_nil, false_implies, implies_true, and_true]
  exact ⟨.str _, plain_ofText? _, plain_ofText? _, plain_ofTexts _, .bool _,
    BrowserConfig.plain_toJson h⟩

end HarnessConfig

/-! ## Requests and cases -/

namespace CompileRequest

theorem ofJson?_toJson (r : CompileRequest) : ofJson? r.toJson = some r := by
  rw [ofJson?, toJson, members?_obj (by rfl) (by decide)]
  simp

theorem plain_toJson (r : CompileRequest) : Plain r.toJson := by
  refine .obj ?_
  simp only [List.forall_mem_cons, List.not_mem_nil, false_implies, implies_true, and_true]
  exact ⟨.str _, .str _, plain_ofTexts _, .bool _⟩

end CompileRequest

namespace DriverSpec

theorem ofJson?_toJson (spec : DriverSpec) : ofJson? spec.toJson = some spec := by
  rw [ofJson?, toJson, members?_obj (by rfl) (by decide)]
  simp

theorem plain_toJson (spec : DriverSpec) : Plain spec.toJson := by
  refine .obj ?_
  simp only [List.forall_mem_cons, List.not_mem_nil, false_implies, implies_true, and_true]
  exact ⟨.str _, plain_ofText? _, plain_ofText? _, plain_ofText? _, plain_ofText? _, .bool _,
    .bool _⟩

end DriverSpec

namespace LexerCase

theorem ofJson?_toJson (c : LexerCase) : ofJson? c.toJson = some c := by
  rw [ofJson?, toJson, members?_obj (by rfl) (by decide)]
  simp

theorem plain_toJson (c : LexerCase) : Plain c.toJson := by
  refine .obj ?_
  simp only [List.forall_mem_cons, List.not_mem_nil, false_implies, implies_true, and_true]
  exact ⟨.str _, .str _, .str _, .str _, .bool _⟩

end LexerCase

namespace ParserCase

theorem ofJson?_toJson (c : ParserCase) : ofJson? c.toJson = some c := by
  rw [ofJson?, toJson, members?_obj (by rfl) (by decide)]
  simp

theorem plain_toJson (c : ParserCase) : Plain c.toJson := by
  refine .obj ?_
  simp only [List.forall_mem_cons, List.not_mem_nil, false_implies, implies_true, and_true]
  exact ⟨.str _, .str _, .str _, .str _, .str _, .str _, .str _, .str _, .bool _⟩

end ParserCase

/-! ## All of them -/

namespace Json

/-- Every value of each type that is written as a document is read back from its compact text. -/
structure RecordsReadBack (tempDir : Path) : Prop where
  severity (s : Severity) : ReadsBack Severity.toJson Severity.ofJson? s
  backend (k : BackendKind) : ReadsBack BackendKind.toJson BackendKind.ofJson? k
  diagnostic (d : Diagnostic) : d.InRange → ReadsBack Diagnostic.toJson Diagnostic.ofJson? d
  queue (q : DiagnosticQueue) :
    q.InRange → ReadsBack DiagnosticQueue.toJson DiagnosticQueue.ofJson? q
  result (r : ExecutionResult) : ReadsBack ExecutionResult.toJson ExecutionResult.ofJson? r
  outcome (o : RunOutcome) : o.InRange → ReadsBack RunOutcome.toJson RunOutcome.ofJson? o
  config (c : HarnessConfig) :
    c.InRange → ReadsBack HarnessConfig.toJson (HarnessConfig.ofJson? tempDir) c
  browser (c : BrowserConfig) : c.InRange → ReadsBack BrowserConfig.toJson BrowserConfig.ofJson? c
  request (r : CompileRequest) : ReadsBack CompileRequest.toJson CompileRequest.ofJson? r
  driver (spec : DriverSpec) : ReadsBack DriverSpec.toJson DriverSpec.ofJson? spec
  lexer (c : LexerCase) : ReadsBack LexerCase.toJson LexerCase.ofJson? c
  parser (c : ParserCase) : ReadsBack ParserCase.toJson ParserCase.ofJson? c

theorem records_read_back (tempDir : Path) : RecordsReadBack tempDir where
  severity s := readsBack_of_plain s.plain_toJson s.ofJson?_toJson
  backend k := readsBack_of_plain k.plain_toJson k.ofJson?_toJson
  diagnostic _ h := readsBack_of_plain (Diagnostic.plain_toJson h) (Diagnostic.ofJson?_toJson h)
  queue _ h :=
    readsBack_of_plain (DiagnosticQueue.plain_toJson h) (DiagnosticQueue.ofJson?_toJson h)
  result r := readsBack_of_plain r.plain_toJson r.ofJson?_toJson
  outcome _ h := readsBack_of_plain (RunOutcome.plain_toJson h) (RunOutcome.ofJson?_toJson h)
  config _ h :=
    readsBack_of_plain (HarnessConfig.plain_toJson h) (HarnessConfig.ofJson?_toJson tempDir h)
  browser _ h :=
    readsBack_of_plain (BrowserConfig.plain_toJson h) (BrowserConfig.ofJson?_toJson h)
  request r := readsBack_of_plain r.plain_toJson r.ofJson?_toJson
  driver spec := readsBack_of_plain spec.plain_toJson spec.ofJson?_toJson
  lexer c := readsBack_of_plain c.plain_toJson c.ofJson?_toJson
  parser c := readsBack_of_plain c.plain_toJson c.ofJson?_toJson

/-- Among the values in range are those with the largest numbers, whatever their texts hold. -/
theorem records_read_back_largest :
    let worst : Diagnostic :=
      { severity := .error, code := some 4294967295, file := some "C:\\g\"4\".g4",
        line := some 4294967295, column := none, message := "\u0000\t\n\u001f é 語 \\u0041" }
    let c := { HarnessConfig.standard "" with
      browser := { BrowserConfig.standard with port := 65535, requiredOs := none } }
    worst.InRange ∧ c.InRange ∧
      ReadsBack RunOutcome.toJson RunOutcome.ofJson? ⟨⟨[worst, worst]⟩, none⟩ ∧
      ReadsBack HarnessConfig.toJson (HarnessConfig.ofJson? "/tmp") c := by
  intro worst c
  have hworst : worst.InRange := by
    intro n hn
    rcases hn with hn | hn | hn <;> cases hn <;> decide
  have hc : c.InRange := by
    rw [HarnessConfig.InRange, BrowserConfig.InRange]
    decide
  refine ⟨hworst, hc, (records_read_back "/tmp").outcome _ ?_,
    (records_read_back "/tmp").config _ hc⟩
  intro d hd
  simp only [List.mem_cons, List.not_mem_nil, or_false, or_self] at hd
  rw [hd]
  exact hworst

end Json

end GrammarBench
