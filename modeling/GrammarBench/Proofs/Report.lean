import GrammarBench.Proofs.Json.RoundTrip
import GrammarBench.Screen

/-!
# Reports as documents

The indented text of a report is one document, and nothing of the report is lost in it
(`CaseReport.document_tells`): `CaseReport.Tells` says where each part of the report stands in the
document, and a document tells one report only (`CaseReport.Tells.unique`). Three of the parts may
be missing: a missing output is a null, and so is a missing error output, while an expectation that
was not given has no member at all. So none of them is mistaken for an empty text.
-/

namespace GrammarBench

open Json

namespace BackendKind

theorem ofName?_name (kind : BackendKind) : ofName? kind.name = some kind := by
  cases kind <;> rfl

theorem name_inj {kind kind' : BackendKind} (h : kind.name = kind'.name) : kind = kind' := by
  rw [← Option.some_inj, ← ofName?_name kind, h, ofName?_name]

end BackendKind

namespace CaseReport

/-- The numbers of every message are in range. -/
def InRange (r : CaseReport) : Prop :=
  ∀ d ∈ r.diagnostics, d.InRange

/-- The members of a document say what the report says, each once and nothing else. -/
structure Tells (members : List (String × Json)) (r : CaseReport) : Prop where
  names : members.map Prod.fst =
    ["backend", "compiled", "diagnostics", "output", "stderr"]
      ++ if r.expected.isSome then ["expected"] else []
  backend : members.lookup "backend" = some (.str r.backend.name)
  compiled : members.lookup "compiled" = some (.bool r.compiled)
  /-- The messages, each with all its fields, in their order. -/
  diagnostics : members.lookup "diagnostics" = some (.arr (r.diagnostics.map Diagnostic.toJson))
  reads_diagnostics :
    (members.lookup "diagnostics").bind (listOf? Diagnostic.ofJson?) = some r.diagnostics
  output : members.lookup "output" = some (r.output.elim .null .str)
  stderr : members.lookup "stderr" = some (r.stderr.elim .null .str)
  expected : members.lookup "expected" = r.expected.map .str

/-- Whether the members of a document show the expected output, if there is one. -/
def matchedIn (members : List (String × Json)) : Option Bool :=
  (members.lookup "expected").map fun expected =>
    (members.lookup "output").bind text? == text? expected

/-- Whether the members of a document show a clean case. -/
def passedIn (members : List (String × Json)) : Bool :=
  (members.lookup "compiled").bind bool? == some true
    && ((members.lookup "stderr").bind text?).isNone && matchedIn members != some false

variable {r r' : CaseReport} {members : List (String × Json)}

theorem text?_elim (text : Option String) : text? (text.elim .null .str) = text := by
  cases text <;> rfl

theorem elim_inj {text text' : Option String}
    (h : (text.elim .null .str : Json) = text'.elim .null .str) : text = text' := by
  rw [← text?_elim text, h, text?_elim]

namespace Tells

/-- **A document tells one report.** -/
theorem unique (h : Tells members r) (h' : Tells members r') : r = r' := by
  have hbackend := h.backend.symm.trans h'.backend
  have hcompiled := h.compiled.symm.trans h'.compiled
  have hdiagnostics := h.reads_diagnostics.symm.trans h'.reads_diagnostics
  have houtput := h.output.symm.trans h'.output
  have hstderr := h.stderr.symm.trans h'.stderr
  have hexpected := h.expected.symm.trans h'.expected
  rw [Option.some.injEq] at hbackend hcompiled hdiagnostics houtput hstderr
  cases r
  cases r'
  congr
  · exact BackendKind.name_inj (Json.str.inj hbackend)
  · exact Json.bool.inj hcompiled
  · exact elim_inj houtput
  · exact elim_inj hstderr
  · exact Option.map_injective (fun _ _ => Json.str.inj) hexpected

theorem matchedIn_eq (h : Tells members r) : matchedIn members = r.matched := by
  rw [matchedIn, h.expected, h.output, Option.bind_some, text?_elim]
  cases hexpected : r.expected <;> simp [matched, hexpected]

theorem passedIn_eq (h : Tells members r) : passedIn members = r.passed := by
  rw [passedIn, h.matchedIn_eq, h.compiled, h.stderr, Option.bind_some, Option.bind_some,
    text?_elim]
  cases hcompiled : r.compiled <;> simp [passed, hcompiled]

end Tells

theorem plain_toJson (h : r.InRange) : Plain r.toJson := by
  have hdiagnostics : Plain (.arr (r.diagnostics.map Diagnostic.toJson)) := by
    refine .arr fun item hitem => ?_
    obtain ⟨d, hd, rfl⟩ := List.mem_map.mp hitem
    exact Diagnostic.plain_toJson (h d hd)
  refine .obj (List.forall_mem_append.mpr ⟨?_, fun m hm => ?_⟩)
  · simp only [List.forall_mem_cons, List.not_mem_nil, false_implies, implies_true, and_true]
    exact ⟨r.backend.plain_toJson, .bool _, hdiagnostics, plain_ofText? _, plain_ofText? _⟩
  · obtain ⟨text, -, rfl⟩ := List.mem_map.mp hm
    exact .str text

theorem ofText?_eq_elim (text : Option String) : ofText? text = text.elim .null .str := by
  cases text <;> rfl

theorem tells_toJson (h : r.InRange) : ∃ members, r.toJson = .obj members ∧ Tells members r := by
  have hdiagnostics := listOf?_map fun d hd => Diagnostic.ofJson?_toJson (h d hd)
  refine ⟨_, rfl, ?_⟩
  rw [ofText?_eq_elim, ofText?_eq_elim]
  exact
    { names := by cases r.expected <;> simp
      backend := by simp [BackendKind.toJson]
      compiled := by simp
      diagnostics := by simp
      reads_diagnostics := by simp [hdiagnostics]
      output := by simp
      stderr := by simp
      expected := by cases r.expected <;> simp }

theorem spells_jsonText (h : r.InRange) : Spells r.toJson r.jsonText.toList := by
  rw [jsonText, String.toList_ofList]
  exact (plain_toJson h).spells_pretty Decimal.numeralText 0

/-- The text of a report is read as the document of the report, and a line break behind it does not
matter. -/
theorem parse_jsonText (h : r.InRange) :
    parse r.jsonText = some r.toJson ∧ parse (r.jsonText ++ "\n") = some r.toJson := by
  have hread := (spells_jsonText h).isValue.readAs
  constructor
  · exact parse_eq_some_iff.mpr ⟨[], _, [], by simp, isGaps_nil, isGaps_nil, hread⟩
  · exact parse_eq_some_iff.mpr ⟨[], _, ['\n'], by simp, isGaps_nil, by decide, hread⟩

/-- **The text of a report is one document that tells the whole report.** No other report has the
same text, and what the report comes to is found again from the document alone. -/
theorem document_tells (h : r.InRange) (colours : Bool) :
    ∃ members, parse r.jsonText = some (.obj members)
      ∧ (Screen.report .json colours r).stdout = r.jsonText ++ "\n"
      ∧ parse (Screen.report .json colours r).stdout = some (.obj members)
      ∧ Tells members r
      ∧ matchedIn members = r.matched
      ∧ passedIn members = r.passed
      ∧ ∀ r' colours', InRange r' →
        (Screen.report .json colours' r').stdout = (Screen.report .json colours r).stdout →
        r' = r := by
  have hshown : ∀ (r : CaseReport) colours,
      (Screen.report .json colours r).stdout = r.jsonText ++ "\n" := fun _ _ => rfl
  obtain ⟨members, hmembers, htells⟩ := tells_toJson h
  have hread := parse_jsonText h
  rw [hmembers] at hread
  refine ⟨members, hread.1, hshown r colours, ?_, htells, htells.matchedIn_eq, htells.passedIn_eq,
    ?_⟩
  · rw [hshown]
    exact hread.2
  · intro r' colours' h' hsame
    obtain ⟨members', hmembers', htells'⟩ := tells_toJson h'
    have hread' := (parse_jsonText h').2
    rw [hshown, hshown] at hsame
    rw [hsame, hread.2, hmembers'] at hread'
    cases hread'
    exact htells'.unique htells

/-- Control characters, quotes and replacement characters come back, and an empty text is not taken
for a missing one. -/
theorem document_tells_odd_texts :
    let worst : Diagnostic :=
      { severity := .warning, code := some 4294967295, file := some "", line := none,
        column := some 0, message := "\u0000\t\"\\u0041\uFFFD" }
    let r : CaseReport :=
      { backend := .browser, compiled := true, diagnostics := [worst, worst], output := some "",
        stderr := none, expected := some "\u001f\x7f\"" }
    r.InRange ∧ ∃ members, parse r.jsonText = some (.obj members) ∧ Tells members r
      ∧ matchedIn members = some false ∧ passedIn members = false := by
  intro worst r
  have hworst : worst.InRange := by
    intro n hn
    rcases hn with hn | hn | hn <;> cases hn <;> decide
  have hr : r.InRange := by
    intro d hd
    simp only [r, List.mem_cons, List.not_mem_nil, or_false, or_self] at hd
    rw [hd]
    exact hworst
  obtain ⟨members, hread, -, -, htells, hmatched, hpassed, -⟩ := document_tells hr false
  exact ⟨hr, members, hread, htells, hmatched, hpassed⟩

end CaseReport

end GrammarBench
