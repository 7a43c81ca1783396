import GrammarBench.Proofs.Diagnostic.Body
import GrammarBench.Proofs.Text.Decimal
import Mathlib.Data.List.DropRight

/-!
# What a line of the tool is taken for

A line is taken to pieces in the way that its first reading has it (`readParts_cases`), so the message
of a line is that of its first reading, and an information when it has none (`ofLine?_spec`).
-/

namespace GrammarBench.Diagnostic

open GrammarBench.Text

/-- The message that a reading stands for. A number that cannot be told is left out. -/
def Reading.diagnostic (r : Reading) : Diagnostic where
  severity := r.severity
  code := u32? r.code
  file := r.body.place.map fun (p, _) => String.ofList p.file
  line := r.body.place.bind fun (p, _) => u32? p.line
  column := r.body.place.bind fun (p, _) => u32? p.column
  message := String.ofList r.body.text

/-! ## The first reading -/

theorem Reading.Of.takeLabel {r : Reading} {t : List Char} (h : r.Of t) :
    Diagnostic.takeLabel t = some (r.severity, r.code, r.blanks ++ r.body.chars) :=
  takeLabel_eq_some.mpr ⟨h.1.severity, h.1.code, h.2.symm⟩

/-- Readings of a line differ only behind the code. -/
theorem Reading.Of.spaced {r : Reading} {t rest code : List Char} {severity : Severity}
    (h : r.Of t) (hlabel : Diagnostic.takeLabel t = some (severity, code, rest)) :
    Spaced rest r.blanks r.body := by
  rw [h.takeLabel] at hlabel
  cases hlabel
  exact ⟨h.1.blanks, h.1.body, rfl⟩

/-- **A line is taken to pieces as its first reading has it.** -/
theorem readParts_cases (t : List Char) :
    (readParts t = none ∧ ∀ r : Reading, ¬r.Of t)
      ∨ ∃ r : Reading, r.First t
        ∧ readParts t = some (r.severity, r.code, r.body.parts.1, r.body.parts.2) := by
  rcases hlabel : takeLabel t with _ | ⟨severity, code, rest⟩
  · refine .inl ⟨by simp [readParts, hlabel], ?_⟩
    intro r h
    rw [h.takeLabel] at hlabel
    cases hlabel
  obtain ⟨hseverity, hcode, hchars⟩ := takeLabel_eq_some.mp hlabel
  rcases takeAfterBlanks_cases rest with ⟨hnone, hno⟩ | ⟨blanks, b, hspaced, htake, hfirst⟩
  · refine .inl ⟨by simp [readParts, hlabel, hnone], ?_⟩
    intro r h
    exact hno _ _ (h.spaced hlabel)
  · refine .inr ⟨⟨severity, code, blanks, b⟩, ⟨⟨⟨hseverity, hcode, hspaced.all_blank,
      hspaced.valid⟩, ?_⟩, ?_⟩, by simp [readParts, hlabel, htake]⟩
    · rw [hchars, ← hspaced.chars]
      rfl
    · intro r' h'
      exact hfirst _ _ (h'.spaced hlabel)

/-- The message of a line is that of the pieces. -/
theorem Reading.First.parts_diagnostic {r : Reading} {t : List Char} (h : r.First t) :
    { severity := r.severity
      code := boundedDecimal? numberBound r.code
      file := r.body.parts.1.map fun p => String.ofList p.file
      line := r.body.parts.1.bind fun p => boundedDecimal? numberBound p.line
      column := r.body.parts.1.bind fun p => boundedDecimal? numberBound p.column
      message := String.ofList r.body.parts.2 } = r.diagnostic := by
  have hvalid := h.1.1
  have hbound : numberBound = 4294967296 := by decide
  rw [hbound, boundedDecimal?_eq_u32? hvalid.code.1, Reading.diagnostic, Body.parts]
  rcases hplace : r.body.place with _ | ⟨p, gap⟩
  · rfl
  · have hp := (hvalid.body.place p gap hplace).1
    dsimp only [Option.map_some, Option.bind_some]
    rw [boundedDecimal?_eq_u32? hp.line.1, boundedDecimal?_eq_u32? hp.column.1]

/-! ## The message of a line -/

/-- A line without the blanks at its end. -/
def trimmed (line : String) : List Char :=
  line.toList.rdropWhile isBlank

theorem Reading.Of.ne_nil {r : Reading} {t : List Char} (h : r.Of t) : t ≠ [] := by
  rintro rfl
  have hlabel := h.takeLabel
  cases hlabel

theorem ofLine?_of_no_reading {line : String} (ht : trimmed line ≠ [])
    (h : ∀ r : Reading, ¬r.Of (trimmed line)) :
    ofLine? line = some (plain .info (String.ofList (trimmed line))) := by
  have hcs : trimBlanksRight line.toList = trimmed line := rfl
  have hempty : (trimmed line).isEmpty = false := by simpa using ht
  rcases readParts_cases (trimmed line) with ⟨hnone, -⟩ | ⟨r, hfirst, -⟩
  · simp [ofLine?, hcs, hempty, hnone]
  · exact absurd hfirst.1 (h r)

theorem ofLine?_of_reading {line : String} {r : Reading} (h : r.Of (trimmed line)) :
    ∃ r' : Reading, r'.First (trimmed line) ∧ ofLine? line = some r'.diagnostic := by
  have hcs : trimBlanksRight line.toList = trimmed line := rfl
  have hempty : (trimmed line).isEmpty = false := by simpa using h.ne_nil
  rcases readParts_cases (trimmed line) with ⟨-, hno⟩ | ⟨r', hfirst, hparts⟩
  · exact absurd h (hno r)
  · refine ⟨r', hfirst, ?_⟩
    rw [← hfirst.parts_diagnostic]
    simp [ofLine?, hcs, hempty, hparts]

theorem ofLine?_eq_none {line : String} : ofLine? line = none ↔ trimmed line = [] := by
  constructor
  · intro h
    by_contra ht
    by_cases hread : ∃ r : Reading, r.Of (trimmed line)
    · obtain ⟨r, hr⟩ := hread
      obtain ⟨r', -, hsome⟩ := ofLine?_of_reading hr
      rw [h] at hsome
      cases hsome
    · rw [ofLine?_of_no_reading ht (not_exists.mp hread)] at h
      cases h
  · intro ht
    have hcs : trimBlanksRight line.toList = [] := ht
    simp [ofLine?, hcs]

/-- **What a line is taken for.** A line that is blank is nothing, one that cannot be read as a
message is an information, and any other is the message of its first reading, of which there is
exactly one. -/
theorem ofLine?_spec (line : String) :
    (ofLine? line = none ↔ trimmed line = [])
      ∧ (trimmed line ≠ [] → (∀ r : Reading, ¬r.Of (trimmed line)) →
        ofLine? line = some
          { severity := .info, code := none, file := none, line := none, column := none
            message := String.ofList (trimmed line) })
      ∧ ((∃ r : Reading, r.Of (trimmed line)) →
        ∃ r : Reading, r.First (trimmed line) ∧ (∀ r' : Reading, r'.First (trimmed line) → r' = r)
          ∧ ofLine? line = some r.diagnostic) := by
  refine ⟨ofLine?_eq_none, ofLine?_of_no_reading, ?_⟩
  rintro ⟨r, hr⟩
  obtain ⟨r', hfirst, hline⟩ := ofLine?_of_reading hr
  exact ⟨r', hfirst, fun _ hfirst' => hfirst'.unique hfirst, hline⟩

end GrammarBench.Diagnostic
