import GrammarBench.Proofs.Diagnostic.RoundTrip

/-!
# Messages of lines that survive being shown

A message that was read off a line is canonical already, but for its numbers: the first reading
leaves no blanks around the text, takes the shortest name and hides no place in a text. Being shown
changes only the blanks and the digits of the numbers, and digits are no concern of where a name
ends. So the message comes back from its line exactly when none of its numbers was lost on the way
in (`ofLine?_display_of_ofLine?`).
-/

namespace GrammarBench.Diagnostic

open GrammarBench.Text

variable {line : String} {d : Diagnostic}

/-! ## Numbers that are kept -/

/-- The numbers of a reading as they are written: the code, and those of the place. -/
def Reading.numbers (r : Reading) : List (List Char) :=
  r.code :: match r.body.place with
    | none => []
    | some (p, _) => [p.line, p.column]

/-- The digits are those of ASCII, and the number that they write has 32 bits. -/
def Fits (digits : List Char) : Prop :=
  (∀ c ∈ digits, c.isDigit = true) ∧ Nat.ofDigitChars 10 digits 0 ≤ 4294967295

theorem fits_iff {digits : List Char} : Fits digits ↔ (u32? digits).isSome = true := by
  rw [Fits, u32?, ← List.all_eq_true]
  split
  · rename_i h
    exact iff_of_true h rfl
  · rename_i h
    exact iff_of_false h (by simp)

/-- No number of a message is missing exactly when all those that its line writes fit. -/
theorem Reading.complete_iff (r : Reading) :
    r.diagnostic.Complete ↔ ∀ digits ∈ r.numbers, Fits digits := by
  rw [Reading.numbers, List.forall_mem_cons, fits_iff, Complete, Reading.diagnostic]
  rcases r.body.place with _ | ⟨p, gap⟩
  · simp
  · simp [fits_iff]

/-! ## The messages that come back -/

theorem Reading.First.newline_not_mem_body {r : Reading} (h : r.First (trimmed line))
    (hline : '\n' ∉ line.toList) : '\n' ∉ r.body.chars := by
  obtain ⟨blanks, -, happend⟩ := trimmed_append line
  intro hmem
  refine hline ?_
  rw [← happend, ← h.1.2, Reading.chars]
  simp [hmem]

/-- A report that was read off a line survives exactly when no number of it is missing. -/
theorem Reading.First.ofLine?_display {r : Reading} (h : r.First (trimmed line))
    (hline : '\n' ∉ line.toList) :
    ofLine? r.diagnostic.display = some r.diagnostic ↔ r.diagnostic.Complete := by
  have hs : r.diagnostic.severity ≠ .info := by
    intro hinfo
    rcases h.1.1.severity with hlabel | hlabel
    · cases hlabel.symm.trans hinfo
    · cases hlabel.symm.trans hinfo
  constructor
  · intro hback
    obtain ⟨r', n, blanks, hread⟩ := readBack_of_ofLine? hback hs
    exact hread.complete
  · intro hcomplete
    have hbody := h.newline_not_mem_body hline
    exact ofLine?_of_canonicalReport hs r.inRange_diagnostic (h.canonicalReport hbody hcomplete)

/-- **What a line was taken for comes back from being shown exactly when none of its numbers was
lost.** An information always does. A report does when it has a code, and with a file both the line
and the column; in terms of the line, when each of its numbers fits, however it is written. -/
theorem ofLine?_display_of_ofLine? (hline : '\n' ∉ line.toList) (h : ofLine? line = some d) :
    (ofLine? d.display = some d ↔
        d.severity = .info ∨ d.code.isSome = true
          ∧ (d.file = none ∨ d.line.isSome = true ∧ d.column.isSome = true))
      ∧ ((∀ r : Reading, ¬r.Of (trimmed line)) → ofLine? d.display = some d)
      ∧ ∀ r : Reading, r.First (trimmed line) →
          (ofLine? d.display = some d ↔ ∀ digits ∈ r.numbers, Fits digits) := by
  have hreport : ∀ r : Reading, r.First (trimmed line) → d = r.diagnostic := by
    intro r hfirst
    obtain ⟨r', hfirst', hread⟩ := ofLine?_of_reading hfirst.1
    rw [hfirst'.unique hfirst, h] at hread
    exact Option.some.inj hread
  have hinfo : d.severity = .info → ofLine? d.display = some d :=
    fun hs => ofLine?_of_canonicalInfo hs (canonicalInfo_of_ofLine? h hs)
  refine ⟨?_, ?_, ?_⟩
  · by_cases hs : d.severity = .info
    · exact iff_of_true (hinfo hs) (.inl hs)
    · obtain ⟨r, hfirst, rfl⟩ := first_of_ofLine? h hs
      rw [or_iff_right hs]
      exact hfirst.ofLine?_display hline
  · intro hunread
    refine hinfo ?_
    by_contra hs
    obtain ⟨r, hfirst, -⟩ := first_of_ofLine? h hs
    exact hunread r hfirst.1
  · intro r hfirst
    rw [hreport r hfirst, hfirst.ofLine?_display hline, r.complete_iff]

theorem ofLine?_display_zeros_and_blanks :
    '\n' ∉ "error(0050):  T.g4:01:4:  syntax ".toList
      ∧ ofLine? "error(0050):  T.g4:01:4:  syntax " =
        some ⟨.error, some 50, some "T.g4", some 1, some 4, "syntax"⟩
      ∧ ofLine? (display ⟨.error, some 50, some "T.g4", some 1, some 4, "syntax"⟩) =
        some ⟨.error, some 50, some "T.g4", some 1, some 4, "syntax"⟩ := by
  have hline : '\n' ∉ "error(0050):  T.g4:01:4:  syntax ".toList := by decide
  have hread : ofLine? "error(0050):  T.g4:01:4:  syntax " =
      some ⟨.error, some 50, some "T.g4", some 1, some 4, "syntax"⟩ := by decide
  have hkept := (ofLine?_display_of_ofLine? hline hread).1
  exact ⟨hline, hread, hkept.mpr (.inr ⟨rfl, .inr ⟨rfl, rfl⟩⟩)⟩

end GrammarBench.Diagnostic
