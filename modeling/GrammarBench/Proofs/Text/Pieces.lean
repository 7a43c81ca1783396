import GrammarBench.Text.Pieces

/-!
# Pieces, and lines

Words that do not have the mark come back as they were when they are joined by it and the text is
taken apart at it again. The lines of a text are its pieces between the ends of lines; a text whose
every line is ended has an empty piece behind the last one.
-/

namespace GrammarBench.Text

theorem splitPieces_of_no_mark {mark : Char} {piece cs : List Char} (h : mark ∉ cs) :
    splitPieces (· == mark) piece cs = [piece.reverse ++ cs] := by
  induction cs generalizing piece with
  | nil => simp [splitPieces]
  | cons c cs ih =>
      rw [List.mem_cons, not_or] at h
      rw [splitPieces, if_neg (by simpa using Ne.symm h.1), ih h.2]
      simp

theorem splitPieces_append_mark {mark : Char} {piece cs : List Char} (h : mark ∉ cs)
    (rest : List Char) :
    splitPieces (· == mark) piece (cs ++ mark :: rest)
      = (piece.reverse ++ cs) :: pieces (· == mark) rest := by
  induction cs generalizing piece with
  | nil => simp [splitPieces, pieces]
  | cons c cs ih =>
      rw [List.mem_cons, not_or] at h
      rw [List.cons_append, splitPieces, if_neg (by simpa using Ne.symm h.1), ih h.2]
      simp

/-- Words without the mark are the pieces of what they are joined to by it. -/
theorem pieces_intercalate {mark : Char} {words : List (List Char)} (hne : words ≠ [])
    (h : ∀ word ∈ words, mark ∉ word) :
    pieces (· == mark) ([mark].intercalate words) = words := by
  induction words with
  | nil => exact absurd rfl hne
  | cons word words ih =>
      obtain ⟨hword, hwords⟩ := List.forall_mem_cons.mp h
      cases words with
      | nil => rw [List.intercalate_singleton, pieces, splitPieces_of_no_mark hword]; rfl
      | cons next words =>
          rw [List.intercalate_cons_cons, List.append_assoc, List.singleton_append, pieces,
            splitPieces_append_mark hword, ih (List.cons_ne_nil _ _) hwords]
          rfl

/-- The lines of a text. -/
def lines (text : String) : List String :=
  (pieces (· == '\n') text.toList).map String.ofList

/-- A line that is ended is the first line of the text. -/
theorem lines_of_toList_eq {text line rest : String}
    (htext : text.toList = line.toList ++ '\n' :: rest.toList) (hline : '\n' ∉ line.toList) :
    lines text = line :: lines rest := by
  rw [lines, htext, pieces, splitPieces_append_mark hline, List.map_cons, lines]
  simp

end GrammarBench.Text
