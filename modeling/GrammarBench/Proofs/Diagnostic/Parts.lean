import GrammarBench.Proofs.Diagnostic.Grammar
import Mathlib.Data.List.TakeWhile

/-!
# The parts of a line as they are taken

Each function that takes a part from the front of a line takes it exactly where the form of a message
line has it. For a place this is a search: the name of the file grows until numbers follow it, so it
is the shortest for which the rest is accepted (`takePlace_eq_some`), and when no name will do, there
is none (`takePlace_eq_none`).
-/

namespace GrammarBench.Diagnostic

open GrammarBench.Text

/-- Digits are taken up to a character that is none. -/
theorem takeNumber_eq_some {cs ds rest : List Char} {x : Char} (hx : isDigit x = false) :
    takeNumber cs = some (ds, x :: rest) ↔ IsNumber ds ∧ cs = ds ++ x :: rest := by
  constructor
  · intro h
    simp only [takeNumber] at h
    split at h
    · cases h
    · rename_i hempty
      simp only [Option.some.injEq, Prod.mk.injEq] at h
      obtain ⟨rfl, hrest⟩ := h
      refine ⟨⟨by simpa using hempty, fun c hc => List.mem_takeWhile_imp hc⟩, ?_⟩
      rw [← hrest, List.takeWhile_append_dropWhile]
  · rintro ⟨⟨hne, hdigits⟩, rfl⟩
    have htake : (ds ++ x :: rest).takeWhile isDigit = ds := by
      simp [List.takeWhile_append_of_pos hdigits, hx]
    have hdrop : (ds ++ x :: rest).dropWhile isDigit = x :: rest := by
      simp [List.dropWhile_append_of_pos hdigits, hx]
    simp [takeNumber, htake, hdrop, hne]

/-- The code behind the opening parenthesis, and what follows the colon after it. -/
def takeCode (severity : Severity) (cs : List Char) :
    Option (Severity × List Char × List Char) := do
  let (code, cs) ← takeNumber cs
  match cs with
  | ')' :: ':' :: rest => some (severity, code, rest)
  | _ => none

theorem takeLabel_eq (cs : List Char) :
    takeLabel cs =
      if "error(".toList.isPrefixOf cs then takeCode .error (cs.drop 6)
      else if "warning(".toList.isPrefixOf cs then takeCode .warning (cs.drop 8)
      else none := rfl

theorem takeCode_eq_some {severity severity' : Severity} {cs code rest : List Char} :
    takeCode severity cs = some (severity', code, rest) ↔
      severity = severity' ∧ IsNumber code ∧ cs = code ++ ')' :: ':' :: rest := by
  constructor
  · intro h
    obtain ⟨⟨digits, after⟩, hnumber, h⟩ := Option.bind_eq_some_iff.mp h
    dsimp only at h
    split at h
    · cases h
      exact ⟨rfl, (takeNumber_eq_some isDigit_paren).mp hnumber⟩
    · cases h
  · rintro ⟨rfl, hcode⟩
    rw [takeCode, (takeNumber_eq_some isDigit_paren).mpr hcode]
    rfl

theorem takeLabel_eq_some {cs code rest : List Char} {severity : Severity} :
    takeLabel cs = some (severity, code, rest) ↔
      (severity = .error ∨ severity = .warning) ∧ IsNumber code
        ∧ cs = labelChars severity ++ '(' :: (code ++ ')' :: ':' :: rest) := by
  rw [takeLabel_eq]
  constructor
  · intro h
    split at h
    · rename_i hprefix
      obtain ⟨after, rfl⟩ := List.isPrefixOf_iff_prefix.mp hprefix
      obtain ⟨rfl, hcode, rfl⟩ := takeCode_eq_some.mp h
      exact ⟨.inl rfl, hcode, rfl⟩
    · split at h
      · rename_i hprefix
        obtain ⟨after, rfl⟩ := List.isPrefixOf_iff_prefix.mp hprefix
        obtain ⟨rfl, hcode, rfl⟩ := takeCode_eq_some.mp h
        exact ⟨.inr rfl, hcode, rfl⟩
      · cases h
  · rintro ⟨rfl | rfl, hcode, rfl⟩
    · exact takeCode_eq_some.mpr ⟨rfl, hcode, rfl⟩
    · exact takeCode_eq_some.mpr ⟨rfl, hcode, rfl⟩

theorem takePosition_eq_some {cs line column rest : List Char} :
    takePosition cs = some (line, column, rest) ↔
      IsNumber line ∧ IsNumber column ∧ cs = positionChars line column ++ rest := by
  constructor
  · intro h
    unfold takePosition at h
    split at h
    · rename_i cs'
      split at h
      · rename_i line' cs'' hline
        obtain ⟨hnumber, rfl⟩ := (takeNumber_eq_some isDigit_colon).mp hline
        split at h
        · rename_i column' rest' hcolumn
          obtain ⟨hnumber', rfl⟩ := (takeNumber_eq_some isDigit_colon).mp hcolumn
          simp only [Option.some.injEq, Prod.mk.injEq] at h
          obtain ⟨rfl, rfl, rfl⟩ := h
          exact ⟨hnumber, hnumber', by simp [positionChars]⟩
        · cases h
      · cases h
    · cases h
  · rintro ⟨hline, hcolumn, rfl⟩
    have hchars : positionChars line column ++ rest
        = ':' :: (line ++ ':' :: (column ++ ':' :: rest)) := by simp [positionChars]
    rw [hchars, takePosition, (takeNumber_eq_some isDigit_colon).mpr ⟨hline, rfl⟩]
    simp only [(takeNumber_eq_some isDigit_colon).mpr ⟨hcolumn, rfl⟩]

/-! ## The search for a place -/

/-- The text is a name with numbers behind it and then `rest`. -/
structure Named (isEnd : List Char → Bool) (cs name line column rest : List Char) : Prop where
  name_ne_nil : name ≠ []
  line_number : IsNumber line
  column_number : IsNumber column
  chars : cs = name ++ (positionChars line column ++ rest)
  accepted : isEnd rest = true

variable {isEnd : List Char → Bool} {c : Char} {cs name line column rest : List Char}

theorem Place.Valid.named {p : Place} (hp : p.Valid) (hend : isEnd rest = true)
    (hchars : p.chars ++ rest = cs) : Named isEnd cs p.file p.line p.column rest where
  name_ne_nil := hp.file_ne_nil
  line_number := hp.line
  column_number := hp.column
  chars := by rw [← hchars, Place.chars, List.append_assoc]
  accepted := hend

theorem Named.place_chars {p : Place} (h : Named isEnd cs p.file p.line p.column rest) :
    p.chars ++ rest = cs := by
  rw [h.chars, Place.chars, List.append_assoc]

theorem Named.place_valid {p : Place} (h : Named isEnd cs p.file p.line p.column rest)
    (hline : '\n' ∉ cs) : p.Valid where
  file_ne_nil := h.name_ne_nil
  file_line hmem := hline (by rw [h.chars]; exact List.mem_append_left _ hmem)
  line := h.line_number
  column := h.column_number

/-- A name of one character, or a longer one that begins with it. -/
theorem named_cons :
    Named isEnd (c :: cs) name line column rest ↔
      (name = [c] ∧ takePosition cs = some (line, column, rest) ∧ isEnd rest = true)
        ∨ ∃ name', name = c :: name' ∧ Named isEnd cs name' line column rest := by
  constructor
  · rintro ⟨hne, hline, hcolumn, hchars, hend⟩
    obtain ⟨c', name', rfl⟩ := List.exists_cons_of_ne_nil hne
    obtain ⟨rfl, hcs⟩ := List.cons.inj hchars
    by_cases hname : name' = []
    · subst hname
      exact .inl ⟨rfl, takePosition_eq_some.mpr ⟨hline, hcolumn, hcs⟩, hend⟩
    · exact .inr ⟨name', rfl, hname, hline, hcolumn, hcs, hend⟩
  · rintro (⟨rfl, hposition, hend⟩ | ⟨name', rfl, _, hline, hcolumn, hcs, hend⟩)
    · obtain ⟨hline, hcolumn, rfl⟩ := takePosition_eq_some.mp hposition
      exact ⟨by simp, hline, hcolumn, rfl, hend⟩
    · exact ⟨by simp, hline, hcolumn, by rw [hcs]; rfl, hend⟩

theorem not_named_nil : ¬Named isEnd [] name line column rest := by
  rintro ⟨hne, -, -, hchars, -⟩
  exact hne (List.append_eq_nil_iff.mp hchars.symm).1

/-- Where numbers follow the character, the name ends with it, unless what is behind them is refused;
then the name goes on. -/
theorem takePlace_cons (file : List Char) :
    (∃ line column rest, takePosition cs = some (line, column, rest) ∧ isEnd rest = true
        ∧ takePlace isEnd file (c :: cs) = some (⟨(c :: file).reverse, line, column⟩, rest))
      ∨ ((∀ line column rest, takePosition cs = some (line, column, rest) → isEnd rest = false)
        ∧ takePlace isEnd file (c :: cs) = takePlace isEnd (c :: file) cs) := by
  rcases hposition : takePosition cs with _ | ⟨line, column, rest⟩
  · exact .inr ⟨by simp, by simp [takePlace, hposition]⟩
  · cases hend : isEnd rest with
    | true => exact .inl ⟨line, column, rest, rfl, hend, by simp [takePlace, hposition, hend]⟩
    | false =>
        refine .inr ⟨?_, by simp [takePlace, hposition, hend]⟩
        rintro _ _ _ ⟨⟩
        exact hend

theorem takePlace_eq_none {file : List Char} :
    takePlace isEnd file cs = none ↔
      ∀ name line column rest, ¬Named isEnd cs name line column rest := by
  induction cs generalizing file with
  | nil => simp [takePlace, not_named_nil]
  | cons c cs ih =>
      rcases takePlace_cons file with
        ⟨line, column, rest, hposition, hend, htake⟩ | ⟨hrefused, htake⟩
      · rw [htake]
        refine iff_of_false (by simp) fun h => ?_
        exact h [c] line column rest (named_cons.mpr (.inl ⟨rfl, hposition, hend⟩))
      · rw [htake, ih]
        constructor
        · intro h name line column rest hnamed
          rcases named_cons.mp hnamed with ⟨-, hposition, hend⟩ | ⟨name', -, hnamed'⟩
          · rw [hrefused _ _ _ hposition] at hend
            cases hend
          · exact h name' line column rest hnamed'
        · intro h name line column rest hnamed
          exact h (c :: name) line column rest (named_cons.mpr (.inr ⟨name, rfl, hnamed⟩))

/-- The place that is found has the shortest name of all. -/
theorem takePlace_eq_some {file : List Char} {p : Place}
    (h : takePlace isEnd file cs = some (p, rest)) :
    ∃ name, p.file = file.reverse ++ name ∧ Named isEnd cs name p.line p.column rest
      ∧ ∀ name' line' column' rest', Named isEnd cs name' line' column' rest' →
        name.length ≤ name'.length := by
  induction cs generalizing file with
  | nil => cases h
  | cons c cs ih =>
      rcases takePlace_cons file with
        ⟨line, column, rest', hposition, hend, htake⟩ | ⟨hrefused, htake⟩
      · rw [htake] at h
        cases h
        refine ⟨[c], by simp, named_cons.mpr (.inl ⟨rfl, hposition, hend⟩), ?_⟩
        intro name' _ _ _ hnamed
        exact List.length_pos_iff.mpr hnamed.name_ne_nil
      · rw [htake] at h
        obtain ⟨name, hfile, hnamed, hshortest⟩ := ih h
        refine ⟨c :: name, by simp [hfile], named_cons.mpr (.inr ⟨name, rfl, hnamed⟩), ?_⟩
        intro name' line' column' rest' hnamed'
        rcases named_cons.mp hnamed' with ⟨-, hposition, hend⟩ | ⟨name'', rfl, hnamed''⟩
        · rw [hrefused _ _ _ hposition] at hend
          cases hend
        · exact Nat.succ_le_succ (hshortest _ _ _ _ hnamed'')

end GrammarBench.Diagnostic
