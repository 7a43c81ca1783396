import GrammarBench.Text.Blank
import Mathlib.Data.List.TakeWhile

/-!
# Words of a text

The words of a text are its longest pieces without a blank. What that means is said here without the
reader: `WordsOf cs words` holds when the text is the words in their order with blanks around them,
and nothing but the beginning, the end or a blank is next to a word. Each text has words in this
sense in one way only, and they are what the reader gives (`wordsOf_iff`).
-/

namespace GrammarBench.Text

/-- A word ends here: at the end of the text, or before a blank. -/
def EndsWord : List Char → Prop
  | [] => True
  | c :: _ => isBlank c = true

/-- The text is these words, with blanks before, between and behind them. -/
inductive WordsOf : List Char → List (List Char) → Prop
  | blank {gap : List Char} (hgap : ∀ c ∈ gap, isBlank c = true) : WordsOf gap []
  | word {gap word rest : List Char} {words : List (List Char)}
      (hgap : ∀ c ∈ gap, isBlank c = true) (hsome : word ≠ [])
      (hfree : ∀ c ∈ word, isBlank c = false) (hend : EndsWord rest) (h : WordsOf rest words) :
      WordsOf (gap ++ word ++ rest) (word :: words)

/-! ## Reading -/

theorem splitWords_blanks {gap : List Char} (hgap : ∀ c ∈ gap, isBlank c = true)
    (rest : List Char) : splitWords [] (gap ++ rest) = splitWords [] rest := by
  induction gap with
  | nil => rfl
  | cons c gap ih =>
      rw [List.forall_mem_cons] at hgap
      rw [List.cons_append, splitWords, if_pos hgap.1, ih hgap.2]
      rfl

theorem splitWords_free {word : List Char} (hfree : ∀ c ∈ word, isBlank c = false)
    (read rest : List Char) :
    splitWords read (word ++ rest) = splitWords (word.reverse ++ read) rest := by
  induction word generalizing read with
  | nil => rfl
  | cons c word ih =>
      rw [List.forall_mem_cons] at hfree
      rw [List.cons_append, splitWords, if_neg (by simp [hfree.1]), ih hfree.2]
      simp

/-- A word that has been read is given where it ends. -/
theorem splitWords_endsWord {read rest : List Char} (hread : read ≠ []) (hend : EndsWord rest) :
    splitWords read rest = read.reverse :: splitWords [] rest := by
  have hsome : read.isEmpty = false := by simpa using hread
  cases rest with
  | nil => simp [splitWords, hsome]
  | cons c rest =>
      have hblank : isBlank c = true := hend
      simp [splitWords, hsome, hblank]

theorem splitWords_word {gap word rest : List Char} (hgap : ∀ c ∈ gap, isBlank c = true)
    (hsome : word ≠ []) (hfree : ∀ c ∈ word, isBlank c = false) (hend : EndsWord rest) :
    splitWords [] (gap ++ word ++ rest) = word :: splitWords [] rest := by
  rw [List.append_assoc, splitWords_blanks hgap, splitWords_free hfree, List.append_nil,
    splitWords_endsWord (by simpa using hsome) hend, List.reverse_reverse]

theorem WordsOf.eq_splitWords {cs : List Char} {words : List (List Char)} (h : WordsOf cs words) :
    words = splitWords [] cs := by
  induction h with
  | @blank gap hgap =>
      have hnone := splitWords_blanks hgap []
      rw [List.append_nil] at hnone
      rw [hnone]
      rfl
  | word hgap hsome hfree hend _ ih => rw [splitWords_word hgap hsome hfree hend, ← ih]

/-- Where reading blanks or a word ends: a text comes apart there. -/
theorem exists_split (p : Char → Bool) (cs : List Char) : ∃ front rest, cs = front ++ rest
    ∧ (∀ c ∈ front, p c = true) ∧ ∀ c more, rest = c :: more → p c = false := by
  refine ⟨cs.takeWhile p, cs.dropWhile p, List.takeWhile_append_dropWhile.symm,
    fun c => List.mem_takeWhile_imp, fun c more hrest => ?_⟩
  have hhead := List.head?_dropWhile_not p cs
  rw [hrest] at hhead
  simpa using hhead

theorem wordsOf_splitWords (cs : List Char) : WordsOf cs (splitWords [] cs) := by
  -- on the length of the text: reading a word takes away at least one character
  induction hn : cs.length using Nat.strongRecOn generalizing cs with
  | ind n ih =>
      obtain ⟨gap, more, rfl, hgap, hmore⟩ := exists_split isBlank cs
      cases more with
      | nil =>
          rw [splitWords_blanks hgap, List.append_nil]
          exact .blank hgap
      | cons c more =>
          obtain ⟨word, rest, hsplit, hfree, hrest⟩ := exists_split (!isBlank ·) (c :: more)
          simp only [Bool.not_eq_true', Bool.not_eq_false'] at hfree hrest
          have hsome : word ≠ [] := by
            rintro rfl
            have hblank := hrest c more (by simpa using hsplit.symm)
            rw [hmore c more rfl] at hblank
            cases hblank
          have hend : EndsWord rest := by
            cases rest with
            | nil => trivial
            | cons d rest => exact hrest d rest rfl
          have hshorter : rest.length < n := by
            have hword := List.length_pos_iff.mpr hsome
            rw [hsplit, List.length_append, List.length_append] at hn
            omega
          rw [hsplit, ← List.append_assoc, splitWords_word hgap hsome hfree hend]
          exact .word hgap hsome hfree hend (ih _ hshorter rest rfl)

/-- **The words of a text** are its words in one way only. -/
theorem wordsOf_iff {s : String} {found : List String} :
    WordsOf s.toList (found.map String.toList) ↔ found = words s := by
  have hwords : (words s).map String.toList = splitWords [] s.toList := by
    rw [words, List.map_map]
    refine (List.map_congr_left fun cs _ => ?_).trans (List.map_id _)
    exact String.toList_ofList
  constructor
  · intro h
    have hlists := h.eq_splitWords
    rw [← hwords] at hlists
    exact (List.map_inj_right fun _ _ => String.toList_inj.mp).mp hlists
  · rintro rfl
    rw [hwords]
    exact wordsOf_splitWords _

/-! ## What words are -/

theorem WordsOf.ne_nil {cs : List Char} {words : List (List Char)} (h : WordsOf cs words) :
    ∀ word ∈ words, word ≠ [] := by
  induction h with
  | blank _ => exact fun word hmem => absurd hmem List.not_mem_nil
  | word _ hsome _ _ _ ih =>
      rw [List.forall_mem_cons]
      exact ⟨hsome, ih⟩

/-- A text without words is blank. -/
theorem WordsOf.blank_of_nil {cs : List Char} (h : WordsOf cs []) : ∀ c ∈ cs, isBlank c = true := by
  cases h with
  | blank hgap => exact hgap

theorem ne_empty_of_mem_words {s word : String} (hmem : word ∈ words s) : word ≠ "" := by
  have hwords := wordsOf_iff.mpr (rfl : words s = words s)
  have hne := hwords.ne_nil word.toList (List.mem_map_of_mem hmem)
  rintro rfl
  exact hne rfl

/-- The words and the blanks go by one class of characters, so a text that is not blank has a
word. -/
theorem words_ne_nil {s : String} (h : allBlank s = false) : words s ≠ [] := by
  intro hnil
  have hwords : WordsOf s.toList [] := by
    have hsame := wordsOf_iff.mpr (rfl : words s = words s)
    rwa [hnil] at hsame
  have hall : allBlank s = true := List.all_eq_true.mpr hwords.blank_of_nil
  rw [h] at hall
  cases hall

end GrammarBench.Text
