import GrammarBench.Proofs.Diagnostic.Parts

/-!
# The body that is taken

What `takeBody` takes from a text is the first body that the text can be read as, and where it takes
nothing there is none. If the text has a line break, neither a text nor the name of a file reaches
over it, so it lies in the blanks after a place (`Body.crosses`).

Behind the code the blanks come first. When the text behind all of them has no body, the last blank
is given back, and that is enough: a body that begins with two blanks or more has one that begins
later (`exists_body_of_cons`).
-/

namespace GrammarBench.Diagnostic

open GrammarBench.Text

def Body.parts (b : Body) : Option Place × List Char :=
  (b.place.map (·.1), b.text)

/-- Of the blanks at the front of a text, `takeWhile` takes at least as many as any other. -/
theorem length_le_takeWhile {class_ : Char → Bool} {front rest : List Char}
    (h : ∀ c ∈ front, class_ c = true) :
    front.length ≤ ((front ++ rest).takeWhile class_).length := by
  rw [List.takeWhile_append_of_pos h, List.length_append]
  exact Nat.le_add_right _ _

/-! ## Bodies of one line -/

theorem takeBody_of_line {cs : List Char} (hline : '\n' ∉ cs) {place : Option Place}
    {text : List Char}
    (h : (takePlace (fun _ => true) [] cs = none ∧ place = none ∧ text = cs)
      ∨ ∃ p rest, takePlace (fun _ => true) [] cs = some (p, rest) ∧ place = some p
        ∧ text = rest.dropWhile isBlank) :
    takeBody cs = some (place, text) := by
  have hne : ∀ c ∈ cs, (c != '\n') = true := by
    intro c hc
    simpa using fun heq : c = '\n' => hline (heq ▸ hc)
  have htake : cs.takeWhile (· != '\n') = cs := List.takeWhile_eq_self_iff.mpr hne
  have hdrop : cs.dropWhile (· != '\n') = [] := List.dropWhile_eq_nil_iff.mpr hne
  rcases h with ⟨hplace, rfl, rfl⟩ | ⟨p, rest, hplace, rfl, rfl⟩
  · simp only [takeBody, htake, hdrop, hplace]
  · simp only [takeBody, htake, hdrop, hplace]

/-- A text of one line always has a body, and the first one is taken. -/
theorem takeBody_first_of_line {cs : List Char} (hline : '\n' ∉ cs) :
    ∃ b : Body, b.First cs ∧ takeBody cs = some b.parts := by
  rcases hplace : takePlace (fun _ => true) [] cs with _ | ⟨p, rest⟩
  · refine ⟨⟨none, cs⟩, ⟨⟨by simp, hline⟩, rfl, ?_⟩,
      takeBody_of_line hline (.inl ⟨hplace, rfl, rfl⟩)⟩
    rintro ⟨_ | ⟨p', gap'⟩, text'⟩ hvalid hchars
    · exact trivial
    · exact takePlace_eq_none.mp hplace _ _ _ _ ((hvalid.place p' gap' rfl).1.named rfl hchars)
  · obtain ⟨name, hfile, hnamed, hshortest⟩ := takePlace_eq_some hplace
    rw [List.reverse_nil, List.nil_append] at hfile
    subst hfile
    have hcs := hnamed.place_chars
    refine ⟨⟨some (p, rest.takeWhile isBlank), rest.dropWhile isBlank⟩, ⟨⟨?_, ?_⟩, ?_, ?_⟩,
      takeBody_of_line hline (.inr ⟨p, rest, hplace, rfl, rfl⟩)⟩
    · rintro _ _ ⟨⟩
      exact ⟨hnamed.place_valid hline, fun c hc => List.mem_takeWhile_imp hc⟩
    · intro hmem
      refine hline (hcs ▸ List.mem_append_right _ ?_)
      exact (List.dropWhile_suffix isBlank).mem hmem
    · rw [Body.chars_some, List.takeWhile_append_dropWhile, hcs]
    · rintro ⟨_ | ⟨p', gap'⟩, text'⟩ hvalid hchars
      · exact trivial
      obtain ⟨hp', hgap'⟩ := hvalid.place p' gap' rfl
      have hnamed' : Named (fun _ => true) cs p'.file p'.line p'.column (gap' ++ text') :=
        hp'.named rfl hchars
      rcases Nat.lt_or_eq_of_le (hshortest _ _ _ _ hnamed') with hlt | heq
      · exact .inl hlt
      · obtain ⟨-, hrest⟩ := Place.chars_inj (hcs.trans hchars.symm) heq
          (hnamed.place_valid hline) hp'
        rw [hrest]
        exact .inr ⟨heq, length_le_takeWhile hgap'⟩

/-! ## Bodies with a line break -/

/-- A line break lies in the blanks after a place, so that the first line is the place and blanks.
-/
theorem Body.crosses {b : Body} {line more : List Char} (hvalid : b.Valid)
    (hchars : b.chars = line ++ '\n' :: more) :
    ∃ p rest blanks, b.place = some (p, rest ++ blanks) ∧ line = p.chars ++ rest
      ∧ (∀ c ∈ rest, isBlank c = true) ∧ (∀ c ∈ blanks, isBlank c = true)
      ∧ '\n' :: more = blanks ++ b.text := by
  obtain ⟨_ | ⟨p, gap⟩, text⟩ := b
  · refine absurd ?_ hvalid.text
    rw [Body.chars_none] at hchars
    simp [hchars]
  obtain ⟨hp, hgap⟩ := hvalid.place p gap rfl
  rw [Body.chars_some] at hchars
  -- a place has no line break, nor has a text, so that only the blanks between them are left
  have hbehind : ∃ rest, line = p.chars ++ rest ∧ gap ++ text = rest ++ '\n' :: more := by
    rcases List.append_eq_append_iff.mp hchars with hrest | ⟨past, hpast, hrest⟩
    · exact hrest
    · cases past with
      | nil => exact ⟨[], by simpa using hpast.symm, by simpa using hrest.symm⟩
      | cons c past =>
          obtain ⟨rfl, -⟩ := List.cons.inj hrest
          exact absurd (by rw [hpast]; simp) hp.newline_not_mem
  obtain ⟨rest, hline, hrest⟩ := hbehind
  rcases List.append_eq_append_iff.mp hrest with ⟨past, -, htext⟩ | ⟨blanks, hgaps, hmore⟩
  · refine absurd ?_ hvalid.text
    rw [htext]
    simp
  · refine ⟨p, rest, blanks, by rw [hgaps], hline, ?_, ?_, hmore⟩
    · exact fun c hc => hgap c (by rw [hgaps]; exact List.mem_append_left _ hc)
    · exact fun c hc => hgap c (by rw [hgaps]; exact List.mem_append_right _ hc)

theorem takeBody_of_break {line more : List Char} (hline : '\n' ∉ line) :
    takeBody (line ++ '\n' :: more) =
      let text := ('\n' :: more).dropWhile isBlank
      if '\n' ∈ text then none
      else (takePlace (·.all isBlank) [] line).map fun (place, _) => (some place, text) := by
  have hne : ∀ c ∈ line, (c != '\n') = true := by
    intro c hc
    simpa using fun heq : c = '\n' => hline (heq ▸ hc)
  have htake : (line ++ '\n' :: more).takeWhile (· != '\n') = line := by
    simp [List.takeWhile_append_of_pos hne]
  have hdrop : (line ++ '\n' :: more).dropWhile (· != '\n') = '\n' :: more := by
    simp [List.dropWhile_append_of_pos hne]
  rw [takeBody, htake, hdrop]

/-- Of a text with a line break, the first body is taken if there is one. -/
theorem takeBody_of_break_cases {line more : List Char} (hline : '\n' ∉ line) :
    (takeBody (line ++ '\n' :: more) = none
        ∧ ∀ b : Body, b.Valid → b.chars ≠ line ++ '\n' :: more)
      ∨ ∃ b : Body, b.First (line ++ '\n' :: more)
        ∧ takeBody (line ++ '\n' :: more) = some b.parts := by
  rw [takeBody_of_break hline]
  by_cases hbreak : '\n' ∈ ('\n' :: more).dropWhile isBlank
  · refine .inl ⟨by simp only [hbreak, if_true], ?_⟩
    intro b hvalid hchars
    obtain ⟨-, -, blanks, -, -, -, hblanks, hmore⟩ := Body.crosses hvalid hchars
    rw [hmore, List.dropWhile_append_of_pos hblanks] at hbreak
    exact hvalid.text ((List.dropWhile_suffix isBlank).mem hbreak)
  simp only [hbreak, if_false]
  rcases hplace : takePlace (·.all isBlank) [] line with _ | ⟨p, rest⟩
  · refine .inl ⟨rfl, ?_⟩
    intro b hvalid hchars
    obtain ⟨p, rest, blanks, hb, hp, hrest, -, -⟩ := Body.crosses hvalid hchars
    have hend : rest.all isBlank = true := List.all_eq_true.mpr hrest
    exact takePlace_eq_none.mp hplace _ _ _ _ ((hvalid.place _ _ hb).1.named hend hp.symm)
  · obtain ⟨name, hfile, hnamed, hshortest⟩ := takePlace_eq_some hplace
    rw [List.reverse_nil, List.nil_append] at hfile
    subst hfile
    have hp := hnamed.place_chars
    have hrest : ∀ c ∈ rest, isBlank c = true := List.all_eq_true.mp hnamed.accepted
    refine .inr ⟨⟨some (p, rest ++ ('\n' :: more).takeWhile isBlank),
      ('\n' :: more).dropWhile isBlank⟩, ⟨⟨?_, hbreak⟩, ?_, ?_⟩, rfl⟩
    · rintro _ _ ⟨⟩
      refine ⟨hnamed.place_valid hline, ?_⟩
      intro c hc
      rcases List.mem_append.mp hc with hc | hc
      · exact hrest c hc
      · exact List.mem_takeWhile_imp hc
    · rw [Body.chars_some, List.append_assoc, List.takeWhile_append_dropWhile, ← List.append_assoc,
        hp]
    · -- any other body has a place in the same line, and blanks from there on
      intro b' hvalid hchars
      obtain ⟨p', rest', blanks', hb', hp', hrest', hblanks', hmore⟩ := Body.crosses hvalid hchars
      have hplace' := (hvalid.place _ _ hb').1
      have hend : rest'.all isBlank = true := List.all_eq_true.mpr hrest'
      have hle := hshortest _ _ _ _ (hplace'.named hend hp'.symm)
      simp only [Body.Prefers, hb']
      rcases Nat.lt_or_eq_of_le hle with hlt | heq
      · exact .inl hlt
      · obtain ⟨-, rfl⟩ := Place.chars_inj (hp.trans hp') heq (hnamed.place_valid hline) hplace'
        refine .inr ⟨heq, ?_⟩
        rw [hmore, List.length_append, List.length_append]
        exact Nat.add_le_add_left (length_le_takeWhile hblanks') _

/-- **The first body is taken, if there is one.** -/
theorem takeBody_cases (cs : List Char) :
    (takeBody cs = none ∧ ∀ b : Body, b.Valid → b.chars ≠ cs)
      ∨ ∃ b : Body, b.First cs ∧ takeBody cs = some b.parts := by
  by_cases hline : '\n' ∈ cs
  · obtain ⟨line, more, rfl, hfirst⟩ := List.eq_append_cons_of_mem hline
    exact takeBody_of_break_cases hfirst
  · exact .inr (takeBody_first_of_line hline)

/-! ## Blanks before a body -/

/-- A body that begins with two characters, the second of which is no colon, can do without the
first: the text or the name of the file begins later. -/
theorem exists_body_of_cons {c d : Char} {cs : List Char} {b : Body} (hd : d ≠ ':')
    (hvalid : b.Valid) (hchars : b.chars = c :: d :: cs) :
    ∃ b' : Body, b'.Valid ∧ b'.chars = d :: cs := by
  obtain ⟨_ | ⟨p, gap⟩, text⟩ := b
  · have htext : text = c :: d :: cs := hchars
    refine ⟨⟨none, d :: cs⟩, ⟨by simp, fun hmem => hvalid.text ?_⟩, rfl⟩
    rw [htext]
    exact List.mem_cons_of_mem _ hmem
  · obtain ⟨hp, hgap⟩ := hvalid.place p gap rfl
    obtain ⟨c', file, hfile⟩ := List.exists_cons_of_ne_nil hp.file_ne_nil
    rw [Body.chars_some, Place.chars, hfile] at hchars
    obtain ⟨-, hrest⟩ := List.cons.inj hchars
    have hne : file ≠ [] := by
      rintro rfl
      exact hd (List.cons.inj hrest).1.symm
    refine ⟨⟨some (⟨file, p.line, p.column⟩, gap), text⟩, ⟨?_, hvalid.text⟩, hrest⟩
    rintro _ _ ⟨⟩
    refine ⟨⟨hne, fun hmem => hp.file_line ?_, hp.line, hp.column⟩, hgap⟩
    rw [hfile]
    exact List.mem_cons_of_mem _ hmem

theorem ne_colon_of_isBlank {c : Char} (h : isBlank c = true) : c ≠ ':' := by
  rintro rfl
  cases isBlank_colon.symm.trans h

/-- A body behind some of the blanks gives one behind all of them but the last. -/
theorem exists_body_of_blanks {cs : List Char} (blanks : List Char) {last : Char} {b : Body}
    (hblanks : ∀ c ∈ blanks ++ [last], isBlank c = true) (hvalid : b.Valid)
    (hchars : b.chars = blanks ++ [last] ++ cs) :
    ∃ b' : Body, b'.Valid ∧ b'.chars = last :: cs := by
  induction blanks generalizing b with
  | nil => exact ⟨b, hvalid, hchars⟩
  | cons c blanks ih =>
      have hmore : ∀ c ∈ blanks ++ [last], isBlank c = true :=
        fun c hc => hblanks c (List.mem_cons_of_mem _ hc)
      obtain ⟨d, rest, hrest⟩ : ∃ d rest, blanks ++ [last] = d :: rest :=
        List.exists_cons_of_ne_nil (by simp)
      have hd : d ≠ ':' := ne_colon_of_isBlank (hmore d (by simp [hrest]))
      rw [List.cons_append, List.cons_append, hrest] at hchars
      obtain ⟨b', hvalid', hchars'⟩ := exists_body_of_cons hd hvalid hchars
      exact ih hmore hvalid' (by rw [hchars', hrest]; rfl)

/-- Blanks and a body behind them, as parts of the text behind the code. -/
structure Spaced (cs blanks : List Char) (b : Body) : Prop where
  all_blank : ∀ c ∈ blanks, isBlank c = true
  valid : b.Valid
  chars : blanks ++ b.chars = cs

/-- What the body takes of the blanks is what is left of them. -/
theorem Spaced.takeWhile {cs blanks : List Char} {b : Body} (h : Spaced cs blanks b) :
    cs.takeWhile isBlank = blanks ++ b.chars.takeWhile isBlank := by
  rw [← h.chars, List.takeWhile_append_of_pos h.all_blank]

theorem Spaced.dropWhile {cs blanks : List Char} {b : Body} (h : Spaced cs blanks b) :
    cs.dropWhile isBlank = b.chars.dropWhile isBlank := by
  rw [← h.chars, List.dropWhile_append_of_pos h.all_blank]

theorem Spaced.body_chars {cs blanks : List Char} {b : Body} (h : Spaced cs blanks b) :
    b.chars = b.chars.takeWhile isBlank ++ cs.dropWhile isBlank := by
  rw [h.dropWhile, List.takeWhile_append_dropWhile]

/-- If no body begins behind all the blanks, one that is there begins with the last of them. -/
theorem Spaced.exists_last {cs blanks : List Char} {b : Body} (h : Spaced cs blanks b)
    (hno : ∀ b : Body, b.Valid → b.chars ≠ cs.dropWhile isBlank) :
    ∃ front last, b.chars.takeWhile isBlank = front ++ [last]
      ∧ cs.takeWhile isBlank = (blanks ++ front) ++ [last] := by
  rcases List.eq_nil_or_concat (b.chars.takeWhile isBlank) with hnil | ⟨front, last, hconcat⟩
  · refine absurd ?_ (hno b h.valid)
    have hbody := h.body_chars
    rwa [hnil] at hbody
  · rw [List.concat_eq_append] at hconcat
    exact ⟨front, last, hconcat, by rw [h.takeWhile, hconcat, List.append_assoc]⟩

theorem Spaced.exists_front {cs blanks init : List Char} {last : Char} {b : Body}
    (h : Spaced cs blanks b) (hno : ∀ b : Body, b.Valid → b.chars ≠ cs.dropWhile isBlank)
    (hblanks : cs.takeWhile isBlank = init ++ [last]) :
    ∃ front, init = blanks ++ front ∧ b.chars = front ++ [last] ++ cs.dropWhile isBlank := by
  obtain ⟨front, last', htake, hall⟩ := h.exists_last hno
  obtain ⟨rfl, hsame⟩ := List.append_inj' (hblanks.symm.trans hall) rfl
  obtain rfl : last = last' := (List.cons.inj hsame).1
  exact ⟨front, rfl, by rw [h.body_chars, htake]⟩

/-- **The most blanks are taken behind which there is a body, and the first body there.** -/
theorem takeAfterBlanks_cases (cs : List Char) :
    (takeAfterBlanks cs = none ∧ ∀ blanks b, ¬Spaced cs blanks b)
      ∨ ∃ blanks b, Spaced cs blanks b ∧ takeAfterBlanks cs = some b.parts
        ∧ ∀ blanks' b', Spaced cs blanks' b' →
          blanks'.length < blanks.length ∨ blanks'.length = blanks.length ∧ b.Prefers b' := by
  unfold takeAfterBlanks
  dsimp only
  have hall : ∀ c ∈ cs.takeWhile isBlank, isBlank c = true := fun c hc => List.mem_takeWhile_imp hc
  rcases takeBody_cases (cs.dropWhile isBlank) with ⟨hnone, hno⟩ | ⟨b, hfirst, htake⟩
  · -- no body begins behind all the blanks, so the last of them is given back
    rcases List.eq_nil_or_concat (cs.takeWhile isBlank) with hnil | ⟨init, last, hconcat⟩
    · refine .inl ⟨by simp [hnone, hnil], ?_⟩
      intro blanks b h
      obtain ⟨front, last, -, htake⟩ := h.exists_last hno
      rw [hnil] at htake
      simp at htake
    · rw [List.concat_eq_append] at hconcat
      rw [hnone, hconcat, List.getLast?_concat]
      dsimp only [Option.bind_some]
      rcases takeBody_cases (last :: cs.dropWhile isBlank) with ⟨hnone', hno'⟩ | ⟨b, hfirst, htake⟩
      · refine .inl ⟨hnone', ?_⟩
        intro blanks b h
        obtain ⟨front, hinit, hchars⟩ := h.exists_front hno hconcat
        have hfront : ∀ c ∈ front ++ [last], isBlank c = true := by
          intro c hc
          refine hall c ?_
          rw [hconcat, hinit, List.append_assoc]
          exact List.mem_append_right _ hc
        obtain ⟨b', hvalid', hchars'⟩ := exists_body_of_blanks front hfront h.valid hchars
        exact hno' b' hvalid' hchars'
      · refine .inr ⟨init, b, ⟨?_, hfirst.valid, ?_⟩, htake, ?_⟩
        · exact fun c hc => hall c (by rw [hconcat]; exact List.mem_append_left _ hc)
        · have hcs : cs.takeWhile isBlank ++ cs.dropWhile isBlank = cs :=
            List.takeWhile_append_dropWhile
          rw [hconcat, List.append_assoc] at hcs
          rw [hfirst.chars]
          exact hcs
        · intro blanks' b' h'
          obtain ⟨front, rfl, hchars⟩ := h'.exists_front hno hconcat
          cases front with
          | nil => exact .inr ⟨by simp, hfirst.prefers b' h'.valid hchars⟩
          | cons c front => exact .inl (by simp)
  · refine .inr ⟨cs.takeWhile isBlank, b, ⟨hall, hfirst.valid, ?_⟩, by rw [htake], ?_⟩
    · rw [hfirst.chars, List.takeWhile_append_dropWhile]
    · intro blanks' b' h'
      have hbody := h'.body_chars
      rw [h'.takeWhile]
      cases hleft : b'.chars.takeWhile isBlank with
      | nil =>
          rw [hleft] at hbody
          exact .inr ⟨by simp, hfirst.prefers b' h'.valid hbody⟩
      | cons c left => exact .inl (by simp)

end GrammarBench.Diagnostic
