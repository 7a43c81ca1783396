import GrammarBench.Proofs.Diagnostic.Reading

/-!
# Messages that survive being shown

A message is shown as a line, and a line is read as a message. `Canonical` says which messages come
back as they were: those whose parts are read off their line again. What is shown between the code
and the text can only be lost in three ways: blanks run together with those that the form adds, a
text begins like a place, or a place ends before its file name does. The first reading of the line
shows which (`Reading.First.spaced_prefers`), and conversely the parts of a canonical message are the
first reading of its line.
-/

namespace GrammarBench.Diagnostic

open GrammarBench.Text

/-! ## Canonical messages -/

def NoBlankFirst (cs : List Char) : Prop :=
  ∀ c, cs.head? = some c → isBlank c = false

def NoBlankLast (cs : List Char) : Prop :=
  ∀ c, cs.getLast? = some c → isBlank c = false

/-- The text begins with a name and the numbers of a place. -/
def BeginsWithPlace (text : List Char) : Prop :=
  ∃ file line column rest, file ≠ [] ∧ IsNumber line ∧ IsNumber column
    ∧ text = file ++ (positionChars line column ++ rest)

/-- The numbers of a place already follow a part of the name. -/
def EndsEarly (file line column : List Char) : Prop :=
  ∃ front back line' column' rest, file = front ++ back ∧ front ≠ [] ∧ back ≠ []
    ∧ IsNumber line' ∧ IsNumber column'
    ∧ back ++ positionChars line column = positionChars line' column' ++ rest

/-- An information is its text alone, and that is not to be taken for anything else. -/
structure CanonicalInfo (d : Diagnostic) : Prop where
  code : d.code = none
  file : d.file = none
  line : d.line = none
  column : d.column = none
  nonblank : ∃ c ∈ d.message.toList, isBlank c = false
  no_blank_last : NoBlankLast d.message.toList
  unread : ∀ r : Reading, ¬r.Of d.message.toList

/-- An error or a warning has a code, and a place as a whole or not at all. -/
structure CanonicalReport (d : Diagnostic) : Prop where
  code : d.code.isSome = true
  one_line : '\n' ∉ d.message.toList
  no_blank_first : NoBlankFirst d.message.toList
  no_blank_last : NoBlankLast d.message.toList
  place :
    (d.file = none ∧ d.line = none ∧ d.column = none ∧ ¬BeginsWithPlace d.message.toList)
      ∨ ∃ file line column, d.file = some file ∧ d.line = some line ∧ d.column = some column
        ∧ file.toList ≠ [] ∧ '\n' ∉ file.toList ∧ NoBlankFirst file.toList
        ∧ ¬EndsEarly file.toList (toString line).toList (toString column).toList

def Canonical (d : Diagnostic) : Prop :=
  match d.severity with
  | .info => CanonicalInfo d
  | .error => CanonicalReport d
  | .warning => CanonicalReport d

def InRange (d : Diagnostic) : Prop :=
  ∀ n, d.code = some n ∨ d.line = some n ∨ d.column = some n → n ≤ 4294967295

/-! ## How a message is shown -/

/-- The digits of a number, as they are shown. -/
theorem isNumber_toDigits (n : Nat) : IsNumber (Nat.toDigits 10 n) := by
  refine ⟨Nat.toDigits_ne_nil, fun c hc => ?_⟩
  have hdigit : c.isDigit = true := Nat.isDigit_of_mem_toDigits (by omega) (by omega) hc
  have hrange : CharRange.holds (0x30, 0x39) c.toNat = true := by
    simpa [CharRange.holds] using Char.isDigit_iff_toNat.mp hdigit
  exact Bool.or_eq_true_iff.mpr (.inl hrange)

theorem toList_toString (n : Nat) : (toString n).toList = Nat.toDigits 10 n :=
  Nat.toList_repr

theorem display_info {d : Diagnostic} (h : d.severity = .info) : d.display = d.message := by
  rw [display, h]

def shownBody (d : Diagnostic) : List Char :=
  d.placeText.toList ++ d.message.toList

theorem display_of_code {d : Diagnostic} {n : Nat} (hs : d.severity ≠ .info)
    (hcode : d.code = some n) :
    d.display.toList = labelChars d.severity
      ++ '(' :: (Nat.toDigits 10 n ++ ')' :: ':' :: ' ' :: d.shownBody) := by
  have hdisplay : d.display = d.severity.name ++ d.codeText ++ ": " ++ d.placeText ++ d.message := by
    cases h : d.severity <;> simp_all [display]
  rw [hdisplay]
  simp [codeText, hcode, shownBody, labelChars]

theorem display_of_no_code {d : Diagnostic} (hs : d.severity ≠ .info) (hcode : d.code = none) :
    d.display.toList = labelChars d.severity ++ ':' :: ' ' :: d.shownBody := by
  have hdisplay : d.display = d.severity.name ++ d.codeText ++ ": " ++ d.placeText ++ d.message := by
    cases h : d.severity <;> simp_all [display]
  rw [hdisplay]
  simp [codeText, hcode, shownBody, labelChars]

theorem shownBody_of_place {d : Diagnostic} {file : String} {line column : Nat}
    (hfile : d.file = some file) (hline : d.line = some line) (hcolumn : d.column = some column) :
    d.shownBody = file.toList ++ (positionChars (Nat.toDigits 10 line) (Nat.toDigits 10 column)
      ++ ' ' :: d.message.toList) := by
  simp [shownBody, placeText, hfile, hline, hcolumn, positionChars]

theorem shownBody_of_no_place {d : Diagnostic}
    (h : d.file = none ∨ d.line = none ∨ d.column = none) : d.shownBody = d.message.toList := by
  have hplace : d.placeText = "" := by
    unfold placeText
    split
    · rename_i hfile hline hcolumn
      simp [hfile, hline, hcolumn] at h
    · rfl
  simp [shownBody, hplace]

/-! ## Lines without the blanks at their end -/

/-- What is trimmed off a line is blank. -/
theorem trimmed_append (line : String) :
    ∃ blanks, (∀ c ∈ blanks, isBlank c = true) ∧ trimmed line ++ blanks = line.toList :=
  ⟨line.toList.rtakeWhile isBlank, fun _ hc => List.mem_rtakeWhile_imp hc,
    List.rdropWhile_append_rtakeWhile⟩

theorem noBlankLast_trimmed (line : String) : NoBlankLast (trimmed line) := by
  intro c hc
  have hne : trimmed line ≠ [] := by
    intro hnil
    rw [hnil] at hc
    cases hc
  have hlast := List.rdropWhile_last_not isBlank line.toList hne
  rw [List.getLast?_eq_some_getLast hne, Option.some.injEq] at hc
  rw [← hc]
  exact Bool.eq_false_iff.mpr hlast

/-- A text that ends with no blank is all that is left when blanks follow it. -/
theorem trimmed_eq {line : String} {cs blanks : List Char} (hline : line.toList = cs ++ blanks)
    (hblanks : ∀ c ∈ blanks, isBlank c = true) (hcs : NoBlankLast cs) : trimmed line = cs := by
  have hself : cs.rdropWhile isBlank = cs := by
    rw [List.rdropWhile_eq_self_iff]
    intro hne
    rw [hcs _ (List.getLast?_eq_some_getLast hne)]
    exact Bool.false_ne_true
  have hreverse : ∀ c ∈ blanks.reverse, isBlank c = true :=
    fun c hc => hblanks c (List.mem_reverse.mp hc)
  rw [trimmed, hline, List.rdropWhile, List.reverse_append, List.dropWhile_append_of_pos hreverse]
  exact hself

theorem NoBlankLast.of_suffix {cs ds : List Char} (h : NoBlankLast cs) (hsuffix : ds <:+ cs) :
    NoBlankLast ds := by
  obtain ⟨front, rfl⟩ := hsuffix
  intro c hc
  refine h c ?_
  rw [List.getLast?_append, hc]
  rfl

theorem Reading.text_suffix (r : Reading) : r.body.text <:+ r.chars := by
  have hbody : r.body.text <:+ r.body.chars := by
    rcases hplace : r.body.place with _ | ⟨p, gap⟩
    · have hchars : r.body.chars = r.body.text := by rw [Body.chars, hplace]
      exact ⟨[], hchars.symm⟩
    · exact ⟨p.chars ++ gap, by simp [Body.chars, hplace]⟩
  refine hbody.trans ⟨labelChars r.severity ++ '(' :: (r.code ++ ')' :: ':' :: r.blanks), ?_⟩
  simp [Reading.chars]

/-! ## Other numbers behind a name -/

/-- Digits with a colon behind them are all of a text up to its first colon, or more colons follow
in the text. -/
theorem append_colon_cases {xs ys ds rest : List Char} (hds : ∀ c ∈ ds, isDigit c = true)
    (h : xs ++ ':' :: ys = ds ++ ':' :: rest) :
    xs = ds ∨ ∃ more, xs = ds ++ ':' :: more ∧ rest = more ++ ':' :: ys := by
  rcases List.append_eq_append_iff.mp h with ⟨front, hfront, hrest⟩ | ⟨back, hback, hrest⟩
  · rcases front with _ | ⟨c, front⟩
    · rw [List.append_nil] at hfront
      exact .inl hfront.symm
    · have hcolon : ':' = c := (List.cons.inj hrest).1
      have hdigit := hds c (by simp [hfront])
      rw [← hcolon, isDigit_colon] at hdigit
      cases hdigit
  · rcases back with _ | ⟨c, back⟩
    · rw [List.append_nil] at hback
      exact .inl hback
    · obtain ⟨rfl, hmore⟩ := List.cons.inj hrest
      exact .inr ⟨back, hback, hmore⟩

/-- Whether a name ends early does not depend on the numbers behind it, since one of the colons that
end it early stands in the name itself. -/
theorem EndsEarly.of_numbers {file line column line' column' : List Char}
    (h : EndsEarly file line column) (hline' : IsNumber line') :
    EndsEarly file line' column' := by
  obtain ⟨front, back, l, c, rest, hfile, hfront, hback, hl, hc, hnumbers⟩ := h
  obtain ⟨first, back, rfl⟩ := List.exists_cons_of_ne_nil hback
  simp only [positionChars, List.cons_append, List.append_assoc, List.nil_append,
    List.cons.injEq] at hnumbers
  obtain ⟨rfl, hnumbers⟩ := hnumbers
  rcases append_colon_cases hl.2 hnumbers with rfl | ⟨more, rfl, hmore⟩
  · -- the name goes on to the first number, so the next number is the line, whatever it is
    refine ⟨front, ':' :: back, back, line', column' ++ [':'], hfile, hfront, hback, hl, hline', ?_⟩
    simp [positionChars]
  · rcases append_colon_cases hc.2 hmore.symm with rfl | ⟨beyond, rfl, -⟩
    · refine ⟨front, _, l, more, line' ++ ':' :: (column' ++ [':']), hfile, hfront, hback, hl, hc,
        ?_⟩
      simp [positionChars]
    · refine ⟨front, _, l, c, beyond ++ positionChars line' column', hfile, hfront, hback, hl, hc,
        ?_⟩
      simp [positionChars]

/-! ## What the first reading tells -/

namespace Reading.First

variable {r : Reading} {t : List Char}

/-- Nothing behind the code goes before what the first reading has there. -/
theorem spaced_prefers (h : r.First t) {blanks : List Char} {b : Body}
    (hspaced : Spaced (r.blanks ++ r.body.chars) blanks b) :
    blanks.length < r.blanks.length ∨ blanks.length = r.blanks.length ∧ r.body.Prefers b := by
  have hvalid := h.1.1
  refine h.2 ⟨r.severity, r.code, blanks, b⟩ ⟨⟨hvalid.severity, hvalid.code, hspaced.all_blank,
    hspaced.valid⟩, ?_⟩
  rw [← h.1.2, chars, chars, hspaced.chars]

theorem body_prefers (h : r.First t) {b : Body} (hb : b.Valid) (hchars : b.chars = r.body.chars) :
    r.body.Prefers b := by
  rcases h.spaced_prefers ⟨h.1.1.blanks, hb, by rw [hchars]⟩ with hlt | ⟨-, hprefers⟩
  · omega
  · exact hprefers

/-- If there is no line break, the blanks before the body go as far as they can. -/
theorem noBlankFirst_body (h : r.First t) (hline : '\n' ∉ r.body.chars) :
    NoBlankFirst r.body.chars := by
  intro c hc
  obtain ⟨rest, hrest⟩ := List.head?_eq_some_iff.mp hc
  by_contra hblank
  rw [Bool.not_eq_false] at hblank
  have hspaced : Spaced (r.blanks ++ r.body.chars) (r.blanks ++ [c]) ⟨none, rest⟩ := by
    refine ⟨?_, ⟨by simp, fun hmem => hline ?_⟩, ?_⟩
    · intro d hd
      rcases List.mem_append.mp hd with hd | hd
      · exact h.1.1.blanks d hd
      · rw [List.mem_singleton.mp hd]
        exact hblank
    · rw [hrest]
      exact List.mem_cons_of_mem _ hmem
    · rw [hrest, List.append_assoc]
      rfl
  have hlength : (r.blanks ++ [c]).length = r.blanks.length + 1 := List.length_append
  rcases h.spaced_prefers hspaced with hlt | ⟨heq, -⟩
  · omega
  · omega

/-- The blanks before the text go as far as they can. -/
theorem noBlankFirst_text (h : r.First t) (hline : '\n' ∉ r.body.chars) :
    NoBlankFirst r.body.text := by
  rcases hplace : r.body.place with _ | ⟨p, gap⟩
  · have hchars : r.body.chars = r.body.text := by rw [Body.chars, hplace]
    rw [← hchars]
    exact h.noBlankFirst_body hline
  · intro c hc
    obtain ⟨rest, hrest⟩ := List.head?_eq_some_iff.mp hc
    obtain ⟨hp, hgap⟩ := h.1.1.body.place p gap hplace
    by_contra hblank
    rw [Bool.not_eq_false] at hblank
    have hvalid : Body.Valid ⟨some (p, gap ++ [c]), rest⟩ := by
      refine ⟨?_, fun hmem => h.1.1.body.text (by rw [hrest]; exact List.mem_cons_of_mem _ hmem)⟩
      rintro _ _ ⟨⟩
      refine ⟨hp, fun d hd => ?_⟩
      rcases List.mem_append.mp hd with hd | hd
      · exact hgap d hd
      · rw [List.mem_singleton.mp hd]
        exact hblank
    have hchars : Body.chars ⟨some (p, gap ++ [c]), rest⟩ = r.body.chars := by
      simp [Body.chars, hplace, hrest]
    have hprefers := h.body_prefers hvalid hchars
    simp only [Body.Prefers, hplace, List.length_append, List.length_singleton] at hprefers
    omega

/-- A text is read as a text only if it does not begin like a place. -/
theorem not_beginsWithPlace (h : r.First t) (hplace : r.body.place = none) :
    ¬BeginsWithPlace r.body.text := by
  rintro ⟨file, line, column, rest, hfile, hlineNumber, hcolumn, htext⟩
  have hline := h.1.1.body.text
  rw [htext] at hline
  have hvalid : Body.Valid ⟨some (⟨file, line, column⟩, []), rest⟩ := by
    refine ⟨?_, fun hmem => hline (by simp [hmem])⟩
    rintro _ _ ⟨⟩
    exact ⟨⟨hfile, fun hmem => hline (by simp [hmem]), hlineNumber, hcolumn⟩,
      by simp⟩
  have hchars : Body.chars ⟨some (⟨file, line, column⟩, []), rest⟩ = r.body.chars := by
    simp [Body.chars, hplace, htext, Place.chars]
  have hprefers := h.body_prefers hvalid hchars
  simp [Body.Prefers, hplace] at hprefers

/-- The name of the file is as short as can be. -/
theorem not_endsEarly (h : r.First t) (hline : '\n' ∉ r.body.chars) {p : Place} {gap : List Char}
    (hplace : r.body.place = some (p, gap)) : ¬EndsEarly p.file p.line p.column := by
  rintro ⟨front, back, line, column, rest, hfile, hfront, hback, hlineNumber, hcolumn, hnumbers⟩
  have hwhole : r.body.chars
      = front ++ (positionChars line column ++ (rest ++ (gap ++ r.body.text))) := by
    rw [Body.chars, hplace]
    dsimp only
    rw [Place.chars, hfile, List.append_assoc front, hnumbers]
    simp
  rw [hwhole] at hline
  have hvalid : Body.Valid ⟨some (⟨front, line, column⟩, []), rest ++ (gap ++ r.body.text)⟩ := by
    refine ⟨?_, fun hmem => hline ?_⟩
    · rintro _ _ ⟨⟩
      exact ⟨⟨hfront, fun hmem => hline (by simp [hmem]), hlineNumber, hcolumn⟩,
        by simp⟩
    · exact List.mem_append_right _ (List.mem_append_right _ hmem)
  have hchars : Body.chars ⟨some (⟨front, line, column⟩, []), rest ++ (gap ++ r.body.text)⟩
      = r.body.chars := by
    rw [hwhole]
    simp [Place.chars]
  have hprefers := h.body_prefers hvalid hchars
  have hlength : 0 < back.length := List.length_pos_iff.mpr hback
  simp only [Body.Prefers, hplace, hfile, List.length_append] at hprefers
  omega

end Reading.First

/-! ## A message of a line is canonical but for its numbers -/

variable {d : Diagnostic}

/-- A line with a reading gives the message of the first, which is an error or a warning. -/
theorem first_of_ofLine? {line : String} (h : ofLine? line = some d) (hs : d.severity ≠ .info) :
    ∃ r : Reading, r.First (trimmed line) ∧ r.diagnostic = d := by
  by_cases hread : ∃ r : Reading, r.Of (trimmed line)
  · obtain ⟨r, hr⟩ := hread
    obtain ⟨r', hfirst, hline⟩ := ofLine?_of_reading hr
    rw [h] at hline
    exact ⟨r', hfirst, (Option.some.inj hline).symm⟩
  · exfalso
    have ht : trimmed line ≠ [] := fun hnil => by
      rw [ofLine?_eq_none.mpr hnil] at h
      cases h
    rw [ofLine?_of_no_reading ht (not_exists.mp hread)] at h
    cases h
    exact hs rfl
/-- An information that was read off a line is the line without the blanks at its end. -/
theorem canonicalInfo_of_ofLine? {line : String} (h : ofLine? line = some d) (hs : d.severity = .info) :
    CanonicalInfo d := by
  have hunread : ∀ r : Reading, ¬r.Of (trimmed line) := by
    intro r hr
    obtain ⟨r', hfirst, hread⟩ := ofLine?_of_reading hr
    rw [h] at hread
    have hseverity : d.severity = r'.severity := congrArg severity (Option.some.inj hread)
    rcases hfirst.1.1.severity with hlabel | hlabel
    · rw [hs, hlabel] at hseverity
      cases hseverity
    · rw [hs, hlabel] at hseverity
      cases hseverity
  have ht : trimmed line ≠ [] := by
    intro hnil
    rw [ofLine?_eq_none.mpr hnil] at h
    cases h
  rw [ofLine?_of_no_reading ht hunread] at h
  obtain rfl := Option.some.inj h
  have hmessage : (String.ofList (trimmed line)).toList = trimmed line := String.toList_ofList
  have hlast := noBlankLast_trimmed line
  refine ⟨rfl, rfl, rfl, rfl, ?_, ?_, ?_⟩
  · refine ⟨(trimmed line).getLast ht, ?_, hlast _ (List.getLast?_eq_some_getLast ht)⟩
    rw [plain, hmessage]
    exact List.getLast_mem ht
  · rw [plain, hmessage]
    exact hlast
  · rw [plain, hmessage]
    exact hunread


/-- The parts of a reading, as the fields of its message hold them. -/
theorem fields_of_diagnostic {r : Reading} (hd : r.diagnostic = d) :
    r.severity = d.severity ∧ d.message.toList = r.body.text
      ∧ d.file = r.body.place.map fun (p, _) => String.ofList p.file := by
  subst hd
  exact ⟨rfl, String.toList_ofList, rfl⟩

/-- No number of the message is missing: it has a code, and with a file the line and the column. -/
def Complete (d : Diagnostic) : Prop :=
  d.code.isSome = true ∧ (d.file = none ∨ d.line.isSome = true ∧ d.column.isSome = true)

/-- What the first reading of a line gives is canonical when no number of it is missing. -/
theorem Reading.First.canonicalReport {r : Reading} {line : String} (h : r.First (trimmed line))
    (hline : '\n' ∉ r.body.chars) (hcomplete : r.diagnostic.Complete) :
    CanonicalReport r.diagnostic := by
  obtain ⟨hcode, hknown⟩ := hcomplete
  obtain ⟨-, hmessage, hfile⟩ := fields_of_diagnostic (rfl : r.diagnostic = r.diagnostic)
  refine ⟨hcode, ?_, ?_, ?_, ?_⟩
  · rw [hmessage]
    exact h.1.1.body.text
  · rw [hmessage]
    exact h.noBlankFirst_text hline
  · rw [hmessage]
    have hlast := noBlankLast_trimmed line
    rw [← h.1.2] at hlast
    exact hlast.of_suffix r.text_suffix
  rcases hplace : r.body.place with _ | ⟨p, gap⟩
  · refine .inl ⟨?_, ?_, ?_, ?_⟩
    · rw [hfile, hplace]
      rfl
    · rw [Reading.diagnostic, hplace]
      rfl
    · rw [Reading.diagnostic, hplace]
      rfl
    · rw [hmessage]
      exact h.not_beginsWithPlace hplace
  · rw [hplace] at hfile
    rcases hknown with hnone | ⟨hl, hc⟩
    · rw [hfile] at hnone
      cases hnone
    obtain ⟨l, hl⟩ := Option.isSome_iff_exists.mp hl
    obtain ⟨c, hc⟩ := Option.isSome_iff_exists.mp hc
    obtain ⟨hp, -⟩ := h.1.1.body.place p gap hplace
    refine .inr ⟨String.ofList p.file, l, c, hfile, hl, hc, ?_⟩
    rw [String.toList_ofList, toList_toString, toList_toString]
    refine ⟨hp.file_ne_nil, hp.file_line, ?_, ?_⟩
    · intro x hx
      obtain ⟨rest, hrest⟩ := List.head?_eq_some_iff.mp hx
      refine h.noBlankFirst_body hline x ?_
      simp [Body.chars, hplace, Place.chars, hrest]
    · -- the numbers are shown in another way than they were written, which does not matter
      intro hearly
      exact h.not_endsEarly hline hplace (hearly.of_numbers hp.line)

theorem Reading.inRange_diagnostic (r : Reading) : InRange r.diagnostic := by
  rintro n (hcode | hline | hcolumn)
  · exact u32?_le hcode
  · obtain ⟨_, -, hline⟩ := Option.bind_eq_some_iff.mp hline
    exact u32?_le hline
  · obtain ⟨_, -, hcolumn⟩ := Option.bind_eq_some_iff.mp hcolumn
    exact u32?_le hcolumn

/-! ## A message that comes back is canonical -/

theorem newline_not_mem_shownBody {r : Reading} (hvalid : r.Valid) (hd : r.diagnostic = d) :
    '\n' ∉ d.shownBody := by
  obtain ⟨-, hmessage, hfile⟩ := fields_of_diagnostic hd
  have htext : '\n' ∉ d.message.toList := hmessage ▸ hvalid.body.text
  rcases hplace : r.body.place with _ | ⟨p, gap⟩
  · rw [hplace] at hfile
    rw [shownBody_of_no_place (.inl hfile)]
    exact htext
  · rw [hplace] at hfile
    rcases hline : d.line with _ | line
    · rw [shownBody_of_no_place (.inr (.inl hline))]
      exact htext
    rcases hcolumn : d.column with _ | column
    · rw [shownBody_of_no_place (.inr (.inr hcolumn))]
      exact htext
    have hp := (hvalid.body.place p gap hplace).1
    rw [shownBody_of_place hfile hline hcolumn]
    simp [hp.file_line, htext,
      newline_not_mem_positionChars (isNumber_toDigits line) (isNumber_toDigits column)]

/-- The first reading of the line of a message, of which it is the message. The label and the code
are the same, so the rest of the line is what is shown of the rest, but for the blanks at the end. -/
structure ReadBack (d : Diagnostic) (r : Reading) (code : Nat) (blanks : List Char) : Prop where
  first : r.First (trimmed d.display)
  diagnostic : r.diagnostic = d
  code : d.code = some code
  shown : r.blanks ++ (r.body.chars ++ blanks) = ' ' :: d.shownBody

theorem readBack_of_ofLine? (h : ofLine? d.display = some d) (hs : d.severity ≠ .info) :
    ∃ r code blanks, ReadBack d r code blanks := by
  obtain ⟨r, hfirst, hd⟩ := first_of_ofLine? h hs
  obtain ⟨hseverity, -, -⟩ := fields_of_diagnostic hd
  obtain ⟨blanks, -, happend⟩ := trimmed_append d.display
  have hvalid := hfirst.1.1
  rw [← hfirst.1.2, Reading.chars, hseverity, List.append_assoc] at happend
  rcases hcode : d.code with _ | n
  · rw [display_of_no_code hs hcode] at happend
    have hhead := (List.cons.inj (List.append_cancel_left happend)).1
    exact absurd hhead (by decide)
  · rw [display_of_code hs hcode] at happend
    simp only [List.cons_append, List.append_assoc] at happend
    obtain ⟨-, -, hshown⟩ := head_inj happend (hseverity ▸ hvalid.severity)
      (hseverity ▸ hvalid.severity) hvalid.code (isNumber_toDigits n)
    exact ⟨r, n, blanks, hfirst, hd, hcode, hshown⟩

namespace ReadBack

variable {r : Reading} {n : Nat} {blanks : List Char}

theorem newline_not_mem (h : ReadBack d r n blanks) : '\n' ∉ r.body.chars := by
  intro hmem
  have hshown : '\n' ∈ ' ' :: d.shownBody := by
    rw [← h.shown]
    simp [hmem]
  rcases List.mem_cons.mp hshown with heq | hmem
  · exact absurd heq (by decide)
  · exact newline_not_mem_shownBody h.first.1.1 h.diagnostic hmem

/-- A place is shown only when both of its numbers are known, and if it were not shown, there would
be no room for it in the line. -/
theorem exists_numbers (h : ReadBack d r n blanks) {p : Place} {gap : List Char}
    (hplace : r.body.place = some (p, gap)) :
    ∃ line column, d.line = some line ∧ d.column = some column := by
  obtain ⟨-, hmessage, -⟩ := fields_of_diagnostic h.diagnostic
  by_contra hnone
  have hunknown : d.file = none ∨ d.line = none ∨ d.column = none := by
    rcases hline : d.line with _ | line
    · exact .inr (.inl rfl)
    rcases hcolumn : d.column with _ | column
    · exact .inr (.inr rfl)
    exact absurd ⟨line, column, hline, hcolumn⟩ hnone
  have hlength := congrArg List.length h.shown
  rw [shownBody_of_no_place hunknown, hmessage, Body.chars, hplace] at hlength
  simp [Place.chars, positionChars] at hlength
  omega

theorem complete (h : ReadBack d r n blanks) : d.Complete := by
  obtain ⟨-, -, hfile⟩ := fields_of_diagnostic h.diagnostic
  refine ⟨by rw [h.code]; rfl, ?_⟩
  rcases hplace : r.body.place with _ | ⟨p, gap⟩
  · rw [hplace] at hfile
    exact .inl hfile
  · obtain ⟨line, column, hline, hcolumn⟩ := h.exists_numbers hplace
    exact .inr ⟨by rw [hline]; rfl, by rw [hcolumn]; rfl⟩

theorem canonicalReport (h : ReadBack d r n blanks) : CanonicalReport d := by
  obtain rfl := h.diagnostic
  exact h.first.canonicalReport h.newline_not_mem h.complete

theorem inRange (h : ReadBack d r n blanks) : InRange d := by
  obtain rfl := h.diagnostic
  exact r.inRange_diagnostic

end ReadBack

/-! ## A canonical message comes back -/

theorem ofLine?_of_canonicalInfo (hs : d.severity = .info) (h : CanonicalInfo d) :
    ofLine? d.display = some d := by
  have ht : trimmed d.message = d.message.toList :=
    trimmed_eq (List.append_nil _).symm (by simp) h.no_blank_last
  have hne : trimmed d.message ≠ [] := by
    obtain ⟨c, hc, -⟩ := h.nonblank
    rw [ht]
    exact List.ne_nil_of_mem hc
  have hd : plain .info d.message = d := by
    obtain ⟨severity, code, file, line, column, message⟩ := d
    obtain rfl : severity = .info := hs
    obtain rfl : code = none := h.code
    obtain rfl : file = none := h.file
    obtain rfl : line = none := h.line
    obtain rfl : column = none := h.column
    rfl
  rw [display_info hs, ofLine?_of_no_reading hne (ht ▸ h.unread), ht, String.ofList_toList, hd]

theorem takeWhile_eq_of_noBlankFirst {blanks cs : List Char}
    (hblanks : ∀ c ∈ blanks, isBlank c = true) (hcs : NoBlankFirst cs) :
    (blanks ++ cs).takeWhile isBlank = blanks := by
  rw [List.takeWhile_append_of_pos hblanks]
  cases cs with
  | nil => simp
  | cons c cs => simp [hcs c rfl]

/-- A reading whose blanks go as far as they can and whose body is the first is the one that a line
is read by. -/
theorem ofLine?_of_parts {line : String} (r : Reading) (extra : List Char) (hvalid : r.Valid)
    (hline : line.toList = r.chars ++ extra) (hextra : ∀ c ∈ extra, isBlank c = true)
    (hlast : NoBlankLast r.chars) (hbody : NoBlankFirst r.body.chars)
    (hprefers : ∀ b : Body, b.Valid → b.chars = r.body.chars → r.body.Prefers b) :
    ofLine? line = some r.diagnostic := by
  have hof : r.Of (trimmed line) := ⟨hvalid, (trimmed_eq hline hextra hlast).symm⟩
  have hfirst : r.First (trimmed line) := by
    refine ⟨hof, fun r' h' => ?_⟩
    have hspaced := h'.spaced hof.takeLabel
    have hblanks := hspaced.takeWhile
    rw [takeWhile_eq_of_noBlankFirst hvalid.blanks hbody] at hblanks
    have hlength := congrArg List.length hblanks
    rw [List.length_append] at hlength
    rcases Nat.lt_or_eq_of_le (Nat.le.intro hlength.symm) with hlt | heq
    · exact .inl hlt
    · have hsame := List.append_inj hspaced.chars heq
      exact .inr ⟨heq, hprefers _ h'.1.body hsame.2⟩
  obtain ⟨r', hfirst', hread⟩ := ofLine?_of_reading hof
  rw [hread, hfirst'.unique hfirst]

/-- The blank before a text is read as a blank if the text is not empty, and is trimmed off if it is.
In either case nothing at the end of the line is blank but what is trimmed off. -/
theorem exists_gap {text : List Char} (hlast : NoBlankLast text) :
    ∃ gap extra, (∀ c ∈ gap, isBlank c = true) ∧ (∀ c ∈ extra, isBlank c = true)
      ∧ ' ' :: text = gap ++ (text ++ extra)
      ∧ ∀ front c, isBlank c = false → NoBlankLast (front ++ c :: (gap ++ text)) := by
  have hspace : ∀ c ∈ [' '], isBlank c = true := by
    intro c hc
    rw [List.mem_singleton.mp hc]
    decide
  rcases List.eq_nil_or_concat text with rfl | ⟨init, last, htext⟩
  · refine ⟨[], [' '], by simp, hspace, rfl, ?_⟩
    intro front c hc d hd
    simp only [List.append_nil, List.getLast?_concat, Option.some.injEq] at hd
    rw [← hd]
    exact hc
  · rw [List.concat_eq_append] at htext
    refine ⟨[' '], [], hspace, by simp, by simp, ?_⟩
    intro front c _ d hd
    refine hlast d ?_
    rw [htext, List.getLast?_concat]
    rw [← hd, htext]
    simp [List.getLast?_append, List.getLast?_cons]

theorem count_colon {digits : List Char} (h : IsNumber digits) : digits.count ':' = 0 :=
  List.count_eq_zero.mpr fun hmem => by cases (h.2 _ hmem).symm.trans isDigit_colon

theorem count_colon_positionChars {line column : List Char} (hline : IsNumber line)
    (hcolumn : IsNumber column) : (positionChars line column).count ':' = 3 := by
  simp [positionChars, List.count_append, count_colon hline, count_colon hcolumn]

/-- A place with a shorter name ends before the numbers of the longer one do, for there are not
enough colons to go on. -/
theorem endsEarly_of_shorter {p p' : Place} {rest rest' : List Char} (hp : p.Valid) (hp' : p'.Valid)
    (hchars : p'.chars ++ rest' = p.chars ++ rest) (hlt : p'.file.length < p.file.length) :
    EndsEarly p.file p.line p.column := by
  simp only [Place.chars, List.append_assoc] at hchars
  rcases List.append_eq_append_iff.mp hchars with ⟨back, hfile, hback⟩ | ⟨past, hpast, -⟩
  · have hne : back ≠ [] := by
      rintro rfl
      rw [hfile, List.append_nil] at hlt
      exact Nat.lt_irrefl _ hlt
    refine ⟨p'.file, back, p'.line, p'.column, ?_⟩
    rw [← List.append_assoc back] at hback
    rcases List.append_eq_append_iff.mp hback with ⟨tail, htail, -⟩ | ⟨tail, htail, -⟩
    · exact ⟨tail, hfile, hp'.file_ne_nil, hne, hp'.line, hp'.column, htail⟩
    · exfalso
      obtain ⟨c, back', rfl⟩ := List.exists_cons_of_ne_nil hne
      have hcolon : ':' = c := (List.cons.inj htail).1
      have hcount := congrArg (List.count ':') htail
      rw [count_colon_positionChars hp'.line hp'.column, List.count_append, List.count_append,
        count_colon_positionChars hp.line hp.column, ← hcolon, List.count_cons_self] at hcount
      omega
  · rw [hpast, List.length_append] at hlt
    omega

theorem prefers_of_no_place {text : List Char} (htext : ¬BeginsWithPlace text) {b : Body}
    (hb : b.Valid) (hchars : b.chars = text) : Body.Prefers ⟨none, text⟩ b := by
  obtain ⟨_ | ⟨p, gap⟩, text'⟩ := b
  · exact trivial
  · obtain ⟨hp, -⟩ := hb.place p gap rfl
    refine absurd ⟨p.file, p.line, p.column, gap ++ text', hp.file_ne_nil, hp.line, hp.column, ?_⟩
      htext
    rw [← hchars, Body.chars_some, Place.chars, List.append_assoc]

theorem prefers_of_place {p : Place} {gap text : List Char} (hp : p.Valid)
    (hgap : ∀ c ∈ gap, isBlank c = true) (htext : NoBlankFirst text)
    (hend : ¬EndsEarly p.file p.line p.column) {b : Body} (hb : b.Valid)
    (hchars : b.chars = Body.chars ⟨some (p, gap), text⟩) :
    Body.Prefers ⟨some (p, gap), text⟩ b := by
  obtain ⟨_ | ⟨p', gap'⟩, text'⟩ := b
  · exact trivial
  obtain ⟨hp', hgap'⟩ := hb.place p' gap' rfl
  rw [Body.chars_some, Body.chars_some] at hchars
  rcases Nat.lt_trichotomy p'.file.length p.file.length with hlt | heq | hgt
  · exact absurd (endsEarly_of_shorter hp hp' hchars hlt) hend
  · obtain ⟨-, hrest⟩ := Place.chars_inj hchars heq hp' hp
    have hle : gap'.length ≤ ((gap' ++ text').takeWhile isBlank).length :=
      length_le_takeWhile hgap'
    rw [hrest, takeWhile_eq_of_noBlankFirst hgap htext] at hle
    exact .inr ⟨heq.symm, hle⟩
  · exact .inl hgt

theorem severity_of_ne_info (hs : d.severity ≠ .info) :
    d.severity = .error ∨ d.severity = .warning := by
  rcases hseverity : d.severity with _ | _ | _
  · exact .inl rfl
  · exact .inr rfl
  · exact absurd hseverity hs

theorem ofLine?_of_no_place {n : Nat} (hs : d.severity ≠ .info) (hn : n ≤ 4294967295)
    (hcode : d.code = some n) (h : CanonicalReport d) (hfile : d.file = none)
    (hline : d.line = none) (hcolumn : d.column = none)
    (hbegins : ¬BeginsWithPlace d.message.toList) : ofLine? d.display = some d := by
  obtain ⟨gap, extra, hgap, hextra, hgaps, hends⟩ := exists_gap h.no_blank_last
  let r : Reading := ⟨d.severity, Nat.toDigits 10 n, gap, ⟨none, d.message.toList⟩⟩
  have hvalid : r.Valid :=
    ⟨severity_of_ne_info hs, isNumber_toDigits n, hgap, ⟨by simp,
      h.one_line⟩⟩
  have hchars : d.display.toList = r.chars ++ extra := by
    rw [display_of_code hs hcode, shownBody_of_no_place (.inl hfile), hgaps]
    simp [r, Reading.chars]
  have hlast : NoBlankLast r.chars := by
    have hcolon := hends (labelChars d.severity ++ '(' :: (Nat.toDigits 10 n ++ [')'])) ':'
      isBlank_colon
    simpa [r, Reading.chars] using hcolon
  have hdiagnostic : r.diagnostic = d := by
    show _ = Diagnostic.mk d.severity d.code d.file d.line d.column d.message
    simp [r, Reading.diagnostic, u32?_toDigits hn, hcode, hfile, hline, hcolumn]
  rw [ofLine?_of_parts r extra hvalid hchars hextra hlast h.no_blank_first
    (fun b hb hsame => prefers_of_no_place hbegins hb hsame), hdiagnostic]

theorem ofLine?_of_place {n line column : Nat} {file : String} (hs : d.severity ≠ .info)
    (hrange : InRange d) (hcode : d.code = some n) (h : CanonicalReport d)
    (hfile : d.file = some file) (hline : d.line = some line) (hcolumn : d.column = some column)
    (hne : file.toList ≠ []) (hnewline : '\n' ∉ file.toList) (hstart : NoBlankFirst file.toList)
    (hend : ¬EndsEarly file.toList (Nat.toDigits 10 line) (Nat.toDigits 10 column)) :
    ofLine? d.display = some d := by
  obtain ⟨gap, extra, hgap, hextra, hgaps, hends⟩ := exists_gap h.no_blank_last
  let p : Place := ⟨file.toList, Nat.toDigits 10 line, Nat.toDigits 10 column⟩
  have hp : p.Valid := ⟨hne, hnewline, isNumber_toDigits line, isNumber_toDigits column⟩
  let r : Reading := ⟨d.severity, Nat.toDigits 10 n, [' '], ⟨some (p, gap), d.message.toList⟩⟩
  have hvalid : r.Valid := by
    refine ⟨severity_of_ne_info hs, isNumber_toDigits n, ?_, ⟨?_, h.one_line⟩⟩
    · intro c hc
      rw [List.mem_singleton.mp hc]
      decide
    · rintro _ _ ⟨⟩
      exact ⟨hp, hgap⟩
  have hchars : d.display.toList = r.chars ++ extra := by
    rw [display_of_code hs hcode, shownBody_of_place hfile hline hcolumn, hgaps]
    simp [r, p, Reading.chars, Place.chars]
  have hlast : NoBlankLast r.chars := by
    have hcolon := hends (labelChars d.severity ++ '(' :: (Nat.toDigits 10 n ++ ')' :: ':' :: ' ' ::
      (file.toList ++ ':' :: (Nat.toDigits 10 line ++ ':' :: Nat.toDigits 10 column)))) ':'
      isBlank_colon
    simpa [r, p, Reading.chars, Place.chars, positionChars] using hcolon
  have hbody : NoBlankFirst r.body.chars := by
    intro c hc
    refine hstart c ?_
    obtain ⟨first, rest, hfirst⟩ := List.exists_cons_of_ne_nil hne
    simpa [r, p, Place.chars, hfirst] using hc
  have hdiagnostic : r.diagnostic = d := by
    show _ = Diagnostic.mk d.severity d.code d.file d.line d.column d.message
    simp [r, p, Reading.diagnostic, u32?_toDigits (hrange n (.inl hcode)),
      u32?_toDigits (hrange line (.inr (.inl hline))),
      u32?_toDigits (hrange column (.inr (.inr hcolumn))), hcode, hfile, hline, hcolumn]
  rw [ofLine?_of_parts r extra hvalid hchars hextra hlast hbody
    (fun b hb hsame => prefers_of_place hp hgap h.no_blank_first hend hb hsame), hdiagnostic]

theorem ofLine?_of_canonicalReport (hs : d.severity ≠ .info) (hrange : InRange d)
    (h : CanonicalReport d) : ofLine? d.display = some d := by
  obtain ⟨n, hcode⟩ := Option.isSome_iff_exists.mp h.code
  rcases h.place with ⟨hfile, hline, hcolumn, hbegins⟩ |
    ⟨file, line, column, hfile, hline, hcolumn, hne, hnewline, hstart, hend⟩
  · exact ofLine?_of_no_place hs (hrange n (.inl hcode)) hcode h hfile hline hcolumn hbegins
  · rw [toList_toString, toList_toString] at hend
    exact ofLine?_of_place hs hrange hcode h hfile hline hcolumn hne hnewline hstart hend

/-! ## The round trip -/

theorem canonical_of_ne_info (hs : d.severity ≠ .info) : Canonical d ↔ CanonicalReport d := by
  unfold Canonical
  rcases hseverity : d.severity with _ | _ | _
  · exact Iff.rfl
  · exact Iff.rfl
  · exact absurd hseverity hs

/-- **The messages that survive being shown are the canonical ones**, as far as their numbers are
among those that a line can tell. -/
theorem ofLine?_display_iff (d : Diagnostic) :
    ofLine? d.display = some d ↔ InRange d ∧ Canonical d := by
  by_cases hs : d.severity = .info
  · have hcanonical : Canonical d ↔ CanonicalInfo d := by rw [Canonical, hs]
    rw [hcanonical]
    constructor
    · intro h
      have hinfo := canonicalInfo_of_ofLine? h hs
      refine ⟨?_, hinfo⟩
      rintro n (hcode | hline | hcolumn)
      · cases hinfo.code.symm.trans hcode
      · cases hinfo.line.symm.trans hline
      · cases hinfo.column.symm.trans hcolumn
    · rintro ⟨-, h⟩
      exact ofLine?_of_canonicalInfo hs h
  · rw [canonical_of_ne_info hs]
    constructor
    · intro h
      obtain ⟨r, n, blanks, hread⟩ := readBack_of_ofLine? h hs
      exact ⟨hread.inRange, hread.canonicalReport⟩
    · rintro ⟨hrange, h⟩
      exact ofLine?_of_canonicalReport hs hrange h

end GrammarBench.Diagnostic
