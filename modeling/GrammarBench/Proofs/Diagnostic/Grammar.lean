import GrammarBench.Diagnostic.Line

/-!
# What a message line can be read as

The form of a message line, apart from how a line is taken to pieces: a `Reading` is a label, a
code, blanks, perhaps a place with blanks after it, and a text, and a line can have several. They
are in an order: `Prefers` says which of two readings goes before the other. As far as they are
readings of one line, two that go before each other are the same (`Reading.eq_of_prefers`), so a
line that can be read has at most one first reading.
-/

namespace GrammarBench.Diagnostic

open GrammarBench.Text

/-! ## Numbers and places -/

/-- One or more decimal digits of any script. -/
def IsNumber (digits : List Char) : Prop :=
  digits ≠ [] ∧ ∀ c ∈ digits, isDigit c = true

/-- The numbers of a place between their colons. -/
def positionChars (line column : List Char) : List Char :=
  ':' :: (line ++ ':' :: (column ++ [':']))

namespace Place

/-- A place as it is written, with its last colon. -/
def chars (p : Place) : List Char :=
  p.file ++ positionChars p.line p.column

structure Valid (p : Place) : Prop where
  file_ne_nil : p.file ≠ []
  file_line : '\n' ∉ p.file
  line : IsNumber p.line
  column : IsNumber p.column

end Place

/-! ## Bodies -/

/-- What follows the blanks after the code: perhaps a place with the blanks after it, and a text. -/
structure Body where
  place : Option (Place × List Char)
  text : List Char

namespace Body

def chars (b : Body) : List Char :=
  match b.place with
  | none => b.text
  | some (p, gap) => p.chars ++ (gap ++ b.text)

@[simp] theorem chars_none (text : List Char) : chars ⟨none, text⟩ = text := rfl

@[simp] theorem chars_some (p : Place) (gap text : List Char) :
    chars ⟨some (p, gap), text⟩ = p.chars ++ (gap ++ text) := rfl

structure Valid (b : Body) : Prop where
  place : ∀ p gap, b.place = some (p, gap) → p.Valid ∧ ∀ c ∈ gap, isBlank c = true
  text : '\n' ∉ b.text

/-- The first body goes before the second one: with a place before without one, then the shorter
file name, then the more blanks after the place. -/
def Prefers (b b' : Body) : Prop :=
  match b.place, b'.place with
  | some (p, gap), some (p', gap') =>
    p.file.length < p'.file.length
      ∨ p.file.length = p'.file.length ∧ gap'.length ≤ gap.length
  | some _, none => True
  | none, some _ => False
  | none, none => True

/-- The first of the bodies that `cs` can be read as. -/
structure First (b : Body) (cs : List Char) : Prop where
  valid : b.Valid
  chars : b.chars = cs
  prefers : ∀ b' : Body, b'.Valid → b'.chars = cs → b.Prefers b'

end Body

/-! ## Readings -/

def labelChars (severity : Severity) : List Char :=
  severity.name.toList

/-- A way to read a message line. -/
structure Reading where
  severity : Severity
  code : List Char
  blanks : List Char
  body : Body

namespace Reading

def chars (r : Reading) : List Char :=
  labelChars r.severity ++ '(' :: (r.code ++ ')' :: ':' :: (r.blanks ++ r.body.chars))

structure Valid (r : Reading) : Prop where
  severity : r.severity = .error ∨ r.severity = .warning
  code : IsNumber r.code
  blanks : ∀ c ∈ r.blanks, isBlank c = true
  body : r.body.Valid

/-- The line `t` can be read as `r`. -/
def Of (r : Reading) (t : List Char) : Prop :=
  r.Valid ∧ r.chars = t

/-- The first reading goes before the second one: the more blanks after the code, then the body. -/
def Prefers (r r' : Reading) : Prop :=
  r'.blanks.length < r.blanks.length
    ∨ r'.blanks.length = r.blanks.length ∧ r.body.Prefers r'.body

/-- The first of the readings of the line `t`. -/
def First (r : Reading) (t : List Char) : Prop :=
  r.Of t ∧ ∀ r' : Reading, r'.Of t → r.Prefers r'

end Reading

/-! ## Characters that end a part -/

theorem isDigit_colon : isDigit ':' = false := by decide

theorem isDigit_paren : isDigit ')' = false := by decide

theorem isDigit_newline : isDigit '\n' = false := by decide

theorem isBlank_colon : isBlank ':' = false := by decide

theorem IsNumber.newline_not_mem {digits : List Char} (h : IsNumber digits) : '\n' ∉ digits :=
  fun hmem => by cases (h.2 _ hmem).symm.trans isDigit_newline

theorem newline_not_mem_positionChars {line column : List Char} (hline : IsNumber line)
    (hcolumn : IsNumber column) : '\n' ∉ positionChars line column := by
  simp [positionChars, hline.newline_not_mem, hcolumn.newline_not_mem]

theorem Place.Valid.newline_not_mem {p : Place} (h : p.Valid) : '\n' ∉ p.chars := by
  simp [Place.chars, h.file_line, newline_not_mem_positionChars h.line h.column]

/-- A run of characters of a class that is followed by one outside of it is read in one way. -/
theorem append_stop_inj {class_ : Char → Bool} {ds ds' rest rest' : List Char} {x x' : Char}
    (h : ds ++ x :: rest = ds' ++ x' :: rest') (hds : ∀ c ∈ ds, class_ c = true)
    (hds' : ∀ c ∈ ds', class_ c = true) (hx : class_ x = false) (hx' : class_ x' = false) :
    ds = ds' ∧ x = x' ∧ rest = rest' := by
  have hrun : ds = ds' := by
    have htake := congrArg (List.takeWhile class_) h
    rw [List.takeWhile_append_of_pos hds, List.takeWhile_append_of_pos hds'] at htake
    simpa [hx, hx'] using htake
  subst hrun
  have hrest := List.append_cancel_left h
  exact ⟨rfl, (List.cons.inj hrest).1, (List.cons.inj hrest).2⟩

/-! ## Readings of one line -/

theorem positionChars_inj {line line' column column' rest rest' : List Char}
    (h : positionChars line column ++ rest = positionChars line' column' ++ rest')
    (hline : IsNumber line) (hline' : IsNumber line') (hcolumn : IsNumber column)
    (hcolumn' : IsNumber column') : line = line' ∧ column = column' ∧ rest = rest' := by
  simp only [positionChars, List.cons_append, List.append_assoc, List.nil_append, List.cons.injEq,
    true_and] at h
  obtain ⟨rfl, -, h⟩ := append_stop_inj h hline.2 hline'.2 isDigit_colon isDigit_colon
  obtain ⟨rfl, -, h⟩ := append_stop_inj h hcolumn.2 hcolumn'.2 isDigit_colon isDigit_colon
  exact ⟨rfl, rfl, h⟩

/-- The length of the file name decides what a place is. -/
theorem Place.chars_inj {p p' : Place} {rest rest' : List Char}
    (h : p.chars ++ rest = p'.chars ++ rest') (hlength : p.file.length = p'.file.length)
    (hp : p.Valid) (hp' : p'.Valid) : p = p' ∧ rest = rest' := by
  simp only [Place.chars, List.append_assoc] at h
  obtain ⟨hfile, hrest⟩ := List.append_inj h hlength
  obtain ⟨hline, hcolumn, htail⟩ := positionChars_inj hrest hp.line hp'.line hp.column hp'.column
  refine ⟨?_, htail⟩
  show Place.mk p.file p.line p.column = Place.mk p'.file p'.line p'.column
  rw [hfile, hline, hcolumn]

theorem Body.eq_of_prefers {b b' : Body} (h : b.chars = b'.chars) (hb : b.Valid) (hb' : b'.Valid)
    (hle : b.Prefers b') (hge : b'.Prefers b) : b = b' := by
  obtain ⟨place, text⟩ := b
  obtain ⟨place', text'⟩ := b'
  match place, place' with
  | none, none =>
      have htext : text = text' := h
      rw [htext]
  | none, some _ => exact absurd hle id
  | some _, none => exact absurd hge id
  | some (p, gap), some (p', gap') =>
      simp only [Prefers] at hle hge
      have hfile : p.file.length = p'.file.length := by omega
      have hgap : gap.length = gap'.length := by omega
      obtain ⟨rfl, hrest⟩ := Place.chars_inj h hfile (hb.place p gap rfl).1 (hb'.place p' gap' rfl).1
      obtain ⟨rfl, rfl⟩ := List.append_inj hrest hgap
      rfl

/-- The label and the code of a line can be read in one way only. -/
theorem head_inj {severity severity' : Severity} {code code' rest rest' : List Char}
    (h : labelChars severity ++ '(' :: (code ++ ')' :: ':' :: rest)
      = labelChars severity' ++ '(' :: (code' ++ ')' :: ':' :: rest'))
    (hs : severity = .error ∨ severity = .warning) (hs' : severity' = .error ∨ severity' = .warning)
    (hcode : IsNumber code) (hcode' : IsNumber code') :
    severity = severity' ∧ code = code' ∧ rest = rest' := by
  have hseverity : severity = severity' := by
    have hhead := congrArg List.head? h
    rcases hs with rfl | rfl <;> rcases hs' with rfl | rfl
    · rfl
    · exact absurd (Option.some.inj hhead) (by decide)
    · exact absurd (Option.some.inj hhead) (by decide)
    · rfl
  subst hseverity
  have hrest := (List.cons.inj (List.append_cancel_left h)).2
  obtain ⟨rfl, -, hrest⟩ := append_stop_inj hrest hcode.2 hcode'.2 isDigit_paren isDigit_paren
  exact ⟨rfl, rfl, (List.cons.inj hrest).2⟩

/-- Of the readings of a line, two that go before each other are the same. -/
theorem Reading.eq_of_prefers {r r' : Reading} {t : List Char} (h : r.Of t) (h' : r'.Of t)
    (hle : r.Prefers r') (hge : r'.Prefers r) : r = r' := by
  obtain ⟨hr, hchars⟩ := h
  obtain ⟨hr', hchars'⟩ := h'
  obtain ⟨hseverity, hcode, hrest⟩ := head_inj (hchars.trans hchars'.symm) hr.severity hr'.severity
    hr.code hr'.code
  have hlength : r.blanks.length = r'.blanks.length := by
    rcases hle with hlt | ⟨heq, -⟩ <;> rcases hge with hgt | ⟨heq', -⟩ <;> omega
  obtain ⟨hblanks, hchars⟩ := List.append_inj hrest hlength
  have hbody : r.body = r'.body := by
    rcases hle with hlt | ⟨-, hle⟩
    · omega
    rcases hge with hgt | ⟨-, hge⟩
    · omega
    exact Body.eq_of_prefers hchars hr.body hr'.body hle hge
  show Reading.mk r.severity r.code r.blanks r.body
    = Reading.mk r'.severity r'.code r'.blanks r'.body
  rw [hseverity, hcode, hblanks, hbody]

theorem Reading.First.unique {r r' : Reading} {t : List Char} (h : r.First t) (h' : r'.First t) :
    r = r' :=
  eq_of_prefers h.1 h'.1 (h.2 r' h'.1) (h'.2 r h.1)

end GrammarBench.Diagnostic
