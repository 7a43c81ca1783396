import GrammarBench.Proofs.Driver.Names

/-!
# Requests whose drivers are the same

A driver is told from others by its text alone. Each skeleton, with or without its optional lines,
has a number of lines of its own, so the number of lines of a driver gives away what it was made
from (`skeleton_injective`); then the chunks at the places of the names give away the names
(`Suits.names_eq`). Main statement: two drivers are the same exactly when the requests agree on the
kind of backend, on whether there is a parser, on the names that are looked at and on the one option
that counts (`render_eq_iff`).
-/

namespace GrammarBench

/-- The option that a request is heeded for: without a parser whether the automaton is printed, with
one whether ambiguities are reported. -/
def DriverSpec.option (spec : DriverSpec) : Bool :=
  if spec.isLexerOnly then spec.showDfa else spec.debug

namespace Driver

/-- Two requests ask for the same driver. -/
structure Agree (spec : DriverSpec) (kind : BackendKind) (spec' : DriverSpec)
    (kind' : BackendKind) : Prop where
  same_kind : kind = kind'
  same_family : spec.isLexerOnly = spec'.isLexerOnly
  same_names : ∀ role ∈ spec.roles, spec.name? role = spec'.name? role
  same_option : spec.option = spec'.option

/-! ## Skeletons -/

namespace Template

variable {spec spec' : DriverSpec} {kind kind' : BackendKind} {template template' : Template}
  {on on' : Bool}

/-- The lines of a template, with or without the optional ones. -/
def skeleton (template : Template) (on : Bool) : List Line :=
  template.lines on on

theorem lines_select (spec : DriverSpec) (kind : BackendKind) :
    (select spec kind).lines spec.debug spec.showDfa = (select spec kind).skeleton spec.option := by
  unfold DriverSpec.option select
  cases kind <;> cases spec.isLexerOnly <;> rfl

theorem roles_select (spec : DriverSpec) (kind : BackendKind) :
    (select spec kind).roles = spec.roles := by
  unfold DriverSpec.roles select
  cases kind <;> cases spec.isLexerOnly <;> rfl

theorem select_eq_select :
    select spec kind = select spec' kind' ↔
      kind = kind' ∧ spec.isLexerOnly = spec'.isLexerOnly := by
  unfold select
  cases kind <;> cases kind' <;> cases spec.isLexerOnly <;> cases spec'.isLexerOnly <;> decide

/-- No two skeletons have the same number of lines. -/
theorem skeleton_injective
    (h : (template.skeleton on).length = (template'.skeleton on').length) :
    template = template' ∧ on = on' := by
  revert h
  cases template <;> cases on <;> cases template' <;> cases on' <;> decide

/-- A driver has a place for the name of each of its roles. -/
theorem name_mem (template : Template) (on : Bool) :
    ∀ role ∈ template.roles, ∃ line ∈ template.skeleton on, .name role ∈ line := by
  cases template <;> cases on <;> decide +kernel

end Template

/-! ## Lines of a driver -/

/-- No text of the line goes on in the next one. -/
def Unbroken (line : Line) : Prop :=
  ∀ s, .text s ∈ line → '\n' ∉ s.toList

namespace Unbroken

variable {line : Line}

theorem nil : Unbroken [] := by
  simp [Unbroken]

theorem name {role : Role} (h : Unbroken line) : Unbroken (.name role :: line) := by
  simpa [Unbroken] using h

theorem text {s : String} {cs : List Char} (hs : s = String.ofList cs) (hcs : '\n' ∉ cs)
    (h : Unbroken line) : Unbroken (.text s :: line) := by
  subst hs
  simpa [Unbroken, hcs] using h

end Unbroken

/-- Every line of a skeleton is a line of the driver. -/
theorem Template.unbroken (template : Template) (on : Bool) :
    ∀ line ∈ template.skeleton on, Unbroken line := by
  cases template <;> cases on
  all_goals
    simp only [skeleton, lines, Driver.lexerScript, lexerScriptHead, lexerScriptDfa,
      lexerScriptTail, Driver.parserScript, parserScriptHead, parserScriptDebug, parserScriptTail,
      Driver.lexerPage, Driver.parserPage, page, pageHead, pageLoad, pageRun, pageTail, lexerSlots,
      lexerLoad, lexerRun, lexerPageDfa, parserSlots, parserLoad, parserRunHead, parserPageDebug,
      parserRunTail, plain, if_true, if_false, Bool.false_eq_true, List.cons_append,
      List.nil_append, List.forall_mem_cons]
    repeat' first
      | exact .nil
      | exact List.forall_mem_nil _
      | refine And.intro ?_ ?_
      | refine .name ?_
      | refine .text rfl (by decide) ?_
      | refine .text String.ofList_append.symm (by decide) ?_

variable {names names' : Role → String} {spec spec' : DriverSpec} {template template' : Template}
  {kind kind' : BackendKind} {on on' : Bool}

/-- A character of a line is one of the skeleton, or one that a name can have. -/
theorem mem_fillLine {line : Line} {c : Char} (hc : c ∈ (fillLine names line).toList)
    (hnames : ∀ piece ∈ line, ∀ role ∈ piece.role?, isIdentifier (names role).toList = true) :
    isIdentifierPart c = true ∨ ∃ s, .text s ∈ line ∧ c ∈ s.toList := by
  induction line with
  | nil => cases hc
  | cons piece rest ih =>
      rw [toList_fillLine_cons, List.mem_append] at hc
      rcases hc with hc | hc
      · cases piece with
        | text s => exact .inr ⟨s, List.mem_cons_self, hc⟩
        | name role =>
            exact .inl (isIdentifierPart_of_mem (hnames _ List.mem_cons_self role rfl) c hc)
      · rcases ih hc fun p hp => hnames p (List.mem_cons_of_mem _ hp) with hpart | ⟨s, hs, hc⟩
        · exact .inl hpart
        · exact .inr ⟨s, List.mem_cons_of_mem _ hs, hc⟩

theorem Unbroken.fillLine {line : Line} (h : Unbroken line)
    (hnames : ∀ piece ∈ line, ∀ role ∈ piece.role?, isIdentifier (names role).toList = true) :
    '\n' ∉ (Driver.fillLine names line).toList := by
  intro hmem
  rcases mem_fillLine hmem hnames with hpart | ⟨s, hs, hc⟩
  · exact absurd hpart (by decide)
  · exact h s hs hc

theorem count_newline_fill {lines : List Line}
    (h : ∀ line ∈ lines, '\n' ∉ (fillLine names line).toList) :
    (fill names lines).toList.count '\n' = lines.length := by
  induction lines with
  | nil => rfl
  | cons line rest ih =>
      have hline : (fillLine names line).toList.count '\n' = 0 :=
        List.count_eq_zero.mpr (h line List.mem_cons_self)
      have hrest := ih fun l hl => h l (List.mem_cons_of_mem _ hl)
      rw [toList_fill_cons, List.count_append, List.count_cons_self, hline, hrest, Nat.zero_add,
        List.length_cons]

/-- A driver has as many lines as its skeleton. -/
theorem Suits.count_newline (h : Suits names spec template) (on : Bool) :
    (fill names (template.skeleton on)).toList.count '\n' = (template.skeleton on).length :=
  count_newline_fill fun line hline =>
    (template.unbroken on line hline).fillLine fun piece hpiece role hrole =>
      (h role (template.role_mem_roles on on line hline piece hpiece role hrole)).2

/-- **A driver gives away its skeleton.** -/
theorem Suits.skeleton_eq (h : Suits names spec template) (h' : Suits names' spec' template')
    (heq : fill names (template.skeleton on) = fill names' (template'.skeleton on')) :
    template = template' ∧ on = on' := by
  apply Template.skeleton_injective
  rw [← h.count_newline, ← h'.count_newline, heq]

/-! ## Names in a driver -/

theorem mem_slots_of_mem {lines : List Line} {line : Line} {role : Role} (hline : line ∈ lines)
    (hrole : .name role ∈ line) : .name role ∈ slots lines := by
  refine List.mem_flatMap.mpr ⟨line, hline, List.mem_append_left _ ?_⟩
  exact List.mem_flatMap.mpr ⟨_, hrole, List.mem_singleton_self _⟩

/-- **A driver gives away its names**, also those that occur in the skeleton as well. -/
theorem Suits.names_eq (h : Suits names spec template) (h' : Suits names' spec' template)
    (heq : fill names (template.skeleton on) = fill names' (template.skeleton on)) :
    ∀ role ∈ template.roles, names role = names' role := by
  intro role hrole
  have hchunks : (slots (template.skeleton on)).map (Slot.fill names)
      = (slots (template.skeleton on)).map (Slot.fill names') :=
    calc (slots (template.skeleton on)).map (Slot.fill names)
        = chunks (fill names (template.skeleton on)).toList := (h.chunks_fill on on).symm
      _ = chunks (fill names' (template.skeleton on)).toList := by rw [heq]
      _ = (slots (template.skeleton on)).map (Slot.fill names') := h'.chunks_fill on on
  obtain ⟨line, hline, hmem⟩ := template.name_mem on role hrole
  exact String.toList_injective (List.map_inj_left.mp hchunks _ (mem_slots_of_mem hline hmem))

theorem fill_congr {lines : List Line}
    (h : ∀ line ∈ lines, ∀ piece ∈ line, ∀ role ∈ piece.role?, names role = names' role) :
    fill names lines = fill names' lines := by
  refine congrArg String.join (List.map_congr_left fun line hline => ?_)
  refine congrArg (· ++ "\n") (congrArg String.join (List.map_congr_left fun piece hpiece => ?_))
  cases piece with
  | text s => rfl
  | name role => exact h line hline _ hpiece role rfl

/-- Names for other roles than those of the driver do not matter. -/
theorem Template.fill_congr (h : ∀ role ∈ template.roles, names role = names' role) :
    fill names (template.skeleton on) = fill names' (template.skeleton on) :=
  Driver.fill_congr fun line hline piece hpiece role hrole =>
    h role (template.role_mem_roles on on line hline piece hpiece role hrole)

/-- **Two drivers are the same exactly when they are asked for in the same way.** -/
theorem render_eq_iff {text text' : String} (h : render spec kind = .ok text)
    (h' : render spec' kind' = .ok text') :
    text = text' ↔ Agree spec kind spec' kind' := by
  obtain ⟨names, hnames, rfl⟩ := exists_names_of_render h
  obtain ⟨names', hnames', rfl⟩ := exists_names_of_render h'
  rw [Template.lines_select, Template.lines_select]
  constructor
  · intro heq
    obtain ⟨htemplate, hoption⟩ := hnames.skeleton_eq hnames' heq
    obtain ⟨hkind, hfamily⟩ := Template.select_eq_select.mp htemplate
    refine ⟨hkind, hfamily, fun role hrole => ?_, hoption⟩
    rw [← htemplate] at hnames' heq
    rw [← hoption] at heq
    rw [← Template.roles_select spec kind] at hrole
    rw [(hnames role hrole).1, (hnames' role hrole).1, hnames.names_eq hnames' heq role hrole]
  · intro hagree
    have htemplate := Template.select_eq_select.mpr ⟨hagree.same_kind, hagree.same_family⟩
    rw [← htemplate] at hnames' ⊢
    rw [← hagree.same_option]
    refine Template.fill_congr fun role hrole => ?_
    have hname := hagree.same_names role (by rwa [← Template.roles_select spec kind])
    rw [(hnames role hrole).1, (hnames' role hrole).1] at hname
    exact Option.some.inj hname

/-- Names that are words of a page as well are told apart: the drivers for these two requests are
not the same. -/
theorem render_eq_iff_of_odd_listener :
    ∃ text text',
      render (DriverSpec.parser "P" "L" "TreeShapeListener" "V" "s") .browser = .ok text
        ∧ render ((DriverSpec.parser "P" "L" "A" "V" "s").withShowDfa true) .browser = .ok text'
        ∧ (text = text' ↔ Agree (DriverSpec.parser "P" "L" "TreeShapeListener" "V" "s") .browser
            ((DriverSpec.parser "P" "L" "A" "V" "s").withShowDfa true) .browser)
        ∧ text ≠ text' := by
  refine ⟨_, _, rfl, rfl, render_eq_iff rfl rfl, fun heq => ?_⟩
  have hagree : Agree (DriverSpec.parser "P" "L" "TreeShapeListener" "V" "s") .browser
      ((DriverSpec.parser "P" "L" "A" "V" "s").withShowDfa true) .browser :=
    (render_eq_iff rfl rfl).mp heq
  exact absurd (hagree.same_names .listener (by decide)) (by decide)

end Driver

end GrammarBench
