import GrammarBench.Proofs.Driver.Modules
import GrammarBench.Proofs.Driver.Pattern

/-!
# Variables of a driver

A driver has a variable for each generated module, and the name of the module is the name of the
variable. The skeletons have variables, functions and parameters of their own, and a name can be
like any of them: a plain name is accepted, whatever it is. It is said here when such a variable
holds the module wherever the driver uses it. In a script the variable is declared once, where the
module is loaded (`DeclaredOnce`); in a page it is global, and assigned where its slot is made and
where the module is loaded (`AssignedBySlot`); and the code that uses it has no variable of that
name. Names are read as words of the text, so the words that the language reserves are names like
any other here.

Main statement: that is so exactly for names that the skeleton does not take for itself, and that
are different if the driver is a script (`render_hygienic_iff`).
-/

namespace GrammarBench.Driver

/-! ## What a program does with names -/

/-- A declaration with a value: `var n =`. -/
def declarations : Pattern where
  tests := [.is "var".toList, .is [' '], .word, .is [' '], .is ['=']]
  target := 2

/-- An assignment to a variable: `n =`, where `n` is not a field of something. -/
def assignments : Pattern where
  tests := [.isNot ['.'], .word, .is [' '], .is ['='], .isNot ['=']]
  target := 1

/-- A function with a name: `function n(`. -/
def functions : Pattern where
  tests := [.is "function".toList, .is [' '], .word, .is ['(']]
  target := 2

/-- A variable of a function, whatever is behind its name: `var n`. -/
def localVariables : Pattern where
  tests := [.is "var".toList, .is [' '], .word]
  target := 2

/-- The parameter of a function with a name: `function f(n) {`. -/
def namedParameters : Pattern where
  tests := [.is "function".toList, .is [' '], .word, .is ['('], .word, .is [')'], .is [' '],
    .is ['\x7b']]
  target := 4

/-- The parameter of a function without a name: `function(n) {`. -/
def parameters : Pattern where
  tests := [.is "function".toList, .is ['('], .word, .is [')'], .is [' '], .is ['\x7b']]
  target := 2

/-- The names that lines of a program have for themselves. -/
def localNames (lines : List String) : List String :=
  localVariables.found lines ++ namedParameters.found lines ++ parameters.found lines

/-- The line from which on a driver uses the modules that it has loaded. -/
def usesFrom : BackendKind → String
  | .process => "function main(argv) \x7b"
  | .browser => "\t\t\ttest = function() \x7b"

/-- The lines of a driver that use its modules. -/
def usingLines (kind : BackendKind) (text : String) : List String :=
  (Text.lines text).dropWhile (· != usesFrom kind)

/-- The line of a script that loads a module. -/
def moduleLine (name : String) : String :=
  "var " ++ name ++ " = require('./" ++ name ++ "');"

/-- The line of a script that loads what a module has under its own name. -/
def memberLine (name : String) : String :=
  "var " ++ name ++ " = require('./" ++ name ++ "')." ++ name ++ ";"

/-- In a script the name is that of one variable, which holds what is loaded. -/
structure DeclaredOnce (name text : String) : Prop where
  loads : moduleLine name ∈ Text.lines text ∨ memberLine name ∈ Text.lines text
  declared : (declarations.found (Text.lines text)).count name = 1
  /-- Nothing is assigned to it but what it is declared with. -/
  assigned : (assignments.found (Text.lines text)).count name = 1
  no_function : name ∉ functions.found (Text.lines text)
  /-- Where it is used, the name is not that of another variable. -/
  not_hidden : name ∉ localNames (usingLines .process text)

/-- The line of a page that makes the slot of a module. -/
def slotLine (name : String) : String :=
  "\t\t\t" ++ name ++ " = null;"

/-- The line of a page that fills it. -/
def loadLine (name : String) : String :=
  "\t\t\t\t\t" ++ name ++ " = require('./parser/" ++ name ++ "');"

/-- In a page the name is that of a global variable, which is a slot and is filled. -/
structure AssignedBySlot (name text : String) : Prop where
  slot : slotLine name ∈ Text.lines text
  loads : loadLine name ∈ Text.lines text
  /-- Nothing else is assigned to it. -/
  only : ∀ line ∈ Text.lines text, name ∈ assignments.found [line] →
    line = slotLine name ∨ line = loadLine name
  undeclared : name ∉ declarations.found (Text.lines text)
  /-- Where it is used, the name is not that of another variable. -/
  not_hidden : name ∉ localNames (usingLines .browser text)

/-- The names of the modules of a request are good names for variables in its driver. -/
def Hygienic (spec : DriverSpec) : BackendKind → String → Prop
  | .process, text => ∀ name ∈ moduleNames spec .process, DeclaredOnce name text
  | .browser, text => ∀ name ∈ moduleNames spec .browser, AssignedBySlot name text

/-- The names that a skeleton takes for itself. -/
def Template.taken : Template → List String
  | lexerScript => ["antlr4", "main", "argv", "input", "lexer", "stream", "i"]
  | parserScript =>
    ["antlr4", "TreeShapeListener", "child", "parent", "main", "argv", "input", "lexer", "stream",
      "parser", "tree"]
  | lexerPage =>
    ["antlr4", "loadParser", "test", "lines", "problems", "log", "error", "input", "chars", "lexer",
      "stream", "i"]
  | parserPage =>
    ["antlr4", "TreeShapeListener", "loadParser", "child", "parent", "test", "lines", "problems",
      "log", "error", "input", "chars", "lexer", "tokens", "parser", "tree"]

/-! ## What the patterns find in a skeleton -/

/-- The words that are found whatever the names are. -/
def fixedWords (sl : List Slot) : List String :=
  sl.filterMap fun
    | .fixed chunk => some (String.ofList chunk)
    | .name _ => none

/-- The roles whose names are found. -/
def nameRoles (sl : List Slot) : List Role :=
  sl.filterMap fun
    | .fixed _ => none
    | .name role => some role

section Slots

variable {names : Role → String} {sl : List Slot} {word : String}

theorem count_map_text (names : Role → String) (sl : List Slot) (word : String) :
    (sl.map (Slot.text names)).count word =
      (fixedWords sl).count word + ((nameRoles sl).map names).count word := by
  induction sl with
  | nil => rfl
  | cons slot rest ih =>
      cases slot with
      | fixed chunk =>
          have hwords :
              fixedWords (.fixed chunk :: rest) = String.ofList chunk :: fixedWords rest := rfl
          have hroles : nameRoles (.fixed chunk :: rest) = nameRoles rest := rfl
          have htext : Slot.text names (.fixed chunk) = String.ofList chunk := rfl
          rw [List.map_cons, List.count_cons, ih, hwords, hroles, List.count_cons, htext,
            Nat.add_right_comm]
      | name role =>
          have hwords : fixedWords (.name role :: rest) = fixedWords rest := rfl
          have hroles : nameRoles (.name role :: rest) = role :: nameRoles rest := rfl
          have htext : Slot.text names (.name role) = names role := String.ofList_toList
          rw [List.map_cons, List.count_cons, ih, hwords, hroles, List.map_cons, List.count_cons,
            htext, Nat.add_assoc]

theorem mem_map_text :
    word ∈ sl.map (Slot.text names) ↔
      word ∈ fixedWords sl ∨ word ∈ (nameRoles sl).map names := by
  rw [← List.count_pos_iff, count_map_text, ← List.count_pos_iff, ← List.count_pos_iff]
  omega

end Slots

def patterns : List Pattern :=
  [declarations, assignments, functions, localVariables, namedParameters, parameters]

namespace Template

variable (template : Template) (on : Bool)

/-- What a pattern finds in a skeleton. -/
def finds (p : Pattern) : List Slot :=
  p.foundSlots (template.sketch on).val

/-- Where the part of a skeleton begins that uses the modules. -/
def start : Template → Nat
  | lexerScript => 3
  | parserScript => 24
  | lexerPage => 17
  | parserPage => 42

/-- The names that are found in that part. -/
def localFinds : List Slot :=
  localVariables.foundSlots ((template.sketch on).val.drop template.start)
    ++ namedParameters.foundSlots ((template.sketch on).val.drop template.start)
    ++ parameters.foundSlots ((template.sketch on).val.drop template.start)

def kind : Template → BackendKind
  | lexerScript | parserScript => .process
  | lexerPage | parserPage => .browser

theorem sure_of_names : ∀ row ∈ (template.sketch on).val,
    row.all Slot.isFixed || patterns.all (·.sure (boundedSlots row)) := by
  cases template <;> cases on <;> decide +kernel

theorem start_standsAlone :
    (template.skeleton on)[template.start]? = some (plain (usesFrom template.kind))
      ∧ template.standsAlone on template.start = true := by
  cases template <;> cases on <;> decide +kernel

/-- The line of the skeleton of a script that loads the module for a role. -/
def modulePieces (role : Role) : Line :=
  [.text "var ", .name role, .text " = require('./", .name role, .text "');"]

def memberPieces (role : Role) : Line :=
  [.text "var ", .name role, .text " = require('./", .name role, .text "').", .name role,
    .text ";"]

/-- The lines of the skeleton of a page that make and fill the slot for a role. -/
def slotPieces (role : Role) : Line :=
  [.text "\t\t\t", .name role, .text " = null;"]

def loadPieces (role : Role) : Line :=
  [.text "\t\t\t\t\t", .name role, .text " = require('./parser/", .name role, .text "');"]

variable {template}

theorem finds_of_script (hkind : template.kind = .process) :
    nameRoles (template.finds on declarations) = template.moduleRoles
      ∧ nameRoles (template.finds on assignments) = template.moduleRoles
      ∧ nameRoles (template.finds on functions) = []
      ∧ nameRoles (template.localFinds on) = []
      ∧ (template.taken ⊆ fixedWords (template.finds on declarations)
        ++ fixedWords (template.finds on functions) ++ fixedWords (template.localFinds on))
      ∧ (fixedWords (template.finds on declarations) ++ fixedWords (template.finds on assignments)
        ++ fixedWords (template.finds on functions) ++ fixedWords (template.localFinds on)
          ⊆ template.taken) := by
  revert hkind
  cases template <;> cases on <;> decide +kernel

theorem pieces_of_script (hkind : template.kind = .process) :
    ∀ role ∈ template.moduleRoles,
      modulePieces role ∈ template.skeleton on ∨ memberPieces role ∈ template.skeleton on := by
  revert hkind
  cases template <;> cases on <;> decide +kernel

/-- What a page assigns to variables of its own that are global, each with a line that does. -/
def globals : Template → List (String × String)
  | lexerScript | parserScript => []
  | lexerPage =>
    [ ("antlr4", "\t\t\t\t\tantlr4 = require('antlr4/index');"),
      ("loadParser", "\t\t\tloadParser = function() \x7b"),
      ("test", "\t\t\ttest = function() \x7b") ]
  | parserPage =>
    [ ("antlr4", "\t\t\t\t\tantlr4 = require('antlr4/index');"),
      ("loadParser", "\t\t\tloadParser = function() \x7b"),
      ("test", "\t\t\ttest = function() \x7b"),
      ("TreeShapeListener", "\t\t\t\t\tTreeShapeListener = function() \x7b") ]

theorem assigned_globals (template : Template) (on : Bool) :
    ∀ g ∈ template.globals, plain g.2 ∈ template.skeleton on ∧ g.1 ∈ assignments.found [g.2]
      ∧ g.2 ≠ slotLine g.1 ∧ g.2 ≠ loadLine g.1 := by
  cases template <;> cases on <;> decide +kernel

theorem finds_of_page (hkind : template.kind = .browser) :
    nameRoles (template.finds on declarations) = []
      ∧ nameRoles (template.localFinds on) = []
      ∧ (template.taken ⊆ fixedWords (template.finds on declarations)
        ++ fixedWords (template.localFinds on) ++ template.globals.map Prod.fst)
      ∧ (fixedWords (template.finds on declarations) ++ fixedWords (template.localFinds on)
          ⊆ template.taken) := by
  revert hkind
  cases template <;> cases on <;> decide +kernel

theorem pieces_of_page (hkind : template.kind = .browser) :
    ∀ role ∈ template.moduleRoles,
      slotPieces role ∈ template.skeleton on ∧ loadPieces role ∈ template.skeleton on := by
  revert hkind
  cases template <;> cases on <;> decide +kernel

/-- A line assigns to a variable of the skeleton, or it is a line for a role and to the variable of
that role. -/
def assignsBy (template : Template) (line : Line) : Slot → Bool
  | .fixed chunk => template.taken.contains (String.ofList chunk)
  | .name role => line = slotPieces role || line = loadPieces role

theorem mem_zip_sketch {line : Line} (hline : line ∈ template.skeleton on) :
    (line, lineSlots line) ∈ (template.skeleton on).zip (template.sketch on).val := by
  rw [← (template.sketch on).property]
  obtain ⟨i, hi, rfl⟩ := List.mem_iff_getElem.mp hline
  exact List.mem_iff_getElem.mpr ⟨i, by simpa using hi, by simp⟩

theorem assignsBy_of_page (hkind : template.kind = .browser) :
    ∀ row ∈ (template.skeleton on).zip (template.sketch on).val,
      ∀ slot ∈ assignments.find Test.must (boundedSlots row.2),
        template.assignsBy row.1 slot = true := by
  revert hkind
  cases template <;> cases on <;> decide +kernel

theorem mem_sketch {line : Line} (hline : line ∈ template.skeleton on) :
    lineSlots line ∈ (template.sketch on).val := by
  rw [← (template.sketch on).property]
  exact List.mem_map_of_mem hline

theorem sure {p : Pattern} (hp : p ∈ patterns) {line : Line}
    (hline : line ∈ template.skeleton on) : p.sure (boundedSlots (lineSlots line)) = true := by
  have hrow := sure_of_names template on _ (mem_sketch on hline)
  rcases Bool.or_eq_true_iff.mp hrow with hfixed | hsure
  · refine Pattern.sure_of_all_isFixed ?_
    simpa [boundedSlots, Slot.isFixed] using hfixed
  · exact List.all_eq_true.mp hsure p hp

end Template

/-! ## What the patterns find in a driver -/

variable {names : Role → String} {spec : DriverSpec} {template : Template} {on : Bool}
  {kind : BackendKind} {name : String}

/-- No pattern finds anything in an empty line. -/
theorem foundSlots_nil {p : Pattern} (hp : p ∈ patterns) : p.foundSlots [[]] = [] := by
  revert p
  decide +kernel

/-- Whatever part of a driver is looked at, a pattern finds there what it finds in the skeleton. -/
theorem Suits.found_part (h : Suits names spec template) {p : Pattern} (hp : p ∈ patterns)
    {part : List Line} (hpart : ∀ line ∈ part, line ∈ template.skeleton on) :
    p.found ((part ++ [[]]).map (fillLine names)) =
      (p.foundSlots (part.map lineSlots)).map (Slot.text names) := by
  have hmem : ∀ line ∈ part ++ [[]], line ∈ template.skeleton on := by
    intro line hline
    rcases List.mem_append.mp hline with hline | hline
    · exact hpart line hline
    · rw [List.mem_singleton.mp hline]
      exact template.nil_mem_skeleton on
  have hsure : ∀ row ∈ (part ++ [[]]).map lineSlots, p.sure (boundedSlots row) = true := by
    intro row hrow
    obtain ⟨line, hline, rfl⟩ := List.mem_map.mp hrow
    exact Template.sure on hp (hmem line hline)
  have hnil : p.foundSlots ([[]].map lineSlots) = [] := foundSlots_nil hp
  rw [h.found_lines hmem hsure, List.map_append, Pattern.foundSlots, List.flatMap_append,
    ← Pattern.foundSlots, ← Pattern.foundSlots, hnil, List.append_nil]

theorem Suits.found_fill (h : Suits names spec template) (on : Bool) {p : Pattern}
    (hp : p ∈ patterns) :
    p.found (Text.lines (fill names (template.skeleton on))) =
      (template.finds on p).map (Slot.text names) := by
  rw [h.lines_fill, h.found_part hp fun _ => id, (template.sketch on).property, Template.finds]

theorem Suits.localNames_fill (h : Suits names spec template) (on : Bool) :
    localNames (usingLines template.kind (fill names (template.skeleton on))) =
      (template.localFinds on).map (Slot.text names) := by
  obtain ⟨hline, halone⟩ := template.start_standsAlone on
  have hlines := h.dropWhile_lines hline halone
  rw [fillLine_plain] at hlines
  have hpart : ∀ line ∈ (template.skeleton on).drop template.start, line ∈ template.skeleton on :=
    fun line => List.mem_of_mem_drop
  rw [usingLines, hlines, localNames, h.found_part (by decide) hpart,
    h.found_part (by decide) hpart, h.found_part (by decide) hpart, List.map_drop,
    (template.sketch on).property, Template.localFinds, List.map_append, List.map_append]

/-! ## Scripts -/

theorem fillLine_modulePieces (names : Role → String) (role : Role) :
    fillLine names (Template.modulePieces role) = moduleLine (names role) := by
  apply String.toList_injective
  simp [fillLine, Template.modulePieces, moduleLine, Piece.fill]

theorem fillLine_memberPieces (names : Role → String) (role : Role) :
    fillLine names (Template.memberPieces role) = memberLine (names role) := by
  apply String.toList_injective
  simp [fillLine, Template.memberPieces, memberLine, Piece.fill]

/-- **In a script a name is declared once** exactly when no other module has it, and the script does
not take it for itself. -/
theorem Suits.declaredOnce_iff (h : Suits names spec template) (hkind : template.kind = .process)
    (hname : name ∈ template.moduleRoles.map names) :
    DeclaredOnce name (fill names (template.skeleton on)) ↔
      (template.moduleRoles.map names).count name = 1 ∧ name ∉ template.taken := by
  obtain ⟨hdeclared, hassigned, hfunctions, hlocals, htaken, hfree⟩ :=
    Template.finds_of_script on hkind
  have hcount : ∀ p ∈ patterns, nameRoles (template.finds on p) = template.moduleRoles →
      (p.found (Text.lines (fill names (template.skeleton on)))).count name =
        (fixedWords (template.finds on p)).count name
          + (template.moduleRoles.map names).count name := by
    intro p hp hroles
    rw [h.found_fill on hp, count_map_text, hroles]
  have hdeclarations := hcount declarations (by decide) hdeclared
  have hassignments := hcount assignments (by decide) hassigned
  have hfunction : name ∈ functions.found (Text.lines (fill names (template.skeleton on))) ↔
      name ∈ fixedWords (template.finds on functions) := by
    rw [h.found_fill on (by decide), mem_map_text, hfunctions]
    simp
  have hlocal : name ∈ localNames (usingLines .process (fill names (template.skeleton on))) ↔
      name ∈ fixedWords (template.localFinds on) := by
    rw [← hkind, h.localNames_fill, mem_map_text, hlocals]
    simp
  have hpos := List.count_pos_iff.mpr hname
  constructor
  · intro hd
    have hone := hd.declared
    rw [hdeclarations] at hone
    refine ⟨by omega, fun hmem => ?_⟩
    rcases List.mem_append.mp (htaken hmem) with hmem | hmem
    · rcases List.mem_append.mp hmem with hmem | hmem
      · have hpos' := List.count_pos_iff.mpr hmem
        omega
      · exact hd.no_function (hfunction.mpr hmem)
    · exact hd.not_hidden (hlocal.mpr hmem)
  · rintro ⟨hone, hnot⟩
    have hno := mt (@hfree name) hnot
    simp only [List.mem_append, not_or] at hno
    obtain ⟨⟨⟨hnoD, hnoA⟩, hnoF⟩, hnoL⟩ := hno
    obtain ⟨role, hrole, rfl⟩ := List.mem_map.mp hname
    refine ⟨?_, ?_, ?_, fun hmem => hnoF (hfunction.mp hmem), fun hmem => hnoL (hlocal.mp hmem)⟩
    · rw [← fillLine_modulePieces, ← fillLine_memberPieces]
      exact (Template.pieces_of_script on hkind role hrole).imp h.fillLine_mem h.fillLine_mem
    · rw [hdeclarations, hone, List.count_eq_zero.mpr hnoD]
    · rw [hassignments, hone, List.count_eq_zero.mpr hnoA]

/-! ## Pages -/

theorem fillLine_slotPieces (names : Role → String) (role : Role) :
    fillLine names (Template.slotPieces role) = slotLine (names role) := by
  apply String.toList_injective
  simp [fillLine, Template.slotPieces, slotLine, Piece.fill]

theorem fillLine_loadPieces (names : Role → String) (role : Role) :
    fillLine names (Template.loadPieces role) = loadLine (names role) := by
  apply String.toList_injective
  simp [fillLine, Template.loadPieces, loadLine, Piece.fill]

/-- A line of a page assigns to a variable of its own, or it is one of the two lines for a name. -/
theorem Suits.assigned_cases (h : Suits names spec template) (hkind : template.kind = .browser)
    {line : String} (hline : line ∈ Text.lines (fill names (template.skeleton on)))
    (hname : name ∈ assignments.found [line]) :
    name ∈ template.taken ∨ line = slotLine name ∨ line = loadLine name := by
  rw [h.lines_fill] at hline
  obtain ⟨pieces, hpieces, rfl⟩ := List.mem_map.mp hline
  have hmem : pieces ∈ template.skeleton on := by
    rcases List.mem_append.mp hpieces with hpieces | hpieces
    · exact hpieces
    · rw [List.mem_singleton.mp hpieces]
      exact template.nil_mem_skeleton on
  have hsure := Template.sure on (by decide : assignments ∈ patterns) hmem
  have hfound := h.found_lines (List.forall_mem_singleton.mpr hmem)
    (List.forall_mem_singleton.mpr hsure)
  have hslots : name ∈ (assignments.foundSlots [lineSlots pieces]).map (Slot.text names) :=
    hfound ▸ hname
  obtain ⟨slot, hslot, rfl⟩ := List.mem_map.mp hslots
  rw [Pattern.foundSlots, List.flatMap_singleton] at hslot
  have hby := Template.assignsBy_of_page on hkind _ (Template.mem_zip_sketch on hmem) slot hslot
  cases slot with
  | fixed chunk => exact .inl (List.contains_iff_mem.mp hby)
  | name role =>
      right
      rw [Slot.text, Slot.fill, String.ofList_toList, ← fillLine_slotPieces, ← fillLine_loadPieces]
      rw [Template.assignsBy, Bool.or_eq_true, decide_eq_true_iff, decide_eq_true_iff] at hby
      exact hby.imp (congrArg _) (congrArg _)

/-- **In a page a name is that of a slot** exactly when the page does not take it for itself; two
modules may have one name. -/
theorem Suits.assignedBySlot_iff (h : Suits names spec template)
    (hkind : template.kind = .browser) (hname : name ∈ template.moduleRoles.map names) :
    AssignedBySlot name (fill names (template.skeleton on)) ↔ name ∉ template.taken := by
  obtain ⟨hdeclared, hlocals, htaken, hfree⟩ := Template.finds_of_page on hkind
  have hdeclaration :
      name ∈ declarations.found (Text.lines (fill names (template.skeleton on))) ↔
        name ∈ fixedWords (template.finds on declarations) := by
    rw [h.found_fill on (by decide), mem_map_text, hdeclared]
    simp
  have hlocal : name ∈ localNames (usingLines .browser (fill names (template.skeleton on))) ↔
      name ∈ fixedWords (template.localFinds on) := by
    rw [← hkind, h.localNames_fill, mem_map_text, hlocals]
    simp
  constructor
  · intro ha hmem
    rcases List.mem_append.mp (htaken hmem) with hmem | hmem
    · rcases List.mem_append.mp hmem with hmem | hmem
      · exact ha.undeclared (hdeclaration.mpr hmem)
      · exact ha.not_hidden (hlocal.mpr hmem)
    · obtain ⟨g, hg, rfl⟩ := List.mem_map.mp hmem
      obtain ⟨hline, hassigned, hslot, hload⟩ := template.assigned_globals on g hg
      have hmem := h.fillLine_mem hline
      rw [fillLine_plain] at hmem
      exact (ha.only g.2 hmem hassigned).elim hslot hload
  · intro hnot
    have hno := mt (@hfree name) hnot
    simp only [List.mem_append, not_or] at hno
    obtain ⟨role, hrole, rfl⟩ := List.mem_map.mp hname
    obtain ⟨hslot, hload⟩ := Template.pieces_of_page on hkind role hrole
    refine ⟨?_, ?_, fun line hline hassigned => ?_, fun hmem => hno.1 (hdeclaration.mp hmem),
      fun hmem => hno.2 (hlocal.mp hmem)⟩
    · rw [← fillLine_slotPieces]
      exact h.fillLine_mem hslot
    · rw [← fillLine_loadPieces]
      exact h.fillLine_mem hload
    · exact (h.assigned_cases hkind hline hassigned).resolve_left hnot

/-! ## Drivers of a request -/

theorem kind_select (spec : DriverSpec) (kind : BackendKind) :
    (Template.select spec kind).kind = kind := by
  unfold Template.select
  cases kind <;> cases spec.isLexerOnly <;> rfl

/-- **The names of modules are good names for variables** exactly when the skeleton takes none of
them for itself and, in a script, no two are the same. -/
theorem render_hygienic_iff {text : String} (h : render spec kind = .ok text) :
    Hygienic spec kind text ↔
      (kind = .process → (moduleNames spec kind).Nodup)
        ∧ ∀ name ∈ moduleNames spec kind, name ∉ (Template.select spec kind).taken := by
  obtain ⟨names, hnames, rfl⟩ := exists_names_of_render h
  have hkind := kind_select spec kind
  rw [Template.lines_select, hnames.moduleNames]
  cases kind with
  | process =>
      have hiff : Hygienic spec .process
          (fill names ((Template.select spec .process).skeleton spec.option)) ↔
          ∀ name ∈ (Template.select spec .process).moduleRoles.map names,
            ((Template.select spec .process).moduleRoles.map names).count name = 1
              ∧ name ∉ (Template.select spec .process).taken := by
        rw [Hygienic, hnames.moduleNames]
        exact forall₂_congr fun name hname => hnames.declaredOnce_iff hkind hname
      rw [hiff, forall₂_and, List.nodup_iff_count_eq_one]
      simp
  | browser =>
      have hiff : Hygienic spec .browser
          (fill names ((Template.select spec .browser).skeleton spec.option)) ↔
          ∀ name ∈ (Template.select spec .browser).moduleRoles.map names,
            name ∉ (Template.select spec .browser).taken := by
        rw [Hygienic, hnames.moduleNames]
        exact forall₂_congr fun name hname => hnames.assignedBySlot_iff hkind hname
      rw [hiff]
      simp

/-- In a page modules may have the same name, and also one that a function of the page takes for
its parameter; in a script the same request is no good. -/
theorem render_hygienic_iff_of_shared_names :
    ∃ text text',
      render (DriverSpec.parser "ctx" "ctx" "main" "i" "s") .browser = .ok text
        ∧ Hygienic (DriverSpec.parser "ctx" "ctx" "main" "i" "s") .browser text
        ∧ render (DriverSpec.parser "ctx" "ctx" "main" "i" "s") .process = .ok text'
        ∧ ¬Hygienic (DriverSpec.parser "ctx" "ctx" "main" "i" "s") .process text' := by
  refine ⟨_, _, rfl, (render_hygienic_iff rfl).mpr ⟨nofun, by decide⟩, rfl, fun h => ?_⟩
  have hnodup := ((render_hygienic_iff rfl).mp h).1 rfl
  exact absurd hnodup (by decide)

/-- A lexer with the name of the runtime is accepted, and its script has two declarations of one
variable. -/
theorem script_declares_twice :
    ∃ text, render (DriverSpec.lexer "antlr4") .process = .ok text
      ∧ (declarations.found (Text.lines text)).count "antlr4" = 2
      ∧ ¬Hygienic (DriverSpec.lexer "antlr4") .process text := by
  have hrender : render (DriverSpec.lexer "antlr4") .process = .ok _ := rfl
  refine ⟨_, hrender, ?_⟩
  obtain ⟨names, hnames, htext⟩ := exists_names_of_render hrender
  have hsuits : Suits names (DriverSpec.lexer "antlr4") .lexerScript := hnames
  have hname : names .lexer = "antlr4" :=
    (Option.some.inj (hnames .lexer (List.mem_singleton_self _)).1).symm
  have hwords :
      (fixedWords (Template.lexerScript.finds false declarations)).count "antlr4" = 1 := by
    decide +kernel
  have hroles : nameRoles (Template.lexerScript.finds false declarations) = [.lexer] := by
    decide +kernel
  have htwo : (declarations.found (Text.lines (fill names
      (Template.lexerScript.skeleton false)))).count "antlr4" = 2 := by
    rw [hsuits.found_fill false (by decide), count_map_text, hwords, hroles, List.map_singleton,
      hname]
    rfl
  rw [htext]
  refine ⟨htwo, fun h => ?_⟩
  have hone := (h "antlr4" (by decide)).declared
  exact absurd (hone.symm.trans htwo) (by decide)

end GrammarBench.Driver
