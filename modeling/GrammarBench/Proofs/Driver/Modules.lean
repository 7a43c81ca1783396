import GrammarBench.Proofs.Driver.Shape

/-!
# What a driver requires

A driver loads modules by calls of `require` with a path between single quotes. The calls are read
off the text of the driver, chunk by chunk, and so they are off its skeleton, where the chunks of a
path may be places of names; both readings agree whatever the names are (`Requires.paths_fill`).
The relative paths among those of a driver are the names of the generated modules, one for each role
but the start rule, behind the directory for the kind of backend (`requiredPaths_render`).
-/

namespace GrammarBench.Driver

/-! ## Calls of `require` -/

/-- The chunk does not end a path: it is neither a quote nor the end of the line. -/
def inPath (chunk : List Char) : Bool :=
  chunk != ['\''] && chunk != ['\n']

/-- The path in the call of `require` that the chunks begin with. -/
def pathOfCall? : List (List Char) → Option (List Char)
  | word :: opening :: quote :: rest =>
    if word = "require".toList ∧ opening = ['('] ∧ quote = ['\''] then
      some (rest.takeWhile inPath).flatten
    else none
  | _ => none

/-- The paths in the calls of `require` in a list of chunks. -/
def paths (cs : List (List Char)) : List (List Char) :=
  cs.tails.filterMap pathOfCall?

/-- The paths of the modules that a text requires, in their order. -/
def requiredPaths (text : String) : List Path :=
  (paths (chunks text.toList)).map String.ofList

/-- The path is followed from the directory of the file that requires it. -/
def isRelative (p : Path) : Bool :=
  p.toList.head? == some '.'

theorem paths_cons (chunk : List Char) (cs : List (List Char)) :
    paths (chunk :: cs) = (pathOfCall? (chunk :: cs)).toList ++ paths cs := by
  rw [paths, List.tails, List.filterMap_cons, paths]
  cases pathOfCall? (chunk :: cs) <;> rfl

theorem takeWhile_inPath_append_newline (rest after : List (List Char)) :
    (rest ++ ['\n'] :: after).takeWhile inPath = rest.takeWhile inPath := by
  induction rest with
  | nil => rfl
  | cons chunk rest ih => rw [List.cons_append, List.takeWhile_cons, List.takeWhile_cons, ih]

theorem pathOfCall?_newline (cs : List (List Char)) : pathOfCall? (['\n'] :: cs) = none := by
  match cs with
  | [] => rfl
  | [_] => rfl
  | _ :: _ :: _ => rfl

theorem pathOfCall?_append_newline (cs after : List (List Char)) :
    pathOfCall? (cs ++ ['\n'] :: after) = pathOfCall? cs := by
  match cs with
  | [] => exact pathOfCall?_newline after
  | [word] =>
      cases after with
      | nil => rfl
      | cons _ _ => exact if_neg fun h => absurd h.2.1 (by decide)
  | [word, opening] => exact if_neg fun h => absurd h.2.2 (by decide)
  | word :: opening :: quote :: rest =>
      simp only [List.cons_append, pathOfCall?, takeWhile_inPath_append_newline]

/-- A call does not go on behind the end of its line. -/
theorem paths_append_newline (before after : List (List Char)) :
    paths (before ++ ['\n'] :: after) = paths before ++ paths after := by
  induction before with
  | nil => rw [List.nil_append, paths_cons, pathOfCall?_newline]; rfl
  | cons chunk before ih =>
      rw [List.cons_append, paths_cons, paths_cons, ih, ← List.cons_append,
        pathOfCall?_append_newline, List.append_assoc]

/-! ## Calls in a skeleton -/

namespace Slot

def inPath (slot : Slot) : Bool :=
  slot != fixed ['\''] && slot != fixed ['\n']

/-- The path in the call of `require` that a skeleton begins with. -/
def pathOfCall? : List Slot → Option (List Slot)
  | word :: opening :: quote :: rest =>
    if word = fixed "require".toList ∧ opening = fixed ['('] ∧ quote = fixed ['\''] then
      some (rest.takeWhile inPath)
    else none
  | _ => none

/-- The skeleton does not begin with a name that is called with a quoted text: such a name could be
the word that modules are required by. -/
def notCalled : List Slot → Bool
  | name _ :: fixed opening :: fixed quote :: _ => opening != ['('] || quote != ['\'']
  | _ => true

variable {names : Role → String}

/-- A name does not fill its place with a character that is of no identifier. -/
theorem fill_eq_singleton {slot : Slot} {c : Char} (hc : isIdentifierPart c = false)
    (hslot : ∀ role, slot = .name role → isIdentifier (names role).toList = true) :
    slot.fill names = [c] ↔ slot = .fixed [c] := by
  cases slot with
  | fixed chunk => simp [fill]
  | name role =>
      have hpart := isIdentifierPart_of_mem (hslot role rfl)
      refine iff_of_false (fun heq => ?_) (by simp)
      have hmem : c ∈ (names role).toList := by
        rw [show (names role).toList = [c] from heq]
        exact List.mem_singleton_self c
      rw [hpart c hmem] at hc
      cases hc

variable {sl : List Slot}
  (hnames : ∀ role, .name role ∈ sl → isIdentifier (names role).toList = true)

include hnames

theorem fill_eq_singleton_of_mem (slot : Slot) (hslot : slot ∈ sl) {c : Char}
    (hc : isIdentifierPart c = false) : slot.fill names = [c] ↔ slot = .fixed [c] :=
  fill_eq_singleton hc fun role hrole => hnames role (hrole ▸ hslot)

theorem takeWhile_fill :
    (sl.map (fill names)).takeWhile Driver.inPath = (sl.takeWhile inPath).map (fill names) := by
  induction sl with
  | nil => rfl
  | cons slot rest ih =>
      have hrest := ih fun role hrole => hnames role (List.mem_cons_of_mem _ hrole)
      have hquote := fill_eq_singleton_of_mem hnames slot List.mem_cons_self
        (by decide : isIdentifierPart '\'' = false)
      have hnewline := fill_eq_singleton_of_mem hnames slot List.mem_cons_self
        (by decide : isIdentifierPart '\n' = false)
      have hhere : Driver.inPath (slot.fill names) = slot.inPath := by
        simp only [Driver.inPath, inPath, bne, Bool.beq_eq_decide_eq, hquote, hnewline]
      rw [List.map_cons, List.takeWhile_cons, List.takeWhile_cons, hhere, hrest]
      split <;> rfl

/-- In a filled skeleton, the calls of `require` are where the skeleton has them. -/
theorem pathOfCall?_fill (hcalled : notCalled sl = true) :
    Driver.pathOfCall? (sl.map (fill names)) =
      (pathOfCall? sl).map fun path => (path.map (fill names)).flatten := by
  match sl, hcalled, hnames with
  | [], _, _ => rfl
  | [_], _, _ => rfl
  | [_, _], _, _ => rfl
  | word :: opening :: quote :: rest, hcalled, hnames =>
      have hsecond := fill_eq_singleton_of_mem hnames opening (by simp)
        (by decide : isIdentifierPart '(' = false)
      have hthird := fill_eq_singleton_of_mem hnames quote (by simp)
        (by decide : isIdentifierPart '\'' = false)
      have hrest : (rest.map (fill names)).takeWhile Driver.inPath =
          (rest.takeWhile inPath).map (fill names) :=
        takeWhile_fill fun role hrole => hnames role (by simp [hrole])
      have hcall : (word.fill names = "require".toList ∧ opening.fill names = ['(']
            ∧ quote.fill names = ['\'']) ↔
          (word = .fixed "require".toList ∧ opening = .fixed ['('] ∧ quote = .fixed ['\'']) := by
        rw [hsecond, hthird]
        refine and_congr_left fun ⟨hopen, hclose⟩ => ?_
        cases word with
        | fixed chunk => simp [fill]
        | name role => simp [notCalled, hopen, hclose] at hcalled
      simp only [List.map_cons, Driver.pathOfCall?, pathOfCall?, hcall, hrest]
      split <;> rfl

theorem paths_fill (hcalled : sl.tails.all notCalled = true) :
    paths (sl.map (fill names)) =
      (sl.tails.filterMap pathOfCall?).map fun path => (path.map (fill names)).flatten := by
  induction sl with
  | nil => rfl
  | cons slot rest ih =>
      rw [List.tails, List.all_cons, Bool.and_eq_true] at hcalled
      have hhere := pathOfCall?_fill hnames hcalled.1
      have hthere := ih (fun role hrole => hnames role (List.mem_cons_of_mem _ hrole)) hcalled.2
      rw [List.map_cons] at hhere
      rw [List.map_cons, paths_cons, hhere, hthere, List.tails, List.filterMap_cons]
      cases pathOfCall? (slot :: rest) <;> rfl

end Slot

/-- The calls of `require` in a line of a skeleton. -/
def lineCalls (line : Line) : List (List Slot) :=
  (line.flatMap Piece.slots).tails.filterMap Slot.pathOfCall?

/-- The lines of a skeleton have these calls of `require`, at most one in a line. Most lines have no
place for a name, and then it is enough to look at their characters. -/
inductive Requires : List Line → List (List Slot) → Prop
  | nil : Requires [] []
  | quiet {cs : List Char} {lines : List Line} {found : List (List Slot)} :
      paths (chunks cs) = [] → Requires lines found →
      Requires (plain (String.ofList cs) :: lines) found
  | quiet_append {cs ds : List Char} {lines : List Line} {found : List (List Slot)} :
      paths (chunks (cs ++ ds)) = [] → Requires lines found →
      Requires (plain (String.ofList cs ++ String.ofList ds) :: lines) found
  | silent {line : Line} {lines : List Line} {found : List (List Slot)} :
      (line.flatMap Piece.slots).tails.all Slot.notCalled = true → lineCalls line = [] →
      Requires lines found → Requires (line :: lines) found
  | call {line : Line} {lines : List Line} {path : List Slot} {found : List (List Slot)} :
      (line.flatMap Piece.slots).tails.all Slot.notCalled = true → lineCalls line = [path] →
      Requires lines found → Requires (line :: lines) (path :: found)

namespace Requires

variable {lines more : List Line} {found : List (List Slot)}

theorem append (h : Requires lines []) (hmore : Requires more found) :
    Requires (lines ++ more) found := by
  generalize hnone : [] = none at h
  induction h with
  | nil => exact hmore
  | quiet hquiet _ ih => exact .quiet hquiet (ih hnone)
  | quiet_append hquiet _ ih => exact .quiet_append hquiet (ih hnone)
  | silent hcalled hsilent _ ih => exact .silent hcalled hsilent (ih hnone)
  | call => cases hnone

/-- Lines that are there only if asked for. -/
theorem ite_append {b : Bool} (h : Requires lines []) (hmore : Requires more found) :
    Requires ((if b = true then lines else []) ++ more) found := by
  split
  · exact h.append hmore
  · exact hmore

theorem slots_plain (names : Role → String) (cs : List Char) :
    ((plain (String.ofList cs)).flatMap Piece.slots).map (Slot.fill names) = chunks cs := by
  simp [plain, Piece.slots, Function.comp_def, Slot.fill]

/-- The calls of a driver are those of its skeleton, with the names put in. -/
theorem paths_fill {names : Role → String} (h : Requires lines found)
    (hnames : ∀ role, .name role ∈ slots lines → isIdentifier (names role).toList = true) :
    paths ((slots lines).map (Slot.fill names)) =
      found.map fun path => (path.map (Slot.fill names)).flatten := by
  induction h with
  | nil => rfl
  | quiet hquiet _ ih =>
      rw [slots_cons] at hnames ⊢
      have hrest := ih fun role hrole => hnames role (by simp [hrole])
      rw [List.map_append, List.map_cons, slots_plain, Slot.fill, paths_append_newline, hquiet,
        hrest, List.nil_append]
  | quiet_append hquiet _ ih =>
      rw [slots_cons] at hnames ⊢
      have hrest := ih fun role hrole => hnames role (by simp [hrole])
      rw [List.map_append, List.map_cons, ← String.ofList_append, slots_plain, Slot.fill,
        paths_append_newline, hquiet, hrest, List.nil_append]
  | silent hcalled hsilent _ ih =>
      rw [slots_cons] at hnames ⊢
      have hrest := ih fun role hrole => hnames role (by simp [hrole])
      have hline := Slot.paths_fill (fun role hrole => hnames role (List.mem_append_left _ hrole))
        hcalled
      rw [List.map_append, List.map_cons, Slot.fill, paths_append_newline, hline, hrest,
        ← lineCalls, hsilent]
      rfl
  | call hcalled hcall _ ih =>
      rw [slots_cons] at hnames ⊢
      have hrest := ih fun role hrole => hnames role (by simp [hrole])
      have hline := Slot.paths_fill (fun role hrole => hnames role (List.mem_append_left _ hrole))
        hcalled
      rw [List.map_append, List.map_cons, Slot.fill, paths_append_newline, hline, hrest,
        ← lineCalls, hcall]
      rfl

end Requires

/-! ## The modules of a driver -/

namespace Template

/-- The roles of which each has a module of its own: a start rule is part of a parser. -/
def moduleRoles : Template → List Role
  | lexerScript | lexerPage => [.lexer]
  | parserScript | parserPage => [.lexer, .parser, .listener, .visitor]

/-- What the path of a generated module begins with. -/
def moduleDir : Template → String
  | lexerScript | parserScript => "./"
  | lexerPage | parserPage => "./" ++ pageGrammarDir ++ "/"

/-- The module of the runtime that all recognizers have in common. -/
def runtime : Template → String
  | lexerScript | parserScript => "antlr4"
  | lexerPage | parserPage => "antlr4/index"

def calls (template : Template) : List (List Slot) :=
  Piece.slots (.text template.runtime) ::
    template.moduleRoles.map fun role => Piece.slots (.text template.moduleDir) ++ [.name role]

/-- A driver requires the runtime and the module of each role that has one. -/
theorem requires (template : Template) (debug showDfa : Bool) :
    Requires (template.lines debug showDfa) template.calls := by
  cases template
  all_goals
    simp only [lines, Driver.lexerScript, lexerScriptHead, lexerScriptDfa, lexerScriptTail,
      Driver.parserScript, parserScriptHead, parserScriptDebug, parserScriptTail, Driver.lexerPage,
      Driver.parserPage, page, pageHead, pageLoad, pageRun, pageTail, lexerSlots, lexerLoad,
      lexerRun, lexerPageDfa, parserSlots, parserLoad, parserRunHead, parserPageDebug,
      parserRunTail, calls, moduleRoles, List.map_cons, List.map_nil, List.append_assoc,
      List.cons_append, List.nil_append]
    repeat' first
      | exact .nil
      | refine .ite_append ?_ ?_
      | refine .quiet (by decide +kernel) ?_
      | refine .quiet_append (by decide +kernel) ?_
      | refine .silent (by decide +kernel) (by decide +kernel) ?_
      | refine .call (by decide +kernel) (by decide +kernel) ?_

theorem mem_roles_of_mem_moduleRoles {template : Template} {role : Role}
    (h : role ∈ template.moduleRoles) : role ∈ template.roles := by
  cases template <;> revert role <;> decide

end Template

variable {names : Role → String} {spec : DriverSpec} {template : Template}

theorem flatten_fill_text (names : Role → String) (s : String) :
    ((Piece.slots (.text s)).map (Slot.fill names)).flatten = s.toList := by
  rw [Piece.slots, List.map_map]
  exact (congrArg List.flatten (List.map_id _)).trans (List.flatten_splitBy _ _)

theorem Suits.requiredPaths_fill (h : Suits names spec template) (debug showDfa : Bool) :
    requiredPaths (fill names (template.lines debug showDfa)) =
      template.runtime :: template.moduleRoles.map fun role => template.moduleDir ++ names role := by
  rw [requiredPaths, h.chunks_fill, (template.requires debug showDfa).paths_fill fun role hrole =>
      (h role (role_mem_of_slot hrole)).2,
    Template.calls, List.map_cons, List.map_cons, flatten_fill_text, String.ofList_toList,
    List.map_map, List.map_map]
  refine congrArg (_ :: ·) (List.map_congr_left fun role _ => ?_)
  simp only [Function.comp_apply, List.map_append, List.flatten_append, flatten_fill_text]
  simp [Slot.fill]

/-- The names of the generated modules that a driver for this request has to load. -/
def moduleNames (spec : DriverSpec) (kind : BackendKind) : List String :=
  (Template.select spec kind).moduleRoles.filterMap spec.name?

theorem Suits.moduleNames {kind : BackendKind} (h : Suits names spec (Template.select spec kind)) :
    moduleNames spec kind = (Template.select spec kind).moduleRoles.map names := by
  rw [Driver.moduleNames, ← List.filterMap_eq_map]
  refine List.filterMap_congr fun role hrole => ?_
  exact (h role (Template.mem_roles_of_mem_moduleRoles hrole)).1

theorem isIdentifier_of_mem_moduleNames {kind : BackendKind} {text name : String}
    (h : render spec kind = .ok text) (hname : name ∈ moduleNames spec kind) :
    isIdentifier name.toList = true := by
  obtain ⟨names, hnames, -⟩ := exists_names_of_render h
  rw [hnames.moduleNames] at hname
  obtain ⟨role, hrole, rfl⟩ := List.mem_map.mp hname
  exact (hnames role (Template.mem_roles_of_mem_moduleRoles hrole)).2

/-- **The relative paths that a driver requires** are the names of the generated modules behind the
directory where its kind of backend has them. -/
theorem requiredPaths_render {kind : BackendKind} {text : String}
    (h : render spec kind = .ok text) :
    (requiredPaths text).filter isRelative =
      (moduleNames spec kind).map ((Template.select spec kind).moduleDir ++ ·) := by
  obtain ⟨names, hnames, rfl⟩ := exists_names_of_render h
  have hruntime : isRelative (Template.select spec kind).runtime = false := by
    cases Template.select spec kind <;> decide
  have hmodule : ∀ name, isRelative ((Template.select spec kind).moduleDir ++ name) = true := by
    intro name
    cases Template.select spec kind <;> simp [isRelative, Template.moduleDir]
  rw [hnames.requiredPaths_fill, hnames.moduleNames, List.filter_cons, hruntime,
    if_neg Bool.false_ne_true, List.map_map, List.filter_eq_self.mpr]
  · rfl
  · intro p hp
    obtain ⟨role, -, rfl⟩ := List.mem_map.mp hp
    exact hmodule _

end GrammarBench.Driver
