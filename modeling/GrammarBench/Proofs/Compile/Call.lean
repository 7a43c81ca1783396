import GrammarBench.Proofs.FileTree.Way
import GrammarBench.Proofs.Staging.Apart

/-!
# The call of the tool

A request is built step by step, and the options that the tool is called with are those of the steps
in their order and then the fixed ones (`commandLine`). The tool is called once, with nothing in its
queue, where the grammar could be put into the output directory, and otherwise not at all. Main
statement: what a compile run does in each case, to the files as well (`compile_callsTool`).
-/

namespace GrammarBench

open FileTree

/-! ## Requests that are built -/

/-- One step in which a request is built. -/
inductive RequestStep where
  | option (flag : String)
  | options (flags : List String)
  | defaultListener (chosen : Bool)

namespace RequestStep

def apply (r : CompileRequest) : RequestStep → CompileRequest
  | option flag => r.withOption flag
  | options flags => r.withOptions flags
  | defaultListener chosen => r.withDefaultListener chosen

/-- The options that a step adds. -/
def flags : RequestStep → List String
  | option flag => [flag]
  | options flags => flags
  | defaultListener _ => []

end RequestStep

namespace CompileRequest

/-- The request that is built in these steps. -/
def built (name text : String) (steps : List RequestStep) : CompileRequest :=
  steps.foldl RequestStep.apply (.new name text)

theorem foldl_apply (r : CompileRequest) (steps : List RequestStep) :
    (steps.foldl RequestStep.apply r).grammarFileName = r.grammarFileName
      ∧ (steps.foldl RequestStep.apply r).grammarText = r.grammarText
      ∧ (steps.foldl RequestStep.apply r).extraOptions =
        r.extraOptions ++ steps.flatMap RequestStep.flags := by
  induction steps generalizing r with
  | nil => exact ⟨rfl, rfl, (List.append_nil _).symm⟩
  | cons step steps ih =>
      obtain ⟨hname, htext, hoptions⟩ := ih (RequestStep.apply r step)
      rw [List.foldl_cons, hname, htext, hoptions, List.flatMap_cons, ← List.append_assoc]
      cases step with
      | option flag => exact ⟨rfl, rfl, rfl⟩
      | options flags => exact ⟨rfl, rfl, rfl⟩
      | defaultListener chosen => exact ⟨rfl, rfl, by rw [RequestStep.flags, List.append_nil]; rfl⟩

section Built

variable (name text : String) (steps : List RequestStep)

@[simp] theorem grammarFileName_built : (built name text steps).grammarFileName = name :=
  (foldl_apply _ steps).1

@[simp] theorem grammarText_built : (built name text steps).grammarText = text :=
  (foldl_apply _ steps).2.1

@[simp] theorem extraOptions_built :
    (built name text steps).extraOptions = steps.flatMap RequestStep.flags :=
  (foldl_apply _ steps).2.2

end Built

/-- What the tool is called with, in terms of the options of the caller. -/
def commandLine (flags : List String) (outDir : Path) (name : String) : List String :=
  flags ++ ["-Dlanguage=JavaScript", "-o", outDir, "-lib", outDir, Path.join outDir name]

theorem toolOptions_eq (r : CompileRequest) (outDir : Path) :
    r.toolOptions outDir = commandLine r.extraOptions outDir r.grammarFileName := rfl

/-! ## Putting the grammar into the output directory -/

/-- The output directory is there or can be made, and then the grammar can be written into it; `t'`
is the tree with the grammar. -/
def Stores (name text : String) (cwd : Location) (outDir : Path) (t t' : FileTree) : Prop :=
  (t.makeDirs cwd outDir).1 = .ok ()
    ∧ (t.makeDirs cwd outDir).2.write cwd (Path.join outDir name) (Text.utf8 text) = .ok t'

section Stores

variable {name text : String} {cwd l : Location} {outDir : Path} {t t' : FileTree}

theorem Stores.holds (h : Stores name text cwd outDir t t') :
    t'.Holds cwd (Path.join outDir name) (Text.utf8 text) :=
  holds_of_write h.2

theorem Stores.unique {t'' : FileTree} (h : Stores name text cwd outDir t t')
    (h' : Stores name text cwd outDir t t'') : t' = t'' :=
  Except.ok.inj (h.2.symm.trans h'.2)

/-- Nothing changes but the file of the grammar, and that directories are made on the way of the
output directory. -/
theorem Stores.made (h : Stores name text cwd outDir t t')
    (hl : l ≠ siteFrom cwd (Path.join outDir name)) :
    t'.node? l = t.node? l ∨ t.node? l = none ∧ t'.node? l = some .dir ∧ OnWay cwd outDir l := by
  obtain ⟨parent, last, hn, -, htree⟩ := write_eq_ok.mp h.2
  rw [← hn.siteFrom] at hl
  rw [htree, node?_put_of_ne hl]
  exact made_makeDirs t cwd outDir l

end Stores

theorem siteFrom_join_name {name : String} (hname : Path.IsComponent name) (cwd : Location)
    (outDir : Path) :
    siteFrom cwd (Path.join outDir name) = siteFrom cwd outDir ++ [name] := by
  have hrelative := Path.isAbsolute_of_no_slash hname.noSlash
  rw [siteFrom, Path.body_join_name outDir hname.noSlash,
    follow_concat_name hname.nonempty hname.proper, Path.follow_dirBody, siteFrom, start, start,
    Path.isAbsolute_join outDir hrelative]

/-- The host on which the grammar was written, or at least tried to be. -/
def prepared (outDir : Path) (s : Host) (t : FileTree) : Host :=
  { s with tree := t }.logging [⟨.info, "dir " ++ outDir, []⟩]

variable {r : CompileRequest} {outDir : Path} {s : Host} {t : FileTree}

theorem runOn_writeGrammar_of_stores
    (h : Stores r.grammarFileName r.grammarText s.cwd outDir s.tree t) :
    (r.writeGrammar outDir).runOn s = (.ok (), prepared outDir s t) := by
  obtain ⟨hdirs, hwrite⟩ := h
  unfold writeGrammar
  rw [runOn_bind_of_ok (Host.runOn_logInfo s _), runOn_bind, Host.runOn_makeDirs]
  simp only [Host.logging_tree, Host.logging_cwd, hdirs, Except.mapError]
  rw [Host.runOn_writeText]
  simp only [hwrite]
  rfl

theorem runOn_writeGrammar_of_not_stores
    (h : ¬∃ t, Stores r.grammarFileName r.grammarText s.cwd outDir s.tree t) :
    ∃ fault, (r.writeGrammar outDir).runOn s =
      (.error (.io fault), prepared outDir s (s.tree.makeDirs s.cwd outDir).2) := by
  unfold writeGrammar
  rw [runOn_bind_of_ok (Host.runOn_logInfo s _), runOn_bind, Host.runOn_makeDirs]
  simp only [Host.logging_tree, Host.logging_cwd]
  rcases hdirs : (s.tree.makeDirs s.cwd outDir).1 with fault | ⟨⟩
  · exact ⟨fault, rfl⟩
  · simp only [Except.mapError]
    rw [Host.runOn_writeText]
    rcases hwrite : (s.tree.makeDirs s.cwd outDir).2.write s.cwd
      (Path.join outDir r.grammarFileName) (Text.utf8 r.grammarText) with fault | t
    · exact ⟨fault, rfl⟩
    · exact absurd ⟨t, hdirs, hwrite⟩ h

/-! ## The call -/

/-- How a compile run of a request that was built with these flags ends on a bench, and the bench
after it. -/
structure CallsTool (name text : String) (flags : List String) (tool : GrammarTool) (outDir : Path)
    (b : Bench) (result : Except Failure DiagnosticQueue) (b' : Bench) : Prop where
  /-- The tool is called exactly where the grammar can be put into the output directory, once, and
  when that has been done. -/
  called_iff : ∀ t, Stores name text b.host.cwd outDir b.host.tree t ↔
    b'.calls = b.calls ++ [.tool (commandLine flags outDir name) t]
  /-- If not, nothing is called, and the run ends with the fault. -/
  uncalled : (¬∃ t, Stores name text b.host.cwd outDir b.host.tree t) →
    b'.calls = b.calls ∧ ∃ fault, result = .error (.io fault)
  /-- When the tool is called, its last option names a file that holds the grammar and nothing
  else. -/
  at_call : ∀ t, Stores name text b.host.cwd outDir b.host.tree t →
    ∃ file, (commandLine flags outDir name).getLast? = some file
      ∧ t.Holds b.host.cwd file (Text.utf8 text)
  /-- The run gives the messages that the tool, on the files with the grammar, adds to an empty
  queue. -/
  returned : ∀ queue, result = .ok queue ↔
    ∃ t s, Stores name text b.host.cwd outDir b.host.tree t ∧
      (tool.process (commandLine flags outDir name) .empty).runOn (prepared outDir b.host t)
        = ((queue, none), s)
  /-- A failure of the tool is the failure of the run. -/
  tool_failed : ∀ t queue f s, Stores name text b.host.cwd outDir b.host.tree t →
    (tool.process (commandLine flags outDir name) .empty).runOn (prepared outDir b.host t)
      = ((queue, some f), s) → result = .error f
  /-- Before the call only the file of the grammar is changed, and directories are made on the way
  of the output directory; -/
  before_call : ∀ t, Stores name text b.host.cwd outDir b.host.tree t →
    ∀ l, l ≠ siteFrom b.host.cwd (Path.join outDir name) →
      t.node? l = b.host.tree.node? l ∨
        b.host.tree.node? l = none ∧ t.node? l = some .dir ∧ OnWay b.host.cwd outDir l
  /-- after it nothing is changed any more; -/
  after_call : ∀ t, Stores name text b.host.cwd outDir b.host.tree t →
    b'.host.tree = ((tool.process (commandLine flags outDir name) .empty).runOn
      (prepared outDir b.host t)).2.tree
  /-- and without a call there are only such directories. -/
  without_call : (¬∃ t, Stores name text b.host.cwd outDir b.host.tree t) →
    Made (OnWay b.host.cwd outDir) b.host.tree b'.host.tree
  /-- The file of the grammar lies directly in the output directory. -/
  in_outDir : Path.IsComponent name →
    siteFrom b.host.cwd (Path.join outDir name) = siteFrom b.host.cwd outDir ++ [name]

section Cases

variable (tool : GrammarTool) (b : Bench)

/-- Where the grammar is put into the output directory, the tool decides how the run ends. -/
theorem runOn_compile_of_stores
    (h : Stores r.grammarFileName r.grammarText b.host.cwd outDir b.host.tree t) :
    ∃ queue failure s,
      (tool.process (commandLine r.extraOptions outDir r.grammarFileName) .empty).runOn
          (prepared outDir b.host t) = ((queue, failure), s)
        ∧ ((r.compile tool outDir).runOn b).1 = failure.elim (.ok queue) .error
        ∧ ((r.compile tool outDir).runOn b).2.calls =
          b.calls ++ [.tool (commandLine r.extraOptions outDir r.grammarFileName) t]
        ∧ ((r.compile tool outDir).runOn b).2.host.tree = s.tree := by
  rw [runOn_compile, runOn_writeGrammar_of_stores h, toolOptions_eq]
  dsimp only
  rcases (tool.process (commandLine r.extraOptions outDir r.grammarFileName) .empty).runOn
    (prepared outDir b.host t) with ⟨⟨queue, _ | f⟩, s⟩
  · exact ⟨queue, none, s, rfl, rfl, rfl, rfl⟩
  · exact ⟨queue, some f, s, rfl, rfl, rfl, rfl⟩

theorem callsTool_of_stores
    (h : Stores r.grammarFileName r.grammarText b.host.cwd outDir b.host.tree t) :
    CallsTool r.grammarFileName r.grammarText r.extraOptions tool outDir b
      ((r.compile tool outDir).runOn b).1 ((r.compile tool outDir).runOn b).2 := by
  obtain ⟨queue, failure, s, hprocess, hresult, hcalls, htree⟩ :=
    runOn_compile_of_stores tool b h
  constructor
  case called_iff =>
    intro t'
    constructor
    · intro h'
      rw [hcalls, h.unique h']
    · intro hcalls'
      rw [hcalls] at hcalls'
      have ht : t = t' := by simpa using hcalls'
      exact ht ▸ h
  case uncalled => exact fun hnot => absurd ⟨t, h⟩ hnot
  case at_call => exact fun t' h' => ⟨_, List.getLast?_append_of_ne_nil _ (by simp), h'.holds⟩
  case returned =>
    intro queue'
    rw [hresult]
    constructor
    · intro hok
      cases failure with
      | none =>
          cases hok
          exact ⟨t, s, h, hprocess⟩
      | some f => cases hok
    · rintro ⟨t', s', h', hprocess'⟩
      rw [← h.unique h', hprocess] at hprocess'
      cases hprocess'
      rfl
  case tool_failed =>
    intro t' queue' f s' h' hprocess'
    rw [← h.unique h', hprocess] at hprocess'
    cases hprocess'
    exact hresult
  case before_call => exact fun t' h' l hl => h'.made hl
  case after_call =>
    intro t' h'
    rw [htree, ← h.unique h', hprocess]
  case without_call => exact fun hnot => absurd ⟨t, h⟩ hnot
  case in_outDir => exact fun hname => siteFrom_join_name hname _ _

theorem callsTool_of_not_stores
    (h : ¬∃ t, Stores r.grammarFileName r.grammarText b.host.cwd outDir b.host.tree t) :
    CallsTool r.grammarFileName r.grammarText r.extraOptions tool outDir b
      ((r.compile tool outDir).runOn b).1 ((r.compile tool outDir).runOn b).2 := by
  obtain ⟨fault, hwrite⟩ := runOn_writeGrammar_of_not_stores h
  have hrun : (r.compile tool outDir).runOn b = (.error (.io fault),
      { b with host := prepared outDir b.host (b.host.tree.makeDirs b.host.cwd outDir).2 }) := by
    rw [runOn_compile, hwrite]
  rw [hrun]
  constructor
  case called_iff =>
    intro t
    constructor
    · exact fun h' => absurd ⟨t, h'⟩ h
    · exact fun hcalls => absurd hcalls (by simp)
  case uncalled => exact fun _ => ⟨rfl, fault, rfl⟩
  case at_call => exact fun t h' => absurd ⟨t, h'⟩ h
  case returned =>
    intro queue
    constructor
    · intro hok
      cases hok
    · rintro ⟨t, _, h', -⟩
      exact absurd ⟨t, h'⟩ h
  case tool_failed => exact fun t _ _ _ h' => absurd ⟨t, h'⟩ h
  case before_call => exact fun t h' => absurd ⟨t, h'⟩ h
  case after_call => exact fun t h' => absurd ⟨t, h'⟩ h
  case without_call => exact fun _ => made_makeDirs _ _ _
  case in_outDir => exact fun hname => siteFrom_join_name hname _ _

end Cases

/-- **A compile run calls the tool as it was asked to.** -/
theorem compile_callsTool (name text : String) (steps : List RequestStep) (tool : GrammarTool)
    (outDir : Path) (b : Bench) :
    CallsTool name text (steps.flatMap RequestStep.flags) tool outDir b
      (((built name text steps).compile tool outDir).runOn b).1
      (((built name text steps).compile tool outDir).runOn b).2 := by
  have hcalls : CallsTool (built name text steps).grammarFileName
      (built name text steps).grammarText (built name text steps).extraOptions tool outDir b
      (((built name text steps).compile tool outDir).runOn b).1
      (((built name text steps).compile tool outDir).runOn b).2 := by
    by_cases h : ∃ t, Stores (built name text steps).grammarFileName
        (built name text steps).grammarText b.host.cwd outDir b.host.tree t
    · obtain ⟨t, ht⟩ := h
      exact callsTool_of_stores tool b ht
    · exact callsTool_of_not_stores tool b h
  rwa [grammarFileName_built, grammarText_built, extraOptions_built] at hcalls

end CompileRequest

end GrammarBench
