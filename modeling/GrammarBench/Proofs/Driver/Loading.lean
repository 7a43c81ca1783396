import GrammarBench.Proofs.Driver.Modules
import GrammarBench.Proofs.Staging
import GrammarBench.Proofs.Text.Utf8

/-!
# Loading the generated modules

The tool puts the modules of a recognizer into the output directory of an area, the driver is
written into the area itself, and it requires the modules by paths that are followed from there.
These paths lead to the files of the tool, for either kind of backend (`locate_requiredPath`), and
the files are as the tool left them, but for one: a script is written to `Test.js`, so the module
of a name `Test` is replaced by the driver that requires it (`modules_after_writeDriver`). A page
has its modules in a directory of their own, where nothing else is written.
-/

namespace GrammarBench

namespace Driver

/-- The file of the module of this name. -/
def moduleFile (name : String) : String :=
  name ++ ".js"

/-- The names that lead from the directory of the driver to that of the modules. -/
def moduleSegments : BackendKind → List String
  | .process => []
  | .browser => [pageGrammarDir]

theorem not_mem_moduleFile {name : String} (hname : isIdentifier name.toList = true) {c : Char}
    (hc : isIdentifierPart c = false) (hend : c ∉ ".js".toList) : c ∉ (moduleFile name).toList := by
  rw [moduleFile, String.toList_append, List.mem_append, not_or]
  refine ⟨fun hmem => ?_, hend⟩
  rw [isIdentifierPart_of_mem hname c hmem] at hc
  cases hc

theorem moduleFile_ne (name : String) {file : String} (hfile : file.toList.getLast? ≠ some 's') :
    moduleFile name ≠ file := by
  rintro rfl
  simp [moduleFile] at hfile

theorem isName_moduleFile (name : String) : FileTree.isName (moduleFile name) = true :=
  FileTree.isName_iff.mpr ⟨moduleFile_ne name (by decide), moduleFile_ne name (by decide)⟩

/-- A module has the file name of a driver only if that driver is a script. -/
theorem moduleFile_eq_fileName (spec : DriverSpec) (kind : BackendKind) {name : String} :
    moduleFile name = (Template.select spec kind).fileName ↔ kind = .process ∧ name = "Test" := by
  cases kind with
  | process =>
      have hfile : (Template.select spec .process).fileName = "Test" ++ ".js" := by
        cases h : spec.isLexerOnly <;> simp [Template.select, h, Template.fileName, scriptFile]
      rw [hfile, moduleFile, String.append_left_inj]
      simp
  | browser =>
      have hfile : (Template.select spec .browser).fileName = pageFile := by
        cases h : spec.isLexerOnly <;> simp [Template.select, h, Template.fileName]
      rw [hfile]
      exact iff_of_false (moduleFile_ne name (by decide)) (by simp)

/-- The segments of the path by which a driver requires a module, with the end of the file name. -/
theorem body_requiredPath (spec : DriverSpec) (kind : BackendKind) {file : String}
    (hslash : '/' ∉ file.toList) :
    Path.body ((Template.select spec kind).moduleDir ++ file) =
      "." :: (moduleSegments kind ++ [file]) := by
  have hfile : Path.splitSegments [] file.toList = [file] := by
    simp [Path.splitSegments_of_no_slash hslash]
  cases kind with
  | process =>
      have hdir : (Template.select spec .process).moduleDir = "./" := by
        cases h : spec.isLexerOnly <;> simp [Template.select, h, Template.moduleDir]
      simp [hdir, Path.body, Path.isAbsolute, Path.segments, Path.splitSegments, hfile,
        moduleSegments]
  | browser =>
      have hdir : (Template.select spec .browser).moduleDir = "./parser/" := by
        cases h : spec.isLexerOnly <;>
          simp [Template.select, h, Template.moduleDir, pageGrammarDir]
      simp [hdir, Path.body, Path.isAbsolute, Path.segments, Path.splitSegments, hfile,
        moduleSegments, pageGrammarDir]

/-- Such a path is one that an operation on files accepts. -/
theorem checkText_requiredPath (spec : DriverSpec) (kind : BackendKind) {file : String}
    (hnul : '\x00' ∉ file.toList) (hfits : FileTree.checkName file = .ok ()) :
    FileTree.checkText ((Template.select spec kind).moduleDir ++ file) = .ok () := by
  have hsize : file.utf8ByteSize ≤ FileTree.nameLimit := by
    unfold FileTree.checkName at hfits
    split at hfits
    · cases hfits
    · omega
  have hdir : (Template.select spec kind).moduleDir = "./"
      ∨ (Template.select spec kind).moduleDir = "./parser/" := by
    cases Template.select spec kind <;> simp [Template.moduleDir, pageGrammarDir]
  generalize (Template.select spec kind).moduleDir = dir at hdir ⊢
  unfold FileTree.checkText
  rw [if_neg, if_neg, if_neg]
  · rcases hdir with rfl | rfl <;> simp
  · have : dir.utf8ByteSize ≤ 9 := by rcases hdir with rfl | rfl <;> decide
    simp only [FileTree.nameLimit] at hsize
    simp only [FileTree.pathLimit, String.utf8ByteSize_append]
    omega
  · rcases hdir with rfl | rfl <;> simp [hnul]

end Driver

namespace StagingArea

variable {a : StagingArea} {spec : DriverSpec} {kind : BackendKind}

theorem isAbsolute_outputPath (a : StagingArea) (kind : BackendKind) {file : String}
    (hslash : '/' ∉ file.toList) :
    (Path.join (a.outputPath kind) file).isAbsolute = a.path.isAbsolute := by
  rw [Path.isAbsolute_join _ (Path.isAbsolute_of_no_slash hslash)]
  cases kind with
  | process => rfl
  | browser => exact Path.isAbsolute_join _ (by decide)

/-- The segments of the path of a file in the output directory. -/
theorem body_join_outputPath (a : StagingArea) (kind : BackendKind) {file : String}
    (hslash : '/' ∉ file.toList) :
    (Path.join (a.outputPath kind) file).body =
      a.path.dirBody ++ (Driver.moduleSegments kind ++ [file]) := by
  rw [Path.body_join_name _ hslash]
  cases kind with
  | process => rfl
  | browser =>
      rw [outputPath, Path.dirBody_join_name _ (by decide) (by decide), List.append_assoc]
      rfl

/-- **A path that a driver requires leads to the module of that name**, as it is seen from the
directory of the driver. -/
theorem locate_requiredPath (spec : DriverSpec) {t : FileTree} {cwd dir : Location}
    {driverFile file : String} {content : List UInt8} (hdriver : '/' ∉ driverFile.toList) (hslash : '/' ∉ file.toList)
    (hnul : '\x00' ∉ file.toList)
    (hentry : t.Names cwd (Path.join a.path driverFile) dir driverFile)
    (hmodule : t.Holds cwd (Path.join (a.outputPath kind) file) content) :
    ∃ loc, t.locate cwd (Path.join (a.outputPath kind) file) = .ok loc
      ∧ t.locate dir ((Driver.Template.select spec kind).moduleDir ++ file) = .ok loc
      ∧ t.node? loc = some (.file content) := by
  obtain ⟨parent, name, hn, hnode⟩ := hmodule
  have hloc := hn.locate (by rw [hnode]; rfl)
  have hbody := a.body_join_outputPath kind hslash
  obtain rfl : name = file := by
    have hlast := hn.getLast?_body
    rw [hbody, ← List.append_assoc, List.getLast?_concat] at hlast
    exact (Option.some.inj hlast).symm
  refine ⟨_, hloc, ?_, hnode⟩
  -- Both files are reached from the directory of the area, and the driver stands right in it.
  obtain ⟨-, hwalk⟩ := FileTree.locate_eq_ok.mp hloc
  rw [hbody, FileTree.walk_append] at hwalk
  obtain ⟨home, hhome, hrest⟩ := bind_eq_ok.mp hwalk
  obtain ⟨init, hinit, hdir⟩ := hentry.body
  rw [Path.body_join_name _ hdriver] at hinit
  obtain ⟨rfl, -⟩ := List.append_inj' hinit rfl
  have hstart : FileTree.start cwd (Path.join a.path driverFile) =
      FileTree.start cwd (Path.join (a.outputPath kind) name) := by
    rw [FileTree.start, FileTree.start, a.isAbsolute_outputPath kind hslash,
      Path.isAbsolute_join _ (Path.isAbsolute_of_no_slash hdriver)]
  rw [hstart, hhome] at hdir
  cases hdir
  have hhere : t.step dir "." = .ok dir := by
    rw [FileTree.step_eq_ok]
    exact ⟨hentry.parent_dir, rfl⟩
  have hrelative :
      Path.isAbsolute ((Driver.Template.select spec kind).moduleDir ++ name) = false := by
    cases Driver.Template.select spec kind <;> simp [Driver.Template.moduleDir, Path.isAbsolute]
  rw [FileTree.locate_eq_ok, Driver.body_requiredPath spec kind hslash, FileTree.start, hrelative,
    if_neg Bool.false_ne_true]
  refine ⟨Driver.checkText_requiredPath spec kind hnul hn.fits, ?_⟩
  rw [FileTree.walk, List.foldlM_cons, hhere, ok_bind]
  exact hrest

/-- A module that the tool has written is there when the input is staged and the driver is written,
unless the driver has the same file name. -/
theorem holds_module_after_writeDriver {s s₁ s₂ : Host} {driver input name : String}
    {path entry : Path} {content : List UInt8}
    (htool : s.tree.Holds s.cwd (Path.join (a.outputPath kind) (Driver.moduleFile name)) content)
    (hname : Driver.isIdentifier name.toList = true)
    (hinput : (a.stageInput input).runOn s = (.ok path, s₁))
    (hdriver : (a.writeFile (Driver.Template.select spec kind).fileName driver).runOn s₁
      = (.ok entry, s₂)) :
    s₂.tree.Holds s₂.cwd (Path.join (a.outputPath kind) (Driver.moduleFile name))
      (if kind = .process ∧ name = "Test" then Text.utf8 driver else content) := by
  have hslash : '/' ∉ (Driver.moduleFile name).toList :=
    Driver.not_mem_moduleFile hname (by decide) (by decide)
  have hlast : (Path.join (a.outputPath kind) (Driver.moduleFile name)).body.getLast? =
      some (Driver.moduleFile name) := by
    rw [Path.body_join_name _ hslash, List.getLast?_concat]
  have hfileName : '/' ∉ (Driver.Template.select spec kind).fileName.toList := by
    cases Driver.Template.select spec kind <;> decide
  split
  · rename_i hclash
    have hentry := (writeFile_eq_ok hdriver).1
    rw [← Driver.moduleFile_eq_fileName spec] at hclash
    have hprocess := ((Driver.moduleFile_eq_fileName spec kind).mp hclash).1
    rw [hclash, hprocess, outputPath, ← hprocess, ← hentry]
    exact holds_of_writeFile hdriver
  · rename_i hclear
    rw [← Driver.moduleFile_eq_fileName spec] at hclear
    have hstaged := holds_of_writeFile_of_ne hinput htool (by
      rw [hlast, (writeFile_eq_ok hinput).1, Path.body_join_name _ (by decide),
        List.getLast?_concat]
      exact fun heq => Driver.moduleFile_ne name (by decide) (Option.some.inj heq))
    refine holds_of_writeFile_of_ne hdriver hstaged ?_
    rw [hlast, (writeFile_eq_ok hdriver).1, Path.body_join_name _ hfileName, List.getLast?_concat]
    exact fun heq => hclear (Option.some.inj heq)

/-- **What a driver requires is what the tool has written**, unless it is a script and the module
has the name `Test`: then it is the driver itself. -/
theorem modules_after_writeDriver {s₀ s₀' s s₁ s₂ : Host} {outDir path entry : Path}
    {driver input : String} {content : String → List UInt8}
    (hrender : Driver.render spec kind = .ok driver)
    (hout : (a.outputDir kind).runOn s₀ = (.ok outDir, s₀'))
    (htool : ∀ name ∈ Driver.moduleNames spec kind,
      s.tree.read s.cwd (Path.join outDir (Driver.moduleFile name)) = .ok (content name))
    (hinput : (a.stageInput input).runOn s = (.ok path, s₁))
    (hdriver : (a.writeDriver spec kind).runOn s₁ = (.ok entry, s₂)) :
    ∃ dir file, s₂.tree.locate s₂.cwd entry = .ok (dir ++ [file]) ∧
      ∀ p ∈ Driver.requiredPaths driver, Driver.isRelative p = true →
        ∃ name ∈ Driver.moduleNames spec kind, ∃ loc,
          s₂.tree.locate dir (p ++ ".js") = .ok loc
            ∧ s₂.tree.locate s₂.cwd (Path.join outDir (Driver.moduleFile name)) = .ok loc
            ∧ s₂.tree.node? loc = some (.file
              (if kind = .process ∧ name = "Test" then Text.utf8 driver else content name)) := by
  obtain rfl := outputDir_eq_ok hout
  rw [runOn_writeDriver, hrender] at hdriver
  have hfileName : '/' ∉ (Driver.Template.select spec kind).fileName.toList := by
    cases Driver.Template.select spec kind <;> decide
  obtain ⟨dir, file, hn, hnode⟩ := holds_of_writeFile hdriver
  have hentry := (writeFile_eq_ok hdriver).1
  obtain rfl : file = (Driver.Template.select spec kind).fileName := by
    have hlast := hn.getLast?_body
    rw [hentry, Path.body_join_name _ hfileName, List.getLast?_concat] at hlast
    exact (Option.some.inj hlast).symm
  refine ⟨dir, _, hn.locate (by rw [hnode]; rfl), fun p hp hrelative => ?_⟩
  have hmem := List.mem_filter.mpr ⟨hp, hrelative⟩
  rw [Driver.requiredPaths_render hrender] at hmem
  obtain ⟨name, hname, rfl⟩ := List.mem_map.mp hmem
  have hidentifier := Driver.isIdentifier_of_mem_moduleNames hrender hname
  have hslash := Driver.not_mem_moduleFile hidentifier (c := '/') (by decide) (by decide)
  have hnul := Driver.not_mem_moduleFile hidentifier (c := '\x00') (by decide) (by decide)
  have hwritten := FileTree.Holds.of_read (htool name hname) (Path.body_join_name _ hslash)
    (Driver.moduleFile_ne name (by decide)) (Driver.isName_moduleFile name)
  have hholds := holds_module_after_writeDriver hwritten hidentifier hinput hdriver
  obtain ⟨loc, hloc, hrequired, hcontent⟩ := locate_requiredPath spec hfileName hslash hnul
    (hentry ▸ hn) hholds
  refine ⟨name, hname, loc, ?_, hloc, hcontent⟩
  rw [String.append_assoc]
  exact hrequired

/-! ## Modules of the name `Test` -/

namespace TestModules

def area : StagingArea :=
  ⟨"/s", false⟩

/-- A host where the tool has written modules with these names into a directory. -/
def host (dir : Location) (names : List String) : Host where
  system := "Linux"
  tree := ⟨(["s"], .dir) :: (dir, .dir) ::
    names.map fun name => (dir ++ [Driver.moduleFile name], .file [0x78])⟩
  cwd := []
  serial := 0
  ports := []
  traffic := []
  log := []

def parserSpec : DriverSpec :=
  .parser "Test" "TestLexer" "TestListener" "TestVisitor" "s"

end TestModules

open TestModules in
/-- A page finds the module `Test` as the tool wrote it. -/
theorem modules_after_writeDriver_page :
    let s := host ["s", "parser"] ["Test", "TestLexer", "TestListener", "TestVisitor"]
    ∃ driver s₁ s₂, Driver.render parserSpec .browser = .ok driver
      ∧ (area.stageInput "x").runOn s = (.ok "/s/input", s₁)
      ∧ (area.writeDriver parserSpec .browser).runOn s₁ = (.ok "/s/Test.html", s₂)
      ∧ ∃ dir file, s₂.tree.locate s₂.cwd "/s/Test.html" = .ok (dir ++ [file]) ∧
        ∀ p ∈ Driver.requiredPaths driver, Driver.isRelative p = true →
          ∃ name ∈ Driver.moduleNames parserSpec .browser, ∃ loc,
            s₂.tree.locate dir (p ++ ".js") = .ok loc
              ∧ s₂.tree.locate s₂.cwd (Path.join "/s/parser" (Driver.moduleFile name)) = .ok loc
              ∧ s₂.tree.node? loc = some (.file
                (if BackendKind.browser = .process ∧ name = "Test" then Text.utf8 driver
                  else [0x78])) := by
  intro s
  obtain ⟨driver, hrender⟩ : ∃ driver, Driver.render parserSpec .browser = .ok driver := ⟨_, rfl⟩
  have hout : ((area.outputDir .browser).runOn s).1 = .ok "/s/parser" := by decide +kernel
  have htool : ∀ name ∈ Driver.moduleNames parserSpec .browser,
      s.tree.read s.cwd (Path.join "/s/parser" (Driver.moduleFile name)) = .ok [0x78] := by
    decide +kernel
  have hinput : ((area.stageInput "x").runOn s).1 = .ok "/s/input" := by decide +kernel
  have hdriver : ((area.writeDriver parserSpec .browser).runOn
      ((area.stageInput "x").runOn s).2).1 = .ok "/s/Test.html" := by decide +kernel
  exact ⟨driver, _, _, hrender, runOn_of_fst hinput, runOn_of_fst hdriver,
    modules_after_writeDriver hrender (runOn_of_fst hout) htool (runOn_of_fst hinput)
      (runOn_of_fst hdriver)⟩

open TestModules in
/-- A script replaces the module `Test` that it requires. -/
theorem module_replaced_by_script :
    let s := host ["s"] ["Test"]
    let s₁ := ((area.stageInput "x").runOn s).2
    let s₂ := ((area.writeDriver (.lexer "Test") .process).runOn s₁).2
    ∃ driver, Driver.render (.lexer "Test") .process = .ok driver
      ∧ (Driver.requiredPaths driver).filter Driver.isRelative = ["./Test"]
      ∧ s.tree.read s.cwd "/s/Test.js" = .ok (Text.utf8 "x")
      ∧ ((area.stageInput "x").runOn s).1 = .ok "/s/input"
      ∧ ((area.writeDriver (.lexer "Test") .process).runOn s₁).1 = .ok "/s/Test.js"
      ∧ s₂.tree.locate ["s"] "./Test.js" = .ok ["s", "Test.js"]
      ∧ s₂.tree.read s₂.cwd "/s/Test.js" = .ok (Text.utf8 driver)
      ∧ s₂.tree.read s₂.cwd "/s/Test.js" ≠ .ok (Text.utf8 "x") := by
  intro s s₁ s₂
  obtain ⟨driver, hrender⟩ : ∃ driver, Driver.render (.lexer "Test") .process = .ok driver :=
    ⟨_, rfl⟩
  have hrequired : (Driver.requiredPaths driver).filter Driver.isRelative = ["./Test"] :=
    Driver.requiredPaths_render hrender
  have hinput : ((area.stageInput "x").runOn s).1 = .ok "/s/input" := by decide +kernel
  have hdriver : ((area.writeDriver (.lexer "Test") .process).runOn s₁).1 = .ok "/s/Test.js" := by
    decide +kernel
  have hwritten : s₂.tree.read s₂.cwd "/s/Test.js" = .ok (Text.utf8 driver) := by
    have hrun := runOn_writeDriver area (.lexer "Test") .process s₁
    rw [hrender] at hrun
    exact (holds_of_writeFile (hrun.symm.trans (runOn_of_fst hdriver))).read
  refine ⟨driver, hrender, hrequired, by decide +kernel, hinput, hdriver, by decide +kernel,
    hwritten, fun hkept => ?_⟩
  -- What the tool wrote requires nothing, so it is not the driver.
  have hbytes := Except.ok.inj (hwritten.symm.trans hkept)
  have htext : driver = "x" := Except.ok.inj
    ((Text.decodeStrict_eq_ok.mpr rfl).symm.trans (Text.decodeStrict_eq_ok.mpr hbytes))
  rw [htext] at hrequired
  revert hrequired
  decide +kernel

end StagingArea

end GrammarBench
