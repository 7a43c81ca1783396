import GrammarBench.Proofs.Driver.Lines

/-!
# The optional line of a driver

Each skeleton has one line that is there only if asked for, between a part above it and a part below
it, and the names are put into both parts in the same way whether it is there or not. So the driver
with the option is the one without it and one line more (`Inserted`). Where that line stands is told
by the lines around it: those are lines of the driver that no names can make up at another place.
Main statement: `render_optional_line`.
-/

namespace GrammarBench.Driver

/-! ## Lines around the optional one -/

/-- How far a line is indented where a driver makes its recognizer. -/
def indent : BackendKind → String
  | .process => "    "
  | .browser => "\t\t\t\t\t"

/-- What a parser gets its tokens from. -/
def tokenSource : BackendKind → String
  | .process => "stream"
  | .browser => "tokens"

/-- The line that constructs the parser. -/
def parserLine (kind : BackendKind) (parser : String) : String :=
  indent kind ++ "var parser = new " ++ parser ++ "." ++ parser ++ "(" ++ tokenSource kind ++ ");"

/-- The line that calls the start rule. -/
def startLine (kind : BackendKind) (startRule : String) : String :=
  indent kind ++ "var tree = parser." ++ startRule ++ "();"

/-- The line that has ambiguities reported. -/
def listenerLine : BackendKind → String
  | .process => "    parser.addErrorListener(new antlr4.error.DiagnosticErrorListener());"
  | .browser => "\t\t\t\t\tparser.addErrorListener(new antlr4.error.DiagnosticErrorListener());"

/-- The loop that prints the tokens. -/
def tokenLoop : BackendKind → List String
  | .process =>
    [ "    for(var i=0; i<stream.tokens.length; i++) \x7b",
      "        console.log(stream.tokens[i].toString());",
      "    \x7d" ]
  | .browser =>
    [ "\t\t\t\t\tfor(var i=0; i<stream.tokens.length; i++) \x7b",
      "\t\t\t\t\t\tconsole.log(stream.tokens[i].toString());",
      "\t\t\t\t\t\x7d" ]

/-- The line that prints the automaton of the lexer. -/
def automatonLine : BackendKind → String
  | .process => "    process.stdout.write(" ++
      "lexer._interp.decisionToDFA[antlr4.Lexer.DEFAULT_MODE].toLexerString());"
  | .browser => "\t\t\t\t\tlines.push(" ++
      "lexer._interp.decisionToDFA[antlr4.Lexer.DEFAULT_MODE].toLexerString());"

/-- The line by which the block with the lexer is opened: a script has it in a function, a page in a
`try`. -/
def blockOpening : BackendKind → String
  | .process => "function main(argv) \x7b"
  | .browser => "\t\t\t\ttry \x7b"

/-- The line by which that block is closed. -/
def blockClosing : BackendKind → String
  | .process => "\x7d"
  | .browser => "\t\t\t\t\x7d catch (ex) \x7b"

/-- The one text is the other with one line more, which stands between two parts of it. -/
structure Inserted (off on : String) (before : List String) (line : String)
    (after : List String) : Prop where
  lines_off : Text.lines off = before ++ after
  lines_on : Text.lines on = before ++ line :: after
  /-- There is no such line otherwise. -/
  once : (Text.lines on).count line = 1

/-- Two drivers for a parser that are the same but for the report of ambiguities. -/
structure AddsListener (kind : BackendKind) (parser startRule off on : String)
    (before after : List String) : Prop where
  inserted : Inserted off on before (listenerLine kind) after
  /-- The parser is constructed right above the line, and nowhere else. -/
  constructed : before.getLast? = some (parserLine kind parser)
  constructed_once : (Text.lines on).count (parserLine kind parser) = 1
  /-- The start rule is called below it, and nowhere else. -/
  called : startLine kind startRule ∈ after
  called_once : (Text.lines on).count (startLine kind startRule) = 1

/-- Two drivers for a lexer that are the same but for the printed automaton. -/
structure AddsAutomaton (kind : BackendKind) (off on : String) (before after : List String) :
    Prop where
  inserted : Inserted off on before (automatonLine kind) after
  /-- The tokens are printed right above the line, in a loop of its own block: behind the opening of
  the block there are no braces but those of the loop. -/
  printed : ∃ outer inside, before = outer ++ blockOpening kind :: (inside ++ tokenLoop kind)
    ∧ ∀ line ∈ inside, '\x7b' ∉ line.toList ∧ '\x7d' ∉ line.toList
  /-- The tokens are printed nowhere else. -/
  printed_once : ∀ line ∈ (tokenLoop kind).take 2, (Text.lines on).count line = 1
  /-- The block ends right below the line. -/
  closed : after.head? = some (blockClosing kind)

/-! ## The parts of a skeleton -/

namespace Template

/-- A skeleton above its optional line. -/
def above : Template → List Line
  | lexerScript => lexerScriptHead
  | parserScript => parserScriptHead
  | lexerPage => pageHead ++ lexerSlots ++ pageLoad ++ lexerLoad ++ pageRun ++ lexerRun
  | parserPage => pageHead ++ parserSlots ++ pageLoad ++ parserLoad ++ pageRun ++ parserRunHead

/-- The line of a skeleton that is there only if asked for. -/
def optional : Template → String
  | lexerScript => automatonLine .process
  | parserScript => listenerLine .process
  | lexerPage => automatonLine .browser
  | parserPage => listenerLine .browser

/-- A skeleton below its optional line, with the empty line that a driver ends with. -/
def below : Template → List Line
  | lexerScript => lexerScriptTail ++ [[]]
  | parserScript => parserScriptTail ++ [[]]
  | lexerPage => pageTail ++ [[]]
  | parserPage => parserRunTail ++ pageTail ++ [[]]

variable (template : Template)

theorem skeleton_false : template.skeleton false ++ [[]] = template.above ++ template.below := by
  cases template <;> rfl

theorem skeleton_true :
    template.skeleton true ++ [[]]
      = template.above ++ plain template.optional :: template.below := by
  cases template <;> rfl

theorem optional_standsAlone : template.standsAlone true template.above.length = true := by
  cases template <;> decide +kernel

theorem getElem?_optional :
    (template.skeleton true)[template.above.length]? = some (plain template.optional) := by
  cases template <;> rfl

end Template

variable {names : Role → String} {spec : DriverSpec} {template : Template} {kind : BackendKind}

/-- **The option puts one line into a driver.** -/
theorem Suits.inserted (h : Suits names spec template) :
    Inserted (fill names (template.skeleton false)) (fill names (template.skeleton true))
      (template.above.map (fillLine names)) template.optional
      (template.below.map (fillLine names)) where
  lines_off := by rw [h.lines_fill, template.skeleton_false, List.map_append]
  lines_on := by
    rw [h.lines_fill, template.skeleton_true, List.map_append, List.map_cons, fillLine_plain]
  once := by
    rw [← fillLine_plain names template.optional]
    exact h.count_line template.getElem?_optional template.optional_standsAlone

/-! ## Drivers for a parser -/

/-- The line of the skeleton that constructs the parser. -/
def parserPieces (kind : BackendKind) : Line :=
  [.text (indent kind ++ "var parser = new "), .name .parser, .text ".", .name .parser,
    .text ("(" ++ tokenSource kind ++ ");")]

/-- The line of the skeleton that calls the start rule. -/
def startPieces (kind : BackendKind) : Line :=
  [.text (indent kind ++ "var tree = parser."), .name .startRule, .text "();"]

theorem fillLine_parserPieces (names : Role → String) (kind : BackendKind) :
    fillLine names (parserPieces kind) = parserLine kind (names .parser) := by
  apply String.toList_injective
  simp [fillLine, parserPieces, parserLine, Piece.fill]

theorem fillLine_startPieces (names : Role → String) (kind : BackendKind) :
    fillLine names (startPieces kind) = startLine kind (names .startRule) := by
  apply String.toList_injective
  simp [fillLine, startPieces, startLine, Piece.fill]

/-- The skeleton of a parser for each kind of backend. -/
def parserTemplate : BackendKind → Template
  | .process => .parserScript
  | .browser => .parserPage

theorem optional_parserTemplate (kind : BackendKind) :
    (parserTemplate kind).optional = listenerLine kind := by
  cases kind <;> rfl

theorem getElem?_parserPieces (kind : BackendKind) :
    ((parserTemplate kind).skeleton true)[(parserTemplate kind).above.length - 1]? =
      some (parserPieces kind) := by
  cases kind <;> decide +kernel

theorem getElem?_startPieces (kind : BackendKind) :
    ((parserTemplate kind).skeleton true)[(parserTemplate kind).above.length + 2]? =
      some (startPieces kind) := by
  cases kind <;> decide +kernel

theorem standsAlone_parserTemplate (kind : BackendKind) :
    (parserTemplate kind).standsAlone true ((parserTemplate kind).above.length - 1) = true
      ∧ (parserTemplate kind).standsAlone true ((parserTemplate kind).above.length + 2) = true := by
  cases kind <;> decide +kernel

theorem Suits.addsListener (h : Suits names spec (parserTemplate kind)) :
    AddsListener kind (names .parser) (names .startRule)
      (fill names ((parserTemplate kind).skeleton false))
      (fill names ((parserTemplate kind).skeleton true))
      ((parserTemplate kind).above.map (fillLine names))
      ((parserTemplate kind).below.map (fillLine names)) where
  inserted := by
    rw [← optional_parserTemplate]
    exact h.inserted
  constructed := by
    have hlast : (parserTemplate kind).above.getLast? = some (parserPieces kind) := by
      cases kind <;> decide +kernel
    rw [List.getLast?_map, hlast, Option.map_some, fillLine_parserPieces]
  constructed_once := by
    rw [← fillLine_parserPieces]
    exact h.count_line (getElem?_parserPieces kind) (standsAlone_parserTemplate kind).1
  called := by
    have hmem : startPieces kind ∈ (parserTemplate kind).below := by
      cases kind <;> decide +kernel
    rw [← fillLine_startPieces]
    exact List.mem_map_of_mem hmem
  called_once := by
    rw [← fillLine_startPieces]
    exact h.count_line (getElem?_startPieces kind) (standsAlone_parserTemplate kind).2

/-! ## Drivers for a lexer alone -/

/-- The skeleton of a lexer for each kind of backend. -/
def lexerTemplate : BackendKind → Template
  | .process => .lexerScript
  | .browser => .lexerPage

/-- The lines between the opening of the block and the loop, and those above. -/
def loopInside : BackendKind → List Line
  | .process => (lexerScriptHead.drop 4).take 4
  | .browser => pageRun.drop 14 ++ lexerRun.take 4

def loopOuter : BackendKind → List Line
  | .process => lexerScriptHead.take 3
  | .browser => pageHead ++ lexerSlots ++ pageLoad ++ lexerLoad ++ pageRun.take 13

theorem above_lexerTemplate (kind : BackendKind) :
    (lexerTemplate kind).above = loopOuter kind ++ plain (blockOpening kind) ::
      (loopInside kind ++ (tokenLoop kind).map plain) := by
  cases kind <;> decide +kernel

theorem optional_lexerTemplate (kind : BackendKind) :
    (lexerTemplate kind).optional = automatonLine kind := by
  cases kind <;> rfl

def Piece.hasBrace : Piece → Bool
  | text s => s.toList.any fun c => c == '\x7b' || c == '\x7d'
  | name _ => false

theorem hasBrace_loopInside (kind : BackendKind) :
    ∀ line ∈ loopInside kind, ∀ piece ∈ line, piece.hasBrace = false := by
  cases kind <;> decide +kernel

theorem loopInside_subset (kind : BackendKind) (on : Bool) :
    ∀ line ∈ loopInside kind, line ∈ (lexerTemplate kind).skeleton on := by
  cases kind <;> cases on <;> decide +kernel

/-- Names do not bring braces into a line. -/
theorem Suits.brace_notMem_fillLine (h : Suits names spec (lexerTemplate kind)) {line : Line}
    (hline : line ∈ loopInside kind) :
    '\x7b' ∉ (fillLine names line).toList ∧ '\x7d' ∉ (fillLine names line).toList := by
  have hnames := h.isIdentifier_of_mem (loopInside_subset kind true line hline)
  have hno : ∀ c, isIdentifierPart c = false → (c == '\x7b' || c == '\x7d') = true →
      c ∉ (fillLine names line).toList := by
    intro c hpart hbrace hmem
    rcases mem_fillLine hmem hnames with hpart' | ⟨s, hs, hc⟩
    · rw [hpart] at hpart'
      cases hpart'
    · have hpiece := List.any_eq_false.mp (hasBrace_loopInside kind line hline _ hs) c hc
      exact hpiece hbrace
  exact ⟨hno _ (by decide) rfl, hno _ (by decide) rfl⟩

theorem exists_standsAlone_of_mem_tokenLoop (kind : BackendKind) :
    ∀ line ∈ (tokenLoop kind).take 2,
      ∃ i ∈ [(lexerTemplate kind).above.length - 3, (lexerTemplate kind).above.length - 2],
        ((lexerTemplate kind).skeleton true)[i]? = some (plain line)
          ∧ (lexerTemplate kind).standsAlone true i = true := by
  cases kind <;> decide +kernel

theorem Suits.addsAutomaton (h : Suits names spec (lexerTemplate kind)) :
    AddsAutomaton kind
      (fill names ((lexerTemplate kind).skeleton false))
      (fill names ((lexerTemplate kind).skeleton true))
      ((lexerTemplate kind).above.map (fillLine names))
      ((lexerTemplate kind).below.map (fillLine names)) where
  inserted := by
    rw [← optional_lexerTemplate]
    exact h.inserted
  printed := by
    refine ⟨(loopOuter kind).map (fillLine names), (loopInside kind).map (fillLine names), ?_, ?_⟩
    · rw [above_lexerTemplate, List.map_append, List.map_cons, List.map_append, fillLine_plain,
        List.map_map]
      simp [Function.comp_def]
    · intro line hline
      obtain ⟨line', hline', rfl⟩ := List.mem_map.mp hline
      exact h.brace_notMem_fillLine hline'
  printed_once := by
    intro line hline
    obtain ⟨i, -, hget, halone⟩ := exists_standsAlone_of_mem_tokenLoop kind line hline
    rw [← fillLine_plain names line]
    exact h.count_line hget halone
  closed := by
    have hhead : (lexerTemplate kind).below.head? = some (plain (blockClosing kind)) := by
      cases kind <;> rfl
    rw [List.head?_map, hhead, Option.map_some, fillLine_plain]

/-! ## Drivers with and without the option -/

theorem select_of_parserName (h : spec.isLexerOnly = false) (kind : BackendKind) :
    Template.select spec kind = parserTemplate kind := by
  cases kind <;> simp [Template.select, h, parserTemplate]

theorem select_of_lexerOnly (h : spec.isLexerOnly = true) (kind : BackendKind) :
    Template.select spec kind = lexerTemplate kind := by
  cases kind <;> simp [Template.select, h, lexerTemplate]

/-- **With its option a driver has one line more**: for a parser the report of ambiguities, between
the line that constructs the parser and the one that calls the start rule, and for a lexer alone the
automaton, behind the loop over the tokens and in the same block. -/
theorem render_optional_line {text : String} (h : render spec kind = .ok text) :
    (spec.isLexerOnly = false → ∃ parser startRule off on before after,
        spec.parserName = some parser ∧ spec.startRuleName = some startRule
          ∧ render (spec.withDebug false) kind = .ok off
          ∧ render (spec.withDebug true) kind = .ok on
          ∧ AddsListener kind parser startRule off on before after)
      ∧ (spec.isLexerOnly = true → ∃ off on before after,
        render (spec.withShowDfa false) kind = .ok off
          ∧ render (spec.withShowDfa true) kind = .ok on
          ∧ AddsAutomaton kind off on before after) := by
  obtain ⟨recognizer, hrecognizer, -⟩ := render_eq_ok.mp h
  have hsuits := suits_of_recognizer hrecognizer kind
  -- which of the options is set does not matter to the names
  constructor
  · intro hparser
    rw [select_of_parserName hparser] at hsuits
    have hselect : ∀ debug, Template.select (spec.withDebug debug) kind = parserTemplate kind :=
      fun _ => select_of_parserName hparser kind
    have hrender : ∀ debug, render (spec.withDebug debug) kind =
        .ok (fill recognizer.names ((parserTemplate kind).skeleton debug)) := by
      intro debug
      refine render_eq_ok.mpr ⟨recognizer, hrecognizer, ?_⟩
      rw [hselect]
      cases kind <;> rfl
    have hroles : Role.parser ∈ (parserTemplate kind).roles
        ∧ Role.startRule ∈ (parserTemplate kind).roles := by
      cases kind <;> decide
    exact ⟨_, _, _, _, _, _, (hsuits .parser hroles.1).1, (hsuits .startRule hroles.2).1,
      hrender false, hrender true, hsuits.addsListener⟩
  · intro hlexer
    rw [select_of_lexerOnly hlexer] at hsuits
    have hselect : ∀ showDfa,
        Template.select (spec.withShowDfa showDfa) kind = lexerTemplate kind :=
      fun _ => select_of_lexerOnly hlexer kind
    have hrender : ∀ showDfa, render (spec.withShowDfa showDfa) kind =
        .ok (fill recognizer.names ((lexerTemplate kind).skeleton showDfa)) := by
      intro showDfa
      refine render_eq_ok.mpr ⟨recognizer, hrecognizer, ?_⟩
      rw [hselect]
      cases kind <;> rfl
    exact ⟨_, _, _, _, hrender false, hrender true, hsuits.addsAutomaton⟩

/-- The same holds for a parser and a start rule that are named like parts of the lines around. -/
theorem render_optional_line_of_odd_names :
    ∃ text, render (DriverSpec.parser "buildParseTrees" "toLexerString"
        "DiagnosticErrorListener" "parser" "addErrorListener") .browser = .ok text
      ∧ ∃ off on before after,
        AddsListener .browser "buildParseTrees" "addErrorListener" off on before after := by
  refine ⟨_, rfl, ?_⟩
  have hrender : render (DriverSpec.parser "buildParseTrees" "toLexerString"
      "DiagnosticErrorListener" "parser" "addErrorListener") .browser = .ok _ := rfl
  obtain ⟨parser, startRule, off, on, before, after, hparser, hstart, -, -, hadds⟩ :=
    (render_optional_line hrender).1 rfl
  cases hparser
  cases hstart
  exact ⟨off, on, before, after, hadds⟩

end GrammarBench.Driver
