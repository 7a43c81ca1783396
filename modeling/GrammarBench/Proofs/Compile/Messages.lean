import GrammarBench.Proofs.Compile
import Mathlib.Data.List.Forall2

/-!
# What is logged about messages

A run of the tool leaves a queue of messages, and what is logged about them is a list of events
behind all that the tool logged itself. With the tool's own way of logging there is one event for
each message (`Announced.each`). Otherwise the errors and the warnings are told in two groups, each
under a line that names the options, and the grammar stands behind the errors (`Announced.grouped`).
In both ways of logging each error and each warning is told exactly once, in the order of the queue
(`Announced.once`): the lines around the groups are not taken for messages, since they do not begin
with the name of a severity. Main statement: `compile_announces`.
-/

namespace GrammarBench

/-! ## Events about messages -/

/-- The level at which messages of a severity are to be logged. -/
def Severity.level : Severity → LogLevel
  | error => .error
  | warning => .warn
  | info => .info

/-- The event tells the message: it is the line that shows it, at the level of its severity. -/
structure Diagnostic.ToldBy (d : Diagnostic) (e : LogEvent) : Prop where
  level : e.level = d.severity.level
  message : e.message = d.display
  fields : e.fields = []

/-- The messages of a severity, in the order of their arrival. -/
def DiagnosticQueue.ofSeverity (q : DiagnosticQueue) (severity : Severity) : List Diagnostic :=
  q.all.filter (·.severity == severity)

/-- The event is at the level of the severity and begins with its name. -/
def Severity.heads (severity : Severity) (e : LogEvent) : Bool :=
  e.level == severity.level && severity.name.toList.isPrefixOf e.message.toList

/-- What is logged about a group of messages: nothing if there are none, and else an opening line,
each message in its turn, and the closing lines. -/
inductive Grouped (opening : LogEvent) (closing : List LogEvent) :
    List Diagnostic → List LogEvent → Prop
  | nothing : Grouped opening closing [] []
  | group {ds : List Diagnostic} {told : List LogEvent} :
      ds ≠ [] → List.Forall₂ Diagnostic.ToldBy ds told →
      Grouped opening closing ds (opening :: told ++ closing)

namespace CompileRequest

/-- The line above the errors. -/
def errorsOpening (options : List String) : LogEvent :=
  ⟨.error, "grammar tool reports errors from " ++ Text.quotedList options, []⟩

/-- The grammar, which is shown behind the errors. -/
def grammarShown (r : CompileRequest) : LogEvent :=
  ⟨.error, "!!!\ngrammar:\n" ++ r.grammarText ++ "\n###", []⟩

/-- The line above the warnings. -/
def warningsOpening (options : List String) : LogEvent :=
  ⟨.warn, "grammar tool reports warnings from " ++ Text.quotedList options, []⟩

/-- What is logged about the messages of a run with these options. -/
structure Announced (r : CompileRequest) (options : List String) (queue : DiagnosticQueue)
    (events : List LogEvent) : Prop where
  /-- With the tool's way of logging, each message is told, and nothing else. -/
  each : r.defaultListener = true → List.Forall₂ Diagnostic.ToldBy queue.all events
  /-- Without it, the errors come first, with the grammar behind them, and then the warnings. -/
  grouped : r.defaultListener = false → ∃ errors warnings, events = errors ++ warnings
    ∧ Grouped (errorsOpening options) [r.grammarShown] (queue.ofSeverity .error) errors
    ∧ Grouped (warningsOpening options) [] (queue.ofSeverity .warning) warnings
  /-- Then nothing is logged as an information. -/
  no_infos : r.defaultListener = false → ∀ e ∈ events, e.level ≠ .info
  /-- Either way, the errors and the warnings are told once each and in order. -/
  once : ∀ severity, severity ≠ .info →
    List.Forall₂ Diagnostic.ToldBy (queue.ofSeverity severity) (events.filter severity.heads)

/-- What a compile run on a bench adds to the log. -/
structure LogsMessages (r : CompileRequest) (tool : GrammarTool) (outDir : Path) (b b' : Bench) :
    Prop where
  /-- Before the tool is called, nothing is logged but the directory. -/
  before_tool :
    ((r.writeGrammar outDir).runOn b.host).2.log = b.host.log ++ [⟨.info, "dir " ++ outDir, []⟩]
  /-- That is all if the grammar cannot be written. -/
  unwritten : ∀ f s, (r.writeGrammar outDir).runOn b.host = (.error f, s) → b'.host.log = s.log
  /-- When the tool has come to its end, the messages that it gave are told. -/
  ended : ∀ s queue s', (r.writeGrammar outDir).runOn b.host = (.ok (), s) →
    (tool.process (r.toolOptions outDir) .empty).runOn s = ((queue, none), s') →
      ∃ events, b'.host.log = s'.log ++ events ∧ Announced r (r.toolOptions outDir) queue events
  /-- When it has failed, none of them is, whatever is in the queue. -/
  failed : ∀ s queue f s', (r.writeGrammar outDir).runOn b.host = (.ok (), s) →
    (tool.process (r.toolOptions outDir) .empty).runOn s = ((queue, some f), s') →
      b'.host.log = s'.log

end CompileRequest

/-! ## Lines that tell messages, and lines that do not -/

theorem Diagnostic.toldBy_event (d : Diagnostic) : d.ToldBy d.event where
  level := by
    rw [event, logLevel]
    cases d.severity <;> rfl
  message := rfl
  fields := rfl

theorem forall₂_event (ds : List Diagnostic) :
    List.Forall₂ Diagnostic.ToldBy ds (ds.map Diagnostic.event) :=
  List.forall₂_map_right_iff.mpr (List.forall₂_same.mpr fun d _ => d.toldBy_event)

theorem Severity.level_injective : Function.Injective Severity.level := by
  intro s s' h
  cases s <;> cases s' <;> first | rfl | cases h

/-- A message that is no information is shown by a line that begins with its severity. -/
theorem Diagnostic.prefix_display {d : Diagnostic} (h : d.severity ≠ .info) :
    d.severity.name.toList <+: d.display.toList := by
  have hline : d.display = d.severity.name ++ d.codeText ++ ": " ++ d.placeText ++ d.message := by
    rw [display]
    split
    · exact absurd ‹_› h
    · rfl
  rw [hline]
  simp only [String.toList_append, List.append_assoc]
  exact List.prefix_append _ _

/-- The event of a message is headed by the severity of the message alone. -/
theorem heads_event {severity : Severity} (hseverity : severity ≠ .info) (d : Diagnostic) :
    severity.heads d.event = (d.severity == severity) := by
  have hlevel : (d.event.level == severity.level) = (d.severity == severity) := by
    rw [d.toldBy_event.level, Bool.eq_iff_iff, beq_iff_eq, beq_iff_eq]
    exact Severity.level_injective.eq_iff
  rw [Severity.heads, hlevel]
  by_cases h : d.severity = severity
  · subst h
    rw [BEq.rfl, Bool.true_and, List.isPrefixOf_iff_prefix]
    exact Diagnostic.prefix_display hseverity
  · rw [beq_false_of_ne h, Bool.false_and]

theorem filter_heads_map_event {severity : Severity} (hseverity : severity ≠ .info)
    (ds : List Diagnostic) :
    (ds.map Diagnostic.event).filter severity.heads =
      (ds.filter (·.severity == severity)).map Diagnostic.event := by
  rw [List.filter_map]
  exact congrArg _ (List.filter_congr fun d _ => heads_event hseverity d)

/-- A line that begins with another letter than the names of the severities tells no message. -/
theorem heads_eq_false {severity : Severity} {e : LogEvent} {c : Char} {cs : List Char}
    (hseverity : severity ≠ .info) (hmessage : e.message.toList = c :: cs) (he : c ≠ 'e')
    (hw : c ≠ 'w') : severity.heads e = false := by
  rw [Severity.heads, hmessage]
  cases severity with
  | error => simp [Severity.name, List.isPrefixOf, he.symm]
  | warning => simp [Severity.name, List.isPrefixOf, hw.symm]
  | info => exact absurd rfl hseverity

/-! ## Groups -/

/-- The events of a group. -/
def groupEvents (opening : LogEvent) (closing : List LogEvent) (ds : List Diagnostic) :
    List LogEvent :=
  if ds.isEmpty then [] else opening :: ds.map Diagnostic.event ++ closing

section Groups

variable {opening : LogEvent} {closing : List LogEvent} {ds : List Diagnostic}
  {severity : Severity}

theorem grouped_groupEvents (opening : LogEvent) (closing : List LogEvent)
    (ds : List Diagnostic) : Grouped opening closing ds (groupEvents opening closing ds) := by
  unfold groupEvents
  cases ds with
  | nil => exact .nothing
  | cons d ds => exact .group (List.cons_ne_nil d ds) (forall₂_event (d :: ds))

/-- Of a group, the events that a severity heads are those of its messages of that severity. -/
theorem filter_heads_groupEvents (hseverity : severity ≠ .info)
    (hopening : severity.heads opening = false)
    (hclosing : ∀ e ∈ closing, severity.heads e = false) :
    (groupEvents opening closing ds).filter severity.heads =
      (ds.filter (·.severity == severity)).map Diagnostic.event := by
  unfold groupEvents
  cases ds with
  | nil => rfl
  | cons d ds =>
      have hnone : closing.filter severity.heads = [] :=
        List.filter_eq_nil_iff.mpr fun e he => by simp [hclosing e he]
      rw [List.isEmpty_cons, if_neg Bool.false_ne_true, List.filter_append, List.filter_cons,
        hopening, if_neg Bool.false_ne_true, filter_heads_map_event hseverity, hnone,
        List.append_nil]

/-- All events of a group are at the level of its messages, if the lines around them are. -/
theorem level_of_mem_groupEvents (hds : ∀ d ∈ ds, d.severity = severity)
    (hopening : opening.level = severity.level)
    (hclosing : ∀ e ∈ closing, e.level = severity.level) :
    ∀ e ∈ groupEvents opening closing ds, e.level = severity.level := by
  unfold groupEvents
  split
  · simp
  · intro e he
    rcases List.mem_append.mp he with he | he
    · rcases List.mem_cons.mp he with rfl | he
      · exact hopening
      · obtain ⟨d, hd, rfl⟩ := List.mem_map.mp he
        rw [d.toldBy_event.level, hds d hd]
    · exact hclosing e he

end Groups

/-! ## The events of a run -/

theorem severity_of_mem_ofSeverity {q : DiagnosticQueue} {severity : Severity} :
    ∀ d ∈ q.ofSeverity severity, d.severity = severity := by
  intro d hd
  simpa using (List.mem_filter.mp hd).2

theorem filter_ofSeverity (q : DiagnosticQueue) (severity severity' : Severity) :
    (q.ofSeverity severity').filter (·.severity == severity) =
      if severity = severity' then q.ofSeverity severity else [] := by
  split
  · subst severity
    exact List.filter_eq_self.mpr fun d hd => beq_iff_eq.mpr (severity_of_mem_ofSeverity d hd)
  · rename_i hne
    refine List.filter_eq_nil_iff.mpr fun d hd => ?_
    rw [severity_of_mem_ofSeverity d hd, beq_iff_eq]
    exact Ne.symm hne

theorem DiagnosticQueue.hasErrors_eq (q : DiagnosticQueue) :
    q.hasErrors = !(q.ofSeverity .error).isEmpty := by
  rw [Bool.eq_iff_iff, hasErrors_iff, Bool.not_eq_true', List.isEmpty_eq_false_iff_exists_mem]
  simp [ofSeverity]

namespace CompileRequest

variable (r : CompileRequest) (options : List String) (queue : DiagnosticQueue)

/-- The report consists of the two groups. -/
theorem reportEvents_eq :
    r.reportEvents options queue =
      groupEvents (errorsOpening options) [r.grammarShown] (queue.ofSeverity .error)
        ++ groupEvents (warningsOpening options) [] (queue.ofSeverity .warning) := by
  unfold reportEvents groupEvents
  rw [queue.hasErrors_eq]
  congr 1
  · show (if (!(queue.ofSeverity .error).isEmpty) = true then _ else _) = _
    cases (queue.ofSeverity .error).isEmpty <;> rfl
  · show (if (queue.ofSeverity .warning).isEmpty = true then _ else _) = _
    rw [List.append_nil]
    rfl

/-- Neither the lines above the groups nor the grammar are taken for messages. -/
theorem heads_opening {severity : Severity} (hseverity : severity ≠ .info) :
    severity.heads (errorsOpening options) = false
      ∧ severity.heads (warningsOpening options) = false
      ∧ severity.heads r.grammarShown = false :=
  ⟨heads_eq_false hseverity String.toList_append (by decide) (by decide),
    heads_eq_false hseverity String.toList_append (by decide) (by decide),
    heads_eq_false hseverity
      (String.toList_append.trans (congrArg (· ++ _) String.toList_append)) (by decide) (by decide)⟩

theorem announced_each (h : r.defaultListener = true) :
    Announced r options queue (queue.all.map Diagnostic.event) where
  each _ := forall₂_event queue.all
  grouped hgrouped := by
    rw [h] at hgrouped
    cases hgrouped
  no_infos hgrouped := by
    rw [h] at hgrouped
    cases hgrouped
  once severity hseverity := by
    rw [filter_heads_map_event hseverity]
    exact forall₂_event _

theorem announced_report (h : r.defaultListener = false) :
    Announced r options queue (r.reportEvents options queue) where
  each heach := by
    rw [h] at heach
    cases heach
  grouped _ :=
    ⟨_, _, r.reportEvents_eq options queue, grouped_groupEvents _ _ _, grouped_groupEvents _ _ _⟩
  no_infos _ e he := by
    rw [reportEvents_eq] at he
    rcases List.mem_append.mp he with he | he
    · rw [level_of_mem_groupEvents severity_of_mem_ofSeverity rfl (by simp [grammarShown]; rfl) e
        he]
      exact LogLevel.noConfusion
    · rw [level_of_mem_groupEvents severity_of_mem_ofSeverity rfl (by simp) e he]
      exact LogLevel.noConfusion
  once severity hseverity := by
    obtain ⟨herrors, hwarnings, hgrammar⟩ := r.heads_opening options hseverity
    rw [reportEvents_eq, List.filter_append,
      filter_heads_groupEvents hseverity herrors (by simpa using hgrammar),
      filter_heads_groupEvents hseverity hwarnings (by simp), filter_ofSeverity,
      filter_ofSeverity, ← List.map_append]
    cases severity with
    | error =>
        rw [if_pos rfl, if_neg (by decide), List.append_nil]
        exact forall₂_event _
    | warning =>
        rw [if_neg (by decide), if_pos rfl, List.nil_append]
        exact forall₂_event _
    | info => exact absurd rfl hseverity

/-- What is logged about the messages of a queue is what is to be logged about them. -/
theorem announced_messageEvents :
    Announced r options queue (r.messageEvents options queue) := by
  unfold messageEvents
  split
  · exact announced_each r options queue ‹_›
  · exact announced_report r options queue (Bool.eq_false_iff.mpr ‹_›)

theorem log_writeGrammar (outDir : Path) (s : Host) :
    ((r.writeGrammar outDir).runOn s).2.log = s.log ++ [⟨.info, "dir " ++ outDir, []⟩] := by
  unfold writeGrammar
  rw [runOn_bind_of_ok (Host.runOn_logInfo s _), runOn_bind, Host.runOn_makeDirs]
  rcases ((s.logging _).tree.makeDirs (s.logging _).cwd outDir).1 with fault | ⟨⟩
  · rfl
  · simp only [Except.mapError]
    rw [Host.runOn_writeText]
    split <;> rfl

/-- **A compile run logs the messages of the tool**, and nothing else behind what the tool logs. -/
theorem compile_announces (tool : GrammarTool) (outDir : Path) (b : Bench) :
    LogsMessages r tool outDir b ((r.compile tool outDir).runOn b).2 where
  before_tool := r.log_writeGrammar outDir b.host
  unwritten f s hwrite := by
    rw [runOn_compile, hwrite]
  ended s queue s' hwrite htool := by
    refine ⟨_, ?_, r.announced_messageEvents (r.toolOptions outDir) queue⟩
    rw [runOn_compile, hwrite]
    simp only [htool]
    rfl
  failed s queue f s' hwrite htool := by
    rw [runOn_compile, hwrite]
    simp only [htool]

/-- The groups are told one after the other, whatever the order in which the messages came. -/
example : (new "T.g4" "grammar T;").messageEvents ["-o"]
    ⟨[.plain .warning "odd", .plain .info "banner", .plain .error "bad"]⟩ =
      [⟨.error, "grammar tool reports errors from [\"-o\"]", []⟩, ⟨.error, "error: bad", []⟩,
        ⟨.error, "!!!\ngrammar:\ngrammar T;\n###", []⟩,
        ⟨.warn, "grammar tool reports warnings from [\"-o\"]", []⟩,
        ⟨.warn, "warning: odd", []⟩] := by
  decide +kernel

end CompileRequest

end GrammarBench
