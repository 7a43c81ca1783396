import GrammarBench.Compile
import GrammarBench.Proofs.Staging

/-!
# Compiling as a function on the host

What a compile run does, stage by stage: it writes the grammar, calls the tool once and logs the
messages. Logging comes to a fixed list of events (`messageEvents`) and changes nothing but the log,
so it never fails and never hides what the tool reported (`runOn_logMessages`).
-/

namespace GrammarBench

def Diagnostic.event (d : Diagnostic) : LogEvent :=
  ⟨d.logLevel, d.display, []⟩

theorem runOn_forM_logged (ds : List Diagnostic) (s : Host) :
    (forM ds Diagnostic.logged : HostAction Unit).runOn s =
      (.ok (), s.logging (ds.map Diagnostic.event)) := by
  induction ds generalizing s with
  | nil => simp
  | cons d ds ih =>
      have hd : (Diagnostic.logged d).runOn s = (.ok (), s.logging [d.event]) := rfl
      rw [List.forM_cons, runOn_bind_of_ok hd, ih]
      simp

theorem DiagnosticQueue.hasErrors_iff {q : DiagnosticQueue} :
    q.hasErrors = true ↔ ∃ d ∈ q.all, d.severity = .error := by
  simp [hasErrors, Diagnostic.isError]

namespace CompileRequest

variable (r : CompileRequest) (options : List String) (queue : DiagnosticQueue)

/-- The events of the report: the errors with the grammar, then the warnings. -/
def reportEvents : List LogEvent :=
  (if queue.hasErrors then
    ⟨.error, "grammar tool reports errors from " ++ Text.quotedList options, []⟩ ::
      queue.errors.map Diagnostic.event ++
      [⟨.error, "!!!\ngrammar:\n" ++ r.grammarText ++ "\n###", []⟩]
  else []) ++
  if queue.warnings.isEmpty then []
  else
    ⟨.warn, "grammar tool reports warnings from " ++ Text.quotedList options, []⟩ ::
      queue.warnings.map Diagnostic.event

/-- The events that the messages of a run come to. -/
def messageEvents : List LogEvent :=
  if r.defaultListener then queue.all.map Diagnostic.event else r.reportEvents options queue

theorem runOn_report (s : Host) :
    (r.report options queue).runOn s = (.ok (), s.logging (r.reportEvents options queue)) := by
  unfold report reportEvents
  cases queue.hasErrors <;> cases queue.warnings.isEmpty <;>
    simp [runOn_bind, runOn_forM_logged]

/-- Messages are logged and nothing else happens. -/
theorem runOn_logMessages (s : Host) :
    (r.logMessages options queue).runOn s =
      (.ok (), s.logging (r.messageEvents options queue)) := by
  unfold logMessages messageEvents
  split
  · exact runOn_forM_logged queue.all s
  · exact runOn_report r options queue s

theorem runOn_runTool (tool : GrammarTool) (s : Host) :
    (runTool tool options).runOn s =
      match (tool.process options .empty).runOn s with
      | ((_, some f), s') => (.error f, s')
      | ((queue, none), s') => (.ok queue, s') := by
  unfold runTool
  rw [runOn_bind, runOn_liftM_state]
  rcases (tool.process options .empty).runOn s with ⟨⟨queue, _ | f⟩, s'⟩ <;> rfl

/-- The grammar is written, then the tool is called, then its messages are logged. -/
theorem runOn_compile (tool : GrammarTool) (outDir : Path) (b : Bench) :
    (r.compile tool outDir).runOn b =
      match (r.writeGrammar outDir).runOn b.host with
      | (.error f, s) => (.error f, { b with host := s })
      | (.ok _, s) =>
        match (tool.process (r.toolOptions outDir) .empty).runOn s with
        | ((_, some f), s') =>
          (.error f,
            { b with host := s', calls := b.calls ++ [.tool (r.toolOptions outDir) s.tree] })
        | ((queue, none), s') =>
          (.ok queue,
            { b with
              host := s'.logging (r.messageEvents (r.toolOptions outDir) queue)
              calls := b.calls ++ [.tool (r.toolOptions outDir) s.tree] }) := by
  unfold compile
  rw [runOn_bind, Bench.runOn_liftM]
  rcases (r.writeGrammar outDir).runOn b.host with ⟨f | ⟨⟩, s⟩
  · rfl
  dsimp only
  rw [runOn_bind, Bench.recordTool, runOn_modifyThe]
  dsimp only
  rw [runOn_bind, Bench.runOn_liftM, runOn_runTool]
  rcases (tool.process (r.toolOptions outDir) .empty).runOn s with ⟨⟨queue, _ | f⟩, s'⟩
  · dsimp only
    rw [runOn_bind, Bench.runOn_liftM, runOn_logMessages]
    rfl
  · rfl

end CompileRequest

end GrammarBench
