import GrammarBench.Proofs.Child.Hearing
import GrammarBench.Proofs.Compile

/-!
# How a tool fares

A tool that was started is heard to the end of what is received of it (`runOn_process`). Where it
comes to its end, its queue has an error exactly when one of its lines is an error or the tool ended
badly (`runQueue_hasErrors`), so a bad end is never lost, and the order in which the lines arrive
makes no difference to that.
-/

namespace GrammarBench

def ChildRun.ReportsError (run : ChildRun) : Prop :=
  ∃ channel, ∃ line ∈ byteLines [] (run.bytes channel), ∃ text d,
    lineText line = .ok text ∧ Diagnostic.ofLine? text = some d ∧ d.severity = .error

/-- In whichever order the lines arrive, an error among them is an error of the tool. -/
theorem ChildRun.reportsError_iff {run : ChildRun} {ready : List Channel} {texts : List String}
    (htexts : (run.received ready).map lineText = texts.map .ok) :
    run.ReportsError ↔ ∃ d ∈ texts.filterMap Diagnostic.ofLine?, d.severity = .error := by
  have hmem : ∀ text, text ∈ texts ↔
      ∃ channel, ∃ line ∈ run.lines channel, lineText line = .ok text := by
    intro text
    have hok : (.ok text : Except Failure String) ∈ texts.map .ok ↔ text ∈ texts := by simp
    rw [← hok, ← htexts, List.mem_map]
    constructor
    · rintro ⟨line, hline, htext⟩
      obtain ⟨channel, hchannel⟩ := mem_received.mp hline
      exact ⟨channel, line, hchannel, htext⟩
    · rintro ⟨channel, line, hline, htext⟩
      exact ⟨line, mem_received.mpr ⟨channel, hline⟩, htext⟩
  constructor
  · rintro ⟨channel, line, hline, text, d, htext, hd, herror⟩
    exact ⟨d, List.mem_filterMap.mpr ⟨text, (hmem text).mpr ⟨channel, line, hline, htext⟩, hd⟩,
      herror⟩
  · rintro ⟨d, hd, herror⟩
    obtain ⟨text, htext, hread⟩ := List.mem_filterMap.mp hd
    obtain ⟨channel, line, hline, hok⟩ := (hmem text).mp htext
    exact ⟨channel, line, hline, text, d, hok, hread, herror⟩

namespace DiagnosticQueue

/-- After the end of the tool there is an error if there was one, or if the end is bad. -/
theorem close_hasErrors (q : DiagnosticQueue) (program : String) (ending : Ending) :
    (q.close program ending).hasErrors = (q.hasErrors || !ending.isSuccess) := by
  unfold close
  cases hend : ending.isSuccess with
  | true => simp
  | false =>
      cases herrors : q.hasErrors with
      | true => simp [herrors]
      | false => simp [push, hasErrors, Diagnostic.isError, Diagnostic.plain]

end DiagnosticQueue

namespace CommandTool

/-- What a tool that was started leaves: its lines as messages, and after its end a complaint if
that was bad. -/
def ofRun (t : CommandTool) (run : ChildRun) (ready : List Channel) (queue : DiagnosticQueue) :
    DiagnosticQueue × Option Failure :=
  match queue.hear (run.received ready) with
  | (heard, none) => (heard.close t.program run.ending, none)
  | (heard, some failure) => (heard, some failure)

theorem runOn_process (t : CommandTool) (launch : Launcher) (options : List String)
    (queue : DiagnosticQueue) (s : Host) :
    (t.process launch options queue).runOn s =
      match (launch (t.command options)).runOn s with
      | (.error fault, s') => ((queue, some (.spawn t.program fault)), s')
      | (.ok run, s') => (t.ofRun run s'.ready queue, s') := by
  unfold process
  rw [runOn_bind_state]
  rcases (launch (t.command options)).runOn s with ⟨fault | run, s'⟩
  · rfl
  dsimp only
  rw [ofRun, ← Hearing.listen_start]
  have hget : (get : StateM Host Host).runOn s' = (s', s') := rfl
  rw [runOn_bind_state, hget]
  dsimp only
  rcases (Hearing.start run queue).listen (run.turns s'.ready) with ⟨heard, _ | failure⟩ <;> rfl

/-- Where a tool comes to its end, all of its lines are texts, and their messages are queued. -/
theorem ofRun_eq_none {t : CommandTool} {run : ChildRun} {ready : List Channel}
    {queue q : DiagnosticQueue} (h : t.ofRun run ready q = (queue, none)) :
    ∃ texts : List String, (run.received ready).map lineText = texts.map .ok
      ∧ queue = (q.append (texts.filterMap Diagnostic.ofLine?)).close t.program run.ending := by
  rcases DiagnosticQueue.hear_cases (run.received ready) with
    ⟨texts, htexts⟩ | ⟨front, texts, line, failure, back, hlines, hfront, hline⟩
  · refine ⟨texts, htexts, ?_⟩
    have hheard := DiagnosticQueue.hear_append htexts q []
    rw [List.append_nil, DiagnosticQueue.hear] at hheard
    rw [ofRun, hheard] at h
    exact (Prod.mk.inj h).1.symm
  · have hheard := DiagnosticQueue.hear_append hfront q (line :: back)
    rw [← hlines, DiagnosticQueue.hear, hline] at hheard
    rw [ofRun, hheard] at h
    cases h

/-- **A tool that comes to its end was started, and it leaves an error exactly when it reports one or
ends badly.** -/
theorem process_eq_none {t : CommandTool} {launch : Launcher} {options : List String}
    {queue : DiagnosticQueue} {s s' : Host}
    (h : (t.process launch options .empty).runOn s = ((queue, none), s')) :
    ∃ run, (launch (t.command options)).runOn s = (.ok run, s')
      ∧ (queue.hasErrors = true ↔ run.ReportsError ∨ run.ending.isSuccess = false) := by
  rw [runOn_process] at h
  rcases hlaunch : (launch (t.command options)).runOn s with ⟨fault | run, s₁⟩
  · rw [hlaunch] at h
    cases h
  · rw [hlaunch] at h
    obtain ⟨hqueue, rfl⟩ := Prod.mk.inj h
    obtain ⟨texts, htexts, rfl⟩ := ofRun_eq_none hqueue
    refine ⟨run, rfl, ?_⟩
    rw [DiagnosticQueue.close_hasErrors, Bool.or_eq_true, Bool.not_eq_true',
      ChildRun.reportsError_iff htexts, DiagnosticQueue.hasErrors_iff]
    simp [DiagnosticQueue.append, DiagnosticQueue.empty]

end CommandTool

end GrammarBench
