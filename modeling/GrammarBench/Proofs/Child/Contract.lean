import GrammarBench.Proofs.Child.Tool
import GrammarBench.Proofs.Diagnostic.Reading
import GrammarBench.Proofs.Text.Utf8

/-!
# The contract of a run of the tool

What a tool leaves that was started, told by the lines it wrote and by the order in which they were
received (`Leaves`). Lines count here as what they are: the bytes of a text (`ReadsAs`), of which the
blank ones are no messages (`MessagesOf`). The contract holds for every order of the two channels
(`process_contract`).
-/

namespace GrammarBench

open Text

/-! ## Lines as texts, texts as messages -/

/-- The bytes of a line are those of a text, its end included. -/
def ReadsAs (line : List UInt8) (text : String) : Prop :=
  ∃ whole, line = utf8 whole ∧ text = String.ofList (trimLineEnd whole.toList)

/-- The messages of some lines: one for each line that is not blank, in order. -/
def MessagesOf (texts : List String) (messages : List Diagnostic) : Prop :=
  List.Forall₂ (fun text d => Diagnostic.ofLine? text = some d)
    (texts.filter fun text => !allBlank text) messages

theorem lineText_eq_ok {line : List UInt8} {text : String} :
    lineText line = .ok text ↔ ReadsAs line text := by
  unfold lineText ReadsAs
  simp only [← decodeStrict_eq_ok]
  cases decodeStrict line with
  | ok whole => simp [eq_comm]
  | error fault => simp

theorem lineText_eq_error {line : List UInt8} (h : ¬∃ text, ReadsAs line text) :
    ∃ fault, lineText line = .error (.io fault) := by
  have hbroken : ∀ whole, line ≠ utf8 whole := fun whole hwhole => h ⟨_, whole, hwhole, rfl⟩
  obtain ⟨fault, hfault⟩ := decodeStrict_eq_error.mpr hbroken
  exact ⟨.brokenLine fault, by rw [lineText, hfault]⟩

theorem map_lineText {lines : List (List UInt8)} {texts : List String}
    (h : List.Forall₂ ReadsAs lines texts) : lines.map lineText = texts.map .ok := by
  induction h with
  | nil => rfl
  | cons hline _ ih => rw [List.map_cons, List.map_cons, lineText_eq_ok.mpr hline, ih]

/-- A line is no message exactly when it is blank. -/
theorem ofLine?_eq_none_iff_allBlank {text : String} :
    Diagnostic.ofLine? text = none ↔ allBlank text = true := by
  rw [Diagnostic.ofLine?_eq_none]
  simp [Diagnostic.trimmed, allBlank]

theorem messagesOf_filterMap (texts : List String) :
    MessagesOf texts (texts.filterMap Diagnostic.ofLine?) := by
  unfold MessagesOf
  induction texts with
  | nil => exact .nil
  | cons text texts ih =>
      cases hd : Diagnostic.ofLine? text with
      | none =>
          have hblank := ofLine?_eq_none_iff_allBlank.mp hd
          simpa [hd, hblank] using ih
      | some d =>
          have hblank : allBlank text = false := by
            rw [← Bool.not_eq_true, ← ofLine?_eq_none_iff_allBlank, hd]
            simp
          simpa [hd, hblank] using ih

/-! ## What a tool leaves -/

namespace CommandTool

/-- The complaint about a bad end, which is made where no message is an error. -/
def complaint (t : CommandTool) (ending : Ending) (messages : List Diagnostic) : List Diagnostic :=
  if ending.isSuccess = false ∧ ∀ d ∈ messages, d.severity ≠ .error then
    [{ severity := .error, code := none, file := none, line := none, column := none,
       message := t.program ++ " exited with " ++ ending.display }]
  else []

theorem close_eq (t : CommandTool) (q : DiagnosticQueue) (ending : Ending) :
    q.close t.program ending = ⟨q.all ++ t.complaint ending q.all⟩ := by
  have herrors : q.hasErrors = false ↔ ∀ d ∈ q.all, d.severity ≠ .error := by
    rw [← Bool.not_eq_true, DiagnosticQueue.hasErrors_iff]
    simp
  unfold DiagnosticQueue.close complaint
  simp only [← herrors]
  cases ending.isSuccess <;> cases q.hasErrors <;>
    simp [DiagnosticQueue.push, Diagnostic.plain]

/-- What a tool leaves, told by the lines that were received of it, in their order. -/
structure Leaves (t : CommandTool) (q : DiagnosticQueue) (ending : Ending)
    (lines : List (List UInt8)) (result : DiagnosticQueue × Option Failure) : Prop where
  /-- Where all lines are texts, the run comes to its end with all their messages. -/
  complete : ∀ texts, List.Forall₂ ReadsAs lines texts → ∃ messages, MessagesOf texts messages
    ∧ result = (⟨q.all ++ messages ++ t.complaint ending (q.all ++ messages)⟩, none)
  /-- The first line that is no text ends the run with a fault, and nothing is queued after it. -/
  broken : ∀ front texts line back, lines = front ++ line :: back →
    List.Forall₂ ReadsAs front texts → (¬∃ text, ReadsAs line text) →
    ∃ messages fault, MessagesOf texts messages
      ∧ result = (⟨q.all ++ messages⟩, some (.io fault))
  /-- A bad end is never lost. -/
  bad_end : ending.isSuccess = false → result.2 = none → result.1.hasErrors = true

theorem leaves_ofRun (t : CommandTool) (run : ChildRun) (ready : List Channel)
    (q : DiagnosticQueue) : t.Leaves q run.ending (run.received ready) (t.ofRun run ready q) := by
  refine ⟨?_, ?_, ?_⟩
  · intro texts htexts
    have hheard := DiagnosticQueue.hear_append (map_lineText htexts) q []
    rw [List.append_nil, DiagnosticQueue.hear] at hheard
    refine ⟨texts.filterMap Diagnostic.ofLine?, messagesOf_filterMap texts, ?_⟩
    rw [ofRun, hheard]
    dsimp only
    rw [close_eq]
    rfl
  · intro front texts line back hlines hfront hline
    have hheard := DiagnosticQueue.hear_append (map_lineText hfront) q (line :: back)
    obtain ⟨fault, hfault⟩ := lineText_eq_error hline
    -- the lines before the broken one are heard, and it stops the hearing
    rw [← hlines, DiagnosticQueue.hear, hfault] at hheard
    refine ⟨texts.filterMap Diagnostic.ofLine?, fault, messagesOf_filterMap texts, ?_⟩
    rw [ofRun, hheard]
    rfl
  · intro hending hnone
    rcases hresult : t.ofRun run ready q with ⟨queue, failure⟩
    rw [hresult] at hnone
    obtain rfl : failure = none := hnone
    obtain ⟨texts, -, rfl⟩ := ofRun_eq_none hresult
    rw [DiagnosticQueue.close_hasErrors, hending]
    simp

/-- **The contract of a run of the tool.** A tool that was started is heard line by line, each
channel in its own order and none of its lines lost or doubled, however the host finds the channels
ready; and every order of the two channels is one that some host finds. -/
theorem process_contract (t : CommandTool) (launch : Launcher) (options : List String)
    (q : DiagnosticQueue) {s s' : Host} {run : ChildRun}
    (hspawn : (launch (t.command options)).runOn s = (.ok run, s')) :
    (∀ channel, IsLines (run.bytes channel) (run.lines channel))
      ∧ (∃ result, (t.process launch options q).runOn s = (result, s')
        ∧ Interleaving (run.lines .stdout) (run.lines .stderr) (run.received s'.ready)
        ∧ t.Leaves q run.ending (run.received s'.ready) result)
      ∧ ∀ lines, Interleaving (run.lines .stdout) (run.lines .stderr) lines →
        ∃ ready, run.received ready = lines := by
  refine ⟨run.isLines, ⟨t.ofRun run s'.ready q, ?_, run.interleaving_received s'.ready,
    t.leaves_ofRun run s'.ready q⟩, fun lines h => ChildRun.exists_ready h⟩
  rw [runOn_process, hspawn]

/-! A run in which the second channel is found ready first: a line without a line feed comes before
the message of the first channel, a blank line is none, and the end is complained about. -/

namespace FailingRun

def tool : CommandTool := ⟨"tool", ["-x"]⟩

def run : ChildRun where
  writes := [(.stdout, utf8 "warning(7): late\n\n"), (.stderr, utf8 "hint")]
  ending := .exit 1

def host : Host where
  system := "linux"
  tree := ⟨[]⟩
  cwd := []
  serial := 0
  ports := []
  ready := [.stderr]
  traffic := []
  log := []

def launch : Launcher := fun _ => return .ok run

def messages : List Diagnostic :=
  [.plain .info "hint", { Diagnostic.plain .warning "late" with code := some 7 },
    .plain .error "tool exited with exit status: 1"]

end FailingRun

theorem process_contract_failingRun :
    (∃ result, (FailingRun.tool.process FailingRun.launch [] .empty).runOn FailingRun.host
        = (result, FailingRun.host)
      ∧ Interleaving (FailingRun.run.lines .stdout) (FailingRun.run.lines .stderr)
          (FailingRun.run.received FailingRun.host.ready)
      ∧ FailingRun.tool.Leaves .empty FailingRun.run.ending
          (FailingRun.run.received FailingRun.host.ready) result)
      ∧ ((FailingRun.tool.process FailingRun.launch [] .empty).runOn FailingRun.host).1
        = (⟨FailingRun.messages⟩, none) :=
  ⟨(process_contract FailingRun.tool FailingRun.launch [] .empty rfl).2.1, by decide +kernel⟩

end CommandTool

end GrammarBench
