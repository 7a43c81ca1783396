import GrammarBench.Proofs.Harness.CaseRun

/-!
# Sessions

A harness serves one call after the other: cases, and drivers that its caller wants to be run in an
area of its own. Each call may meet another computer, another behaviour of the tool and another one
of the backend than the call before. What one call leaves for the next is the bench, and on it the
error output that is remembered. A call that does not come to its driver leaves that as it is
(`stderr_of_not_reaches`), and one that does replaces it (`stderr_of_reaches`), so after a session
it is that of the last call which came to its driver (`session_stderr`).
-/

namespace GrammarBench

/-- What a caller has a harness do. -/
inductive Job where
  | case (c : Case)
  | driver (area : StagingArea) (spec : DriverSpec) (input : String)
deriving Repr, DecidableEq

/-- A call of a harness: what is to be done, and what the call meets. -/
structure Turn where
  job : Job
  /-- What happened on the computer since the call before. -/
  meanwhile : Host → Host
  tool : GrammarTool
  execute : StagingArea → Path → String → HostAction ExecutionResult

namespace Harness

variable (h : Harness)

/-- The harness as it is during a call. -/
def during (t : Turn) : Harness :=
  { h with tool := t.tool, backend := { h.backend with execute := t.execute } }

/-- Does a job, and gives the result of the driver if there is one. -/
def answer : Job → BenchAction (Option ExecutionResult)
  | .case c => do
    let outcome ← h.exec c
    return outcome.result
  | .driver area spec input => do
    let result ← h.runDriver area spec input
    return some result

/-- How a call ends that is made on the bench `b`, and the bench after it. -/
def serve (b : Bench) (t : Turn) : Except Failure (Option ExecutionResult) × Bench :=
  ((h.during t).answer t.job).runOn { b with host := t.meanwhile b.host }

/-- The bench after a session. -/
def session (b : Bench) (turns : List Turn) : Bench :=
  turns.foldl (fun b t => (h.serve b t).2) b

@[simp] theorem session_nil (b : Bench) : h.session b [] = b := rfl

@[simp] theorem session_cons (b : Bench) (t : Turn) (rest : List Turn) :
    h.session b (t :: rest) = h.session (h.serve b t).2 rest := rfl

theorem session_append (b : Bench) (before after : List Turn) :
    h.session b (before ++ after) = h.session (h.session b before) after :=
  List.foldl_append

/-! ## One call -/

/-- On this host the job comes to its driver: a case does when its grammar has compiled. -/
def Reaches (s : Host) : Job → Prop
  | .case c => ∃ area options atTool queue s',
    h.Compiled c s area options atTool queue s' ∧ queue.hasErrors = false
  | .driver .. => True

/-- A call on the bench `b` comes to its driver. -/
def ReachesAt (b : Bench) (t : Turn) : Prop :=
  (h.during t).Reaches (t.meanwhile b.host) t.job

/-- What is remembered of a driver that was to be run, by how that ended. -/
def stderrOf : Except Failure ExecutionResult → Option String
  | .ok result => result.stderr
  | .error _ => none

variable {h}

theorem stderr_runDriver (area : StagingArea) (spec : DriverSpec) (input : String) (b : Bench) :
    ((h.runDriver area spec input).runOn b).2.stderrDuringParse =
      stderrOf ((h.runDriver area spec input).runOn b).1 := by
  rw [runOn_runDriver]
  rcases (area.stageInput input).runOn b.host with ⟨f | path, s₁⟩
  · rfl
  dsimp only
  rcases (area.writeDriver spec h.backend.kind).runOn s₁ with ⟨f | entry, s₂⟩
  · rfl
  dsimp only
  rcases (h.backend.execute area entry input).runOn s₂ with ⟨f | result, s⟩ <;> rfl

theorem runOn_answer_case (c : Case) (b : Bench) :
    (h.answer (.case c)).runOn b =
      (((h.exec c).runOn b).1.map (·.result), ((h.exec c).runOn b).2) := by
  rw [answer, runOn_bind]
  rcases (h.exec c).runOn b with ⟨f | outcome, b'⟩ <;> rfl

theorem runOn_answer_driver (area : StagingArea) (spec : DriverSpec) (input : String) (b : Bench) :
    (h.answer (.driver area spec input)).runOn b =
      (((h.runDriver area spec input).runOn b).1.map some,
        ((h.runDriver area spec input).runOn b).2) := by
  rw [answer, runOn_bind]
  rcases (h.runDriver area spec input).runOn b with ⟨f | result, b'⟩ <;> rfl

/-- A job that comes to its driver ends as the driver does, and that is what is remembered. -/
theorem answer_of_reaches {job : Job} {b : Bench} (hreach : h.Reaches b.host job) :
    ∃ r, ((h.answer job).runOn b).1 = r.map some
      ∧ ((h.answer job).runOn b).2.stderrDuringParse = stderrOf r := by
  cases job with
  | driver area spec input =>
      refine ⟨((h.runDriver area spec input).runOn b).1, ?_, ?_⟩
      · rw [runOn_answer_driver]
      · rw [runOn_answer_driver]
        exact stderr_runDriver area spec input b
  | case c =>
      obtain ⟨area, options, atTool, queue, s, hcompiled, hclean⟩ := hreach
      have hdriver := stderr_runDriver (h := h) area c.spec c.input
        { b with host := s, calls := b.calls ++ [.tool options atTool.tree] }
      rw [runOn_answer_case, exec_of_compiled hcompiled hclean]
      rcases hrun : (h.runDriver area c.spec c.input).runOn _ with ⟨f | result, b'⟩
      · rw [hrun] at hdriver
        exact ⟨.error f, rfl, hdriver⟩
      · rw [hrun] at hdriver
        exact ⟨.ok result, rfl, hdriver⟩

/-- A job that does not come to its driver leaves what is remembered. -/
theorem answer_of_not_reaches {job : Job} {b : Bench} (hreach : ¬h.Reaches b.host job) :
    ((h.answer job).runOn b).2.stderrDuringParse = b.stderrDuringParse := by
  cases job with
  | driver area spec input => exact absurd trivial hreach
  | case c =>
      rw [runOn_answer_case]
      have hrun := h.exec_caseRun c b
      generalize (h.exec c).runOn b = after at hrun ⊢
      obtain ⟨r, b'⟩ := after
      -- The rules up to the tool and its errors leave it, and the others are for cases that compiled.
      cases hrun with
      | noArea _ => rfl
      | noGrammar _ _ => rfl
      | toolFailed _ _ => rfl
      | notCompiled _ _ => rfl
      | noInput hcompiled hclean _ => exact absurd ⟨_, _, _, _, _, hcompiled, hclean⟩ hreach
      | notRendered hstaged _ =>
          obtain ⟨hclean, _, _, hcompiled, _⟩ := hstaged
          exact absurd ⟨_, _, _, _, _, hcompiled, hclean⟩ hreach
      | noDriver hstaged _ _ =>
          obtain ⟨hclean, _, _, hcompiled, _⟩ := hstaged
          exact absurd ⟨_, _, _, _, _, hcompiled, hclean⟩ hreach
      | notRun hready _ =>
          obtain ⟨_, _, ⟨hclean, _, _, hcompiled, _⟩, _⟩ := hready
          exact absurd ⟨_, _, _, _, _, hcompiled, hclean⟩ hreach
      | done hready _ =>
          obtain ⟨_, _, ⟨hclean, _, _, hcompiled, _⟩, _⟩ := hready
          exact absurd ⟨_, _, _, _, _, hcompiled, hclean⟩ hreach

theorem stderr_of_reaches {b : Bench} {t : Turn} (hreach : h.ReachesAt b t) :
    ∃ r, (h.serve b t).1 = r.map some ∧ (h.serve b t).2.stderrDuringParse = stderrOf r :=
  answer_of_reaches hreach

theorem stderr_of_not_reaches {b : Bench} {t : Turn} (hreach : ¬h.ReachesAt b t) :
    (h.serve b t).2.stderrDuringParse = b.stderrDuringParse :=
  answer_of_not_reaches hreach

/-! ## Sessions -/

/-- No call of the session comes to its driver. -/
def NoneReach (h : Harness) (b : Bench) : List Turn → Prop
  | [] => True
  | t :: rest => ¬h.ReachesAt b t ∧ h.NoneReach (h.serve b t).2 rest

theorem stderr_of_noneReach {b : Bench} {turns : List Turn} (hnone : h.NoneReach b turns) :
    (h.session b turns).stderrDuringParse = b.stderrDuringParse := by
  induction turns generalizing b with
  | nil => rfl
  | cons t rest ih =>
      obtain ⟨hfirst, hrest⟩ := hnone
      rw [session_cons, ih hrest, stderr_of_not_reaches hfirst]

/-- What is remembered after a session that began on the bench `b`. -/
structure Remembers (h : Harness) (b : Bench) (turns : List Turn) : Prop where
  /-- As long as no call comes to its driver there is nothing. -/
  none_yet : h.NoneReach b turns → (h.session b turns).stderrDuringParse = none
  /-- What the last call that came to its driver gave, if it gave a result, and nothing if it
  failed from there on. -/
  last : ∀ before t after, turns = before ++ t :: after →
    h.ReachesAt (h.session b before) t →
    h.NoneReach (h.serve (h.session b before) t).2 after →
    (∃ result, (h.serve (h.session b before) t).1 = .ok (some result)
      ∧ (h.session b turns).stderrDuringParse = result.stderr)
    ∨ ∃ f, (h.serve (h.session b before) t).1 = .error f
      ∧ (h.session b turns).stderrDuringParse = none
  /-- A call that ends before it comes to its driver leaves what was remembered. -/
  unchanged : ∀ before t after, turns = before ++ t :: after →
    ¬h.ReachesAt (h.session b before) t →
    (h.serve (h.session b before) t).2.stderrDuringParse = (h.session b before).stderrDuringParse

/-- **The error output that is remembered is that of the last driver**, in any session of any
harness. -/
theorem session_stderr (h : Harness) (host : Host) (turns : List Turn) :
    h.Remembers (.fresh host) turns := by
  refine ⟨fun hnone => stderr_of_noneReach hnone, ?_, ?_⟩
  · rintro before t after rfl hreach hnone
    obtain ⟨r, hend, hstderr⟩ := stderr_of_reaches hreach
    rw [session_append, session_cons, stderr_of_noneReach hnone, hstderr, hend]
    cases r with
    | ok result => exact .inl ⟨result, rfl, rfl⟩
    | error f => exact .inr ⟨f, rfl, rfl⟩
  · rintro before t after - hreach
    exact stderr_of_not_reaches hreach

end Harness

end GrammarBench
