import GrammarBench.Proofs.Child.Interpreter
import GrammarBench.Proofs.Text.Repair
import Mathlib.Algebra.GroupWithZero.Nat

/-!
# Two channels, read while the child writes

A pipe holds only so many bytes, and a child that finds its pipe full waits for a reader. So each
channel is drained by itself while the child runs, and nobody knows which comes first: the child may
get some bytes of a write into a pipe, a drain may take some bytes out of one, and the child may be
gone long before its pipes are empty (`Capture.Step`).

No byte is lost or moved on the way (`Capture.Keeps`), somebody can always go on until both drains
are done (`Capture.step_or_finished`), and every step is work done (`Capture.work`). So each order
of the steps comes to its end, at the same result (`Interpreter.execute_captures`).
-/

namespace GrammarBench

open Text

/-- A child that is drained while it runs. -/
structure Capture where
  /-- What the child has still to do. Of a write that is under way, only the rest is left. -/
  left : ChildRun
  ended : Bool
  /-- What was written to a channel and is not read yet. -/
  pipe : Channel → List UInt8
  /-- What each read of a channel gave. -/
  seen : Channel → List (List UInt8)
  /-- The drain of a channel has come to the end. -/
  drained : Channel → Bool

namespace Capture

/-- A child that was just started. -/
def start (run : ChildRun) : Capture where
  left := run
  ended := false
  pipe _ := []
  seen _ := []
  drained _ := false

/-- One step of the child or of a drain, where a pipe has room for `capacity` bytes. -/
inductive Step (capacity : Nat) : Capture → Capture → Prop
  /-- The first bytes of a write fit into the pipe. -/
  | write {c : Capture} {channel : Channel} {front back : List UInt8}
      {rest : List (Channel × List UInt8)}
      (hleft : c.left.writes = (channel, front ++ back) :: rest)
      (hsome : front ≠ []) (hroom : (c.pipe channel ++ front).length ≤ capacity) :
      Step capacity c { c with
        left := { c.left with writes := (channel, back) :: rest }
        pipe := Function.update c.pipe channel (c.pipe channel ++ front) }
  /-- Nothing is left of a write. -/
  | written {c : Capture} {channel : Channel} {rest : List (Channel × List UInt8)}
      (hleft : c.left.writes = (channel, []) :: rest) :
      Step capacity c { c with left := { c.left with writes := rest } }
  /-- The child ends, and both pipes are closed behind what is in them. -/
  | exit {c : Capture} (hleft : c.left.writes = []) (hended : c.ended = false) :
      Step capacity c { c with ended := true }
  | read {c : Capture} {channel : Channel} {front back : List UInt8}
      (hpipe : c.pipe channel = front ++ back) (hsome : front ≠ []) :
      Step capacity c { c with
        pipe := Function.update c.pipe channel back
        seen := Function.update c.seen channel (c.seen channel ++ [front]) }
  /-- A drain finds its pipe closed and empty. -/
  | finish {c : Capture} {channel : Channel} (hended : c.ended = true)
      (hpipe : c.pipe channel = []) (hopen : c.drained channel = false) :
      Step capacity c { c with drained := Function.update c.drained channel true }

/-- So many steps lead from one state to another. -/
inductive Steps (capacity : Nat) : Nat → Capture → Capture → Prop
  | refl (c : Capture) : Steps capacity 0 c c
  | tail {n : Nat} {c c' c'' : Capture} (h : Steps capacity n c c') (hstep : Step capacity c' c'') :
      Steps capacity (n + 1) c c''

/-- The child is gone and both drains have come to the end. -/
structure Finished (c : Capture) : Prop where
  ended : c.ended = true
  drained : ∀ channel, c.drained channel = true

/-- The result that is made of what the drains have read. -/
def result (c : Capture) : Except Failure ExecutionResult := do
  let stdout ← drain ((c.seen .stdout).map .bytes)
  let stderr ← drain ((c.seen .stderr).map .bytes)
  return .ofChannels stdout stderr

variable {capacity : Nat} {run : ChildRun} {c c' : Capture}

/-! ## No byte is lost -/

/-- What was read of a channel, what is in its pipe and what is still to be written are together
what the child writes there; and a drain that is done has left nothing. -/
structure Keeps (run : ChildRun) (c : Capture) : Prop where
  kept : ∀ channel, (c.seen channel).flatten ++ c.pipe channel ++ c.left.bytes channel
    = run.bytes channel
  ended : c.ended = true → c.left.writes = []
  drained : ∀ channel, c.drained channel = true → c.ended = true ∧ c.pipe channel = []

theorem bytes_of_writes_cons {r : ChildRun} {channel : Channel} {content : List UInt8}
    {rest : List (Channel × List UInt8)} (h : r.writes = (channel, content) :: rest)
    (ch : Channel) :
    r.bytes ch = (if channel = ch then content else []) ++ { r with writes := rest }.bytes ch := by
  unfold ChildRun.bytes
  rw [h]
  by_cases hch : channel = ch <;> simp [hch]

theorem keeps_start (run : ChildRun) : Keeps run (start run) where
  kept _ := rfl
  ended h := by cases h
  drained _ h := by cases h

theorem Keeps.step (h : Keeps run c) (hstep : Step capacity c c') : Keeps run c' := by
  cases hstep with
  | @write channel front back rest hleft hsome hroom =>
      refine ⟨fun ch => ?_, fun hended => ?_, fun ch hdrained => ?_⟩
      · have hkept := h.kept ch
        rw [bytes_of_writes_cons hleft] at hkept
        rw [bytes_of_writes_cons rfl, ← hkept]
        by_cases hch : ch = channel
        · subst hch
          simp
        · simp [hch, Ne.symm hch]
      · rw [h.ended hended] at hleft
        cases hleft
      · -- the child is still writing, so no drain is done
        rw [h.ended (h.drained ch hdrained).1] at hleft
        cases hleft
  | @written channel rest hleft =>
      refine ⟨fun ch => ?_, fun hended => ?_, h.drained⟩
      · rw [← h.kept ch, bytes_of_writes_cons hleft, ite_self, List.nil_append]
      · rw [h.ended hended] at hleft
        cases hleft
  | exit hleft hended =>
      exact ⟨h.kept, fun _ => hleft, fun ch hdrained => ⟨rfl, (h.drained ch hdrained).2⟩⟩
  | @read channel front back hpipe hsome =>
      refine ⟨fun ch => ?_, h.ended, fun ch hdrained => ?_⟩
      · rw [← h.kept ch]
        by_cases hch : ch = channel
        · subst hch
          simp [hpipe]
        · simp [hch]
      · obtain ⟨hended, hempty⟩ := h.drained ch hdrained
        refine ⟨hended, ?_⟩
        by_cases hch : ch = channel
        · subst hch
          rw [hempty] at hpipe
          exact absurd (List.append_eq_nil_iff.mp hpipe.symm).1 hsome
        · simpa [hch] using hempty
  | @finish channel hended hpipe hopen =>
      refine ⟨h.kept, h.ended, fun ch hdrained => ?_⟩
      by_cases hch : ch = channel
      · subst hch
        exact ⟨hended, hpipe⟩
      · exact h.drained ch (by simpa [hch] using hdrained)

theorem Keeps.steps {n : Nat} (h : Keeps run c) (hsteps : Steps capacity n c c') :
    Keeps run c' := by
  induction hsteps with
  | refl => exact h
  | tail _ hstep ih => exact (ih h).step hstep

/-- When both drains are done, they have read what the child wrote. -/
theorem Keeps.seen_of_finished (h : Keeps run c) (hfinished : c.Finished) (channel : Channel) :
    (c.seen channel).flatten = run.bytes channel := by
  have hwritten : c.left.bytes channel = [] := by
    unfold ChildRun.bytes
    rw [h.ended hfinished.ended]
    rfl
  have hkept := h.kept channel
  rwa [(h.drained channel (hfinished.drained channel)).2, hwritten, List.append_nil,
    List.append_nil] at hkept

theorem Keeps.result_of_finished (h : Keeps run c) (hfinished : c.Finished) :
    c.result = .ok run.result := by
  have hdrain : ∀ channel, drain ((c.seen channel).map .bytes)
      = .ok (decodeLossy (run.bytes channel)) := by
    intro channel
    rw [drain, drainFrom_bytes, List.nil_append, h.seen_of_finished hfinished]
  unfold result
  rw [hdrain, hdrain]
  rfl

/-! ## The end is reached -/

/-- Somebody can go on as long as not all is done: a full pipe can be read, and a pipe that is not
full can be written to. -/
theorem step_or_finished (hcapacity : 0 < capacity) (c : Capture) :
    (∃ c', Step capacity c c') ∨ c.Finished := by
  by_cases hpipe : ∀ channel, c.pipe channel = []
  · cases hleft : c.left.writes with
    | cons first rest =>
        obtain ⟨channel, _ | ⟨b, content⟩⟩ := first
        · exact .inl ⟨_, .written hleft⟩
        · have hsplit : c.left.writes = (channel, [b] ++ content) :: rest := hleft
          refine .inl ⟨_, .write hsplit (List.cons_ne_nil b []) ?_⟩
          rw [hpipe]
          exact hcapacity
    | nil =>
        by_cases hended : c.ended = true
        · by_cases hdrained : ∀ channel, c.drained channel = true
          · exact .inr ⟨hended, hdrained⟩
          · obtain ⟨channel, hopen⟩ := not_forall.mp hdrained
            exact .inl ⟨_, .finish hended (hpipe channel) (Bool.not_eq_true _ ▸ hopen)⟩
        · exact .inl ⟨_, .exit hleft (Bool.not_eq_true _ ▸ hended)⟩
  · obtain ⟨channel, hfull⟩ := not_forall.mp hpipe
    exact .inl ⟨_, .read (List.append_nil _).symm hfull⟩

/-- What is to do for a channel: each byte in its pipe is read, and its end is found. -/
def owed (c : Capture) (channel : Channel) : Nat :=
  (c.pipe channel).length + if c.drained channel then 0 else 1

/-- An upper bound for the steps that are left. A byte that is not written takes two of them. -/
def work (c : Capture) : Nat :=
  (c.left.writes.map fun (_, content) => 2 * content.length + 1).sum
    + (if c.ended then 0 else 1) + c.owed .stdout + c.owed .stderr

theorem Step.work_lt (hstep : Step capacity c c') : c'.work < c.work := by
  cases hstep with
  | @write channel front back rest hleft hsome hroom =>
      have hfront := List.length_pos_iff.mpr hsome
      cases channel <;> simp [work, owed, hleft] <;> omega
  | written hleft => simp [work, owed, hleft]
  | exit hleft hended => simp [work, owed, hended]
  | @read channel front back hpipe hsome =>
      have hfront := List.length_pos_iff.mpr hsome
      cases channel <;> simp [work, owed, hpipe] <;> omega
  | @finish channel hended hpipe hopen =>
      cases channel <;> simp [work, owed, hopen]

theorem Steps.work_le {n : Nat} (hsteps : Steps capacity n c c') : c'.work + n ≤ c.work := by
  induction hsteps with
  | refl => exact Nat.le_refl _
  | tail _ hstep ih =>
      have hlt := hstep.work_lt
      omega

end Capture

/-! ## What was captured -/

/-- The text is what the bytes of a channel say: what they spell, with one replacement character
for each broken part. -/
structure SaidBy (bytes : List UInt8) (text : String) : Prop where
  repairs : Repairs bytes text.toList
  of_utf8 : ∀ s, bytes = utf8 s → text = s

theorem saidBy_decodeLossy (bytes : List UInt8) : SaidBy bytes (decodeLossy bytes) where
  repairs := repairs_iff.mpr rfl
  of_utf8 s hs := by rw [hs, decodeLossy_utf8]

/-- The result holds what was written on each channel, and no error output if there was none. -/
structure Captures (run : ChildRun) (result : ExecutionResult) : Prop where
  stdout : SaidBy (run.bytes .stdout) result.stdout
  stderr_none : result.stderr = none ↔ run.bytes .stderr = []
  stderr : ∀ text, result.stderr = some text → SaidBy (run.bytes .stderr) text

theorem ChildRun.captures_result (run : ChildRun) : Captures run run.result where
  stdout := saidBy_decodeLossy _
  stderr_none := result_stderr_eq_none
  stderr text htext := by
    unfold result ExecutionResult.ofChannels at htext
    dsimp only at htext
    split at htext
    · cases htext
    · exact Option.some.inj htext ▸ saidBy_decodeLossy _

theorem ChildRun.result_eq_of_bytes_eq {run run' : ChildRun}
    (h : ∀ channel, run'.bytes channel = run.bytes channel) : run'.result = run.result := by
  rw [result, result, h, h]

namespace Interpreter

/-- **A driver that was started has a result, and it holds all that the driver wrote.** It is the
same for any driver that writes the same on each channel, wherever and however it is run, in
whatever pieces and order it writes, and however it ends; and the child and the two drains come to
it in every order of their steps, without ever waiting for each other in vain. -/
theorem execute_captures {i : Interpreter} {launch : Launcher} {area : StagingArea} {entry : Path}
    {input : String} {s s₁ : Host} {run : ChildRun}
    (hstarted : i.Started launch area entry input s run s₁) :
    ∃ result, (i.execute launch area entry input).runOn s
        = (.ok result, s₁.logging run.outputEvents)
      ∧ Captures run result
      ∧ (∀ (i' : Interpreter) (launch' : Launcher) (area' : StagingArea) (entry' : Path)
          (input' : String) (s' s₁' : Host) (run' : ChildRun),
          i'.Started launch' area' entry' input' s' run' s₁' →
          (∀ channel, run'.bytes channel = run.bytes channel) →
          ((i'.execute launch' area' entry' input').runOn s').1 = .ok result)
      ∧ ∀ capacity, 0 < capacity → ∀ n c, Capture.Steps capacity n (Capture.start run) c →
        n ≤ (Capture.start run).work
          ∧ ((∃ c', Capture.Step capacity c c') ∨ c.Finished)
          ∧ (c.Finished → c.result = .ok result) := by
  refine ⟨run.result, execute_eq_ok.mpr ⟨run, s₁, hstarted, rfl, rfl⟩, run.captures_result, ?_, ?_⟩
  · intro i' launch' area' entry' input' s' s₁' run' hstarted' hbytes
    rw [execute_eq_ok.mpr ⟨run', s₁', hstarted', rfl, rfl⟩, ChildRun.result_eq_of_bytes_eq hbytes]
  · intro capacity hcapacity n c hsteps
    have hkeeps := (Capture.keeps_start run).steps hsteps
    have hwork := hsteps.work_le
    exact ⟨by omega, Capture.step_or_finished hcapacity c, hkeeps.result_of_finished⟩

/-! A driver that is killed in the middle: a character of its output comes in two writes with an
error message between them, and its last byte begins no character. -/

namespace KilledDriver

def run : ChildRun where
  writes := [(.stdout, [0xE2, 0x82]), (.stderr, utf8 "low"), (.stdout, [0xAC, 0xC3])]
  ending := .signal 9

def host : Host where
  system := "linux"
  tree := ⟨[(["a"], .dir)]⟩
  cwd := []
  serial := 0
  ports := []
  traffic := []
  log := []

def interpreter : Interpreter := ⟨"node", "/lib"⟩

def launch : Launcher := fun _ => return .ok run

def area : StagingArea := ⟨"/a", false⟩

end KilledDriver

theorem execute_captures_killedDriver :
    ∃ result, ((KilledDriver.interpreter.execute KilledDriver.launch KilledDriver.area "Test.js"
        "x").runOn KilledDriver.host).1 = .ok result
      ∧ Captures KilledDriver.run result ∧ result = ⟨"€\uFFFD", some "low"⟩ := by
  have hstarted : KilledDriver.interpreter.Started KilledDriver.launch KilledDriver.area "Test.js"
      "x" KilledDriver.host KilledDriver.run _ := ⟨_, _, _, rfl, rfl, rfl⟩
  obtain ⟨result, hrun, hcaptured, -⟩ := execute_captures hstarted
  refine ⟨result, congrArg Prod.fst hrun, hcaptured, ?_⟩
  have hresult : ((KilledDriver.interpreter.execute KilledDriver.launch KilledDriver.area "Test.js"
      "x").runOn KilledDriver.host).1 = .ok ⟨"€\uFFFD", some "low"⟩ := by decide +kernel
  rw [hrun] at hresult
  exact Except.ok.inj hresult

end Interpreter

end GrammarBench
