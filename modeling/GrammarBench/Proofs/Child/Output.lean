import GrammarBench.Child.Basic
import GrammarBench.Proofs.Host
import GrammarBench.Proofs.Text.Utf8

/-!
# What a child wrote

A child whose channels are connected to the bench can always be waited for, and its result holds the
lossy readings of its two channels. How it ended is no part of it.
-/

namespace GrammarBench

namespace ExecutionResult

@[simp] theorem ofChannels_stdout (stdout stderr : String) :
    (ofChannels stdout stderr).stdout = stdout := rfl

/-- There is error output exactly when some was written. -/
theorem ofChannels_stderr_eq_none {stdout stderr : String} :
    (ofChannels stdout stderr).stderr = none ↔ stderr = "" := by
  simp [ofChannels]

end ExecutionResult

/-- Bytes can be drained to their end, whatever the chunks are in which they come. -/
theorem drainFrom_bytes (contents : List (List UInt8)) (seen : List UInt8) :
    drainFrom seen (contents.map .bytes) = .ok (Text.decodeLossy (seen ++ contents.flatten)) := by
  induction contents generalizing seen with
  | nil => simp [drainFrom]
  | cons content rest ih => simp [drainFrom, ih]

namespace ChildRun

theorem drain_chunks (run : ChildRun) (channel : Channel) :
    drain (run.chunks channel) = .ok (Text.decodeLossy (run.bytes channel)) := by
  have hchunks : run.chunks channel
      = ((run.writes.filter (·.1 == channel)).map (·.2)).map .bytes := by
    rw [List.map_map]
    rfl
  rw [drain, hchunks, drainFrom_bytes]
  rfl

/-- What a driver is taken to have written. -/
def result (run : ChildRun) : ExecutionResult :=
  .ofChannels (Text.decodeLossy (run.bytes .stdout)) (Text.decodeLossy (run.bytes .stderr))

@[simp] theorem result_stdout (run : ChildRun) :
    run.result.stdout = Text.decodeLossy (run.bytes .stdout) := rfl

theorem result_stderr_eq_none {run : ChildRun} :
    run.result.stderr = none ↔ run.bytes .stderr = [] := by
  rw [result, ExecutionResult.ofChannels_stderr_eq_none, Text.decodeLossy_eq_empty]

def outputEvents (run : ChildRun) : List LogEvent :=
  let stderr := Text.decodeLossy (run.bytes .stderr)
  if stderr.isEmpty then [] else [⟨.warn, "exec stderr: " ++ Text.trimEnd stderr, []⟩]

theorem runOn_wait (run : ChildRun) (s : Host) :
    (Captured.wait ⟨run⟩).runOn s
      = (.ok (run.ending, run.result), s.logging run.outputEvents) := by
  unfold Captured.wait
  rw [drain_chunks, drain_chunks]
  rw [runOn_bind, runOn_liftM_except]
  dsimp only
  rw [runOn_bind, runOn_liftM_except]
  dsimp only
  unfold Host.resultOfChannels outputEvents
  dsimp only
  cases (Text.decodeLossy (run.bytes .stderr)).isEmpty with
  | true =>
      rw [if_pos rfl, Host.logging_nil]
      rfl
  | false => rfl

end ChildRun

end GrammarBench
