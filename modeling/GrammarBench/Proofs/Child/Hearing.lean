import GrammarBench.Child.Tool

/-!
# What is heard of a tool

The two channels of a tool are read in turns, and nothing is known of the order of the turns. Each
of them gives at most one line, so what is received is an interleaving of the lines of the two
channels, and every interleaving can be received (`interleaving_received`,
`Interleaving.exists_ready`). What the queue holds in the end depends on the lines received and on
nothing else: `listen` comes to a walk through them (`listen_eq_hear`).
-/

namespace GrammarBench

/-! ## Lines -/

/-- Some lines are those of some bytes: one after the other they are the bytes, none is empty, a
line feed stands only at the end of a line, and only the last line may have none. -/
structure IsLines (bytes : List UInt8) (lines : List (List UInt8)) : Prop where
  flatten : lines.flatten = bytes
  ne_nil : ∀ line ∈ lines, line ≠ []
  feed : ∀ line ∈ lines, 10 ∉ line.dropLast
  ended : ∀ line ∈ lines.dropLast, line.getLast? = some 10

theorem IsLines.cons {bytes : List UInt8} {lines : List (List UInt8)} (line : List UInt8)
    (hline : 10 ∉ line) (h : IsLines bytes lines) :
    IsLines (line ++ 10 :: bytes) ((line ++ [10]) :: lines) := by
  refine ⟨by simp [h.flatten], ?_, ?_, ?_⟩
  · intro l hl
    rcases List.mem_cons.mp hl with rfl | hl
    · simp
    · exact h.ne_nil l hl
  · intro l hl
    rcases List.mem_cons.mp hl with rfl | hl
    · simpa using hline
    · exact h.feed l hl
  · intro l hl
    cases lines with
    | nil => cases hl
    | cons next lines =>
        rcases List.mem_cons.mp hl with rfl | hl
        · simp
        · exact h.ended l hl

/-- Bytes come apart into their lines; `line` is what is read of the line that is going on. -/
theorem isLines_byteLines (line bytes : List UInt8) (hline : 10 ∉ line) :
    IsLines (line.reverse ++ bytes) (byteLines line bytes) := by
  induction bytes generalizing line with
  | nil =>
      cases line with
      | nil => exact ⟨rfl, by simp [byteLines], by simp [byteLines], by simp [byteLines]⟩
      | cons b line =>
          refine ⟨by simp [byteLines], by simp [byteLines], ?_, by simp [byteLines]⟩
          intro l hl
          obtain rfl : l = (b :: line).reverse := by simpa [byteLines] using hl
          intro hfeed
          exact hline (List.mem_reverse.mp (List.dropLast_subset _ hfeed))
  | cons b bytes ih =>
      by_cases hb : b = 10
      · -- the line ends here, and a new one begins
        have hrest := ih [] (by simp)
        have hlines := hrest.cons line.reverse (by simpa using hline)
        rw [hb, byteLines, if_pos rfl, List.reverse_cons]
        exact hlines
      · have hrest := ih (b :: line) (by simp [hline, Ne.symm hb])
        rw [byteLines, if_neg hb]
        simpa using hrest

/-- The lines of a child are those of what it wrote to the channel. -/
theorem ChildRun.isLines (run : ChildRun) (channel : Channel) :
    IsLines (run.bytes channel) (run.lines channel) :=
  isLines_byteLines [] (run.bytes channel) (by simp)

/-! ## Turns -/

/-- A list is made of two others, each of them whole and in its own order. -/
inductive Interleaving {α : Type} : List α → List α → List α → Prop where
  | nil : Interleaving [] [] []
  | left (x : α) {xs ys zs : List α} (h : Interleaving xs ys zs) :
      Interleaving (x :: xs) ys (x :: zs)
  | right (y : α) {xs ys zs : List α} (h : Interleaving xs ys zs) :
      Interleaving xs (y :: ys) (y :: zs)

theorem Interleaving.mem_iff {α : Type} {xs ys zs : List α} (h : Interleaving xs ys zs) {x : α} :
    x ∈ zs ↔ x ∈ xs ∨ x ∈ ys := by
  induction h with
  | nil => simp
  | left y h ih => simp [ih, or_assoc]
  | right y h ih => simp [ih, or_left_comm]

/-- The lines that some turns give of those that are to come on the two channels. -/
def received {α : Type} : List Channel → List α → List α → List α
  | [], _, _ => []
  | .stdout :: turns, [], err => received turns [] err
  | .stdout :: turns, line :: out, err => line :: received turns out err
  | .stderr :: turns, out, [] => received turns out []
  | .stderr :: turns, out, line :: err => line :: received turns out err

section Received

variable {α : Type} {turns : List Channel} {out err : List α}

@[simp] theorem received_nil_nil : received turns ([] : List α) [] = [] := by
  induction turns with
  | nil => rfl
  | cons channel turns ih => cases channel <;> exact ih

/-- With turns enough for both channels each line is received once, in the order of its channel. -/
theorem interleaving_received (hout : out.length ≤ turns.count .stdout)
    (herr : err.length ≤ turns.count .stderr) : Interleaving out err (received turns out err) := by
  -- on the turns: each of them uses up one that its channel is owed
  induction turns generalizing out err with
  | nil =>
      obtain rfl : out = [] := List.eq_nil_of_length_eq_zero (by simpa using hout)
      obtain rfl : err = [] := List.eq_nil_of_length_eq_zero (by simpa using herr)
      exact .nil
  | cons channel turns ih =>
      cases channel with
      | stdout =>
          rw [List.count_cons_of_ne (by decide)] at herr
          cases out with
          | nil => exact ih (Nat.zero_le _) herr
          | cons line out => exact .left line (ih (by simpa using hout) herr)
      | stderr =>
          rw [List.count_cons_of_ne (by decide)] at hout
          cases err with
          | nil => exact ih hout (Nat.zero_le _)
          | cons line err => exact .right line (ih hout (by simpa using herr))

/-- Every order of the lines comes about by some turns. -/
theorem Interleaving.exists_ready {lines : List α} (h : Interleaving out err lines) :
    ∃ ready, ∀ more, received (ready ++ more) out err = lines := by
  induction h with
  | nil => exact ⟨[], fun more => received_nil_nil⟩
  | left line h ih =>
      obtain ⟨ready, hready⟩ := ih
      exact ⟨.stdout :: ready, fun more => congrArg (line :: ·) (hready more)⟩
  | right line h ih =>
      obtain ⟨ready, hready⟩ := ih
      exact ⟨.stderr :: ready, fun more => congrArg (line :: ·) (hready more)⟩

end Received

namespace ChildRun

/-- The lines of a child in the order in which they are received. -/
def received (run : ChildRun) (ready : List Channel) : List (List UInt8) :=
  GrammarBench.received (run.turns ready) (run.lines .stdout) (run.lines .stderr)

/-- Whichever channel is found ready first, no line is lost, doubled or out of its order. -/
theorem interleaving_received (run : ChildRun) (ready : List Channel) :
    Interleaving (run.lines .stdout) (run.lines .stderr) (run.received ready) := by
  have hturns : ∀ channel, (run.lines channel).length ≤ (run.turns ready).count channel := by
    intro channel
    cases channel <;> simp [turns, List.count_append, List.count_replicate] <;> omega
  exact GrammarBench.interleaving_received (hturns .stdout) (hturns .stderr)

/-- Every order in which the channels can be found ready is one of the host. -/
theorem exists_ready {run : ChildRun} {lines : List (List UInt8)}
    (h : Interleaving (run.lines .stdout) (run.lines .stderr) lines) :
    ∃ ready, run.received ready = lines := by
  obtain ⟨ready, hready⟩ := h.exists_ready
  refine ⟨ready, ?_⟩
  unfold received turns
  rw [List.append_assoc, List.append_assoc]
  exact hready _

theorem mem_received {run : ChildRun} {ready : List Channel} {line : List UInt8} :
    line ∈ run.received ready ↔ ∃ channel, line ∈ run.lines channel := by
  rw [(run.interleaving_received ready).mem_iff]
  constructor
  · rintro (h | h)
    · exact ⟨.stdout, h⟩
    · exact ⟨.stderr, h⟩
  · rintro ⟨channel, h⟩
    cases channel with
    | stdout => exact .inl h
    | stderr => exact .inr h

end ChildRun

/-! ## Listening -/

namespace DiagnosticQueue

/-- The queue after some lines, up to one that is no text. -/
def hear (q : DiagnosticQueue) : List (List UInt8) → DiagnosticQueue × Option Failure
  | [] => (q, none)
  | line :: rest =>
    match lineText line with
    | .ok text => (q.append (Diagnostic.ofLine? text).toList).hear rest
    | .error failure => (q, some failure)

/-- Lines that are texts are all heard, and what follows them is heard after them. -/
theorem hear_append {lines : List (List UInt8)} {texts : List String}
    (h : lines.map lineText = texts.map .ok) (q : DiagnosticQueue) (more : List (List UInt8)) :
    q.hear (lines ++ more) = (q.append (texts.filterMap Diagnostic.ofLine?)).hear more := by
  induction lines generalizing texts q with
  | nil =>
      obtain rfl : texts = [] := by simpa using h.symm
      simp [append]
  | cons line lines ih =>
      cases texts with
      | nil => cases h
      | cons text texts =>
          obtain ⟨htext, hrest⟩ := List.cons_eq_cons.mp h
          rw [List.cons_append, hear, htext]
          dsimp only
          rw [ih hrest]
          cases hd : Diagnostic.ofLine? text <;> simp [append, hd]

/-- Lines are heard to the end exactly when all of them are texts. -/
theorem hear_cases (lines : List (List UInt8)) :
    (∃ texts : List String, lines.map lineText = texts.map .ok)
      ∨ ∃ front texts line failure back, lines = front ++ line :: back
        ∧ front.map lineText = (texts : List String).map .ok ∧ lineText line = .error failure := by
  induction lines with
  | nil => exact .inl ⟨[], rfl⟩
  | cons line lines ih =>
      cases hline : lineText line with
      | error failure => exact .inr ⟨[], [], line, failure, lines, rfl, rfl, hline⟩
      | ok text =>
          rcases ih with ⟨texts, htexts⟩ | ⟨front, texts, bad, failure, back, rfl, hfront, hbad⟩
          · exact .inl ⟨text :: texts, by simp [hline, htexts]⟩
          · exact .inr ⟨line :: front, text :: texts, bad, failure, back, rfl,
              by simp [hline, hfront], hbad⟩

end DiagnosticQueue

namespace Hearing

/-- **A step of a hearing**: the channel of the turn gives its next line, if it has one, and the
other channel stays as it is. -/
theorem listen_cons (h : Hearing) (channel : Channel) (turns : List Channel) :
    h.listen (channel :: turns) =
      match h.pending channel with
      | none => h.listen turns
      | some [] => (h.withPending channel none).listen turns
      | some (line :: rest) =>
        match lineText line with
        | .ok text =>
          Hearing.listen { h.withPending channel (some rest) with
            queue := h.queue.append (Diagnostic.ofLine? text).toList } turns
        | .error failure => (h, some failure) := by
  rw [listen, turn]
  rcases h.pending channel with _ | _ | ⟨line, rest⟩
  · rfl
  · rfl
  · dsimp only
    cases lineText line <;> rfl

def due (h : Hearing) (channel : Channel) : List (List UInt8) :=
  (h.pending channel).getD []

/-- **What is heard is what is received.** By induction on the turns; a channel that has ended is
one with no line to come. -/
theorem listen_eq_hear (h : Hearing) (turns : List Channel) :
    ((h.listen turns).1.queue, (h.listen turns).2) =
      h.queue.hear (received turns (h.due .stdout) (h.due .stderr)) := by
  induction turns generalizing h with
  | nil => rfl
  | cons channel turns ih =>
      obtain ⟨out, err, queue⟩ := h
      rw [listen_cons]
      cases channel with
      | stdout =>
          rcases out with _ | _ | ⟨line, out⟩
          · exact ih _
          · exact ih _
          · dsimp only [pending, due, Option.getD_some, received, DiagnosticQueue.hear]
            cases lineText line with
            | ok text => exact ih _
            | error failure => rfl
      | stderr =>
          rcases err with _ | _ | ⟨line, err⟩
          · exact ih _
          · exact ih _
          · dsimp only [pending, due, Option.getD_some, received, DiagnosticQueue.hear]
            cases lineText line with
            | ok text => exact ih _
            | error failure => rfl

/-- A tool is heard to the end of what is received of it. -/
theorem listen_start (run : ChildRun) (queue : DiagnosticQueue) (ready : List Channel) :
    (((start run queue).listen (run.turns ready)).1.queue,
      ((start run queue).listen (run.turns ready)).2) = queue.hear (run.received ready) :=
  listen_eq_hear (start run queue) (run.turns ready)

end Hearing

end GrammarBench
