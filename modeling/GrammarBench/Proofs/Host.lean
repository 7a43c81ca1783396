import GrammarBench.Proofs.FileTree.Entry

/-!
# Actions of the host as functions

What logging, making directories and writing a text do to a host. Each of them changes one part of
it: the log, or the tree of files.
-/

namespace GrammarBench

def Host.logging (s : Host) (events : List LogEvent) : Host :=
  { s with log := s.log ++ events }

namespace Host

section Logging

variable (s : Host) (message : String)

@[simp] theorem logging_nil : s.logging [] = s := by simp [logging]

@[simp] theorem logging_logging (es fs : List LogEvent) :
    (s.logging es).logging fs = s.logging (es ++ fs) := by simp [logging]

@[simp] theorem logging_tree (es : List LogEvent) : (s.logging es).tree = s.tree := rfl

@[simp] theorem logging_cwd (es : List LogEvent) : (s.logging es).cwd = s.cwd := rfl

@[simp] theorem runOn_logError :
    (logError message).runOn s = (.ok (), s.logging [⟨.error, message, []⟩]) := rfl

@[simp] theorem runOn_logWarn :
    (logWarn message).runOn s = (.ok (), s.logging [⟨.warn, message, []⟩]) := rfl

@[simp] theorem runOn_logInfo :
    (logInfo message).runOn s = (.ok (), s.logging [⟨.info, message, []⟩]) := rfl

end Logging

/-- How an action ends is a value for the next one, so the next one always runs. -/
theorem runOn_outcomeOf {α : Type} (action : HostAction α) (s : Host) :
    (outcomeOf action).runOn s = (.ok (action.runOn s).1, (action.runOn s).2) := rfl

variable {s s' : Host} {p : Path}

theorem runOn_makeDirs (p : Path) (s : Host) :
    (makeDirs p).runOn s =
      ((s.tree.makeDirs s.cwd p).1.mapError .io,
        { s with tree := (s.tree.makeDirs s.cwd p).2 }) := by
  rw [makeDirs, runOn_bind, runOn_get]
  dsimp only
  rw [runOn_bind, runOn_set]
  dsimp only
  split <;> simp [*, Except.mapError]

theorem runOn_writeText (p : Path) (text : String) (s : Host) :
    (writeText p text).runOn s =
      match s.tree.write s.cwd p (Text.utf8 text) with
      | .ok tree => (.ok (), { s with tree })
      | .error fault => (.error (.io fault), s) := by
  rw [writeText, runOn_bind, runOn_get]
  dsimp only
  cases s.tree.write s.cwd p (Text.utf8 text) <;> rfl

/-- Making directories keeps every node of the tree. -/
theorem node?_of_makeDirs {r : Except Failure Unit} (h : (makeDirs p).runOn s = (r, s'))
    {loc : Location} {node : Node} (hnode : s.tree.node? loc = some node) :
    s'.tree.node? loc = some node := by
  rw [runOn_makeDirs] at h
  cases h
  exact FileTree.node?_makeDirs hnode

theorem cwd_of_makeDirs {r : Except Failure Unit} (h : (makeDirs p).runOn s = (r, s')) :
    s'.cwd = s.cwd := by
  rw [runOn_makeDirs] at h
  cases h
  rfl

theorem write_of_writeText {text : String} (h : (writeText p text).runOn s = (.ok (), s')) :
    s.tree.write s.cwd p (Text.utf8 text) = .ok s'.tree ∧ s'.cwd = s.cwd := by
  rw [runOn_writeText] at h
  split at h
  · rename_i tree htree
    cases h
    exact ⟨htree, rfl⟩
  · cases h

theorem makeDirs_eq_error {f : Failure} (h : (makeDirs p).runOn s = (.error f, s')) :
    ∃ fault, f = .io fault := by
  rw [runOn_makeDirs] at h
  rcases hmade : (s.tree.makeDirs s.cwd p).1 with fault | ⟨⟩
  · rw [hmade] at h
    cases h
    exact ⟨fault, rfl⟩
  · rw [hmade] at h
    cases h

theorem writeText_eq_error {text : String} {f : Failure}
    (h : (writeText p text).runOn s = (.error f, s')) : ∃ fault, f = .io fault := by
  rw [runOn_writeText] at h
  split at h
  · cases h
  · rename_i fault hfault
    cases h
    exact ⟨fault, rfl⟩

theorem holds_of_writeText {text : String} (h : (writeText p text).runOn s = (.ok (), s')) :
    s'.tree.Holds s'.cwd p (Text.utf8 text) := by
  obtain ⟨hwrite, hcwd⟩ := write_of_writeText h
  rw [hcwd]
  exact FileTree.holds_of_write hwrite

end Host

/-! ## Leaving out the log -/

/-- An action ends in some way and leaves a host, of which it is not told what was logged. -/
def Ends {α : Type} (action : HostAction α) (s : Host) (r : Except Failure α) (s' : Host) : Prop :=
  ∃ events, action.runOn s = (r, s'.logging events)

namespace Ends

variable {α β : Type} {action : HostAction α} {next : α → HostAction β} {s s₁ s₂ : Host}
  {r : Except Failure α} {r' : Except Failure β} {x : α} {f : Failure}

theorem of_eq (h : action.runOn s = (r, s₁)) : Ends action s r s₁ :=
  ⟨[], by rw [h, Host.logging_nil]⟩

theorem of_logging {events : List LogEvent} (h : Ends action s r (s₁.logging events)) :
    Ends action s r s₁ := by
  obtain ⟨more, hmore⟩ := h
  exact ⟨events ++ more, by rw [hmore, Host.logging_logging]⟩

theorem bind (h : Ends action s (.ok x) s₁)
    (hnext : ∀ events, Ends (next x) (s₁.logging events) r' s₂) :
    Ends (action >>= next) s r' s₂ := by
  obtain ⟨events, haction⟩ := h
  obtain ⟨more, hmore⟩ := hnext events
  exact ⟨more, by rw [runOn_bind_of_ok haction, hmore]⟩

theorem after (h : action.runOn s = (.ok x, s₁)) (hnext : Ends (next x) s₁ r' s₂) :
    Ends (action >>= next) s r' s₂ := by
  obtain ⟨events, hevents⟩ := hnext
  exact ⟨events, by rw [runOn_bind_of_ok h, hevents]⟩

theorem bind_of_error (h : Ends action s (.error f) s₁) :
    Ends (action >>= next) s (.error f) s₁ := by
  obtain ⟨events, haction⟩ := h
  exact ⟨events, runOn_bind_of_error haction⟩

theorem outcomeOf (h : Ends action s r s₁) : Ends (Host.outcomeOf action) s (.ok r) s₁ := by
  obtain ⟨events, haction⟩ := h
  exact ⟨events, by rw [Host.runOn_outcomeOf, haction]⟩

theorem record (level : LogLevel) (message : String) (fields : List (String × String)) (s : Host) :
    Ends (Host.record level message fields) s (.ok ()) s :=
  ⟨[⟨level, message, fields⟩], rfl⟩

theorem ofExcept (r : Except Failure α) (s : Host) : Ends (MonadExcept.ofExcept r) s r s :=
  of_eq (runOn_ofExcept r s)

end Ends

theorem Host.ends_resultOfChannels (stdout stderr : String) (s : Host) :
    Ends (Host.resultOfChannels stdout stderr) s (.ok (.ofChannels stdout stderr)) s := by
  unfold Host.resultOfChannels
  cases stderr.isEmpty with
  | true => exact .of_eq rfl
  | false => exact (Ends.record .warn _ [] s).bind fun events => Ends.of_logging (.of_eq rfl)

end GrammarBench
