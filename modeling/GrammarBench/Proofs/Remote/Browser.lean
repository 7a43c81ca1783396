import GrammarBench.Proofs.Remote.Visit

/-!
# Runs of the browser

A run of the browser opens a port, makes one visit while the page is served there, and gives the port
up (`ends_execute`). Where the platform is the wrong one or there is no port, it does nothing.
-/

namespace GrammarBench

/-! ## The page server -/

namespace Host

def opening (h : Host) (port : Nat) : Host :=
  { h with ports := port :: h.ports, traffic := h.traffic ++ [.opened port] }

def closing (h : Host) (port : Nat) : Host :=
  { h with ports := h.ports.erase port, traffic := h.traffic ++ [.closed port] }

/-- The host after some things were asked while a port was open. -/
def serving (h : Host) (port : Nat) (asked : List Asked) : Host :=
  { h with
    traffic := h.traffic ++ .opened port :: asked.map (fun a => .asked a.1 a.2) ++ [.closed port] }

variable (h : Host) (port : Nat)

@[simp] theorem closing_logging (events : List LogEvent) :
    (h.logging events).closing port = (h.closing port).logging events := rfl

@[simp] theorem requests_opening : (h.opening port).requests = h.requests := by
  simp [requests, opening, Traffic.request?]

@[simp] theorem closing_asking_opening (asked : List Asked) :
    ((h.opening port).asking asked).closing port = h.serving port asked := by
  simp [opening, asking, closing, serving]

end Host

namespace PageServer

theorem ends_start {port chosen : Nat} {h : Host} (site : Site)
    (hport : bind h port = .ok chosen) :
    Ends (start port site) h (.ok ⟨chosen, site⟩) (h.opening chosen) := by
  unfold start
  refine .after (runOn_get h) ?_
  rw [hport]
  refine .after (runOn_set h (h.opening chosen)) ?_
  exact (Ends.record .info _ [] _).bind fun events => (Ends.of_eq (runOn_pure _ _)).of_logging

theorem runOn_start_of_error {port : Nat} {fault : IoFault} {h : Host} (site : Site)
    (hport : bind h port = .error fault) :
    (start port site).runOn h =
      (.error (.server ("failed to bind " ++ address port ++ ": " ++ fault.message)), h) := by
  rw [start, runOn_bind, runOn_get]
  dsimp only
  rw [hport]
  rfl

/-- What comes of stopping a server, by the way it ends. -/
def stopped : ServerEnd → Except Failure Unit
  | .stopped => .ok ()
  | .failed text => .error (.server ("server failed: " ++ text))
  | .broken text => .error (.server ("server task failed: " ++ text))

/-- However a server ends, its port is given up. -/
theorem ends_stop (s : PageServer) (h : Host) :
    Ends s.stop h (stopped h.serverEnd) (h.closing s.port) := by
  have hrelease : ∀ g : Host, s.release.runOn g = (.ok (), g.closing s.port) := fun _ => rfl
  unfold stop
  refine (Ends.record .info _ [] h).bind fun events => ?_
  refine .after (hrelease _) (.after (runOn_get _) ?_)
  have hend : ((h.logging events).closing s.port).serverEnd = h.serverEnd := rfl
  rw [hend, Host.closing_logging]
  rcases h.serverEnd with _ | text | text
  · exact (Ends.of_eq (runOn_pure _ _)).of_logging
  · exact (Ends.of_eq (runOn_throw _ _)).of_logging
  · exact (Ends.of_eq (runOn_throw _ _)).of_logging

end PageServer

namespace Browser

/-- The browser may be run on a system. -/
def RunsOn (b : Browser) (system : String) : Prop :=
  ∀ required, b.config.requiredOs = some required → required = system

theorem checkPlatform_eq_ok {b : Browser} {system : String} :
    b.checkPlatform system = .ok () ↔ b.RunsOn system := by
  unfold checkPlatform RunsOn
  cases b.config.requiredOs <;> simp

/-- The address under which the page of a driver is served on a port. -/
def pageUrl (b : Browser) (area : StagingArea) (entry : Path) (port : Nat) : String :=
  (PageServer.mk port ⟨area.path, b.runtime⟩).urlFor (pageOf area entry)

section Execute

variable {b : Browser} {h : Host} (endpoint : Endpoint) (area : StagingArea) (entry : Path)
  (input : String)

theorem runOn_execute_of_platform (hplatform : ¬b.RunsOn h.system) :
    ∃ failure, (b.execute endpoint area entry input).runOn h = (.error failure, h) := by
  rcases hcheck : b.checkPlatform h.system with failure | _
  · refine ⟨failure, ?_⟩
    unfold execute
    rw [runOn_bind, runOn_get]
    dsimp only
    rw [runOn_bind, runOn_liftM_except, hcheck]
  · exact absurd (checkPlatform_eq_ok.mp hcheck) hplatform

theorem runOn_execute_of_port {fault : IoFault} (hplatform : b.RunsOn h.system)
    (hport : PageServer.bind h b.config.port = .error fault) :
    ∃ failure, (b.execute endpoint area entry input).runOn h = (.error failure, h) := by
  refine ⟨.server ("failed to bind " ++ PageServer.address b.config.port ++ ": " ++ fault.message),
    ?_⟩
  unfold execute
  rw [runOn_bind, runOn_get]
  dsimp only
  rw [runOn_bind, runOn_liftM_except, checkPlatform_eq_ok.mpr hplatform]
  dsimp only
  rw [runOn_bind_of_error (PageServer.runOn_start_of_error _ hport)]

/-- **With a port, the page is served while it is visited**, and what the visit came to is what the
run comes to, however the server ends. -/
theorem ends_execute {port : Nat} {run : VisitRun} (hplatform : b.RunsOn h.system)
    (hport : PageServer.bind h b.config.port = .ok port)
    (hrun : (b.visit (b.pageUrl area entry port) input).run endpoint h.requests = run) :
    Ends (b.execute endpoint area entry input) h (run.outcome.map Findings.result)
      (h.serving port (run.tried ++ run.afterwards)) := by
  have hcheck : (liftM (b.checkPlatform h.system) : HostAction Unit).runOn h = (.ok (), h) := by
    rw [runOn_liftM_except, checkPlatform_eq_ok.mpr hplatform]
  unfold execute
  refine .after (runOn_get h) (.after hcheck ?_)
  refine (PageServer.ends_start ⟨area.path, b.runtime⟩ hport).bind fun started => ?_
  have hdrive : Ends (b.drive endpoint (b.pageUrl area entry port) input)
      ((h.opening port).logging started) (run.outcome.map Findings.result)
      (((h.opening port).logging started).asking (run.tried ++ run.afterwards)) :=
    ends_drive (by rw [Host.requests_logging, Host.requests_opening, hrun])
  rw [Host.asking_logging] at hdrive
  refine hdrive.of_logging.outcomeOf.bind fun driven => ?_
  rw [← Host.closing_asking_opening]
  generalize run.outcome.map Findings.result = outcome
  generalize (h.opening port).asking (run.tried ++ run.afterwards) = served
  have hstop : ∀ events, Ends (PageServer.mk port ⟨area.path, b.runtime⟩).stop
      (served.logging events) (PageServer.stopped served.serverEnd) (served.closing port) :=
    fun events => (PageServer.ends_stop _ (served.logging events)).of_logging
  -- the server is stopped on both paths; a failure is logged before that
  rcases outcome with failure | result
  · refine (Ends.record .error _ [] _).bind fun events => ?_
    rw [Host.logging_logging]
    refine Ends.giveUpBefore (hstop _) fun more => ?_
    exact (Ends.record .info _ _ _).bind fun last => (Ends.ofExcept _ _).of_logging.of_logging
  · refine Ends.giveUpBefore (hstop _) fun more => ?_
    exact (Ends.record .info _ _ _).bind fun last => (Ends.ofExcept _ _).of_logging.of_logging

end Execute

end Browser

end GrammarBench
