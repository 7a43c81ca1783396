import GrammarBench.Proofs.Remote.Browser

/-!
# The contracts of a run of the browser

What a run does on the network (`execute_traffic`) and what it comes to (`execute_result`), for every
behaviour of the endpoint. Whatever goes wrong, a session that was opened is given up and so is the
port, and neither of these ends changes what the run comes to.
-/

namespace GrammarBench.Browser

/-! ## On the network -/

/-- What a run of the browser does on the network. -/
structure TrafficContract (b : Browser) (endpoint : Endpoint) (area : StagingArea) (entry : Path)
    (input : String) (h h' : Host) : Prop where
  /-- Nothing, on the wrong system or without a port. -/
  refused : (¬b.RunsOn h.system ∨ ∃ fault, PageServer.bind h b.config.port = .error fault) → h' = h
  /-- Else a visit takes its course, between the opening of a port and its closing. -/
  served : b.RunsOn h.system → ∀ port, PageServer.bind h b.config.port = .ok port →
    ∃ tried afterwards failed,
      h'.traffic = h.traffic ++ .opened port :: (tried ++ afterwards).map (fun a => .asked a.1 a.2)
        ++ [.closed port]
      ∧ (b.visit (b.pageUrl area entry port) input).Course tried afterwards failed
      ∧ Answered endpoint h.requests (tried ++ afterwards)
  /-- No port stays open, and none is closed that was open before. -/
  ports : h'.ports = h.ports

/-- **The contract of a run on the network.** -/
theorem execute_traffic (b : Browser) (endpoint : Endpoint) (area : StagingArea) (entry : Path)
    (input : String) (h : Host) :
    b.TrafficContract endpoint area entry input h
      ((b.execute endpoint area entry input).runOn h).2 := by
  by_cases hplatform : b.RunsOn h.system
  · rcases hport : PageServer.bind h b.config.port with fault | port
    · obtain ⟨failure, hrun⟩ := runOn_execute_of_port endpoint area entry input hplatform hport
      rw [hrun]
      refine ⟨fun _ => rfl, ?_, rfl⟩
      intro _ port hbound
      rw [hport] at hbound
      cases hbound
    · generalize hvisit : (b.visit (b.pageUrl area entry port) input).run endpoint h.requests = run
      obtain ⟨events, hrun⟩ := ends_execute endpoint area entry input hplatform hport hvisit
      rw [hrun]
      refine ⟨?_, ?_, rfl⟩
      · rintro (hno | ⟨fault, hfault⟩)
        · exact absurd hplatform hno
        · rw [hport] at hfault
          cases hfault
      · intro _ port' hbound
        rw [hport] at hbound
        cases hbound
        obtain ⟨failed, hcourse, -⟩ := Visit.course_of_run hvisit
        exact ⟨run.tried, run.afterwards, failed, rfl, hcourse, Visit.answered_of_run hvisit⟩
  · obtain ⟨failure, hrun⟩ := runOn_execute_of_platform endpoint area entry input hplatform
    rw [hrun]
    exact ⟨fun _ => rfl, fun hruns => absurd hruns hplatform, rfl⟩

/-! ## The result -/

/-- What a run of the browser comes to, told by the commands that were sent on its visit. -/
structure ResultContract (endpoint : Endpoint) (h h' : Host) (port : Nat) (v : Visit) (id : String)
    (refs : String → String) (tried afterwards : List Asked) (failed : Option RemoteCommand)
    (r : Except Failure ExecutionResult) : Prop where
  traffic : h'.traffic = h.traffic
    ++ .opened port :: (tried ++ afterwards).map (fun a => .asked a.1 a.2) ++ [.closed port]
  answered : Answered endpoint h.requests tried
  given_up : ∀ a ∈ afterwards, a.1.method = .delete
  conversation : Conversation (v.commands id refs) tried failed
  /-- There is a result exactly when every command was sent and succeeded. -/
  ok_iff : (∃ result, r = .ok result) ↔ tried.length = (v.commands id refs).length
    ∧ ∀ pair ∈ (v.commands id refs).zip tried, pair.1.Succeeds pair.2.2
  /-- The result has the texts of the two areas. -/
  result : ∀ result, r = .ok result → ∃ output errors a a',
    (.read "output", a) ∈ v.steps.zip tried.tail ∧ a.2.Gives output
    ∧ (.read "errors", a') ∈ v.steps.zip tried.tail ∧ a'.2.Gives errors
    ∧ result = .ofChannels (areaText output) (areaText errors)
  /-- Without a result the failure is that of the first command that fails. -/
  failure : ∀ failure, r = .error failure → ∃ c text, failed = some c ∧ failure = .remote c.name text

/-- **The contract of the result of a run.** -/
theorem execute_result (b : Browser) (endpoint : Endpoint) (area : StagingArea) (entry : Path)
    (input : String) {h : Host} {port : Nat} (hplatform : b.RunsOn h.system)
    (hport : PageServer.bind h b.config.port = .ok port) :
    (∃ id refs tried afterwards failed,
      ResultContract endpoint h ((b.execute endpoint area entry input).runOn h).2 port
        (b.visit (b.pageUrl area entry port) input) id refs tried afterwards failed
        ((b.execute endpoint area entry input).runOn h).1)
      ∧ ∀ endpoint' serverEnd, SameButForDelete endpoint endpoint' →
        ((b.execute endpoint' area entry input).runOn { h with serverEnd }).1 =
          ((b.execute endpoint area entry input).runOn h).1 := by
  generalize hv : b.visit (b.pageUrl area entry port) input = v
  generalize hvisit : v.run endpoint h.requests = run
  have hvisit' : (b.visit (b.pageUrl area entry port) input).run endpoint h.requests = run := by
    rw [hv, hvisit]
  obtain ⟨events, hrun⟩ := ends_execute endpoint area entry input hplatform hport hvisit'
  obtain ⟨failed, hcourse, hend⟩ := Visit.course_of_run hvisit
  obtain ⟨id, refs, hconversation⟩ := hcourse.conversation
  have hsteps : v.steps = pageSteps v.url v.input := rfl
  refine ⟨⟨id, refs, run.tried, run.afterwards, failed, ?_⟩, ?_⟩
  · rw [hrun]
    refine
      { traffic := rfl
        answered := (answered_append.mp (Visit.answered_of_run hvisit)).1
        given_up := hcourse.method_of_afterwards
        conversation := hconversation
        ok_iff := ?_
        result := ?_
        failure := ?_ }
    · rw [← hconversation.failed_eq_none]
      rcases houtcome : run.outcome with failure | found
      · rw [houtcome] at hend
        obtain ⟨c, text, hfailed, -⟩ := hend
        simp [Except.map, hfailed]
      · rw [houtcome] at hend
        simp [Except.map, hend.1]
    · intro result hresult
      rcases houtcome : run.outcome with failure | found
      · rw [houtcome] at hresult
        cases hresult
      · rw [houtcome] at hresult hend
        cases hresult
        obtain ⟨a, output, ha, houtput, htext⟩ := hend.2 "output" (by simp [hsteps, pageSteps])
        obtain ⟨a', errors, ha', herrors, htext'⟩ := hend.2 "errors" (by simp [hsteps, pageSteps])
        exact ⟨output, errors, a, a', ha, houtput, ha', herrors,
          by rw [Findings.result, htext, htext']⟩
    · intro failure hfailure
      rcases houtcome : run.outcome with f | found
      · rw [houtcome] at hfailure hend
        cases hfailure
        exact hend
      · rw [houtcome] at hfailure
        cases hfailure
  · -- the other run makes the same visit, since no command on it is the one that differs
    intro endpoint' serverEnd hsame
    obtain ⟨events', hrun'⟩ := ends_execute (h := { h with serverEnd }) endpoint' area entry input
      hplatform hport rfl
    have hrequests : Host.requests { h with serverEnd } = h.requests := rfl
    rw [hrun, hrun', hv, hrequests]
    dsimp only
    rw [Visit.outcome_run_of_same hsame, hvisit]

/-! A small visit: the page prints a letter, and then neither the session nor the server can be given
up without a fault. -/

namespace SmallVisit

def browser : Browser where
  config := { port := 80, remoteUrl := "http://h:1/", browserName := "b", requiredOs := none }
  runtime := "/lib"

def area : StagingArea := ⟨"/s", false⟩

def host : Host where
  system := "linux"
  tree := ⟨[]⟩
  cwd := []
  serial := 0
  ports := []
  serverEnd := .failed "gone"
  traffic := []
  log := []

/-- The eighth command reads the errors, the tenth one the output. -/
def endpoint : Endpoint := fun requests =>
  match requests.length with
  | 8 => .response 200 (Text.utf8 "\x7b\x7d")
  | 10 => .response 200 (Text.utf8 "\x7b\"value\":\"A\"\x7d")
  | 11 => .lost
  | _ =>
    .response 200 (Text.utf8
      ("\x7b\"value\":\x7b\"sessionId\":\"s\",\"" ++ elementKey ++ "\":\"e\"\x7d\x7d"))

end SmallVisit

theorem execute_result_smallVisit :
    (∃ id refs tried afterwards failed,
      ResultContract SmallVisit.endpoint SmallVisit.host
        ((SmallVisit.browser.execute SmallVisit.endpoint SmallVisit.area "/s/p.html" "x").runOn
          SmallVisit.host).2 80
        (SmallVisit.browser.visit (SmallVisit.browser.pageUrl SmallVisit.area "/s/p.html" 80) "x")
        id refs tried afterwards failed
        ((SmallVisit.browser.execute SmallVisit.endpoint SmallVisit.area "/s/p.html" "x").runOn
          SmallVisit.host).1)
      ∧ ((SmallVisit.browser.execute SmallVisit.endpoint SmallVisit.area "/s/p.html" "x").runOn
          SmallVisit.host).1 = .ok ⟨"A", none⟩ := by
  have hplatform : SmallVisit.browser.RunsOn SmallVisit.host.system := by
    intro required hrequired
    cases hrequired
  have hport : PageServer.bind SmallVisit.host SmallVisit.browser.config.port = .ok 80 := rfl
  exact ⟨(execute_result SmallVisit.browser SmallVisit.endpoint SmallVisit.area "/s/p.html" "x"
    hplatform hport).1, by decide +kernel⟩

end GrammarBench.Browser
