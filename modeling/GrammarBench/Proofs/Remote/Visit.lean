import GrammarBench.Proofs.Remote.Page

/-!
# Visits

A visit opens a session, works a page in it, and gives the session up. `Visit.run` is the visit as a
function of the endpoint, and `Visit.Course` tells what is asked on it (`course_of_run`). The program
makes that visit (`ends_drive`), the last part of it however the page went (`ends_inSession`).
-/

namespace GrammarBench

/-- What a browser is visited for: the address of the endpoint without slashes at its end, the name of
the browser, the address of the page, and the input. -/
structure Visit where
  base : String
  browserName : String
  url : String
  input : String

def deleteSession (session : String) : Request :=
  ⟨.delete, session, none⟩

/-- The course of a visit: what was asked up to the end of the work on the page, what was asked after
that, and what was found or which failure came of it. -/
structure VisitRun where
  tried : List Asked
  afterwards : List Asked
  outcome : Except Failure Findings

/-- The result of a visit that went well. -/
def Findings.result (f : Findings) : ExecutionResult :=
  .ofChannels (f.texts "output") (f.texts "errors")

namespace Visit

def sessionAt (v : Visit) (id : String) : String :=
  v.base ++ "/session/" ++ id

/-- The command that opens the session. -/
def openSession (v : Visit) : RemoteCommand :=
  ⟨"new session", ⟨.post, v.base ++ "/session", some (Session.capabilities v.browserName)⟩,
    some ("sessionId", "no sessionId in reply: ")⟩

def steps (v : Visit) : List PageStep :=
  pageSteps v.url v.input

/-- The commands of a visit, for the id of the session and the elements that were given back. -/
def commands (v : Visit) (id : String) (refs : String → String) : List RemoteCommand :=
  v.openSession :: v.steps.map (·.command (v.sessionAt id) refs)

/-- The visit of an endpoint after some requests. -/
def run (v : Visit) (endpoint : Endpoint) (history : List Request) : VisitRun :=
  let c := v.openSession
  let reply := Remote.answer endpoint history c.request
  match c.read reply with
  | .error failure => ⟨[(c.request, reply)], [], .error failure⟩
  | .ok value =>
    let session := v.sessionAt (textAt "sessionId" value)
    let page := talk endpoint session (history ++ [c.request]) .nothing v.steps
    let before := history ++ c.request :: page.1.map Prod.fst
    ⟨(c.request, reply) :: page.1,
      [(deleteSession session, Remote.answer endpoint before (deleteSession session))], page.2⟩

section Run

variable {v : Visit} {endpoint : Endpoint} {history : List Request} {reply : Reply}
  (hreply : Remote.answer endpoint history v.openSession.request = reply)

include hreply

theorem run_of_error {failure : Failure}
    (h : v.openSession.read reply = .error failure) :
    v.run endpoint history =
      ⟨[(v.openSession.request, reply)], [], .error failure⟩ := by
  simp only [run, hreply, h]

theorem run_of_ok {value : Json} {asked : List Asked} {outcome : Except Failure Findings}
    (h : v.openSession.read reply = .ok value)
    (hpage : talk endpoint (v.sessionAt (textAt "sessionId" value))
      (history ++ [v.openSession.request]) .nothing v.steps = (asked, outcome)) :
    v.run endpoint history =
      ⟨(v.openSession.request, reply) :: asked,
        [(deleteSession (v.sessionAt (textAt "sessionId" value)),
          Remote.answer endpoint
            (history ++ v.openSession.request :: asked.map Prod.fst)
            (deleteSession (v.sessionAt (textAt "sessionId" value))))],
        outcome⟩ := by
  simp only [run, hreply, h, hpage]

end Run

/-- What is asked on a visit. Where no session is opened, nothing is asked after that. Where one is
opened, the page is worked in it with the elements that were given back, up to the first command that
fails, and after that the session is given up, whatever comes of it. -/
inductive Course (v : Visit) : List Asked → List Asked → Option RemoteCommand → Prop where
  | unopened {reply : Reply} (h : ¬v.openSession.Succeeds reply) :
      Course v [(v.openSession.request, reply)] [] (some v.openSession)
  | opened {reply : Reply} {value : Json} {id : String} {refs : String → String}
      {page : List Asked} {failed : Option RemoteCommand} (last : Reply)
      (hgives : reply.Gives value) (hid : value.member? "sessionId" = some (.str id))
      (hpage : Conversation (v.steps.map (·.command (v.sessionAt id) refs)) page failed)
      (hrefs : GivenBack refs v.steps page) :
      Course v ((v.openSession.request, reply) :: page) [(deleteSession (v.sessionAt id), last)]
        failed

variable {v : Visit}

theorem openSession_succeeds {reply : Reply} {value : Json} {id : String}
    (hgives : reply.Gives value) (hid : value.member? "sessionId" = some (.str id)) :
    v.openSession.Succeeds reply := by
  refine ⟨value, hgives, ?_⟩
  rintro _ _ ⟨⟩
  exact ⟨id, hid⟩

theorem Course.method_of_afterwards {tried afterwards : List Asked}
    {failed : Option RemoteCommand} (h : v.Course tried afterwards failed) :
    ∀ a ∈ afterwards, a.1.method = .delete := by
  cases h with
  | unopened h => simp
  | opened last hgives hid hpage hrefs => simp [deleteSession]

/-- Up to its end, a visit is the conversation of its commands. -/
theorem Course.conversation {tried afterwards : List Asked} {failed : Option RemoteCommand}
    (h : v.Course tried afterwards failed) :
    ∃ id refs, Conversation (v.commands id refs) tried failed := by
  cases h with
  | unopened h => exact ⟨"", fun _ => "", .fails _ _ h⟩
  | @opened reply value id refs page _ last hgives hid hpage hrefs =>
      exact ⟨id, refs, .goes_on (openSession_succeeds hgives hid) hpage⟩

/-- **The run of a visit takes its course**, and comes to a failure in the name of the command that
fails, if there is one, and else to the texts that the page gave. -/
theorem course_of_run {endpoint : Endpoint} {history : List Request} {run : VisitRun}
    (hrun : v.run endpoint history = run) :
    ∃ failed, v.Course run.tried run.afterwards failed
      ∧ match run.outcome with
        | .ok found => failed = none ∧ ReadOut found.texts v.steps run.tried.tail
        | .error failure => ∃ c text, failed = some c ∧ failure = .remote c.name text := by
  generalize hreply : Remote.answer endpoint history v.openSession.request = reply
  rcases hread : v.openSession.read reply with failure | value
  · rw [run_of_error hreply hread] at hrun
    rw [← hrun]
    rw [← hreply] at hread ⊢
    obtain ⟨text, htext⟩ := RemoteCommand.read_eq_error hread
    exact ⟨_, .unopened (RemoteCommand.not_succeeds_of_read hread), _, text, rfl, htext⟩
  · rcases hpage : talk endpoint (v.sessionAt (textAt "sessionId" value))
      (history ++ [v.openSession.request]) .nothing v.steps with ⟨asked, outcome⟩
    rw [run_of_ok hreply hread hpage] at hrun
    rw [← hrun]
    rw [← hreply] at hread ⊢
    obtain ⟨hgives, hwanted⟩ := RemoteCommand.read_eq_ok.mp hread
    obtain ⟨id, hid⟩ := hwanted "sessionId" _ rfl
    rw [textAt_eq hid] at hpage ⊢
    obtain ⟨refs, failed, hconversation, hrefs, -, hend⟩ := talk_spec endpoint (v.sessionAt id)
      (pairwise_pageSteps v.url v.input) (history ++ [v.openSession.request]) .nothing
    have hsteps : pageSteps v.url v.input = v.steps := rfl
    rw [hsteps, hpage] at hconversation hrefs hend
    refine ⟨failed, .opened _ hgives hid hconversation hrefs, ?_⟩
    rcases outcome with failure | found
    · exact hend
    · exact ⟨hend.1, hend.2.1⟩

theorem answered_of_run {endpoint : Endpoint} {history : List Request} {run : VisitRun}
    (hrun : v.run endpoint history = run) :
    Answered endpoint history (run.tried ++ run.afterwards) := by
  generalize hreply : Remote.answer endpoint history v.openSession.request = reply
  rcases hread : v.openSession.read reply with failure | value
  · rw [run_of_error hreply hread] at hrun
    rw [← hrun]
    exact ⟨hreply.symm, trivial⟩
  · rcases hpage : talk endpoint (v.sessionAt (textAt "sessionId" value))
      (history ++ [v.openSession.request]) .nothing v.steps with ⟨asked, outcome⟩
    rw [run_of_ok hreply hread hpage] at hrun
    rw [← hrun]
    have hasked := answered_talk endpoint (v.sessionAt (textAt "sessionId" value)) v.steps
      (history ++ [v.openSession.request]) .nothing
    rw [hpage] at hasked
    refine answered_append.mpr ⟨⟨hreply.symm, hasked⟩, ?_, trivial⟩
    rfl

/-- What a visit comes to does not depend on the reply to giving up the session. -/
theorem outcome_run_of_same {endpoint endpoint' : Endpoint} (h : SameButForDelete endpoint endpoint')
    (history : List Request) :
    (v.run endpoint' history).outcome = (v.run endpoint history).outcome := by
  have hopen : v.openSession.request.method ≠ .delete := by simp [openSession]
  simp only [run, h.answer hopen, h.talk]
  split <;> rfl

end Visit

namespace Host

variable (h : Host) (events : List LogEvent) (asked : List Asked)

@[simp] theorem asking_logging : (h.logging events).asking asked = (h.asking asked).logging events :=
  rfl

@[simp] theorem requests_logging : (h.logging events).requests = h.requests := rfl

end Host

/-- Something is given up before an action goes on. A failure to do so is logged and nothing else. -/
theorem Ends.giveUpBefore {α : Type} {giveUp : HostAction Unit} {words : Failure → String}
    {next : HostAction α} {h h₁ h₂ : Host} {given : Except Failure Unit} {r : Except Failure α}
    (hgiveUp : Ends giveUp h given h₁) (hnext : ∀ events, Ends next (h₁.logging events) r h₂) :
    Ends (do
      if let .error failure ← Host.outcomeOf giveUp then
        Host.logWarn (words failure)
      next) h r h₂ := by
  refine hgiveUp.outcomeOf.bind fun events => ?_
  rcases given with failure | _
  · refine (Ends.record .warn _ [] _).bind fun more => ?_
    rw [Host.logging_logging]
    exact hnext _
  · exact hnext events

/-! ## The session -/

theorem runOn_create {v : Visit} {endpoint : Endpoint} {address : String} {h : Host} {reply : Reply}
    (hbase : Session.trimSlashes address = v.base)
    (hreply : Remote.answer endpoint h.requests v.openSession.request = reply) :
    (Session.create endpoint address v.browserName).runOn h =
      ((v.openSession.read reply).map fun value =>
          ⟨endpoint, v.base, textAt "sessionId" value⟩,
        h.asking [(v.openSession.request, reply)]) := by
  rw [← hreply]
  simp only [Session.create, hbase, Visit.openSession, runOn_send_textUnder]

theorem ends_exchange {s : Session} {url input : String} {h : Host} {asked : List Asked}
    {outcome : Except Failure Findings}
    (hpage : talk s.endpoint s.address h.requests .nothing (pageSteps url input) = (asked, outcome)) :
    Ends (Browser.exchange s url input) h (outcome.map Findings.result) (h.asking asked) := by
  have hsteps := runOn_foldlM_perform s .nothing (pageSteps url input) h
  rw [hpage] at hsteps
  rw [exchange_eq]
  rcases outcome with failure | found
  · exact (Ends.of_eq hsteps).bind_of_error
  · exact (Ends.of_eq hsteps).bind fun events =>
      (Host.ends_resultOfChannels _ _ _).of_logging

theorem ends_close (s : Session) (h : Host) :
    ∃ outcome, Ends s.close h outcome (h.asking
      [(deleteSession s.address, Remote.answer s.endpoint h.requests (deleteSession s.address))]) := by
  have hrequest : (⟨.delete, s.address ++ "", none⟩ : Request) = deleteSession s.address := by
    rw [String.append_empty]
    rfl
  simp only [Session.close, Session.command_eq, hrequest]
  exact ⟨_, .of_eq (runOn_send_map s.endpoint "delete session" _ (fun _ => ()) h)⟩

namespace Browser

/-- The visit that the browser makes for a page. -/
def visit (b : Browser) (url input : String) : Visit where
  base := Session.trimSlashes b.config.remoteUrl
  browserName := b.config.browserName
  url := url
  input := input

/-- The work on a page in a session, which is given up after it. -/
def inSession (url input : String) (s : Session) : HostAction ExecutionResult := do
  let outcome ← Host.outcomeOf (exchange s url input)
  if let .error failure ← Host.outcomeOf s.close then
    Host.logWarn ("Failed to close WebDriver session " ++ s.id ++ ": " ++ failure.message)
  MonadExcept.ofExcept outcome

theorem ends_inSession {s : Session} {url input : String} {h : Host} {asked : List Asked}
    {outcome : Except Failure Findings}
    (hpage : talk s.endpoint s.address h.requests .nothing (pageSteps url input) = (asked, outcome)) :
    Ends (inSession url input s) h (outcome.map Findings.result)
      (h.asking (asked ++ [(deleteSession s.address, Remote.answer s.endpoint
        (h.requests ++ asked.map Prod.fst) (deleteSession s.address))])) := by
  unfold inSession
  refine (ends_exchange hpage).outcomeOf.bind fun events => ?_
  obtain ⟨given, hgiven⟩ := ends_close s ((h.asking asked).logging events)
  rw [Host.asking_logging, Host.requests_logging, Host.requests_asking, Host.asking_asking] at hgiven
  exact hgiven.of_logging.giveUpBefore fun more => (Ends.ofExcept _ _).of_logging

/-- A session is opened, and the page is worked in it if there is one. -/
theorem ends_create_inSession {v : Visit} {endpoint : Endpoint} {address : String} {h : Host}
    {run : VisitRun} (hbase : Session.trimSlashes address = v.base)
    (hrun : v.run endpoint h.requests = run) :
    Ends (Session.create endpoint address v.browserName >>= inSession v.url v.input) h
      (run.outcome.map Findings.result) (h.asking (run.tried ++ run.afterwards)) := by
  generalize hreply : Remote.answer endpoint h.requests v.openSession.request = reply
  have hcreate := runOn_create hbase hreply
  rcases hread : v.openSession.read reply with failure | value
  · rw [Visit.run_of_error hreply hread] at hrun
    rw [hread] at hcreate
    rw [← hrun]
    exact (Ends.of_eq hcreate).bind_of_error
  · rcases hpage : talk endpoint (v.sessionAt (textAt "sessionId" value))
      (h.requests ++ [v.openSession.request]) .nothing v.steps with ⟨asked, outcome⟩
    rw [Visit.run_of_ok hreply hread hpage] at hrun
    rw [hread] at hcreate
    rw [← hrun]
    refine (Ends.of_eq hcreate).bind fun events => ?_
    -- the session of the program, under the address that the visit tells
    generalize hs : Session.mk endpoint v.base (textAt "sessionId" value) = s
    have hendpoint : s.endpoint = endpoint := by rw [← hs]
    have haddress : s.address = v.sessionAt (textAt "sessionId" value) := by
      rw [← hs]
      rfl
    have hin : Ends (inSession v.url v.input s) _ _ _ := ends_inSession
      (show talk s.endpoint s.address ((h.asking [(v.openSession.request, reply)]).logging
          events).requests .nothing (pageSteps v.url v.input) = (asked, outcome) by
        rw [Host.requests_logging, Host.requests_asking, hendpoint, haddress]
        exact hpage)
    rw [hendpoint, haddress, Host.asking_logging, Host.requests_logging, Host.requests_asking,
      Host.asking_asking, List.append_assoc] at hin
    simpa [hs] using hin.of_logging

/-- **A page is driven by one visit**: where a session was opened it is given up, whatever came of
the page, and what comes of giving it up is logged and nothing else. -/
theorem ends_drive {b : Browser} {endpoint : Endpoint} {url input : String} {h : Host}
    {run : VisitRun} (hrun : (b.visit url input).run endpoint h.requests = run) :
    Ends (b.drive endpoint url input) h (run.outcome.map Findings.result)
      (h.asking (run.tried ++ run.afterwards)) := by
  have hdrive : b.drive endpoint url input =
      Session.create endpoint b.config.remoteUrl (b.visit url input).browserName >>=
        inSession (b.visit url input).url (b.visit url input).input := rfl
  have hbase : Session.trimSlashes b.config.remoteUrl = (b.visit url input).base := rfl
  rw [hdrive]
  exact ends_create_inSession hbase hrun

end Browser

end GrammarBench
