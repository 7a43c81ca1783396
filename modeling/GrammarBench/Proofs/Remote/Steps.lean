import GrammarBench.Proofs.Remote.Browser

/-!
# A run of the browser step by step

A run of the browser waits for its turn, opens a port, makes its visit there, and gives the port up.
`advance` takes the next step of it, so that other things can happen on the host between two steps;
on a visit the request of a command goes out in one step and its reply is heard in a later one. Each
step leaves the rest of the run to be done: what is still to be run after it comes to the same
(`finish_advance`), so a run that is taken step by step ends as the code of a run does.
-/

namespace GrammarBench

/-- What a run of the browser is asked for. -/
structure BrowserCall where
  browser : Browser
  endpoint : Endpoint
  area : StagingArea
  entry : Path
  input : String

namespace BrowserCall

def execute (c : BrowserCall) : HostAction ExecutionResult :=
  c.browser.execute c.endpoint c.area c.entry c.input

def start (c : BrowserCall) : HostAction PageServer :=
  PageServer.start c.browser.config.port ⟨c.area.path, c.browser.runtime⟩

/-- The address of the page on a server. -/
def url (c : BrowserCall) (server : PageServer) : String :=
  server.urlFor (Browser.pageOf c.area c.entry)

def create (c : BrowserCall) : HostAction Session :=
  Session.create c.endpoint c.browser.config.remoteUrl c.browser.config.browserName

/-! ## How far a run has come -/

/-- The next command of a visit, with what is known. -/
inductive Task where
  | opening
  | onPage (session : Session) (found : Findings) (step : PageStep) (rest : List PageStep)
  /-- It is known how the visit ends, and the session is to be given up. -/
  | leaving (session : Session) (outcome : Except Failure ExecutionResult)

inductive Phase where
  | begun
  /-- The browser may be run on this system, and the run waits for its turn. -/
  | queued
  /-- It is the turn of the run, which has no port yet. -/
  | admitted
  /-- The page is served. `sent` tells that the request of the command is out and has no reply. -/
  | serving (server : PageServer) (task : Task) (sent : Bool)
  /-- It is known how the run ends. `told` tells that the server is to stop and has not yet. -/
  | stopping (server : PageServer) (outcome : Except Failure ExecutionResult) (told : Bool)
  | stopped (outcome : Except Failure ExecutionResult)
  | ended (outcome : Except Failure ExecutionResult)

/-- The work on a page with these steps ahead. -/
def onward (session : Session) (found : Findings) : List PageStep → Host → Task × Host
  | [], h =>
    let (outcome, h') :=
      (Host.resultOfChannels (found.texts "output") (found.texts "errors")).runOn h
    (.leaving session outcome, h')
  | step :: rest, h => (.onPage session found step rest, h)

/-- The host after something was given up: a failure is logged and nothing else. -/
def warned (words : Failure → String) : Except Failure Unit × Host → Host
  | (.ok _, h) => h
  | (.error f, h) => h.logging [⟨.warn, words f, []⟩]

/-- What is logged of a visit that came to this. -/
def failureEvents : Except Failure ExecutionResult → List LogEvent
  | .ok _ => []
  | .error f => [⟨.error, "can't exec recognizer: " ++ f.message, []⟩]

/-- The reply to the command is heard: what is next on the visit, or what it came to. -/
def hear (c : BrowserCall) (server : PageServer) :
    Task → Host → (Task ⊕ Except Failure ExecutionResult) × Host
  | .opening, h =>
    match c.create.runOn h with
    | (.ok session, h') =>
      let (task, h'') := onward session .nothing (pageSteps (c.url server) c.input) h'
      (.inl task, h'')
    | (.error f, h') => (.inr (.error f), h')
  | .onPage session found step rest, h =>
    match (session.perform found step).runOn h with
    | (.ok found', h') =>
      let (task, h'') := onward session found' rest h'
      (.inl task, h'')
    | (.error f, h') => (.inl (.leaving session (.error f)), h')
  | .leaving session outcome, h =>
    (.inr outcome,
      warned (fun f => "Failed to close WebDriver session " ++ session.id ++ ": " ++ f.message)
        (session.close.runOn h))

/-- Takes the next step of a run on a host, where it is its turn. A run that has ended does
nothing. -/
def advance (c : BrowserCall) : Phase × Host → Phase × Host
  | (.begun, h) =>
    match c.browser.checkPlatform h.system with
    | .ok () => (.queued, h)
    | .error f => (.ended (.error f), h)
  | (.queued, h) => (.admitted, h)
  | (.admitted, h) =>
    match c.start.runOn h with
    | (.ok server, h') => (.serving server .opening false, h')
    | (.error f, h') => (.ended (.error f), h')
  | (.serving server task false, h) => (.serving server task true, h)
  | (.serving server task true, h) =>
    match c.hear server task h with
    | (.inl task', h') => (.serving server task' false, h')
    | (.inr outcome, h') => (.stopping server outcome false, h'.logging (failureEvents outcome))
  | (.stopping server outcome false, h) => (.stopping server outcome true, h)
  | (.stopping server outcome true, h) =>
    (.stopped outcome,
      warned (fun f => "Failed to stop static server: " ++ f.message) (server.stop.runOn h))
  | (.stopped outcome, h) =>
    (.ended outcome, h.logging [⟨.info, "browser run finished", [("state", "torn_down")]⟩])
  | (.ended outcome, h) => (.ended outcome, h)

/-! ## What is still to be run -/

/-- What is run on a page with these steps ahead. -/
def workPage (session : Session) (found : Findings) (steps : List PageStep) :
    HostAction ExecutionResult := do
  let found ← steps.foldlM session.perform found
  Host.resultOfChannels (found.texts "output") (found.texts "errors")

def leave (session : Session) (outcome : Except Failure ExecutionResult) :
    HostAction ExecutionResult := do
  if let .error failure ← Host.outcomeOf session.close then
    Host.logWarn ("Failed to close WebDriver session " ++ session.id ++ ": " ++ failure.message)
  MonadExcept.ofExcept outcome

def tearDown (server : PageServer) (outcome : Except Failure ExecutionResult) :
    HostAction ExecutionResult := do
  if let .error failure ← Host.outcomeOf server.stop then
    Host.logWarn ("Failed to stop static server: " ++ failure.message)
  Host.record .info "browser run finished" [("state", "torn_down")]
  MonadExcept.ofExcept outcome

/-- What is run while a page is served, and what after it. -/
def serveFor (server : PageServer) (visit : HostAction ExecutionResult) :
    HostAction ExecutionResult := do
  let outcome ← Host.outcomeOf visit
  if let .error failure := outcome then
    Host.logError ("can't exec recognizer: " ++ failure.message)
  tearDown server outcome

/-- The work on a page with these steps ahead, and the end of the visit. -/
def inPage (session : Session) (found : Findings) (steps : List PageStep) :
    HostAction ExecutionResult := do
  let outcome ← Host.outcomeOf (workPage session found steps)
  leave session outcome

def Task.finish (c : BrowserCall) (server : PageServer) : Task → HostAction ExecutionResult
  | opening => c.browser.drive c.endpoint (c.url server) c.input
  | onPage session found step rest => inPage session found (step :: rest)
  | leaving session outcome => leave session outcome

/-- The run from a phase to its end. -/
def Phase.finish (c : BrowserCall) : Phase → HostAction ExecutionResult
  | begun => c.execute
  | queued | admitted => do
    let server ← c.start
    serveFor server (Task.opening.finish c server)
  | serving server task _ => serveFor server (task.finish c server)
  | stopping server outcome _ => tearDown server outcome
  | stopped outcome => do
    Host.record .info "browser run finished" [("state", "torn_down")]
    MonadExcept.ofExcept outcome
  | ended outcome => MonadExcept.ofExcept outcome

section Finish

variable {c : BrowserCall} {session : Session} {server : PageServer} {found : Findings}
  {task : Task} {h : Host}

theorem runOn_leave (session : Session) (outcome : Except Failure ExecutionResult) (h : Host) :
    (leave session outcome).runOn h =
      (outcome, warned
        (fun f => "Failed to close WebDriver session " ++ session.id ++ ": " ++ f.message)
        (session.close.runOn h)) := by
  unfold leave
  rw [runOn_bind, Host.runOn_outcomeOf]
  rcases session.close.runOn h with ⟨f | ⟨⟩, h'⟩
  · dsimp only
    rw [runOn_bind, Host.runOn_logWarn]
    exact runOn_ofExcept _ _
  · exact runOn_ofExcept _ _

theorem runOn_tearDown (server : PageServer) (outcome : Except Failure ExecutionResult)
    (h : Host) :
    (tearDown server outcome).runOn h = ((Phase.stopped outcome).finish c).runOn
      (warned (fun f => "Failed to stop static server: " ++ f.message) (server.stop.runOn h)) := by
  unfold tearDown
  rw [runOn_bind, Host.runOn_outcomeOf]
  rcases server.stop.runOn h with ⟨f | ⟨⟩, h'⟩
  · dsimp only
    rw [runOn_bind, Host.runOn_logWarn]
    rfl
  · rfl

theorem runOn_serveFor (server : PageServer) (visit : HostAction ExecutionResult) (h : Host) :
    (serveFor server visit).runOn h =
      (tearDown server (visit.runOn h).1).runOn
        ((visit.runOn h).2.logging (failureEvents (visit.runOn h).1)) := by
  unfold serveFor
  rw [runOn_bind, Host.runOn_outcomeOf]
  rcases visit.runOn h with ⟨f | result, h'⟩
  · dsimp only
    rw [runOn_bind, Host.runOn_logError]
    rfl
  · dsimp only [failureEvents]
    rw [Host.logging_nil]

theorem runOn_inPage_cons (session : Session) (found : Findings) (step : PageStep)
    (rest : List PageStep) (h : Host) :
    (inPage session found (step :: rest)).runOn h =
      match (session.perform found step).runOn h with
      | (.ok found', h') => (inPage session found' rest).runOn h'
      | (.error f, h') => (leave session (.error f)).runOn h' := by
  have hwork : ∀ h, (workPage session found (step :: rest)).runOn h =
      match (session.perform found step).runOn h with
      | (.ok found', h') => (workPage session found' rest).runOn h'
      | (.error f, h') => (.error f, h') := by
    intro h
    unfold workPage
    rw [List.foldlM_cons, bind_assoc, runOn_bind]
    rcases (session.perform found step).runOn h with ⟨_ | _, _⟩ <;> rfl
  unfold inPage
  rw [runOn_bind, Host.runOn_outcomeOf, hwork]
  rcases (session.perform found step).runOn h with ⟨f | found', h'⟩
  · rfl
  · dsimp only
    rw [runOn_bind, Host.runOn_outcomeOf]

theorem runOn_inPage (c : BrowserCall) (server : PageServer) (session : Session)
    (found : Findings) (steps : List PageStep) (h : Host) :
    (inPage session found steps).runOn h =
      ((onward session found steps h).1.finish c server).runOn (onward session found steps h).2 := by
  cases steps with
  | nil =>
      unfold inPage workPage
      rw [runOn_bind, Host.runOn_outcomeOf, List.foldlM_nil, pure_bind]
      rfl
  | cons step rest => rfl

theorem inSession_eq (url input : String) (session : Session) :
    Browser.inSession url input session =
      inPage session .nothing (pageSteps url input) := by
  unfold Browser.inSession inPage
  rw [exchange_eq]
  rfl

/-- What is still to be run of a visit after a reply was heard. -/
theorem runOn_finish_task (c : BrowserCall) (server : PageServer) (task : Task) (h : Host) :
    (task.finish c server).runOn h =
      match c.hear server task h with
      | (.inl task', h') => (task'.finish c server).runOn h'
      | (.inr outcome, h') => (outcome, h') := by
  cases task with
  | opening =>
      show (c.create >>= Browser.inSession (c.url server) c.input).runOn h = _
      rw [runOn_bind, hear]
      rcases c.create.runOn h with ⟨f | session, h'⟩
      · rfl
      · dsimp only
        rw [inSession_eq, runOn_inPage c server]
  | onPage session found step rest =>
      show (inPage session found (step :: rest)).runOn h = _
      rw [runOn_inPage_cons, hear]
      rcases (session.perform found step).runOn h with ⟨f | found', h'⟩
      · rfl
      · exact runOn_inPage c server session found' rest h'
  | leaving session outcome => exact runOn_leave session outcome h

/-- **What is still to be run comes to the same after a step.** -/
theorem finish_advance (c : BrowserCall) (p : Phase) (h : Host) :
    ((c.advance (p, h)).1.finish c).runOn (c.advance (p, h)).2 = (p.finish c).runOn h := by
  cases p with
  | begun =>
      show _ = (c.browser.execute c.endpoint c.area c.entry c.input).runOn h
      unfold Browser.execute
      rw [runOn_bind, runOn_get]
      dsimp only
      rw [runOn_bind, runOn_liftM_except, advance]
      rcases c.browser.checkPlatform h.system with f | ⟨⟩
      · rfl
      · rfl
  | queued => rfl
  | admitted =>
      show _ = (c.start >>= fun server => serveFor server (Task.opening.finish c server)).runOn h
      rw [runOn_bind, advance]
      rcases c.start.runOn h with ⟨f | server, h'⟩
      · rfl
      · rfl
  | serving server task sent =>
      cases sent with
      | false => rfl
      | true =>
          show _ = (serveFor server (task.finish c server)).runOn h
          rw [runOn_serveFor, runOn_finish_task, advance]
          rcases c.hear server task h with ⟨task' | outcome, h'⟩
          · exact runOn_serveFor _ _ _
          · rfl
  | stopping server outcome told =>
      cases told with
      | false => rfl
      | true => exact (runOn_tearDown server outcome h).symm
  | stopped outcome => rfl
  | ended outcome => rfl

end Finish

/-! ## What a step does -/

/-- How many commands are left on a visit, if none fails. -/
def Task.commands : Task → Nat
  | opening => 11
  | onPage _ _ _ rest => rest.length + 2
  | leaving _ _ => 1

/-- A step of a run takes it from a phase to another one and changes the host like this. -/
inductive Moves (c : BrowserCall) : Phase → Host → Phase → Host → Prop where
  | refused {h : Host} {f : Failure} (hplatform : c.browser.checkPlatform h.system = .error f) :
      Moves c .begun h (.ended (.error f)) h
  | queues {h : Host} (hplatform : c.browser.checkPlatform h.system = .ok ()) :
      Moves c .begun h .queued h
  | enters {h : Host} : Moves c .queued h .admitted h
  | unbound {h : Host} {fault : IoFault} {f : Failure}
      (hport : PageServer.bind h c.browser.config.port = .error fault) :
      Moves c .admitted h (.ended (.error f)) h
  | opens {h : Host} {server : PageServer} {events : List LogEvent}
      (hport : PageServer.bind h c.browser.config.port = .ok server.port) :
      Moves c .admitted h (.serving server .opening false)
        ((h.opening server.port).logging events)
  | sends {h : Host} {server : PageServer} {task : Task} :
      Moves c (.serving server task false) h (.serving server task true) h
  | hears {h : Host} {server : PageServer} {task task' : Task} {asked : List Asked}
      {events : List LogEvent} (hless : task'.commands < task.commands) :
      Moves c (.serving server task true) h (.serving server task' false)
        ((h.asking asked).logging events)
  | leaves {h : Host} {server : PageServer} {task : Task}
      {outcome : Except Failure ExecutionResult} {asked : List Asked} {events : List LogEvent} :
      Moves c (.serving server task true) h (.stopping server outcome false)
        ((h.asking asked).logging events)
  | tells {h : Host} {server : PageServer} {outcome : Except Failure ExecutionResult} :
      Moves c (.stopping server outcome false) h (.stopping server outcome true) h
  | closes {h : Host} {server : PageServer} {outcome : Except Failure ExecutionResult}
      {events : List LogEvent} :
      Moves c (.stopping server outcome true) h (.stopped outcome)
        ((h.closing server.port).logging events)
  | ends {h : Host} {outcome : Except Failure ExecutionResult} {events : List LogEvent} :
      Moves c (.stopped outcome) h (.ended outcome) (h.logging events)
  | stays {h : Host} {outcome : Except Failure ExecutionResult} :
      Moves c (.ended outcome) h (.ended outcome) h

section Moves

variable {c : BrowserCall} {server : PageServer} {task : Task} {h : Host}

theorem warned_eq (words : Failure → String) (given : Except Failure Unit) (h : Host) :
    ∃ events, warned words (given, h) = h.logging events := by
  rcases given with f | ⟨⟩
  · exact ⟨_, rfl⟩
  · exact ⟨[], (h.logging_nil).symm⟩

/-- The work on a page goes on without a word on the network. -/
theorem onward_eq (session : Session) (found : Findings) (steps : List PageStep) (h : Host) :
    ∃ task events, onward session found steps h = (task, h.logging events)
      ∧ task.commands = steps.length + 1 := by
  cases steps with
  | nil =>
      obtain ⟨events, hrun⟩ :=
        Host.ends_resultOfChannels (found.texts "output") (found.texts "errors") h
      exact ⟨_, events, by rw [onward, hrun], rfl⟩
  | cons step rest => exact ⟨_, [], by rw [onward, Host.logging_nil], rfl⟩

theorem create_asks (c : BrowserCall) (h : Host) :
    ∃ asked, (c.create.runOn h).2 = h.asking asked := by
  -- the page and the input of the visit do not count, a session is asked for by name alone
  let v := c.browser.visit "" ""
  have hcreate : c.create.runOn h = _ :=
    runOn_create (v := v) (show Session.trimSlashes c.browser.config.remoteUrl = v.base from rfl) rfl
  exact ⟨_, congrArg Prod.snd hcreate⟩

theorem close_asks (words : Failure → String) (session : Session) (h : Host) :
    ∃ asked events, warned words (session.close.runOn h) = (h.asking asked).logging events := by
  obtain ⟨given, events, hrun⟩ := ends_close session h
  obtain ⟨more, hmore⟩ := warned_eq words given ((h.asking [_]).logging events)
  rw [hrun, hmore, Host.logging_logging]
  exact ⟨_, _, rfl⟩

/-- On a visit one asks and logs, and nothing else. -/
theorem hear_moves (c : BrowserCall) (server : PageServer) (task : Task) (h : Host) :
    ∃ next asked events, c.hear server task h = (next, (h.asking asked).logging events)
      ∧ ∀ task', next = .inl task' → task'.commands < task.commands := by
  cases task with
  | opening =>
      obtain ⟨asked, hasked⟩ := create_asks c h
      rw [hear]
      rcases hrun : c.create.runOn h with ⟨f | session, h'⟩
      · obtain rfl : h' = h.asking asked := by rw [← hasked, hrun]
        exact ⟨.inr (.error f), asked, [], by rw [Host.logging_nil], nofun⟩
      · obtain rfl : h' = h.asking asked := by rw [← hasked, hrun]
        obtain ⟨task, events, honward, hcommands⟩ :=
          onward_eq session .nothing (pageSteps (c.url server) c.input) (h.asking asked)
        refine ⟨.inl task, asked, events, by simp only [honward], ?_⟩
        rintro _ ⟨rfl⟩
        have hlength : (pageSteps (c.url server) c.input).length = 9 := rfl
        rw [hcommands, hlength]
        decide
  | onPage session found step rest =>
      rw [hear, runOn_perform]
      dsimp only
      generalize ((step.command session.address found.refs).request, Remote.answer _ _ _) = asked
      rcases (step.command session.address found.refs).read _ with f | value
      · refine ⟨.inl (.leaving session (.error f)), [asked], [], by rw [Host.logging_nil]; rfl, ?_⟩
        rintro _ ⟨rfl⟩
        exact Nat.succ_lt_succ (Nat.succ_pos _)
      · obtain ⟨task, events, honward, hcommands⟩ :=
          onward_eq session (step.note found value) rest (h.asking [asked])
        refine ⟨.inl task, [asked], events, by simp only [Except.map, honward], ?_⟩
        rintro _ ⟨rfl⟩
        rw [hcommands]
        exact Nat.lt_succ_self _
  | leaving session outcome =>
      obtain ⟨asked, events, hclose⟩ := close_asks
        (fun f => "Failed to close WebDriver session " ++ session.id ++ ": " ++ f.message) session h
      exact ⟨.inr outcome, asked, events, by rw [hear, hclose], nofun⟩

/-- **What a step does.** -/
theorem moves_advance (c : BrowserCall) (p : Phase) (h : Host) :
    Moves c p h (c.advance (p, h)).1 (c.advance (p, h)).2 := by
  cases p with
  | begun =>
      rw [advance]
      rcases hplatform : c.browser.checkPlatform h.system with f | ⟨⟩
      · exact .refused hplatform
      · exact .queues hplatform
  | queued => exact .enters
  | admitted =>
      rw [advance]
      rcases hport : PageServer.bind h c.browser.config.port with fault | port
      · rw [start, PageServer.runOn_start_of_error _ hport]
        exact .unbound hport
      · obtain ⟨events, hrun⟩ :=
          PageServer.ends_start ⟨c.area.path, c.browser.runtime⟩ hport
        rw [start, hrun]
        exact .opens hport
  | serving server task sent =>
      cases sent with
      | false => exact .sends
      | true =>
          obtain ⟨next, asked, events, hhear, hless⟩ := hear_moves c server task h
          rw [advance, hhear]
          rcases next with task' | outcome
          · exact .hears (hless task' rfl)
          · dsimp only
            rw [Host.logging_logging]
            exact .leaves
  | stopping server outcome told =>
      cases told with
      | false => exact .tells
      | true =>
          obtain ⟨events, hrun⟩ := server.ends_stop h
          obtain ⟨more, hmore⟩ := warned_eq (fun f => "Failed to stop static server: " ++ f.message)
            (PageServer.stopped h.serverEnd) ((h.closing server.port).logging events)
          rw [advance, hrun, hmore, Host.logging_logging]
          exact .closes
  | stopped outcome => exact .ends
  | ended outcome => exact .stays

theorem moves_of_advance {c : BrowserCall} {p p' : Phase} {h h' : Host}
    (hadvance : c.advance (p, h) = (p', h')) : Moves c p h p' h' := by
  have hmoves := moves_advance c p h
  rwa [hadvance] at hmoves

end Moves

end BrowserCall
end GrammarBench
