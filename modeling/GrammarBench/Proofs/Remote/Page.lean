import GrammarBench.Proofs.Remote.Command
import GrammarBench.Remote.Browser
import Mathlib.Logic.Function.Basic

/-!
# What is done on a page

The page of a driver is worked in a fixed list of steps (`pageSteps`). Each of them is one command,
which may need the element that an earlier step has found (`Findings`). `talk` is the run of some steps
as a function: what is asked, and what was found or which failure came of it. The program takes these
steps (`exchange_eq`) and runs them as `talk` does (`runOn_foldlM_perform`), and the course of a talk
is a conversation (`talk_spec`).
-/

namespace GrammarBench

/-- A step on a page. Its elements are told by their ids. -/
inductive PageStep where
  | navigate (url : String)
  | find (id : String)
  | type (id text : String)
  | click (id : String)
  | read (id : String)
deriving DecidableEq

/-- The steps that work the page of a driver. -/
def pageSteps (url input : String) : List PageStep :=
  [.navigate url, .find "input", .type "input" input, .find "submit", .click "submit",
    .find "errors", .read "errors", .find "output", .read "output"]

/-- The text of an area whose value is given. -/
def areaText : Json → String
  | .null => ""
  | .str text => text
  | value => value.text

/-- A text under a name, where it is known that there is one. -/
def textAt (member : String) (value : Json) : String :=
  ((value.member? member).bind Json.text?).getD ""

theorem textAt_eq {member text : String} {value : Json}
    (h : value.member? member = some (.str text)) : textAt member value = text := by
  simp [textAt, h, Json.text?]

/-- The elements that were given back for ids, and the texts of areas. -/
structure Findings where
  refs : String → String
  texts : String → String

def Findings.nothing : Findings :=
  ⟨fun _ => "", fun _ => ""⟩

namespace PageStep

/-- The command of a step in the session at an address, with the elements that were given back. -/
def command (session : String) (refs : String → String) : PageStep → RemoteCommand
  | navigate url =>
    ⟨"navigate", ⟨.post, session ++ "/url", some (.obj [("url", .str url)])⟩, none⟩
  | find id =>
    ⟨"find element #" ++ id,
      ⟨.post, session ++ "/element",
        some (.obj [("using", .str "css selector"), ("value", .str ("#" ++ id))])⟩,
      some (elementKey, "no element reference in reply: ")⟩
  | type id text =>
    ⟨"send keys",
      ⟨.post, session ++ ("/element/" ++ refs id ++ "/value"), some (.obj [("text", .str text)])⟩,
      none⟩
  | click id =>
    ⟨"click", ⟨.post, session ++ ("/element/" ++ refs id ++ "/click"), some (.obj [])⟩, none⟩
  | read id =>
    ⟨"element property",
      ⟨.get, session ++ ("/element/" ++ refs id ++ "/property/" ++ "value"), none⟩, none⟩

/-- What is known after a step that was given a value. -/
def note (f : Findings) (value : Json) : PageStep → Findings
  | find id => { f with refs := Function.update f.refs id (textAt elementKey value) }
  | read id => { f with texts := Function.update f.texts id (areaText value) }
  | _ => f

def target? : PageStep → Option String
  | navigate _ => none
  | find id => some id
  | type id _ => some id
  | click id => some id
  | read id => some id

/-- A step leaves alone what an earlier one was about: it does not find that element again, nor does
it read an area a second time. -/
def LeavesAlone (earlier later : PageStep) : Prop :=
  (∀ id, earlier.target? = some id → later ≠ .find id) ∧ ∀ id, earlier = .read id → later ≠ .read id

theorem method_command (step : PageStep) (session : String) (refs : String → String) :
    (step.command session refs).request.method ≠ .delete := by
  cases step <;> simp [command]

theorem note_find (id : String) (f : Findings) (value : Json) :
    ((find id).note f value).refs id = textAt elementKey value :=
  Function.update_self id _ f.refs

theorem note_read (id : String) (f : Findings) (value : Json) :
    ((read id).note f value).texts id = areaText value :=
  Function.update_self id _ f.texts

theorem note_refs {step : PageStep} {f : Findings} {value : Json} {id : String}
    (h : step ≠ .find id) : (step.note f value).refs id = f.refs id := by
  cases step with
  | find other =>
      have hne : id ≠ other := by simpa [eq_comm] using h
      exact Function.update_of_ne hne _ _
  | _ => rfl

theorem note_texts {step : PageStep} {f : Findings} {value : Json} {id : String}
    (h : step ≠ .read id) : (step.note f value).texts id = f.texts id := by
  cases step with
  | read other =>
      have hne : id ≠ other := by simpa [eq_comm] using h
      exact Function.update_of_ne hne _ _
  | _ => rfl

/-- A command depends on one element only. -/
theorem command_congr {step : PageStep} {session : String} {refs refs' : String → String}
    (h : ∀ id, step.target? = some id → step ≠ .find id → refs id = refs' id) :
    step.command session refs = step.command session refs' := by
  cases step with
  | navigate url => rfl
  | find id => rfl
  | type id text => rw [command, command, h id rfl (by simp)]
  | click id => rw [command, command, h id rfl (by simp)]
  | read id => rw [command, command, h id rfl (by simp)]

end PageStep

theorem pairwise_pageSteps (url input : String) :
    (pageSteps url input).Pairwise PageStep.LeavesAlone := by
  simp [pageSteps, PageStep.LeavesAlone, PageStep.target?]

/-! ## Steps as actions -/

namespace Session

def address (s : Session) : String :=
  s.base ++ "/session/" ++ s.id

def perform (s : Session) (f : Findings) : PageStep → HostAction Findings
  | .navigate url => do
    s.navigate url
    return f
  | .find id => do
    let element ← s.findElement id
    return { f with refs := Function.update f.refs id element }
  | .type id text => do
    s.sendKeys (f.refs id) text
    return f
  | .click id => do
    s.click (f.refs id)
    return f
  | .read id => do
    let value ← s.property (f.refs id) "value"
    return { f with texts := Function.update f.texts id (value.getD "") }

end Session

/-- A page is worked step by step. -/
theorem exchange_eq (s : Session) (url input : String) :
    Browser.exchange s url input = (do
      let f ← (pageSteps url input).foldlM s.perform .nothing
      Host.resultOfChannels (f.texts "output") (f.texts "errors")) := by
  simp [Browser.exchange, pageSteps, Session.perform, Browser.inputId, Browser.submitId,
    Browser.errorsId, Browser.outputId]

/-- Commands of a session are sent to its address. -/
theorem Session.command_eq (s : Session) (method : Method) (path : String) (body : Option Json)
    (name : String) :
    s.command method path body name =
      Remote.send s.endpoint name ⟨method, s.address ++ path, body⟩ := by
  unfold Session.command Session.address
  rfl

/-- A command of which the value is used in some way. -/
theorem runOn_send_map {α : Type} (endpoint : Endpoint) (name : String) (request : Request)
    (use : Json → α) (h : Host) :
    let reply := Remote.answer endpoint h.requests request
    (Remote.send endpoint name request >>= fun value => pure (use value)).runOn h =
      (((RemoteCommand.mk name request none).read reply).map use, h.asking [(request, reply)]) := by
  intro reply
  rw [runOn_bind, Remote.runOn_send, RemoteCommand.read]
  rcases Remote.valueOrFailure name request reply with failure | value <;> rfl

/-- A command of which the value has to hold a text, which is used in some way. -/
theorem runOn_send_textUnder {α : Type} (endpoint : Endpoint) (name : String) (request : Request)
    (member complaint : String) (use : String → α) (h : Host) :
    let reply := Remote.answer endpoint h.requests request
    (Remote.send endpoint name request >>= fun value =>
      Remote.textUnder member name complaint value >>= fun text => pure (use text)).runOn h =
      (((RemoteCommand.mk name request (some (member, complaint))).read reply).map fun value =>
        use (textAt member value), h.asking [(request, reply)]) := by
  dsimp only
  rw [runOn_bind, Remote.runOn_send, RemoteCommand.read]
  rcases Remote.valueOrFailure name request (Remote.answer endpoint h.requests request) with
    failure | value
  · rfl
  rw [ok_bind]
  simp only [RemoteCommand.check, Remote.textUnder]
  rcases htext : (value.member? member).bind Json.text? with _ | text
  · rfl
  · simp [textAt, htext, Except.map]

theorem areaText_eq (value : Json) : (Session.propertyText value).getD "" = areaText value := by
  cases value <;> rfl

/-- **A step** asks for one command and notes what it gave. -/
theorem runOn_perform (s : Session) (f : Findings) (step : PageStep) (h : Host) :
    let c := step.command s.address f.refs
    let reply := Remote.answer s.endpoint h.requests c.request
    (s.perform f step).runOn h =
      ((c.read reply).map fun value => step.note f value, h.asking [(c.request, reply)]) := by
  cases step with
  | navigate url =>
      simp only [Session.perform, Session.navigate, Session.command_eq, bind_assoc, pure_bind,
        runOn_send_map, PageStep.command, PageStep.note]
  | find id =>
      simp only [Session.perform, Session.findElement, Session.command_eq, bind_assoc,
        runOn_send_textUnder, PageStep.command, PageStep.note]
  | type id text =>
      simp only [Session.perform, Session.sendKeys, Session.command_eq, bind_assoc, pure_bind,
        runOn_send_map, PageStep.command, PageStep.note]
  | click id =>
      simp only [Session.perform, Session.click, Session.command_eq, bind_assoc, pure_bind,
        runOn_send_map, PageStep.command, PageStep.note]
  | read id =>
      simp only [Session.perform, Session.property, Session.command_eq, bind_assoc, pure_bind,
        areaText_eq, runOn_send_map, PageStep.command, PageStep.note]

/-! ## Steps as a function -/

/-- The run of some steps: what is asked, and what was found or which failure came of it. -/
def talk (endpoint : Endpoint) (session : String) (history : List Request) (f : Findings) :
    List PageStep → List Asked × Except Failure Findings
  | [] => ([], .ok f)
  | step :: rest =>
    let c := step.command session f.refs
    let reply := Remote.answer endpoint history c.request
    match c.read reply with
    | .error failure => ([(c.request, reply)], .error failure)
    | .ok value =>
      let later := talk endpoint session (history ++ [c.request]) (step.note f value) rest
      ((c.request, reply) :: later.1, later.2)

theorem talk_cons_of_error {endpoint : Endpoint} {session : String} {history : List Request}
    {f : Findings} {step : PageStep} {rest : List PageStep} {reply : Reply} {failure : Failure}
    (hreply : reply = Remote.answer endpoint history (step.command session f.refs).request)
    (h : (step.command session f.refs).read reply = .error failure) :
    talk endpoint session history f (step :: rest) =
      ([((step.command session f.refs).request, reply)], .error failure) := by
  simp only [talk, ← hreply, h]

theorem talk_cons_of_ok {endpoint : Endpoint} {session : String} {history : List Request}
    {f : Findings} {step : PageStep} {rest : List PageStep} {reply : Reply} {value : Json}
    (hreply : reply = Remote.answer endpoint history (step.command session f.refs).request)
    (h : (step.command session f.refs).read reply = .ok value) :
    talk endpoint session history f (step :: rest) =
      (((step.command session f.refs).request, reply) ::
        (talk endpoint session (history ++ [(step.command session f.refs).request])
          (step.note f value) rest).1,
        (talk endpoint session (history ++ [(step.command session f.refs).request])
          (step.note f value) rest).2) := by
  simp only [talk, ← hreply, h]

theorem runOn_foldlM_perform (s : Session) (f : Findings) (steps : List PageStep) (h : Host) :
    (steps.foldlM s.perform f).runOn h =
      ((talk s.endpoint s.address h.requests f steps).2,
        h.asking (talk s.endpoint s.address h.requests f steps).1) := by
  induction steps generalizing f h with
  | nil => simp [talk]
  | cons step rest ih =>
      rw [List.foldlM_cons, runOn_bind, runOn_perform]
      simp only [talk]
      rcases (step.command s.address f.refs).read (Remote.answer s.endpoint h.requests
        (step.command s.address f.refs).request) with failure | value
      · rfl
      · simp [Except.map, ih]

def Answered (endpoint : Endpoint) : List Request → List Asked → Prop
  | _, [] => True
  | history, a :: rest =>
    a.2 = Remote.answer endpoint history a.1 ∧ Answered endpoint (history ++ [a.1]) rest

theorem answered_append {endpoint : Endpoint} {history : List Request} {as bs : List Asked} :
    Answered endpoint history (as ++ bs) ↔
      Answered endpoint history as ∧ Answered endpoint (history ++ as.map Prod.fst) bs := by
  induction as generalizing history with
  | nil => simp [Answered]
  | cons a as ih => simp [Answered, ih, and_assoc]

section Talk

variable {endpoint : Endpoint} {session : String} {steps : List PageStep}

theorem answered_talk (endpoint : Endpoint) (session : String) (steps : List PageStep)
    (history : List Request) (f : Findings) :
    Answered endpoint history (talk endpoint session history f steps).1 := by
  induction steps generalizing history f with
  | nil => trivial
  | cons step rest ih =>
      simp only [talk]
      split
      · exact ⟨rfl, trivial⟩
      · exact ⟨rfl, ih _ _⟩

/-- Two endpoints give the same replies, except to the request that ends a session. -/
def SameButForDelete (endpoint endpoint' : Endpoint) : Prop :=
  ∀ history request, request.method ≠ .delete →
    endpoint' (history ++ [request]) = endpoint (history ++ [request])

theorem SameButForDelete.answer {endpoint' : Endpoint} (h : SameButForDelete endpoint endpoint')
    {history : List Request} {request : Request} (hmethod : request.method ≠ .delete) :
    Remote.answer endpoint' history request = Remote.answer endpoint history request := by
  unfold Remote.answer
  rw [h history request hmethod]

theorem SameButForDelete.talk {endpoint' : Endpoint} (h : SameButForDelete endpoint endpoint')
    (history : List Request) (f : Findings) :
    talk endpoint' session history f steps = talk endpoint session history f steps := by
  induction steps generalizing history f with
  | nil => rfl
  | cons step rest ih =>
      simp only [GrammarBench.talk, h.answer (step.method_command session f.refs), ih]

/-- The elements are those that the replies to the steps gave back. -/
def GivenBack (refs : String → String) (steps : List PageStep) (asked : List Asked) : Prop :=
  ∀ id a value ref, (PageStep.find id, a) ∈ steps.zip asked → a.2.Gives value →
    value.member? elementKey = some (.str ref) → refs id = ref

/-- Each area that is read has a reply with a value, of which the text is that of the area. -/
def ReadOut (texts : String → String) (steps : List PageStep) (asked : List Asked) : Prop :=
  ∀ id, .read id ∈ steps → ∃ a value, (PageStep.read id, a) ∈ steps.zip asked
    ∧ a.2.Gives value ∧ texts id = areaText value

theorem givenBack_nil {refs : String → String} {steps : List PageStep} :
    GivenBack refs steps [] := by
  intro id a value ref h
  rw [List.zip_nil_right] at h
  cases h

theorem GivenBack.cons {refs : String → String} {step : PageStep} {asked : List Asked}
    {a : Asked} (h : GivenBack refs steps asked)
    (hstep : ∀ id value ref, step = .find id → a.2.Gives value →
      value.member? elementKey = some (.str ref) → refs id = ref) :
    GivenBack refs (step :: steps) (a :: asked) := by
  intro id b value ref hmem hgives href
  rw [List.zip_cons_cons] at hmem
  rcases List.mem_cons.mp hmem with heq | hmem
  · obtain ⟨hfind, rfl⟩ := Prod.mk.inj heq
    exact hstep id value ref hfind.symm hgives href
  · exact h id b value ref hmem hgives href

theorem ReadOut.cons {texts : String → String} {step : PageStep} {asked : List Asked} {a : Asked}
    (h : ReadOut texts steps asked)
    (hstep : ∀ id, step = .read id → ∃ value, a.2.Gives value ∧ texts id = areaText value) :
    ReadOut texts (step :: steps) (a :: asked) := by
  intro id hmem
  rw [List.zip_cons_cons]
  rcases List.mem_cons.mp hmem with heq | hmem
  · obtain ⟨value, hgives, htext⟩ := hstep id heq.symm
    exact ⟨a, value, List.mem_cons.mpr (.inl (by rw [heq])), hgives, htext⟩
  · obtain ⟨b, value, hb, hgives, htext⟩ := h id hmem
    exact ⟨b, value, List.mem_cons_of_mem _ hb, hgives, htext⟩

/-- **The run of some steps is a conversation**, with the elements that were given back in the course
of it. It ends well when no command fails, and else with the failure of the one that does.

The elements are known only at the end, but the commands are sent on the way. Both agree since no
step finds an element again that was used before it. -/
theorem talk_spec (endpoint : Endpoint) (session : String)
    (hsteps : steps.Pairwise PageStep.LeavesAlone) (history : List Request) (f : Findings) :
    ∃ refs failed,
      Conversation (steps.map (·.command session refs))
        (talk endpoint session history f steps).1 failed
      ∧ GivenBack refs steps (talk endpoint session history f steps).1
      ∧ (∀ id, .find id ∉ steps → refs id = f.refs id)
      ∧ match (talk endpoint session history f steps).2 with
        | .ok found => failed = none
          ∧ ReadOut found.texts steps (talk endpoint session history f steps).1
          ∧ ∀ id, .read id ∉ steps → found.texts id = f.texts id
        | .error failure => ∃ c text, failed = some c ∧ failure = .remote c.name text := by
  -- on the steps: what was found by the first of them is where the others start
  induction steps generalizing history f with
  | nil =>
      exact ⟨f.refs, none, .ends, by simp [GivenBack, talk], fun _ _ => rfl, rfl,
        by simp [ReadOut, talk], fun _ _ => rfl⟩
  | cons step rest ih =>
      obtain ⟨hstep, hrest⟩ := List.pairwise_cons.mp hsteps
      rcases hread : (step.command session f.refs).read (Remote.answer endpoint history
        (step.command session f.refs).request) with failure | value
      · -- the step fails, and nothing comes after it
        have hfails := RemoteCommand.not_succeeds_of_read hread
        rw [talk_cons_of_error rfl hread]
        refine ⟨f.refs, some (step.command session f.refs), .fails _ _ hfails,
          givenBack_nil.cons ?_, fun _ _ => rfl, ?_⟩
        · rintro id value ref rfl hgives href
          refine absurd ⟨value, hgives, ?_⟩ hfails
          rintro _ _ ⟨⟩
          exact ⟨ref, href⟩
        · obtain ⟨text, htext⟩ := RemoteCommand.read_eq_error hread
          exact ⟨_, text, rfl, htext⟩
      · -- the step succeeds; what it found is not found again
        obtain ⟨hgives, hwanted⟩ := RemoteCommand.read_eq_ok.mp hread
        obtain ⟨refs, failed, hconv, hback, hrefs, hend⟩ := ih hrest
          (history ++ [(step.command session f.refs).request]) (step.note f value)
        have hlater : ∀ id, step.target? = some id → .find id ∉ rest := by
          intro id htarget hmem
          exact (hstep _ hmem).1 id htarget rfl
        -- the command is sent with what is known now, and told with what is known at the end
        have hcommand : step.command session f.refs = step.command session refs := by
          apply PageStep.command_congr
          intro id htarget hne
          rw [hrefs id (hlater id htarget), PageStep.note_refs hne]
        rw [talk_cons_of_ok rfl hread]
        refine ⟨refs, failed, ?_, hback.cons ?_, ?_, ?_⟩
        · have hsucceeds : (step.command session f.refs).Succeeds _ := ⟨value, hgives, hwanted⟩
          rw [List.map_cons, ← hcommand]
          exact .goes_on hsucceeds hconv
        · rintro id value' ref rfl hgives' href
          obtain rfl := hgives.unique hgives'
          rw [hrefs id (hlater id rfl), PageStep.note_find, textAt_eq href]
        · intro id hid
          rw [List.mem_cons, not_or] at hid
          obtain ⟨hne, hid⟩ := hid
          rw [hrefs id hid, PageStep.note_refs (Ne.symm hne)]
        · dsimp only
          generalize (talk endpoint session (history ++ [(step.command session f.refs).request])
            (step.note f value) rest) = later at hend ⊢
          rcases later with ⟨asked, failure | found⟩
          · exact hend
          obtain ⟨hnone, hread, htexts⟩ := hend
          refine ⟨hnone, hread.cons ?_, ?_⟩
          · rintro id rfl
            have hid : .read id ∉ rest := fun hmem => (hstep _ hmem).2 id rfl rfl
            exact ⟨value, hgives, by rw [htexts id hid, PageStep.note_read]⟩
          · intro id hid
            rw [List.mem_cons, not_or] at hid
            obtain ⟨hne, hid⟩ := hid
            rw [htexts id hid, PageStep.note_texts (Ne.symm hne)]

end Talk

end GrammarBench
