import GrammarBench.Proofs.Host
import GrammarBench.Remote.Session

/-!
# Commands and replies

A command is a request with a name and, for some commands, the member that its value has to hold as
a text. It succeeds for the replies that `RemoteCommand.Succeeds` tells, and what becomes of it is a
function of the reply alone (`RemoteCommand.read`). `Conversation` is the way in which commands are
sent one after the other: each of them once and in their order, up to the first one that fails.
-/

namespace GrammarBench

/-- A request that was tried, with what came of it. -/
abbrev Asked := Request × Reply

/-! ## What is asked -/

namespace Host

def requests (h : Host) : List Request :=
  h.traffic.filterMap Traffic.request?

def asking (h : Host) (asked : List Asked) : Host :=
  { h with traffic := h.traffic ++ asked.map fun a => .asked a.1 a.2 }

variable (h : Host)

@[simp] theorem asking_nil : h.asking [] = h := by simp [asking]

@[simp] theorem asking_asking (as bs : List Asked) :
    (h.asking as).asking bs = h.asking (as ++ bs) := by simp [asking]

@[simp] theorem requests_asking (asked : List Asked) :
    (h.asking asked).requests = h.requests ++ asked.map Prod.fst := by
  have hrequests : (asked.map fun a => Traffic.asked a.1 a.2).filterMap Traffic.request?
      = asked.map Prod.fst := by
    induction asked with
    | nil => rfl
    | cons a asked ih => simpa [Traffic.request?] using ih
  simp [requests, asking, hrequests]

end Host

/-- A reply grants a command and gives it a value: its status is one of success, and its body is a
document, of which the value is the member with that name, or null. -/
def Reply.Gives (reply : Reply) (value : Json) : Prop :=
  ∃ status body document, reply = .response status body ∧ 200 ≤ status ∧ status ≤ 299
    ∧ Json.readBytes body = some document ∧ value = (document.member? "value").getD .null

theorem Reply.Gives.unique {reply : Reply} {value value' : Json} (h : reply.Gives value)
    (h' : reply.Gives value') : value = value' := by
  obtain ⟨status, body, document, hreply, -, -, hdocument, rfl⟩ := h
  obtain ⟨status', body', document', hreply', -, -, hdocument', rfl⟩ := h'
  rw [hreply] at hreply'
  obtain ⟨rfl, rfl⟩ := Reply.response.inj hreply'
  rw [hdocument] at hdocument'
  rw [Option.some.inj hdocument']

namespace Remote

/-- The address of a request, if it is one that can be asked, or the words for why it is none. -/
def addressOf (request : Request) : Except String Url :=
  match (Url.parse? request.url).map Url.withoutCredentials with
  | none => .error "builder error"
  | some url =>
    if url.isAskable then .ok url else .error ("builder error for url (" ++ url.text ++ ")")

/-- The reply to a request after those so far. An address that cannot be asked gets none. -/
def answer (endpoint : Endpoint) (history : List Request) (request : Request) : Reply :=
  match addressOf request with
  | .ok _ => endpoint (history ++ [request])
  | .error _ => .lost

/-- What a command makes of the reply to its request. -/
def valueOrFailure (name : String) (request : Request) (reply : Reply) : Except Failure Json :=
  match addressOf request with
  | .ok url => (readReply url.text reply).mapError (.remote name)
  | .error words => .error (.remote name words)

theorem runOn_send (endpoint : Endpoint) (name : String) (request : Request) (h : Host) :
    (send endpoint name request).runOn h =
      (valueOrFailure name request (answer endpoint h.requests request),
        h.asking [(request, answer endpoint h.requests request)]) := by
  have hask : ∀ reachable, (ask endpoint request reachable).runOn h =
      (.ok (if reachable then endpoint (h.requests ++ [request]) else .lost),
        h.asking [(request, if reachable then endpoint (h.requests ++ [request]) else .lost)]) :=
    fun _ => rfl
  unfold send valueOrFailure answer addressOf
  rcases (Url.parse? request.url).map Url.withoutCredentials with _ | url
  · dsimp only
    rw [runOn_bind, hask]
    rfl
  · dsimp only
    rw [runOn_bind, hask]
    cases hurl : url.isAskable with
    | false => rfl
    | true =>
        simp only [Bool.not_true, Bool.false_eq_true, if_false, if_true]
        rcases readReply url.text (endpoint (h.requests ++ [request])) with words | value <;> rfl

theorem readReply_eq_ok {url : String} {reply : Reply} {value : Json} :
    readReply url reply = .ok value ↔ reply.Gives value := by
  constructor
  · intro h
    rcases reply with _ | ⟨status, body⟩
    · cases h
    simp only [readReply] at h
    rcases hdocument : Json.readBytes body with _ | document
    · simp [hdocument] at h
    rw [hdocument] at h
    dsimp only at h
    split at h
    · rename_i hgranted
      have hstatus : 200 ≤ status ∧ status < 300 := by simpa [isGranted] using hgranted
      exact ⟨status, body, document, rfl, hstatus.1, Nat.lt_succ_iff.mp hstatus.2, hdocument,
        (Except.ok.inj h).symm⟩
    · cases h
  · rintro ⟨status, body, document, rfl, hlow, hhigh, hdocument, rfl⟩
    have hgranted : isGranted status = true := by simp [isGranted, hlow, Nat.lt_succ_iff.mpr hhigh]
    simp [readReply, hdocument, hgranted, valueOf]

/-- A command is granted exactly when the reply gives it a value. -/
theorem valueOrFailure_eq_ok {endpoint : Endpoint} {history : List Request} {name : String}
    {request : Request} {value : Json} :
    valueOrFailure name request (answer endpoint history request) = .ok value ↔
      (answer endpoint history request).Gives value := by
  unfold valueOrFailure answer
  cases addressOf request with
  | error words => simp [Reply.Gives]
  | ok url =>
      dsimp only
      rw [← readReply_eq_ok]
      cases readReply url.text (endpoint (history ++ [request])) <;> simp [Except.mapError]

theorem valueOrFailure_eq_error {name : String} {request : Request} {reply : Reply}
    {failure : Failure} (h : valueOrFailure name request reply = .error failure) :
    ∃ text, failure = .remote name text := by
  unfold valueOrFailure at h
  cases haddress : addressOf request with
  | error words =>
      rw [haddress] at h
      exact ⟨words, (Except.error.inj h).symm⟩
  | ok url =>
      rw [haddress] at h
      dsimp only at h
      cases hreply : readReply url.text reply with
      | error words =>
          rw [hreply] at h
          exact ⟨words, (Except.error.inj h).symm⟩
      | ok value =>
          rw [hreply] at h
          cases h

end Remote

/-! ## Commands -/

/-- A request with the name of its command. The value may have to hold a text under a name; the
complaint is what is said of a value that holds none. -/
structure RemoteCommand where
  name : String
  request : Request
  wanted : Option (String × String)

namespace RemoteCommand

/-- The command succeeds with a reply: it gives a value, with the text in it that is wanted. -/
def Succeeds (c : RemoteCommand) (reply : Reply) : Prop :=
  ∃ value, reply.Gives value
    ∧ ∀ member complaint, c.wanted = some (member, complaint) →
      ∃ text, value.member? member = some (.str text)

/-- A value with the text that is wanted, or a failure that shows the value. -/
def check (c : RemoteCommand) (value : Json) : Except Failure Json :=
  match c.wanted with
  | none => .ok value
  | some (member, complaint) =>
    if ((value.member? member).bind Json.text?).isSome then .ok value
    else .error (.remote c.name (complaint ++ value.text))

/-- The value of a command for the reply to its request. -/
def read (c : RemoteCommand) (reply : Reply) : Except Failure Json :=
  Remote.valueOrFailure c.name c.request reply >>= c.check

variable {c : RemoteCommand} {endpoint : Endpoint} {history : List Request}

theorem isSome_text? {found : Option Json} :
    (found.bind Json.text?).isSome = true ↔ ∃ text, found = some (.str text) := by
  rcases found with _ | value
  · simp
  · cases value <;> simp [Json.text?]

theorem check_eq_ok {found value : Json} :
    c.check found = .ok value ↔ found = value
      ∧ ∀ member complaint, c.wanted = some (member, complaint) →
        ∃ text, value.member? member = some (.str text) := by
  unfold check
  rcases c.wanted with _ | ⟨member, complaint⟩
  · simp
  dsimp only
  constructor
  · intro h
    split at h
    · rename_i htext
      cases h
      refine ⟨rfl, ?_⟩
      rintro _ _ ⟨rfl, rfl⟩
      exact isSome_text?.mp htext
    · cases h
  · rintro ⟨rfl, htext⟩
    rw [if_pos (isSome_text?.mpr (htext member complaint rfl))]

/-- A command gives the value of the reply, if the wanted text is in it. -/
theorem read_eq_ok {value : Json} :
    c.read (Remote.answer endpoint history c.request) = .ok value ↔
      (Remote.answer endpoint history c.request).Gives value
        ∧ ∀ member complaint, c.wanted = some (member, complaint) →
          ∃ text, value.member? member = some (.str text) := by
  simp only [read, bind_eq_ok, Remote.valueOrFailure_eq_ok, check_eq_ok, and_left_comm,
    exists_eq_left]

theorem not_succeeds_of_read {failure : Failure}
    (h : c.read (Remote.answer endpoint history c.request) = .error failure) :
    ¬c.Succeeds (Remote.answer endpoint history c.request) := by
  rintro ⟨value, hvalue⟩
  rw [read_eq_ok.mpr hvalue] at h
  cases h

/-- A command that fails says so in its name. -/
theorem read_eq_error {reply : Reply} {failure : Failure} (h : c.read reply = .error failure) :
    ∃ text, failure = .remote c.name text := by
  unfold read at h
  rcases hvalue : Remote.valueOrFailure c.name c.request reply with f | value
  · rw [hvalue] at h
    cases h
    exact Remote.valueOrFailure_eq_error hvalue
  rw [hvalue, ok_bind] at h
  unfold check at h
  split at h
  · cases h
  · split at h
    · cases h
    · exact ⟨_, (Except.error.inj h).symm⟩

end RemoteCommand

/-! ## One command after the other -/

/-- Commands are sent in their order, each of them once, up to the first one that fails; this one is
told, if there is one. -/
inductive Conversation : List RemoteCommand → List Asked → Option RemoteCommand → Prop where
  | ends : Conversation [] [] none
  | fails (c : RemoteCommand) (rest : List RemoteCommand) {reply : Reply}
      (h : ¬c.Succeeds reply) : Conversation (c :: rest) [(c.request, reply)] (some c)
  | goes_on {c : RemoteCommand} {rest : List RemoteCommand} {reply : Reply} {asked : List Asked}
      {failed : Option RemoteCommand} (h : c.Succeeds reply)
      (hrest : Conversation rest asked failed) :
      Conversation (c :: rest) ((c.request, reply) :: asked) failed

namespace Conversation

variable {commands : List RemoteCommand} {asked : List Asked} {failed : Option RemoteCommand}

/-- Nothing failed exactly when each command was sent and succeeded. -/
theorem failed_eq_none (h : Conversation commands asked failed) :
    failed = none ↔ asked.length = commands.length
      ∧ ∀ pair ∈ commands.zip asked, pair.1.Succeeds pair.2.2 := by
  induction h with
  | ends => simp
  | fails c rest h => simp [h]
  | goes_on h hrest ih => simp [ih, h]

end Conversation

end GrammarBench
