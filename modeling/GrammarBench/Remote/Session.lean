import GrammarBench.Host
import GrammarBench.Json.Document
import GrammarBench.Web.Status
import GrammarBench.Web.Url

/-!
# Remote-control sessions

A browser is controlled through an endpoint that takes commands as requests with JSON and wraps
what it gives back as the member `value` of a document. A command fails when no reply comes, when
the reply is no document, or when its status does not grant the command.
-/

namespace GrammarBench

/-- The member under which an element is given back. -/
def elementKey : String := "element-6066-11e4-a52e-4f735466cecf"

namespace Remote

/-- Asks the endpoint for something and records what came of it. -/
def ask (endpoint : Endpoint) (request : Request) (reachable : Bool) : HostAction Reply := do
  let h ← get
  let history := h.traffic.filterMap Traffic.request? ++ [request]
  let reply := if reachable then endpoint history else .lost
  set { h with traffic := h.traffic ++ [Traffic.asked request reply] }
  return reply

def valueOf (document : Json) : Json :=
  (document.member? "value").getD .null

def refusal (status : Nat) (value : Json) : String :=
  let error := ((value.member? "error").bind Json.text?).getD "unknown error"
  let message := ((value.member? "message").bind Json.text?).getD ""
  error ++ " (" ++ statusText status ++ "): " ++ message

/-- The value that a reply gives, or the words for why it gives none. -/
def readReply (url : String) : Reply → Except String Json
  | .lost => .error ("error sending request for url (" ++ url ++ ")")
  | .response status body =>
    match Json.readBytes body with
    | none =>
      .error ("unreadable reply (" ++ statusText status ++ "): error decoding response body")
    | some document =>
      let value := valueOf document
      if isGranted status then .ok value else .error (refusal status value)

/-- Runs a command and gives its value. An address that cannot be read, or that cannot be asked,
fails without reaching the endpoint. Messages show addresses without credentials. -/
def send (endpoint : Endpoint) (command : String) (request : Request) : HostAction Json := do
  match (Url.parse? request.url).map Url.withoutCredentials with
  | none =>
    let _ ← ask endpoint request false
    throw (.remote command "builder error")
  | some url =>
    let reply ← ask endpoint request url.isAskable
    if !url.isAskable then
      throw (.remote command ("builder error for url (" ++ url.text ++ ")"))
    match readReply url.text reply with
    | .ok value => return value
    | .error words => throw (.remote command words)

/-- The text that a value holds under a name, or a failure that shows the value. -/
def textUnder (name command complaint : String) (value : Json) : HostAction String :=
  match (value.member? name).bind Json.text? with
  | some text => return text
  | none => throw (.remote command (complaint ++ value.text))

end Remote

structure Session where
  endpoint : Endpoint
  /-- The address of the endpoint, without slashes at its end. -/
  base : String
  id : String

namespace Session

open Remote

def trimSlashes (s : String) : String :=
  String.ofList (s.toList.reverse.dropWhile (· == '/')).reverse

def capabilities (browserName : String) : Json :=
  .obj [("capabilities", .obj [("alwaysMatch", .obj [("browserName", .str browserName)])])]

def create (endpoint : Endpoint) (address browserName : String) : HostAction Session := do
  let base := trimSlashes address
  let command := "new session"
  let value ← send endpoint command ⟨.post, base ++ "/session", some (capabilities browserName)⟩
  let id ← textUnder "sessionId" command "no sessionId in reply: " value
  return { endpoint, base, id }

def command (s : Session) (method : Method) (path : String) (body : Option Json) (name : String) :
    HostAction Json :=
  send s.endpoint name ⟨method, s.base ++ "/session/" ++ s.id ++ path, body⟩

def navigate (s : Session) (url : String) : HostAction Unit := do
  let _ ← s.command .post "/url" (some (.obj [("url", .str url)])) "navigate"

def findElement (s : Session) (id : String) : HostAction String := do
  let name := "find element #" ++ id
  let body := Json.obj [("using", .str "css selector"), ("value", .str ("#" ++ id))]
  let value ← s.command .post "/element" (some body) name
  textUnder elementKey name "no element reference in reply: " value

def sendKeys (s : Session) (element text : String) : HostAction Unit := do
  let body := Json.obj [("text", .str text)]
  let _ ← s.command .post ("/element/" ++ element ++ "/value") (some body) "send keys"

def click (s : Session) (element : String) : HostAction Unit := do
  let _ ← s.command .post ("/element/" ++ element ++ "/click") (some (.obj [])) "click"

/-- The text of a property's value: none for null, a string as it is, and else the JSON text. -/
def propertyText : Json → Option String
  | .null => none
  | .str s => some s
  | value => some value.text

def property (s : Session) (element name : String) : HostAction (Option String) := do
  let path := "/element/" ++ element ++ "/property/" ++ name
  return propertyText (← s.command .get path none "element property")

def close (s : Session) : HostAction Unit := do
  let _ ← s.command .delete "" none "delete session"

end Session

end GrammarBench
