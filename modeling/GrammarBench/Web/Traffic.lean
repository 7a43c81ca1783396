import GrammarBench.Json.Basic

/-!
# Traffic

What the bench does on the network: it opens and closes a port for pages, and it asks a remote
endpoint for things. The record of this is kept in order, so that it can be told what was asked
while which port was open.
-/

namespace GrammarBench

inductive Method where
  | get
  | post
  | delete
deriving Repr, DecidableEq

def Method.word : Method → String
  | get => "GET"
  | post => "POST"
  | delete => "DELETE"

/-- A request to the remote endpoint, with the address as the bench builds it. -/
structure Request where
  method : Method
  url : String
  body : Option Json
deriving Repr

inductive Reply where
  /-- Nothing: the endpoint cannot be reached, or it goes away without an answer. -/
  | lost
  | response (status : Nat) (body : List UInt8)
deriving Repr, DecidableEq

inductive ServerEnd where
  | stopped
  /-- Serving came to an end by a fault. -/
  | failed (text : String)
  /-- The task that serves was broken off. -/
  | broken (text : String)
deriving Repr, DecidableEq

inductive Traffic where
  | opened (port : Nat)
  | asked (request : Request) (reply : Reply)
  | closed (port : Nat)
deriving Repr

def Traffic.request? : Traffic → Option Request
  | asked request _ => some request
  | _ => none

/-- A remote endpoint: how it replies to the last of the requests so far, in order. -/
abbrev Endpoint := List Request → Reply

end GrammarBench
