import GrammarBench.Host
import GrammarBench.Web.Site

/-!
# The page server

Browsers do not load pages from the file system, so the staging area is shown as a site on a port
of this host, with the shared runtime behind it. A port serves one site at a time.
-/

namespace GrammarBench

/-- A site that is being shown on a port. -/
structure PageServer where
  port : Nat
  site : Site
deriving Repr, DecidableEq

namespace PageServer

def address (port : Nat) : String :=
  "127.0.0.1:" ++ toString port

/-- The ports that are given out when no port is asked for. -/
def freePorts : List Nat :=
  (List.range 28232).map (· + 32768)

/-- The port for a server: the one that is asked for, or, for zero, one that nobody uses. -/
def choosePort (taken : List Nat) (port : Nat) : Option Nat :=
  if port = 0 then freePorts.find? (!taken.contains ·)
  else if taken.contains port then none
  else some port

/-- The port that a server gets on a host, or why it gets none. -/
def bind (h : Host) (port : Nat) : Except IoFault Nat :=
  match h.bindFault with
  | some fault => .error fault
  | none =>
    match choosePort h.ports port with
    | none => .error (.os 98)
    | some chosen => .ok chosen

def start (port : Nat) (site : Site) : HostAction PageServer := do
  let h ← get
  match bind h port with
  | .error fault =>
    throw (.server ("failed to bind " ++ address port ++ ": " ++ fault.message))
  | .ok chosen =>
    set { h with ports := chosen :: h.ports, traffic := h.traffic ++ [Traffic.opened chosen] }
    Host.logInfo ("Static server on http://" ++ address chosen ++ " serving " ++ site.primary ++
      " and " ++ site.fallback)
    return ⟨chosen, site⟩

def baseUrl (s : PageServer) : String :=
  "http://" ++ address s.port

/-- The address of a file of the site; slashes before its path do not count. -/
def urlFor (s : PageServer) (file : Path) : String :=
  s.baseUrl ++ "/" ++ String.ofList (file.toList.dropWhile (· == '/'))

def release (s : PageServer) : HostAction Unit :=
  modify fun h =>
    { h with ports := h.ports.erase s.port, traffic := h.traffic ++ [Traffic.closed s.port] }

/-- Stops a server. The port is given up however the server ends. -/
def stop (s : PageServer) : HostAction Unit := do
  Host.logInfo ("Stopping static server on " ++ address s.port)
  s.release
  match (← get).serverEnd with
  | .stopped => return ()
  | .failed text => throw (.server ("server failed: " ++ text))
  | .broken text => throw (.server ("server task failed: " ++ text))

def abandon (s : PageServer) : HostAction Unit := do
  Host.logWarn ("Aborting static server task on " ++ address s.port)
  s.release

end PageServer

end GrammarBench
