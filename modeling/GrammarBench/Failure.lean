import GrammarBench.IoFault

/-!
# Failures

What ends a run of the bench before there is a result. Messages of the grammar tool and the error
output of a driver are results, not failures. A failure that says that the environment lacks
something makes the run skipped, every other failure makes it faulty.
-/

namespace GrammarBench

inductive Failure where
  /-- A file or a pipe could not be read or written. -/
  | io (fault : IoFault)
  | serialization
  /-- The configuration file could not be read; the text shows where. -/
  | configText (text : String)
  /-- No driver can be made from the given names. -/
  | synthesis (text : String)
  | missingProperty (name : String)
  /-- The host cannot run the case. -/
  | unavailable (text : String)
  | spawn (program : String) (fault : IoFault)
  | remote (command : String) (text : String)
  | server (text : String)
  | invalidConfig (text : String)
  | internal (text : String)
deriving Repr, DecidableEq

namespace Failure

def message : Failure → String
  | io fault => "IO error: " ++ fault.message
  | serialization => "Serialization error"
  | configText text => "Config parse error: " ++ text
  | synthesis text => "Driver synthesis error: " ++ text
  | missingProperty name => "Missing system property: " ++ name
  | unavailable text => "Environment unavailable: " ++ text
  | spawn program fault => "Failed to spawn " ++ program ++ ": " ++ fault.message
  | remote command text => "WebDriver error during " ++ command ++ ": " ++ text
  | server text => "Static server error: " ++ text
  | invalidConfig text => "Invalid configuration: " ++ text
  | internal text => "Internal error: " ++ text

/-- The run is to be reported as skipped, since the environment lacks something. -/
def isSkip : Failure → Bool
  | unavailable _ => true
  | missingProperty _ => true
  | _ => false

/-- The cause that lies behind a failure, in its own words. -/
def cause? : Failure → Option String
  | io fault => some fault.message
  | configText text => some text
  | spawn _ fault => some fault.message
  | _ => none

/-- The failure with the cause behind it: what a user is told when the run is aborted. -/
def fullMessage (f : Failure) : String :=
  match f.cause? with
  | some cause => f.message ++ ": " ++ cause
  | none => f.message

end Failure

end GrammarBench
