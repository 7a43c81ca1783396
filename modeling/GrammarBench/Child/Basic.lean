import GrammarBench.Host

/-!
# Child programs

What a program is started with, what it does as far as the bench can see it, and how the bench
collects it. A child is seen through what it writes on its two channels, in order, and through how
it ends. Its output is the concatenation of its writes: where one write ends and the next begins
cannot be seen in a result.
-/

namespace GrammarBench

/-- A program with all that it is started with. -/
structure Command where
  program : String
  arguments : List String
  /-- The variables that are set besides those of the bench. -/
  environment : List (String × String)
  /-- The working directory, if it is not that of the bench. -/
  directory : Option Path
deriving Repr, DecidableEq

/-- What the program finds on its input. The bench connects none, so it comes to an end at once. -/
def Command.stdin (_command : Command) : List UInt8 := []

inductive Ending where
  | exit (status : Nat)
  | signal (number : Nat)
deriving Repr, DecidableEq

namespace Ending

/-- The names of the signals, from number one. -/
def signalNames : List String :=
  ["SIGHUP", "SIGINT", "SIGQUIT", "SIGILL", "SIGTRAP", "SIGABRT", "SIGBUS", "SIGFPE", "SIGKILL",
    "SIGUSR1", "SIGSEGV", "SIGUSR2", "SIGPIPE", "SIGALRM", "SIGTERM", "SIGSTKFLT", "SIGCHLD",
    "SIGCONT", "SIGSTOP", "SIGTSTP", "SIGTTIN", "SIGTTOU", "SIGURG", "SIGXCPU", "SIGXFSZ",
    "SIGVTALRM", "SIGPROF", "SIGWINCH", "SIGIO", "SIGPWR", "SIGSYS"]

def isSuccess : Ending → Bool
  | exit status => status == 0
  | signal _ => false

def status? : Ending → Option Nat
  | exit status => some status
  | signal _ => none

def signal? : Ending → Option Nat
  | exit _ => none
  | signal number => some number

def display : Ending → String
  | exit status => "exit status: " ++ toString status
  | signal number =>
    "signal: " ++ toString number ++
      match number with
      | 0 => ""
      | n + 1 =>
        match signalNames[n]? with
        | some name => " (" ++ name ++ ")"
        | none => ""

end Ending

/-- What a child did: its writes in order, and its end. -/
structure ChildRun where
  writes : List (Channel × List UInt8)
  ending : Ending
deriving Repr, DecidableEq

namespace ChildRun

def bytes (r : ChildRun) (channel : Channel) : List UInt8 :=
  (r.writes.filter (·.1 == channel)).flatMap (·.2)

end ChildRun

/-- What starts programs on a host. A program that cannot be started gives a fault. -/
abbrev Launcher := Command → StateM Host (Except IoFault ChildRun)

/-- What comes of reading from a channel: bytes, or a fault of the channel. -/
inductive Chunk where
  | bytes (content : List UInt8)
  | fault (text : String)
deriving Repr, DecidableEq

/-- Reads a channel to its end: the text of all its bytes, where each broken piece gives one
replacement character, or the first fault. -/
def drainFrom (seen : List UInt8) : List Chunk → Except Failure String
  | [] => .ok (Text.decodeLossy seen)
  | .bytes content :: rest => drainFrom (seen ++ content) rest
  | .fault text :: _ => .error (.io (.other text))

def drain (chunks : List Chunk) : Except Failure String :=
  drainFrom [] chunks

namespace ChildRun

/-- A child with both channels connected to the bench. -/
structure Captured where
  run : ChildRun
deriving Repr, DecidableEq

/-- Takes hold of a child; a channel that is not connected to the bench is a fault of the bench. -/
def attach (run : ChildRun) (stdoutPiped stderrPiped : Bool) : Except Failure Captured :=
  if !stdoutPiped then .error (.internal "child stdout is not piped")
  else if !stderrPiped then .error (.internal "child stderr is not piped")
  else .ok ⟨run⟩

def chunks (r : ChildRun) (channel : Channel) : List Chunk :=
  (r.writes.filter (·.1 == channel)).map fun (_, content) => .bytes content

/-- Waits for the end of a child and of both its channels. -/
def Captured.wait (c : Captured) : HostAction (Ending × ExecutionResult) := do
  let stdout ← drain (c.run.chunks .stdout)
  let stderr ← drain (c.run.chunks .stderr)
  return (c.run.ending, ← Host.resultOfChannels stdout stderr)

end ChildRun

end GrammarBench
