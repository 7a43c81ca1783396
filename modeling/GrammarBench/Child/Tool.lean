import GrammarBench.Child.Basic
import GrammarBench.Compile
import GrammarBench.Config.Basic
import GrammarBench.Diagnostic.Line

/-!
# The grammar tool as a program

The tool is a program that prints its messages line by line on either channel. The lines are queued
in the order in which they arrive, whichever channel carries them. A tool that ends badly without
having reported an error gets one in its name, so that a bad end never looks like a clean run.
-/

namespace GrammarBench

/-- Splits bytes into lines, each with its line feed; what follows the last line feed is a line
too, unless it is empty. -/
def byteLines (line : List UInt8) : List UInt8 → List (List UInt8)
  | [] => if line.isEmpty then [] else [line.reverse]
  | b :: bs => if b = 10 then (b :: line).reverse :: byteLines [] bs else byteLines (b :: line) bs

/-- A line without its line feed and without a carriage return before that. -/
def trimLineEnd (line : List Char) : List Char :=
  match line.reverse with
  | '\n' :: '\r' :: rest => rest.reverse
  | '\n' :: rest => rest.reverse
  | _ => line

/-- The text of a line of bytes, which has to be UTF-8 up to and with its line feed. -/
def lineText (line : List UInt8) : Except Failure String :=
  match Text.decodeStrict line with
  | .ok text => .ok (String.ofList (trimLineEnd text.toList))
  | .error fault => .error (.io (.brokenLine fault))

namespace ChildRun

def lines (run : ChildRun) (channel : Channel) : List (List UInt8) :=
  byteLines [] (run.bytes channel)

/-- The turns in which the channels of a child are read. The host tells them first; then they go by
the writes, one turn for each line feed; and last each channel has as many as its lines and its end
take. -/
def turns (run : ChildRun) (ready : List Channel) : List Channel :=
  ready ++ run.writes.flatMap (fun (channel, content) => List.replicate (content.count 10) channel)
    ++ List.replicate ((run.lines .stdout).length + 1) .stdout
    ++ List.replicate ((run.lines .stderr).length + 1) .stderr

end ChildRun

/-- How far a tool was heard: the lines that are still to come on each channel, unless the channel
has ended, and the queue so far. -/
structure Hearing where
  stdout : Option (List (List UInt8))
  stderr : Option (List (List UInt8))
  queue : DiagnosticQueue
deriving Repr, DecidableEq

namespace Hearing

def start (run : ChildRun) (queue : DiagnosticQueue) : Hearing where
  stdout := some (run.lines .stdout)
  stderr := some (run.lines .stderr)
  queue

def pending (h : Hearing) : Channel → Option (List (List UInt8))
  | .stdout => h.stdout
  | .stderr => h.stderr

def withPending (h : Hearing) (channel : Channel) (lines : Option (List (List UInt8))) : Hearing :=
  match channel with
  | .stdout => { h with stdout := lines }
  | .stderr => { h with stderr := lines }

/-- One turn of a channel: its next line is read, or it ends. A channel that has ended is passed
over, and a line that is not a text ends the hearing. -/
def turn (h : Hearing) (channel : Channel) : Except Failure Hearing :=
  match h.pending channel with
  | none => .ok h
  | some [] => .ok (h.withPending channel none)
  | some (line :: rest) => do
    let text ← lineText line
    let heard := h.withPending channel (some rest)
    return { heard with queue := h.queue.append (Diagnostic.ofLine? text).toList }

def listen (h : Hearing) : List Channel → Hearing × Option Failure
  | [] => (h, none)
  | channel :: rest =>
    match h.turn channel with
    | .ok h => h.listen rest
    | .error failure => (h, some failure)

end Hearing

namespace DiagnosticQueue

/-- The queue after the end of the tool: a bad end is an error, unless there is one already. -/
def close (q : DiagnosticQueue) (program : String) (ending : Ending) : DiagnosticQueue :=
  if ending.isSuccess || q.hasErrors then q
  else q.push (.plain .error (program ++ " exited with " ++ ending.display))

end DiagnosticQueue

/-- The program of the grammar tool, with the arguments that come before the options. -/
structure CommandTool where
  program : String
  arguments : List String
deriving Repr, DecidableEq

namespace CommandTool

def ofConfig (config : HarnessConfig) : Except Failure CommandTool := do
  let (program, arguments) ← config.tool
  return { program, arguments }

def display (t : CommandTool) : String :=
  "CommandTool \x7b program: " ++ Text.quoted t.program ++ ", args: " ++
    Text.quotedList t.arguments ++ " \x7d"

def command (t : CommandTool) (options : List String) : Command where
  program := t.program
  arguments := t.arguments ++ options
  environment := []
  directory := none

def process (t : CommandTool) (launch : Launcher) (options : List String)
    (queue : DiagnosticQueue) : StateM Host (DiagnosticQueue × Option Failure) := do
  match ← launch (t.command options) with
  | .error fault => return (queue, some (.spawn t.program fault))
  | .ok run =>
    let h ← get
    match (Hearing.start run queue).listen (run.turns h.ready) with
    | (heard, none) => return (heard.queue.close t.program run.ending, none)
    | (heard, some failure) => return (heard.queue, some failure)

def grammarTool (t : CommandTool) (launch : Launcher) : GrammarTool :=
  ⟨t.process launch⟩

end CommandTool

end GrammarBench
