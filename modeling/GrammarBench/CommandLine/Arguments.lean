import GrammarBench.Backend
import GrammarBench.Path
import GrammarBench.Screen

/-!
# Arguments of the program

The program has three commands, and options before and after the name of the command. An option is
given at most once on each side; what is given after the name counts more. Arguments are read from
left to right, and the first that asks for the version or for help, or that cannot be, decides.
-/

namespace GrammarBench.CommandLine

/-- What the value of an option has to be. -/
inductive ValueKind where
  | absent
  | anyText
  /-- A path, which is not empty. -/
  | path
  | backend
  | format
deriving Repr, DecidableEq

def ValueKind.accepts : ValueKind → String → Bool
  | absent, _ => false
  | anyText, _ => true
  | path, text => !text.isEmpty
  | backend, text => (BackendKind.ofUserName text).isOk
  | format, text => (OutputFormat.ofName? text).isSome

def globalRules : List (String × ValueKind) :=
  [("config", .path), ("backend", .backend), ("format", .format), ("verbose", .absent)]

def lexRules : List (String × ValueKind) :=
  [("grammar", .path), ("lexer", .anyText), ("input", .anyText), ("input-file", .path),
    ("show-dfa", .absent), ("expect", .anyText)]

def parseRules : List (String × ValueKind) :=
  [("grammar", .path), ("lexer", .anyText), ("parser", .anyText), ("listener", .anyText),
    ("visitor", .anyText), ("start-rule", .anyText), ("input", .anyText), ("input-file", .path),
    ("debug", .absent), ("expect", .anyText)]

def renderRules : List (String × ValueKind) :=
  [("lexer", .anyText), ("parser", .anyText), ("listener", .anyText), ("visitor", .anyText),
    ("start-rule", .anyText), ("debug", .absent), ("show-dfa", .absent)]

inductive Stop where
  | refused
  | help
  | version
deriving Repr, DecidableEq

/-- The options that were given, with their values; those without a value have an empty one. -/
abbrev Given := List (String × String)

/-- Adds an option, which must not have been given before and needs a fitting value. -/
def addOption (rules : List (String × ValueKind)) (given : Given) (name : String)
    (value : Option String) : Except Stop Given :=
  if (given.lookup name).isSome then .error .refused
  else
    match rules.lookup name, value with
    | some .absent, none => .ok ((name, "") :: given)
    | some kind, some text =>
      if kind.accepts text then .ok ((name, text) :: given) else .error .refused
    | _, _ => .error .refused

def readShort (rules : List (String × ValueKind)) (given : Given) : List Char → Except Stop Given
  | [] => .ok given
  | 'v' :: rest => do readShort rules (← addOption rules given "verbose" none) rest
  | 'h' :: _ => .error .help
  | 'V' :: _ => .error .version
  | _ => .error .refused

/-- The name of an option after two dashes, and its value after an equals sign, if there is one. -/
def splitOption (cs : List Char) : String × Option String :=
  (String.ofList (cs.takeWhile (· != '=')),
    match cs.dropWhile (· != '=') with
    | [] => none
    | _ :: value => some (String.ofList value))

/-- The argument cannot be the value of the option before it. -/
def looksLikeOption (arg : String) : Bool :=
  arg.startsWith "-" && arg != "-"

/-- Reads options up to the first argument that is none, and gives that one and all after it. -/
def readOptions (rules : List (String × ValueKind)) (given : Given) :
    List String → Except Stop (Given × List String)
  | [] => .ok (given, [])
  | arg :: rest =>
    match arg.toList with
    | ['-', '-'] => if rest.isEmpty then .ok (given, []) else .error .refused
    | '-' :: '-' :: option =>
      match splitOption option with
      | ("help", none) => .error .help
      | ("version", none) => .error .version
      | (name, some value) => do readOptions rules (← addOption rules given name (some value)) rest
      | (name, none) =>
        if rules.lookup name == some .absent then do
          readOptions rules (← addOption rules given name none) rest
        else
          match rest with
          | value :: rest =>
            if looksLikeOption value then .error .refused
            else do readOptions rules (← addOption rules given name (some value)) rest
          | [] => .error .refused
    | '-' :: c :: letters => do readOptions rules (← readShort rules given (c :: letters)) rest
    | _ => .ok (given, arg :: rest)

structure InputChoice where
  text : Option String
  file : Option Path
deriving Repr, DecidableEq

structure LexTask where
  grammar : Path
  lexer : Option String
  input : InputChoice
  showDfa : Bool
  expect : Option String
deriving Repr, DecidableEq

structure ParseTask where
  grammar : Path
  lexer : Option String
  parser : Option String
  listener : Option String
  visitor : Option String
  startRule : String
  input : InputChoice
  debug : Bool
  expect : Option String
deriving Repr, DecidableEq

structure RenderTask where
  lexer : String
  parser : Option String
  listener : Option String
  visitor : Option String
  startRule : Option String
  debug : Bool
  showDfa : Bool
deriving Repr, DecidableEq

inductive Task where
  | lex (task : LexTask)
  | parse (task : ParseTask)
  | render (task : RenderTask)
deriving Repr, DecidableEq

structure Invocation where
  config : Option Path
  backend : BackendKind
  format : OutputFormat
  verbose : Bool
  task : Task
deriving Repr, DecidableEq

def need (given : Given) (name : String) : Except Stop String :=
  match given.lookup name with
  | some value => .ok value
  | none => .error .refused

def has (given : Given) (name : String) : Bool :=
  (given.lookup name).isSome

/-- The source of the input, of which exactly one has to be given. -/
def readInputChoice (given : Given) : Except Stop InputChoice :=
  if has given "input" == has given "input-file" then .error .refused
  else .ok ⟨given.lookup "input", given.lookup "input-file"⟩

def readLex (given : Given) : Except Stop Task := do
  return .lex {
    grammar := ← need given "grammar"
    lexer := given.lookup "lexer"
    input := ← readInputChoice given
    showDfa := has given "show-dfa"
    expect := given.lookup "expect" }

def readParse (given : Given) : Except Stop Task := do
  return .parse {
    grammar := ← need given "grammar"
    lexer := given.lookup "lexer"
    parser := given.lookup "parser"
    listener := given.lookup "listener"
    visitor := given.lookup "visitor"
    startRule := ← need given "start-rule"
    input := ← readInputChoice given
    debug := has given "debug"
    expect := given.lookup "expect" }

/-- The command that shows drivers with the given options: a parser needs a rule to start from,
what belongs to a parser needs one, and the automaton is that of a lexer alone. -/
def readRender (given : Given) : Except Stop Task := do
  let lexer ← need given "lexer"
  let ofParser := ["listener", "visitor", "start-rule", "debug"].any (has given)
  if has given "parser" != has given "start-rule" then throw .refused
  if ofParser && !has given "parser" then throw .refused
  if has given "show-dfa" && has given "parser" then throw .refused
  return .render {
    lexer
    parser := given.lookup "parser"
    listener := given.lookup "listener"
    visitor := given.lookup "visitor"
    startRule := given.lookup "start-rule"
    debug := has given "debug"
    showDfa := has given "show-dfa" }

/-- The options of a command, and how its task is read from them. -/
def commands : List (String × List (String × ValueKind) × (Given → Except Stop Task)) :=
  [("lex", lexRules, readLex), ("parse", parseRules, readParse),
    ("render", renderRules, readRender)]

/-- The name by which a command is known to those who ask for its version. -/
def versionName (command : Option String) : String :=
  match command with
  | some name => "gramtest-" ++ name
  | none => "gramtest"

/-- The command with the given options before and after its name. -/
def readInvocation (before after : Given) (readTask : Given → Except Stop Task) :
    Except Stop Invocation := do
  let given := after ++ before
  let task ← readTask after
  let backend? (name : String) : Option BackendKind := (BackendKind.ofUserName name).toOption
  return {
    config := given.lookup "config"
    backend := ((given.lookup "backend").bind backend?).getD .process
    format := ((given.lookup "format").bind OutputFormat.ofName?).getD .text
    verbose := has given "verbose"
    task }

/-- What a call for help comes to: help is given on the program, on a command and on help itself. -/
def readHelp : List String → Stop
  | [] => .help
  | "help" :: _ => .help
  | [name] => if (commands.lookup name).isSome then .help else .refused
  | _ => .refused

/-- Reads the arguments of the program. When there is no command to be run, the name of the command
that was being read comes with the reason. -/
def read (args : List String) : Except (Stop × Option String) Invocation :=
  match readOptions globalRules [] args with
  | .error stop => .error (stop, none)
  | .ok (_, []) => .error (.refused, none)
  | .ok (before, name :: rest) =>
    match commands.lookup name with
    | none => .error (if name == "help" then readHelp rest else .refused, none)
    | some (rules, readTask) =>
      match readOptions (rules ++ globalRules) [] rest with
      | .error stop => .error (stop, some name)
      | .ok (_, _ :: _) => .error (.refused, some name)
      | .ok (after, []) => (readInvocation before after readTask).mapError (·, some name)

end GrammarBench.CommandLine
