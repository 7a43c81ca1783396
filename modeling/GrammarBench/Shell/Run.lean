import GrammarBench.Child.Basic
import GrammarBench.Shell.Script

/-!
# Running scripts

The programs that a bench can start without leaving its host: the shell for scripts, and a few
small programs that the shell has too. What a program does follows from its command and from the
files alone, and it changes no file.
-/

namespace GrammarBench.Shell

/-- What a program sees when it runs. -/
structure Surroundings where
  tree : FileTree
  /-- Whether the file at a place may be run. -/
  executable : Location → Bool
  cwd : Location
  environment : List (String × String)
  stdin : List UInt8
  /-- The name under which the script was started, and its arguments. -/
  arguments : List String

/-- What a command writes, and the status that it leaves. -/
structure Effect where
  writes : List (Channel × List UInt8)
  status : Nat
deriving Repr, DecidableEq

namespace Effect

def silent (status : Nat) : Effect :=
  ⟨[], status⟩

def printed (text : String) : Effect :=
  ⟨[(.stdout, Text.utf8 text)], 0⟩

def complaint (text : String) (status : Nat) : Effect :=
  ⟨[(.stderr, Text.utf8 text)], status⟩

def andThen (a b : Effect) : Effect :=
  ⟨a.writes ++ b.writes, max a.status b.status⟩

def toStderr (e : Effect) : Effect :=
  { e with writes := e.writes.map fun (_, content) => (.stderr, content) }

end Effect

/-- The words for a fault of a file in a complaint. -/
def faultWords : IoFault → String
  | .os number => IoFault.osText number
  | fault => fault.message

/-- Characters that a shell would not take as they stand. -/
def isShellSpecial (c : Char) : Bool :=
  " !\"$&'()*;<=>?[\\^\x60|".toList.contains c

/-- A shell takes the characters of a word as they stand. -/
def isPlainWord : List Char → Bool
  | [] => false
  | c :: rest => c != '#' && c != '~' && (c :: rest).all (!isShellSpecial ·)

/-- A file's name as complaints show it: in quotes if a shell would not take it as it stands. -/
def shownName (path : Path) : String :=
  if isPlainWord path.toList then path else "'" ++ path.replace "'" "'\\''" ++ "'"

def catFiles (s : Surroundings) : List String → Effect
  | [] => .silent 0
  | path :: rest =>
    let first : Effect := match s.tree.read s.cwd path with
      | .ok content => ⟨[(.stdout, content)], 0⟩
      | .error fault => .complaint ("cat: " ++ shownName path ++ ": " ++ faultWords fault ++ "\n") 1
    first.andThen (catFiles s rest)

/-- Copies files, or the input when there are none. -/
def cat (s : Surroundings) (paths : List String) : Effect :=
  if paths.isEmpty then ⟨[(.stdout, s.stdin)], 0⟩ else catFiles s paths

/-- Prints the names in the working directory, in order, but for those that begin with a dot. -/
def ls (s : Surroundings) : Effect :=
  let names := (s.tree.below s.cwd).filterMap fun
    | ([name], _) => some name
    | _ => none
  let shown := (names.filter (!·.startsWith ".")).mergeSort fun a b => decide (a ≤ b)
  .printed (String.join (shown.map (· ++ "\n")))

/-- Fills a format once: `%s` stands for the next argument. The format has its backslash escapes.
Gives the text and the arguments that are left. -/
def fillFormat (args : List String) : List Char → List Char × List String
  | '%' :: 's' :: rest =>
    let (text, left) := fillFormat args.tail rest
    ((args.headD "").toList ++ text, left)
  | '\\' :: 'n' :: rest =>
    let (text, left) := fillFormat args rest
    ('\n' :: text, left)
  | c :: rest =>
    let (text, left) := fillFormat args rest
    (c :: text, left)
  | [] => ([], args)

/-- Fills a format again and again until all arguments are used; `fuel` bounds the rounds. -/
def fillAll (format : List Char) (args : List String) : Nat → List Char
  | 0 => []
  | fuel + 1 =>
    let (text, left) := fillFormat args format
    if left.isEmpty || left.length == args.length then text else text ++ fillAll format left fuel

/-- The programs that are found by their names, and what they do with their arguments. -/
def program? (s : Surroundings) : String → Option (List String → Effect)
  | "cat" => some (cat s)
  | "echo" => some fun args => .printed (" ".intercalate args ++ "\n")
  | "printf" => some fun
    | [] => .complaint "printf: usage: printf format [arg ...]\n" 2
    | format :: args => .printed (String.ofList (fillAll format.toList args (args.length + 1)))
  | "pwd" => some fun _ => .printed (s.cwd.toPath ++ "\n")
  | "ls" => some fun _ => ls s
  | "true" => some fun _ => .silent 0
  | "false" => some fun _ => .silent 1
  | _ => none

/-- The number by which a script knows itself. -/
def ownNumber : String := "$$"

def valueOf (s : Surroundings) (name : String) : String :=
  if name == "$" then ownNumber
  else
    match name.toNat? with
    | some n => s.arguments.getD n ""
    | none => (s.environment.lookup name).getD ""

/-- The fields that a piece of a word stands for: a bare value is taken apart at blanks. -/
def expandPart (s : Surroundings) : Part → List String
  | .text cs _ => [String.ofList cs]
  | .value "@" _ => s.arguments.drop 1
  | .value name true => [valueOf s name]
  | .value name false => Text.words (valueOf s name)

/-- Joins fields where two pieces of a word meet. -/
def glue (left right : List String) : List String :=
  match left.getLast?, right with
  | some last, first :: rest => left.dropLast ++ (last ++ first) :: rest
  | none, right => right
  | _, [] => left

def expandWord (s : Surroundings) (parts : List Part) : List String :=
  parts.foldl (fun fields part => glue fields (expandPart s part)) []

/-- Signals that a script passes over. -/
def isPassedOver (signal : Nat) : Bool :=
  signal == 0 || [17, 18, 23, 28].contains signal

/-- What becomes of a script after one of its commands. -/
inductive Progress where
  | goesOn (effect : Effect)
  | ends (effect : Effect) (ending : Ending)
deriving Repr, DecidableEq

def exitWith (status : Nat) : List String → Progress
  | [] => .ends (.silent status) (.exit status)
  | word :: _ => .ends (.silent 0) (.exit ((word.toNat?.getD 2) % 256))

/-- Sends a signal to the script itself; other targets are left alone. -/
def killSelf : List String → Progress
  | [option, target] =>
    match (option.drop 1).toNat? with
    | some signal =>
      if target != ownNumber || isPassedOver signal then .goesOn (.silent 0)
      else .ends (.silent 0) (.signal signal)
    | none => .goesOn (.silent 1)
  | _ => .goesOn (.silent 1)

/-- Runs a command of a script that has left a status before. -/
def runLine (s : Surroundings) (status : Nat) (line : Line) : Progress :=
  match line.words.flatMap (expandWord s) with
  | [] => .goesOn (.silent status)
  | "exit" :: args => exitWith status args
  | "kill" :: args => killSelf args
  | ":" :: _ => .goesOn (.silent 0)
  | name :: args =>
    let effect := match program? s name with
      | some run => run args
      | none => .complaint (s.arguments.headD "" ++ ": " ++ name ++ ": not found\n") 127
    .goesOn (if line.toStderr then effect.toStderr else effect)

def runLines (s : Surroundings) (status : Nat) : List Line → ChildRun
  | [] => ⟨[], .exit status⟩
  | line :: rest =>
    match runLine s status line with
    | .ends effect ending => ⟨effect.writes, ending⟩
    | .goesOn effect =>
      let run := runLines s effect.status rest
      { run with writes := effect.writes ++ run.writes }

def runFile (s : Surroundings) (path : Path) (args : List String) : ChildRun :=
  match s.tree.read s.cwd path with
  | .ok content =>
    runLines { s with arguments := path :: args } 0 (parse (Text.decodeLossy content))
  | .error fault =>
    ⟨[(.stderr, Text.utf8 ("sh: 0: cannot open " ++ path ++ ": " ++ faultWords fault ++ "\n"))],
      .exit 2⟩

/-- Runs a program that is found by its name. The shell takes a script's file, or the script itself
after `-c`, or else the script that it finds on its input. -/
def runNamed (s : Surroundings) (name : String) (args : List String) :
    Except IoFault ChildRun :=
  if name == "sh" then
    match args with
    | "-c" :: script :: args =>
      let arguments := if args.isEmpty then ["sh"] else args
      .ok (runLines { s with arguments } 0 (parse script))
    | path :: args => .ok (runFile s path args)
    | [] => .ok (runLines { s with arguments := ["sh"] } 0 (parse (Text.decodeLossy s.stdin)))
  else
    match program? s name with
    | some run => .ok ⟨(run args).writes, .exit (run args).status⟩
    | none => .error .notFound

/-- The content is that of a script that names the shell on its first line. -/
def isScript (content : List UInt8) : Bool :=
  (Text.utf8 "#!/bin/sh\n").isPrefixOf content

/-- The places of the programs that are found by their names. -/
def named? (s : Surroundings) : Location → Option String
  | ["bin", name] | ["usr", "bin", name] =>
    if name == "sh" || (program? s name).isSome then some name else none
  | _ => none

/-- Runs the program in a file. It has to be executable, and only scripts can be run. -/
def runAt (s : Surroundings) (path : Path) (args : List String) : Except IoFault ChildRun := do
  let loc ← s.tree.locate s.cwd path
  if let some name := named? s loc then return ← runNamed s name args
  match s.tree.node? loc with
  | some (.file content) =>
    if !s.executable loc then throw .denied
    else if isScript content then return runFile s path args
    else throw (.os 8)
  | _ => throw .denied

/-- A text of a command holds a NUL character, which no program can be given. -/
def holdsNul (c : Command) : Bool :=
  (c.program :: c.arguments ++ c.environment.map (·.2) ++ c.directory.toList).any
    (·.toList.contains '\x00')

/-- Starts a program: one with a slash in its name is a file, seen from the working directory of
the program, and any other is found by its name. Of the files, those that `executable` holds of
may be run. -/
def launch (executable : Location → Bool) (c : Command) :
    StateM Host (Except IoFault ChildRun) := do
  let h ← get
  return do
    if holdsNul c then throw .nulInArgument
    let cwd ← match c.directory with
      | some dir => h.tree.locate h.cwd dir
      | none => .ok h.cwd
    let s : Surroundings :=
      { tree := h.tree, executable, cwd, environment := c.environment, stdin := c.stdin,
        arguments := [] }
    if c.program.isEmpty then throw .notFound
    else if c.program.toList.contains '/' then runAt s c.program c.arguments
    else runNamed s c.program c.arguments

end GrammarBench.Shell
