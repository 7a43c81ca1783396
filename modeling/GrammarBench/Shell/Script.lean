import GrammarBench.Text.Blank

/-!
# Shell scripts

The scripts that stand for tools and interpreters: commands on lines or separated by semicolons,
with words in bare, single-quoted or double-quoted form, and values of variables and arguments.
A command may send its output to the error channel. There are no loops and no pipes.
-/

namespace GrammarBench.Shell

inductive Part where
  | text (s : List Char) (isQuoted : Bool)
  /-- The value of a variable or of an argument. -/
  | value (name : String) (isQuoted : Bool)
deriving Repr, DecidableEq

inductive Token where
  | word (parts : List Part)
  | stop
deriving Repr, DecidableEq

/-- What the characters that are being read belong to. -/
inductive Mode where
  | bare
  | single
  | double
  | comment
  | escaped (isQuoted : Bool)
  | dollar (isQuoted : Bool)
  /-- Inside the name of a variable, last character first. -/
  | name (isQuoted : Bool) (letters : List Char)
deriving Repr, DecidableEq

/-- What is known of a script up to some character. -/
structure Lexer where
  mode : Mode
  /-- The pieces of the current word, last first; absent between words. -/
  parts : Option (List Part)
  tokens : List Token
deriving Repr, DecidableEq

namespace Lexer

def add (l : Lexer) (part : Part) : Lexer :=
  { l with parts := some (part :: l.parts.getD []) }

def endWord (l : Lexer) : Lexer :=
  match l.parts with
  | some parts => { l with parts := none, tokens := .word parts.reverse :: l.tokens }
  | none => l

def endCommand (l : Lexer) : Lexer :=
  { l.endWord with tokens := .stop :: l.endWord.tokens }

def enter (l : Lexer) (mode : Mode) : Lexer :=
  { l with mode }

/-- The mode outside a value: that of the word around it. -/
def around (isQuoted : Bool) : Mode :=
  if isQuoted then .double else .bare

def bareChar (l : Lexer) (c : Char) : Lexer :=
  if c == '\n' || c == ';' then (l.endCommand).enter .bare
  else if c == ' ' || c == '\t' then l.endWord.enter .bare
  else if c == '#' && l.parts.isNone then l.enter .comment
  else if c == '\x27' then (l.add (.text [] true)).enter .single
  else if c == '"' then (l.add (.text [] true)).enter .double
  else if c == '\\' then l.enter (.escaped false)
  else if c == '$' then l.enter (.dollar false)
  else (l.add (.text [c] false)).enter .bare

def doubleChar (l : Lexer) (c : Char) : Lexer :=
  if c == '"' then l.enter .bare
  else if c == '\\' then l.enter (.escaped true)
  else if c == '$' then l.enter (.dollar true)
  else (l.add (.text [c] true)).enter .double

/-- A character that is in no value. -/
def plainChar (l : Lexer) (isQuoted : Bool) (c : Char) : Lexer :=
  if isQuoted then l.doubleChar c else l.bareChar c

def isNameChar (c : Char) : Bool :=
  c.isAlphanum || c == '_'

def step (l : Lexer) (c : Char) : Lexer :=
  match l.mode with
  | .bare => l.bareChar c
  | .double => l.doubleChar c
  | .single => if c == '\x27' then l.enter .bare else l.add (.text [c] true)
  | .comment => if c == '\n' then l.endCommand.enter .bare else l
  | .escaped isQuoted => (l.add (.text [c] true)).enter (around isQuoted)
  | .dollar isQuoted =>
    if c.isDigit || c == '@' || c == '$' then
      (l.add (.value c.toString isQuoted)).enter (around isQuoted)
    else if isNameChar c then l.enter (.name isQuoted [c])
    else (l.add (.text ['$'] isQuoted)).plainChar isQuoted c
  | .name isQuoted letters =>
    if isNameChar c then l.enter (.name isQuoted (c :: letters))
    else (l.add (.value (String.ofList letters.reverse) isQuoted)).plainChar isQuoted c

def finish (l : Lexer) : List Token :=
  let l := match l.mode with
    | .name isQuoted letters => l.add (.value (String.ofList letters.reverse) isQuoted)
    | .dollar isQuoted => l.add (.text ['$'] isQuoted)
    | _ => l
  l.endCommand.tokens.reverse

end Lexer

def tokens (script : List Char) : List Token :=
  (script.foldl Lexer.step ⟨.bare, none, []⟩).finish

structure Line where
  words : List (List Part)
  toStderr : Bool
deriving Repr, DecidableEq

/-- The word sends the output of its command to the error channel. -/
def isRedirection (parts : List Part) : Bool :=
  let bare := parts.filterMap fun
    | .text s false => some s
    | _ => none
  bare.length == parts.length &&
    (bare.flatten == ['1', '>', '&', '2'] || bare.flatten == ['>', '&', '2'])

def lineOf (words : List (List Part)) : Line where
  words := words.filter (!isRedirection ·)
  toStderr := words.any isRedirection

/-- Groups tokens into commands. `words` are those of the current command, last first. -/
def groupLines (words : List (List Part)) : List Token → List Line
  | [] => []
  | .word parts :: rest => groupLines (parts :: words) rest
  | .stop :: rest => lineOf words.reverse :: groupLines [] rest

/-- The commands of a script, an empty line giving a command without words. -/
def parse (script : String) : List Line :=
  groupLines [] (tokens script.toList)

end GrammarBench.Shell
