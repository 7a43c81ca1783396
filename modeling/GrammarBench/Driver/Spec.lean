import GrammarBench.Driver.Skeleton
import GrammarBench.Failure
import GrammarBench.Json.Members
import GrammarBench.Text.Quoted

/-!
# What a driver exercises

The names of a generated recognizer. Only plain identifiers are put into a driver: a name of any
other form could change the program, so it is refused, the first one in a fixed order.
-/

namespace GrammarBench

namespace Driver

def isIdentifierStart (c : Char) : Bool :=
  ('A' ≤ c && c ≤ 'Z') || ('a' ≤ c && c ≤ 'z') || c == '_' || c == '$'

def isIdentifierPart (c : Char) : Bool :=
  isIdentifierStart c || ('0' ≤ c && c ≤ '9')

def isIdentifier : List Char → Bool
  | [] => false
  | c :: cs => isIdentifierStart c && cs.all isIdentifierPart

/-- The name of a generated module or rule. -/
structure Identifier where
  text : String
  isPlain : isIdentifier text.toList = true
deriving DecidableEq

/-- A generated recognizer: a lexer alone, or a parser with all that it needs. -/
inductive Recognizer where
  | lexer (name : Identifier)
  | parser (lexer parser listener visitor startRule : Identifier)
deriving DecidableEq

/-- The name for each role; a lexer alone has no other names. -/
def Recognizer.names : Recognizer → Role → String
  | lexer name, .lexer => name.text
  | lexer _, _ => ""
  | parser name _ _ _ _, .lexer => name.text
  | parser _ name _ _ _, .parser => name.text
  | parser _ _ name _ _, .listener => name.text
  | parser _ _ _ name _, .visitor => name.text
  | parser _ _ _ _ name, .startRule => name.text

inductive NameFault where
  /-- A name is missing or empty; `family` is what the driver exercises. -/
  | missing (role : Role) (family : String)
  | malformed (role : Role) (name : String)
deriving Repr, DecidableEq

def NameFault.message : NameFault → String
  | missing role family => role.word ++ " name is required by the " ++ family ++ " template"
  | malformed role name => role.word ++ " name " ++ Text.quoted name ++ " is not a plain identifier"

/-- The identifier that is given for a role. -/
def identifier (family : String) (role : Role) (given : Option String) :
    Except NameFault Identifier :=
  match given.filter (!·.isEmpty) with
  | none => .error (.missing role family)
  | some name =>
    if h : isIdentifier name.toList = true then .ok ⟨name, h⟩ else .error (.malformed role name)

end Driver

/-- What a driver is asked for. Without a parser it exercises the lexer alone. -/
structure DriverSpec where
  lexerName : String
  parserName : Option String
  listenerName : Option String
  visitorName : Option String
  startRuleName : Option String
  debug : Bool
  /-- The automaton of the lexer is printed after the tokens. -/
  showDfa : Bool
deriving Repr, DecidableEq

namespace DriverSpec

def lexer (lexerName : String) : DriverSpec where
  lexerName := lexerName
  parserName := none
  listenerName := none
  visitorName := none
  startRuleName := none
  debug := false
  showDfa := false

def parser (parserName lexerName listenerName visitorName startRuleName : String) :
    DriverSpec where
  lexerName := lexerName
  parserName := some parserName
  listenerName := some listenerName
  visitorName := some visitorName
  startRuleName := some startRuleName
  debug := false
  showDfa := false

/-- The same driver, with or without reports of ambiguities. -/
def withDebug (spec : DriverSpec) (debug : Bool) : DriverSpec :=
  { spec with debug }

def withShowDfa (spec : DriverSpec) (showDfa : Bool) : DriverSpec :=
  { spec with showDfa }

def isLexerOnly (spec : DriverSpec) : Bool :=
  spec.parserName.isNone

/-- What the driver exercises, in one word. -/
def family (spec : DriverSpec) : String :=
  if spec.isLexerOnly then "lexer" else "parser"

/-- The recognizer that the names give, or the first name that is no good. Without a parser the
names that only a parser needs are not looked at. -/
def recognizer (spec : DriverSpec) : Except Driver.NameFault Driver.Recognizer := do
  let lexer ← Driver.identifier spec.family .lexer (some spec.lexerName)
  if spec.isLexerOnly then return .lexer lexer
  let parser ← Driver.identifier spec.family .parser spec.parserName
  let listener ← Driver.identifier spec.family .listener spec.listenerName
  let visitor ← Driver.identifier spec.family .visitor spec.visitorName
  let startRule ← Driver.identifier spec.family .startRule spec.startRuleName
  return .parser lexer parser listener visitor startRule

def fieldNames : List String :=
  ["lexer_name", "parser_name", "listener_name", "visitor_name", "start_rule_name", "debug",
    "show_dfa"]

def toJson (spec : DriverSpec) : Json :=
  .obj [("lexer_name", .str spec.lexerName), ("parser_name", .ofText? spec.parserName),
    ("listener_name", .ofText? spec.listenerName), ("visitor_name", .ofText? spec.visitorName),
    ("start_rule_name", .ofText? spec.startRuleName), ("debug", .bool spec.debug),
    ("show_dfa", .bool spec.showDfa)]

def ofJson? (j : Json) : Option DriverSpec := do
  let ms ← j.members? fieldNames
  let lexerName ← ms.required "lexer_name" Json.text?
  let parserName ← ms.optional "parser_name" (Json.orNull Json.text?)
  let listenerName ← ms.optional "listener_name" (Json.orNull Json.text?)
  let visitorName ← ms.optional "visitor_name" (Json.orNull Json.text?)
  let startRuleName ← ms.optional "start_rule_name" (Json.orNull Json.text?)
  let debug ← ms.withDefault "debug" Json.bool? false
  let showDfa ← ms.withDefault "show_dfa" Json.bool? false
  return { lexerName, parserName, listenerName, visitorName, startRuleName, debug, showDfa }

end DriverSpec

end GrammarBench
