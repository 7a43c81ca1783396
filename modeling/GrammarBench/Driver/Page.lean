import GrammarBench.Driver.Skeleton

/-!
# Driver pages

The skeletons of drivers that run in a browser. A page has one area for the input, one for what
the recognizer prints and one for errors, and a button that runs it. It loads the generated
modules from the directory of the grammar below its own.
-/

namespace GrammarBench.Driver

def pageHead : List Line :=
  [ plain "<!DOCTYPE html>",
    plain "<html>",
    plain "\t<head>",
    plain "\t\t<script src='lib/require.js'></script>",
    plain "\t\t<script>",
    plain "\t\t\tantlr4 = null;" ]

/-- The beginning of the function that fills the slots. -/
def pageLoad : List Line :=
  [ plain "",
    plain "\t\t\tloadParser = function() \x7b",
    plain "\t\t\t\ttry \x7b",
    plain "\t\t\t\t\tantlr4 = require('antlr4/index');" ]

/-- The page from there to the body of the button. -/
def pageRun : List Line :=
  [ plain "\t\t\t\t\x7d catch (ex) \x7b",
    plain "\t\t\t\t\tdocument.getElementById('errors').value = ex.toString();",
    plain "\t\t\t\t\x7d",
    plain "\t\t\t\x7d;",
    [],
    plain "\t\t\ttest = function() \x7b",
    plain "\t\t\t\tvar lines = [];",
    plain "\t\t\t\tvar problems = [];",
    plain "\t\t\t\tvar log = console.log;",
    plain "\t\t\t\tvar error = console.error;",
    plain ("\t\t\t\tconsole.log = function() \x7b " ++
      "lines.push(Array.prototype.join.call(arguments, ' ')); \x7d;"),
    plain ("\t\t\t\tconsole.error = function() \x7b " ++
      "problems.push(Array.prototype.join.call(arguments, ' ')); \x7d;"),
    plain "\t\t\t\tdocument.getElementById('output').value = '';",
    plain "\t\t\t\ttry \x7b",
    plain "\t\t\t\t\tvar input = document.getElementById('input').value;" ]

/-- The page after the body of the button. -/
def pageTail : List Line :=
  [ plain "\t\t\t\t\x7d catch (ex) \x7b",
    plain "\t\t\t\t\tproblems.push(ex.toString());",
    plain "\t\t\t\t\x7d finally \x7b",
    plain "\t\t\t\t\tconsole.log = log;",
    plain "\t\t\t\t\tconsole.error = error;",
    plain "\t\t\t\t\x7d",
    plain ("\t\t\t\tdocument.getElementById('output').value = lines.length > 0 ? " ++
      "lines.join('\\n') + '\\n' : '';"),
    plain "\t\t\t\tif (problems.length > 0) \x7b",
    plain "\t\t\t\t\tdocument.getElementById('errors').value = problems.join('\\n') + '\\n';",
    plain "\t\t\t\t\x7d",
    plain "\t\t\t\x7d;",
    plain "\t\t</script>",
    plain "\t</head>",
    plain "\t<body>",
    plain "\t\t<textarea id='input'></textarea><br>",
    plain "\t\t<button id='submit' type='button' onclick='test()'>Test</button><br>",
    plain "\t\t<textarea id='output'></textarea><br>",
    plain "\t\t<textarea id='errors'></textarea><br>",
    plain "\t\t<script>loadParser();</script>",
    plain "\t</body>",
    plain "</html>" ]

/-- A page with the given slots, the lines that fill them, and the body of its button. -/
def page (slots load run : List Line) : List Line :=
  pageHead ++ slots ++ pageLoad ++ load ++ pageRun ++ run ++ pageTail

def lexerSlots : List Line :=
  [ [.text "\t\t\t", .name .lexer, .text " = null;"] ]

def lexerLoad : List Line :=
  [ [.text "\t\t\t\t\t", .name .lexer, .text " = require('./parser/", .name .lexer, .text "');"] ]

def lexerRun : List Line :=
  [ plain "\t\t\t\t\tvar chars = new antlr4.InputStream(input);",
    [.text "\t\t\t\t\tvar lexer = new ", .name .lexer, .text ".", .name .lexer, .text "(chars);"],
    plain "\t\t\t\t\tvar stream = new antlr4.CommonTokenStream(lexer);",
    plain "\t\t\t\t\tstream.fill();",
    plain "\t\t\t\t\tfor(var i=0; i<stream.tokens.length; i++) \x7b",
    plain "\t\t\t\t\t\tconsole.log(stream.tokens[i].toString());",
    plain "\t\t\t\t\t\x7d" ]

def lexerPageDfa : List Line :=
  [ plain ("\t\t\t\t\tlines.push(" ++
      "lexer._interp.decisionToDFA[antlr4.Lexer.DEFAULT_MODE].toLexerString());") ]

/-- A page that prints the tokens of its input, and the automaton of the lexer if asked. -/
def lexerPage (showDfa : Bool) : List Line :=
  page lexerSlots lexerLoad (lexerRun ++ (if showDfa then lexerPageDfa else []))

/-- The slots of a parser and of what checks its trees. -/
def parserSlots : List Line :=
  [ plain "\t\t\tTreeShapeListener = null;",
    [.text "\t\t\t", .name .lexer, .text " = null;"],
    [.text "\t\t\t", .name .parser, .text " = null;"],
    [.text "\t\t\t", .name .listener, .text " = null;"],
    [.text "\t\t\t", .name .visitor, .text " = null;"] ]

def parserLoad : List Line :=
  [ [.text "\t\t\t\t\t", .name .lexer, .text " = require('./parser/", .name .lexer, .text "');"],
    [.text "\t\t\t\t\t", .name .parser, .text " = require('./parser/", .name .parser, .text "');"],
    [.text "\t\t\t\t\t", .name .listener, .text " = require('./parser/", .name .listener,
      .text "');"],
    [.text "\t\t\t\t\t", .name .visitor, .text " = require('./parser/", .name .visitor,
      .text "');"],
    [],
    plain "\t\t\t\t\tTreeShapeListener = function() \x7b",
    plain "\t\t\t\t\t\tantlr4.tree.ParseTreeListener.call(this);",
    plain "\t\t\t\t\t\treturn this;",
    plain "\t\t\t\t\t\x7d;",
    [],
    plain ("\t\t\t\t\tTreeShapeListener.prototype = " ++
      "Object.create(antlr4.tree.ParseTreeListener.prototype);"),
    plain "\t\t\t\t\tTreeShapeListener.prototype.constructor = TreeShapeListener;",
    [],
    plain "\t\t\t\t\tTreeShapeListener.prototype.enterEveryRule = function(ctx) \x7b",
    plain "\t\t\t\t\t\tfor(var i=0; i<ctx.getChildCount(); i++) \x7b",
    plain "\t\t\t\t\t\t\tvar child = ctx.getChild(i);",
    plain "\t\t\t\t\t\t\tvar parent = child.parentCtx;",
    plain ("\t\t\t\t\t\t\tif(parent.getRuleContext() !== ctx || !(parent instanceof " ++
      "antlr4.tree.RuleNode)) \x7b"),
    plain "\t\t\t\t\t\t\t\tthrow 'Invalid parse tree shape detected.';",
    plain "\t\t\t\t\t\t\t\x7d",
    plain "\t\t\t\t\t\t\x7d",
    plain "\t\t\t\t\t\x7d;" ]

def parserRunHead : List Line :=
  [ plain "\t\t\t\t\tvar chars = new antlr4.InputStream(input);",
    [.text "\t\t\t\t\tvar lexer = new ", .name .lexer, .text ".", .name .lexer, .text "(chars);"],
    plain "\t\t\t\t\tvar tokens = new antlr4.CommonTokenStream(lexer);",
    [.text "\t\t\t\t\tvar parser = new ", .name .parser, .text ".", .name .parser,
      .text "(tokens);"] ]

def parserPageDebug : List Line :=
  [ plain "\t\t\t\t\tparser.addErrorListener(new antlr4.error.DiagnosticErrorListener());" ]

def parserRunTail : List Line :=
  [ plain "\t\t\t\t\tparser.buildParseTrees = true;",
    [.text "\t\t\t\t\tvar tree = parser.", .name .startRule, .text "();"],
    plain "\t\t\t\t\tantlr4.tree.ParseTreeWalker.DEFAULT.walk(new TreeShapeListener(), tree);" ]

/-- A page that parses its input and checks the shape of the tree; ambiguities are reported if
asked. -/
def parserPage (debug : Bool) : List Line :=
  page parserSlots parserLoad
    (parserRunHead ++ (if debug then parserPageDebug else []) ++ parserRunTail)

end GrammarBench.Driver
