import GrammarBench.Driver.Skeleton

/-!
# Driver scripts

The skeletons of drivers that run under a headless interpreter. The script finds its input in the
file that its argument names and prints what the recognizer makes of it.
-/

namespace GrammarBench.Driver

/-- A lexer script up to the loop over its tokens. -/
def lexerScriptHead : List Line :=
  [ plain "var antlr4 = require('antlr4');",
    [.text "var ", .name .lexer, .text " = require('./", .name .lexer, .text "');"],
    [],
    plain "function main(argv) \x7b",
    plain "    var input = new antlr4.FileStream(argv[2]);",
    [.text "    var lexer = new ", .name .lexer, .text ".", .name .lexer, .text "(input);"],
    plain "    var stream = new antlr4.CommonTokenStream(lexer);",
    plain "    stream.fill();",
    plain "    for(var i=0; i<stream.tokens.length; i++) \x7b",
    plain "        console.log(stream.tokens[i].toString());",
    plain "    \x7d" ]

def lexerScriptDfa : List Line :=
  [ plain ("    process.stdout.write(" ++
      "lexer._interp.decisionToDFA[antlr4.Lexer.DEFAULT_MODE].toLexerString());") ]

def lexerScriptTail : List Line :=
  [ plain "\x7d",
    [],
    plain "main(process.argv);" ]

/-- A script that prints the tokens of its input, and the automaton of the lexer if asked. -/
def lexerScript (showDfa : Bool) : List Line :=
  lexerScriptHead ++ (if showDfa then lexerScriptDfa else []) ++ lexerScriptTail

/-- A parser script up to the parser that it makes. -/
def parserScriptHead : List Line :=
  [ plain "var antlr4 = require('antlr4');",
    [.text "var ", .name .lexer, .text " = require('./", .name .lexer, .text "');"],
    [.text "var ", .name .parser, .text " = require('./", .name .parser, .text "');"],
    [.text "var ", .name .listener, .text " = require('./", .name .listener, .text "').",
      .name .listener, .text ";"],
    [.text "var ", .name .visitor, .text " = require('./", .name .visitor, .text "').",
      .name .visitor, .text ";"],
    [],
    plain "function TreeShapeListener() \x7b",
    plain "    antlr4.tree.ParseTreeListener.call(this);",
    plain "    return this;",
    plain "\x7d",
    [],
    plain "TreeShapeListener.prototype = Object.create(antlr4.tree.ParseTreeListener.prototype);",
    plain "TreeShapeListener.prototype.constructor = TreeShapeListener;",
    [],
    plain "TreeShapeListener.prototype.enterEveryRule = function(ctx) \x7b",
    plain "    for(var i=0; i<ctx.getChildCount(); i++) \x7b",
    plain "        var child = ctx.getChild(i);",
    plain "        var parent = child.parentCtx;",
    plain ("        if(parent.getRuleContext() !== ctx || !(parent instanceof " ++
      "antlr4.tree.RuleNode)) \x7b"),
    plain "            throw \"Invalid parse tree shape detected.\";",
    plain "        \x7d",
    plain "    \x7d",
    plain "\x7d;",
    [],
    plain "function main(argv) \x7b",
    plain "    var input = new antlr4.FileStream(argv[2]);",
    [.text "    var lexer = new ", .name .lexer, .text ".", .name .lexer, .text "(input);"],
    plain "    var stream = new antlr4.CommonTokenStream(lexer);",
    [.text "    var parser = new ", .name .parser, .text ".", .name .parser, .text "(stream);"] ]

def parserScriptDebug : List Line :=
  [ plain "    parser.addErrorListener(new antlr4.error.DiagnosticErrorListener());" ]

/-- The end of a parser script: it parses and walks the tree. -/
def parserScriptTail : List Line :=
  [ plain "    parser.buildParseTrees = true;",
    [.text "    var tree = parser.", .name .startRule, .text "();"],
    plain "    antlr4.tree.ParseTreeWalker.DEFAULT.walk(new TreeShapeListener(), tree);",
    plain "\x7d",
    [],
    plain "main(process.argv);" ]

/-- A script that parses its input and checks the shape of the tree; ambiguities are reported if
asked. -/
def parserScript (debug : Bool) : List Line :=
  parserScriptHead ++ (if debug then parserScriptDebug else []) ++ parserScriptTail

end GrammarBench.Driver
