import GrammarBench.Diagnostic.Basic
import GrammarBench.Text.Blank
import GrammarBench.Text.DecimalDigit

/-!
# Lines of a grammar tool

A message is a line of the form `error(50): T.g4:1:4: text` or `warning(125): text`: a label, a
code, blanks, perhaps a place with blanks after it, and the text. Where a line can be read in
several ways, the blanks after the code are as many as possible, a place goes before none, its
file name is as short as possible, and the blanks after the place are as many as possible. Any
other line is an information.
-/

namespace GrammarBench.Diagnostic

open GrammarBench.Text

/-- Digits of any script at the front, and what follows them; there is at least one. -/
def takeNumber (cs : List Char) : Option (List Char × List Char) :=
  let digits := cs.takeWhile isDigit
  if digits.isEmpty then none else some (digits, cs.dropWhile isDigit)

/-- The label and the code at the front of a line, and what follows the colon after them. -/
def takeLabel (cs : List Char) : Option (Severity × List Char × List Char) := do
  let (severity, cs) ←
    if "error(".toList.isPrefixOf cs then some (Severity.error, cs.drop 6)
    else if "warning(".toList.isPrefixOf cs then some (Severity.warning, cs.drop 8)
    else none
  let (code, cs) ← takeNumber cs
  match cs with
  | ')' :: ':' :: rest => some (severity, code, rest)
  | _ => none

/-- The line and the column between their colons, and what follows the last of these. -/
def takePosition : List Char → Option (List Char × List Char × List Char)
  | ':' :: cs =>
    match takeNumber cs with
    | some (line, ':' :: cs) =>
      match takeNumber cs with
      | some (column, ':' :: rest) => some (line, column, rest)
      | _ => none
    | _ => none
  | _ => none

structure Place where
  file : List Char
  line : List Char
  column : List Char
deriving Repr, DecidableEq

/-- The place with the shortest file name, and what follows its last colon, among the places whose
rest `isEnd` accepts. `file` holds the characters of the name so far, last first; a name has at
least one. -/
def takePlace (isEnd : List Char → Bool) (file : List Char) :
    List Char → Option (Place × List Char)
  | [] => none
  | c :: cs =>
    match takePosition cs with
    | some (line, column, rest) =>
      if isEnd rest then some ({ file := (c :: file).reverse, line, column }, rest)
      else takePlace isEnd (c :: file) cs
    | none => takePlace isEnd (c :: file) cs

/-- The end of a message behind the blanks after the code: a place and a text, or a text. The text
is one line, and so is the name of a file. So when the end of the message has a line break, the
place must be all of its first line, and the text follows after blanks only. -/
def takeBody (cs : List Char) : Option (Option Place × List Char) :=
  let line := cs.takeWhile (· != '\n')
  match cs.dropWhile (· != '\n') with
  | [] =>
    match takePlace (fun _ => true) [] line with
    | some (place, rest) => some (some place, rest.dropWhile isBlank)
    | none => some (none, line)
  | after =>
    let text := after.dropWhile isBlank
    if '\n' ∈ text then none
    else (takePlace (·.all isBlank) [] line).map fun (place, _) => (some place, text)

/-- The end of a message behind the colon of the code. The blanks that are passed over are as many
as possible: all of them, or all but the last. That one can be the name of a file, and to give back
more of them would only make the name longer. -/
def takeAfterBlanks (cs : List Char) : Option (Option Place × List Char) :=
  let rest := cs.dropWhile isBlank
  match takeBody rest with
  | some body => some body
  | none => (cs.takeWhile isBlank).getLast?.bind fun b => takeBody (b :: rest)

/-- The parts of a message line without trailing blanks. -/
def readParts (cs : List Char) : Option (Severity × List Char × Option Place × List Char) := do
  let (severity, code, rest) ← takeLabel cs
  let (place, text) ← takeAfterBlanks rest
  return (severity, code, place, text)

/-- The message of a line: none for a blank line. -/
def ofLine? (line : String) : Option Diagnostic :=
  let cs := trimBlanksRight line.toList
  if cs.isEmpty then none
  else
    match readParts cs with
    | none => some (plain .info (String.ofList cs))
    | some (severity, code, place, text) =>
      some
        { severity
          code := boundedDecimal? numberBound code
          file := place.map fun p => String.ofList p.file
          line := place.bind fun p => boundedDecimal? numberBound p.line
          column := place.bind fun p => boundedDecimal? numberBound p.column
          message := String.ofList text }

end GrammarBench.Diagnostic
