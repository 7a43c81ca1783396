import GrammarBench.Text.Digits
import GrammarBench.Text.Printable

/-!
# Quoted text

The form in which messages show a text or a list of texts: between double quotes, with the
backslash before a quote, a backslash and the common control characters, and with the code point
in hexadecimal for every other character that would not be visible on its own.
-/

namespace GrammarBench.Text

def quoteChar (c : Char) : List Char :=
  if c = '\x00' then ['\\', '0']
  else if c = '\t' then ['\\', 't']
  else if c = '\r' then ['\\', 'r']
  else if c = '\n' then ['\\', 'n']
  else if c = '"' then ['\\', '"']
  else if c = '\\' then ['\\', '\\']
  else if isExtender c || !isPrintable c then
    ['\\', 'u', '\x7b'] ++ hexDigits c.toNat ++ ['\x7d']
  else [c]

def quoted (s : String) : String :=
  String.ofList ('"' :: (s.toList.flatMap quoteChar ++ ['"']))

/-- A list of texts, each quoted, between square brackets. -/
def quotedList (xs : List String) : String :=
  "[" ++ ", ".intercalate (xs.map quoted) ++ "]"

end GrammarBench.Text
