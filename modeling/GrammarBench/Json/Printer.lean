import GrammarBench.Json.Basic
import GrammarBench.Text.Digits

/-!
# Writing JSON

Two layouts of the same tokens: compact, without any gap, and indented by two spaces with one item
or member to a line. Strings escape the quote, the backslash and the controls below the space,
nothing else. A plain number is written with its digits; what other numbers look like is the
choice of `Decimal`, which a caller passes in.
-/

namespace GrammarBench.Json

def escapeChar (c : Char) : List Char :=
  if c = '"' then ['\\', '"']
  else if c = '\\' then ['\\', '\\']
  else if c = '\x08' then ['\\', 'b']
  else if c = '\x0c' then ['\\', 'f']
  else if c = '\n' then ['\\', 'n']
  else if c = '\r' then ['\\', 'r']
  else if c = '\t' then ['\\', 't']
  else if c.toNat < 0x20 then 
    ['\\', 'u', '0', '0', Text.digitChar (c.toNat / 16), Text.digitChar (c.toNat % 16)]
  else [c]

def printString (s : String) : List Char :=
  '"' :: (s.toList.flatMap escapeChar ++ ['"'])

/-- A number in its plain form, or as `fraction` writes it. -/
def printNumeral (fraction : Numeral → String) (n : Numeral) : List Char :=
  match n.toInt? with
  | some i => (toString i).toList
  | none => (fraction n).toList

mutual

def compact (fraction : Numeral → String) : Json → List Char
  | null => "null".toList
  | bool true => "true".toList
  | bool false => "false".toList
  | num n => printNumeral fraction n
  | str s => printString s
  | arr items => '[' :: (compactItems fraction items ++ [']'])
  | obj members => '\x7b' :: (compactMembers fraction members ++ ['\x7d'])
  | unreadable => "null".toList

def compactItems (fraction : Numeral → String) : List Json → List Char
  | [] => []
  | [item] => compact fraction item
  | item :: items => compact fraction item ++ ',' :: compactItems fraction items

def compactMembers (fraction : Numeral → String) : List (String × Json) → List Char
  | [] => []
  | [(name, value)] => printString name ++ ':' :: compact fraction value
  | (name, value) :: members =>
    printString name ++ ':' :: (compact fraction value ++ ',' :: compactMembers fraction members)

end

/-- A new line, indented by `depth` steps of two spaces. -/
def newLine (depth : Nat) : List Char :=
  '\n' :: List.replicate (2 * depth) ' '

mutual

/-- The indented text of a value that stands `depth` steps deep. -/
def pretty (fraction : Numeral → String) (depth : Nat) : Json → List Char
  | null => "null".toList
  | bool true => "true".toList
  | bool false => "false".toList
  | num n => printNumeral fraction n
  | str s => printString s
  | arr [] => ['[', ']']
  | arr (item :: items) =>
    '[' :: (prettyItems fraction (depth + 1) (item :: items) ++ newLine depth ++ [']'])
  | obj [] => ['\x7b', '\x7d']
  | obj (m :: members) =>
    '\x7b' :: (prettyMembers fraction (depth + 1) (m :: members) ++ newLine depth ++ ['\x7d'])
  | unreadable => "null".toList

def prettyItems (fraction : Numeral → String) (depth : Nat) : List Json → List Char
  | [] => []
  | [item] => newLine depth ++ pretty fraction depth item
  | item :: items =>
    newLine depth ++ pretty fraction depth item ++ ',' :: prettyItems fraction depth items

def prettyMembers (fraction : Numeral → String) (depth : Nat) : List (String × Json) → List Char
  | [] => []
  | [(name, value)] =>
    newLine depth ++ printString name ++ ':' :: ' ' :: pretty fraction depth value
  | (name, value) :: members =>
    newLine depth ++ printString name ++ ':' :: ' ' ::
      (pretty fraction depth value ++ ',' :: prettyMembers fraction depth members)

end

end GrammarBench.Json
