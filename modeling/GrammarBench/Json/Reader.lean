import GrammarBench.Json.Basic
import GrammarBench.Text.Digits

/-!
# Reading JSON

A strict reader: no comments, no trailing commas, no leading zeros, no raw control characters.
It reads a text into `Json` and leaves to the decoders what a value has to be.
-/

namespace GrammarBench.Json

/-- The characters that may stand between tokens. -/
def isGap (c : Char) : Bool :=
  c == ' ' || c == '\n' || c == '\t' || c == '\r'

def skipGaps (cs : List Char) : List Char :=
  cs.dropWhile isGap

/-- The character of an escape of one letter. -/
def shortEscape? (c : Char) : Option Char :=
  if c = '"' then some '"'
  else if c = '\\' then some '\\'
  else if c = '/' then some '/'
  else if c = 'b' then some '\x08'
  else if c = 'f' then some '\x0c'
  else if c = 'n' then some '\n'
  else if c = 'r' then some '\r'
  else if c = 't' then some '\t'
  else none

/-- Code units that begin a pair. -/
def isHighSurrogate (n : Nat) : Bool :=
  0xD800 ≤ n && n < 0xDC00

/-- Code units that end a pair. -/
def isLowSurrogate (n : Nat) : Bool :=
  0xDC00 ≤ n && n < 0xE000

/-- The rest of a string after its opening quote: its code points, where an escape contributes the
number that it writes, and what follows the closing quote. -/
def readUnits : List Char → Option (List Nat × List Char)
  | [] => none
  | '"' :: rest => some ([], rest)
  | '\\' :: 'u' :: a :: b :: c :: d :: rest =>
    match Text.number? 16 [a, b, c, d] with
    | some n => (readUnits rest).map fun (ns, rest) => (n :: ns, rest)
    | none => none
  | '\\' :: c :: rest =>
    match shortEscape? c with
    | some e => (readUnits rest).map fun (ns, rest) => (e.toNat :: ns, rest)
    | none => none
  | c :: rest =>
    if c.toNat < 0x20 || c == '\\' then none
    else (readUnits rest).map fun (ns, rest) => (c.toNat :: ns, rest)

/-- The characters of code points among which surrogates stand in pairs; an unpaired surrogate has
no character. -/
def pairUnits? : List Nat → Option (List Char)
  | [] => some []
  | [n] => if isHighSurrogate n || isLowSurrogate n then none else some [Char.ofNat n]
  | high :: low :: ns =>
    if isHighSurrogate high then
      if isLowSurrogate low then
        let code := 0x10000 + (high - 0xD800) * 0x400 + (low - 0xDC00)
        (pairUnits? ns).map (Char.ofNat code :: ·)
      else none
    else if isLowSurrogate high then none
    else (pairUnits? (low :: ns)).map (Char.ofNat high :: ·)

/-- The rest of a string after its opening quote: the text, absent when a surrogate is unpaired,
and what follows the closing quote. -/
def readString (cs : List Char) : Option (Option String × List Char) :=
  (readUnits cs).map fun (units, rest) => ((pairUnits? units).map String.ofList, rest)

def isDigit (c : Char) : Bool :=
  '0' ≤ c && c ≤ '9'

def natOf (digits : List Char) : Nat :=
  digits.foldl (fun n c => n * 10 + (c.toNat - '0'.toNat)) 0

/-- The digits at the front, and what follows them; there is at least one. -/
def readDigits (cs : List Char) : Option (List Char × List Char) :=
  let digits := cs.takeWhile isDigit
  if digits.isEmpty then none else some (digits, cs.dropWhile isDigit)

/-- The fraction of a number, if one follows: its digits. -/
def readFraction : List Char → Option (List Char × List Char)
  | '.' :: rest => readDigits rest
  | cs => some ([], cs)

def readExponent : List Char → Option (Option Int × List Char)
  | c :: rest =>
    if c = 'e' ∨ c = 'E' then
      match rest with
      | '-' :: rest => (readDigits rest).map fun (ds, rest) => (some (-(natOf ds : Int)), rest)
      | '+' :: rest => (readDigits rest).map fun (ds, rest) => (some (natOf ds : Int), rest)
      | rest => (readDigits rest).map fun (ds, rest) => (some (natOf ds : Int), rest)
    else some (none, c :: rest)
  | [] => some (none, [])

def readNumber (negative : Bool) (cs : List Char) : Option (Numeral × List Char) := do
  let (whole, rest) ← readDigits cs
  if whole.head? = some '0' ∧ whole.length > 1 then none
  else
    let (fraction, rest) ← readFraction rest
    let (exponent, rest) ← readExponent rest
    return ({ negative, significand := natOf (whole ++ fraction)
              exponent := exponent.getD 0 - fraction.length
              plain := fraction.isEmpty && exponent.isNone }, rest)

def readWord (word : List Char) (cs : List Char) : Option (List Char) :=
  if cs.take word.length = word then some (cs.drop word.length) else none

mutual

/-- The value at the front, which no gap precedes, and what follows it. `fuel` bounds the number
of nested calls; a text needs no more than two for each of its characters. -/
def readValue (fuel : Nat) (cs : List Char) : Option (Json × List Char) :=
  match fuel, cs with
  | 0, _ => none
  | _, [] => none
  | fuel + 1, c :: rest =>
    if c = '"' then
      (readString rest).map fun (s, rest) => (s.elim unreadable str, rest)
    else if c = '[' then
      match skipGaps rest with
      | ']' :: rest => some (arr [], rest)
      | rest => (readItems fuel rest).map fun (items, rest) => (arr items, rest)
    else if c = '\x7b' then
      match skipGaps rest with
      | '\x7d' :: rest => some (obj [], rest)
      | rest => (readMembers fuel rest).map fun (ms, rest) => (ms.elim unreadable obj, rest)
    else if c = '-' then (readNumber true rest).map fun (n, rest) => (num n, rest)
    else if isDigit c then (readNumber false (c :: rest)).map fun (n, rest) => (num n, rest)
    else if c = 'n' then (readWord ['u', 'l', 'l'] rest).map fun rest => (null, rest)
    else if c = 't' then (readWord ['r', 'u', 'e'] rest).map fun rest => (bool true, rest)
    else if c = 'f' then (readWord ['a', 'l', 's', 'e'] rest).map fun rest => (bool false, rest)
    else none

/-- The items of an array up to its closing bracket; there is at least one. -/
def readItems (fuel : Nat) (cs : List Char) : Option (List Json × List Char) :=
  match fuel with
  | 0 => none
  | fuel + 1 =>
    match readValue fuel cs with
    | none => none
    | some (item, rest) =>
      match skipGaps rest with
      | ']' :: rest => some ([item], rest)
      | ',' :: rest =>
        (readItems fuel (skipGaps rest)).map fun (items, rest) => (item :: items, rest)
      | _ => none

/-- The members of an object up to its closing brace; there is at least one. They are absent when
a name has no text. -/
def readMembers (fuel : Nat) (cs : List Char) :
    Option (Option (List (String × Json)) × List Char) :=
  match fuel, cs with
  | 0, _ => none
  | fuel + 1, '"' :: rest =>
    match readString rest with
    | none => none
    | some (name, rest) =>
      match skipGaps rest with
      | ':' :: rest =>
        match readValue fuel (skipGaps rest) with
        | none => none
        | some (value, rest) =>
          let first := name.map fun name => (name, value)
          match skipGaps rest with
          | '\x7d' :: rest => some (first.map ([·]), rest)
          | ',' :: rest =>
            (readMembers fuel (skipGaps rest)).map fun (ms, rest) =>
              (first.bind fun m => ms.map (m :: ·), rest)
          | _ => none
      | _ => none
  | _, _ => none

end

/-- The value of a whole text, in which only gaps surround it. -/
def parse (text : String) : Option Json :=
  let cs := text.toList
  match readValue (2 * cs.length + 2) (skipGaps cs) with
  | some (value, rest) => if (skipGaps rest).isEmpty then some value else none
  | none => none

end GrammarBench.Json
