import GrammarBench.Decimal.Binary64
import GrammarBench.Json.Reader
import GrammarBench.Toml.Basic

/-!
# Texts, numbers and moments of settings documents

Readers for the values without parts. Each takes the text from the value on and gives the value
and what follows it, or a complaint about the place that it has reached.
-/

namespace GrammarBench.Toml

def bytesOf (cs : List Char) : Nat :=
  cs.foldl (fun n c => n + c.utf8Size) 0

def faultAt (cs : List Char) (c : Complaint) : Fault :=
  ⟨⟨bytesOf cs, bytesOf cs⟩, c⟩

/-- A complaint about what could not be read. -/
def invalid (label : String) (expected : List String) : Complaint :=
  ⟨some label, expected, none⟩

/-- The outcome of a reader: a value and the text after it. -/
abbrev Outcome (α : Type) := Except Fault (α × List Char)

def isGap (c : Char) : Bool :=
  c == ' ' || c == '\t'

/-- The character may stand in a comment or in a literal text: it is a tab or no control. -/
def isShown (c : Char) : Bool :=
  c == '\t' || (0x20 ≤ c.toNat && c.toNat ≠ 0x7F)

/-- The text after a line break, if one stands at the front. -/
def lineBreak? : List Char → Option (List Char)
  | '\n' :: rest => some rest
  | '\r' :: '\n' :: rest => some rest
  | _ => none

def skipGaps (cs : List Char) : List Char :=
  cs.dropWhile isGap

/-- The character with a code, unless it is a surrogate or too large. -/
def charOf? (code : Nat) : Option Char :=
  if code < 0xD800 ∨ (0xDFFF < code ∧ code < 0x110000) then some (Char.ofNat code) else none

def readEscape (cs : List Char) : Outcome Char :=
  let numbered (count : Nat) (rest : List Char) : Outcome Char :=
    let digits := rest.take count
    match Text.number? 16 digits, digits.length == count with
    | some code, true =>
      match charOf? code with
      | some c => .ok (c, rest.drop count)
      | none => .error (faultAt rest (.because "value is out of range"))
    | _, _ => .error (faultAt rest (invalid "unicode code point" ["hexadecimal digit"]))
  match cs with
  | 'b' :: rest => .ok ('\x08', rest)
  | 'f' :: rest => .ok ('\x0c', rest)
  | 'n' :: rest => .ok ('\n', rest)
  | 'r' :: rest => .ok ('\r', rest)
  | 't' :: rest => .ok ('\t', rest)
  | '"' :: rest => .ok ('"', rest)
  | '\\' :: rest => .ok ('\\', rest)
  | 'u' :: rest => numbered 4 rest
  | 'U' :: rest => numbered 8 rest
  | cs => .error (faultAt cs (invalid "escape sequence"
      ["`b`", "`f`", "`n`", "`r`", "`t`", "`u`", "`U`", "`\\`", "`\"`"]))

/-- The rest of a text of one line between quotes, whose opening quote has been read. -/
def readLineText (fuel : Nat) (acc : List Char) (cs : List Char) : Outcome String :=
  match fuel, cs with
  | fuel + 1, c :: rest =>
    if c = '"' then .ok (String.ofList acc.reverse, rest)
    else if c = '\\' then
      match readEscape rest with
      | .ok (e, rest) => readLineText fuel (e :: acc) rest
      | .error fault => .error fault
    else if isShown c then readLineText fuel (c :: acc) rest
    else .error (faultAt cs (invalid "basic string" []))
  | _, cs => .error (faultAt cs (invalid "basic string" []))

/-- The rest of a literal text of one line, whose opening apostrophe has been read. -/
def readLiteralLine (acc : List Char) : List Char → Outcome String
  | [] => .error (faultAt [] (invalid "literal string" []))
  | c :: rest =>
    if c = '\'' then .ok (String.ofList acc.reverse, rest)
    else if isShown c then readLiteralLine (c :: acc) rest
    else .error (faultAt (c :: rest) (invalid "literal string" []))

def skipLines (fuel : Nat) (cs : List Char) : List Char :=
  match fuel with
  | 0 => cs
  | fuel + 1 =>
    let cs := skipGaps cs
    match lineBreak? cs with
    | some rest => skipLines fuel rest
    | none => cs

/-- The quotes that end a text of several lines: three of them, after up to two that belong to the
text. -/
def closing? (quote : Char) (cs : List Char) : Option (Nat × List Char) :=
  let run := (cs.takeWhile (· == quote)).length
  if run < 3 then none
  else
    let kept := min (run - 3) 2
    some (kept, cs.drop (kept + 3))

/-- The rest of a text of several lines between quotes. A backslash at the end of a line joins it
to the next text. -/
def readLinesText (fuel : Nat) (acc : List Char) (cs : List Char) : Outcome String :=
  match fuel with
  | 0 => .error (faultAt cs (invalid "multiline basic string" []))
  | fuel + 1 =>
    match closing? '"' cs with
    | some (kept, rest) => .ok (String.ofList (List.replicate kept '"' ++ acc).reverse, rest)
    | none =>
      match lineBreak? cs with
      | some rest => readLinesText fuel ('\n' :: acc) rest
      | none =>
        match cs with
        | [] => .error (faultAt cs (invalid "multiline basic string" []))
        | c :: rest =>
          if c = '\\' then
            match lineBreak? (skipGaps rest) with
            | some rest => readLinesText fuel acc (skipLines rest.length rest)
            | none =>
              match readEscape rest with
              | .ok (e, rest) => readLinesText fuel (e :: acc) rest
              | .error fault => .error fault
          else if isShown c then readLinesText fuel (c :: acc) rest
          else .error (faultAt cs (invalid "multiline basic string" []))

/-- The rest of a literal text of several lines. -/
def readLiteralLines (fuel : Nat) (acc : List Char) (cs : List Char) : Outcome String :=
  match fuel with
  | 0 => .error (faultAt cs (invalid "multiline literal string" []))
  | fuel + 1 =>
    match closing? '\'' cs with
    | some (kept, rest) => .ok (String.ofList (List.replicate kept '\'' ++ acc).reverse, rest)
    | none =>
      match lineBreak? cs with
      | some rest => readLiteralLines fuel ('\n' :: acc) rest
      | none =>
        match cs with
        | [] => .error (faultAt cs (invalid "multiline literal string" []))
        | c :: rest =>
          if isShown c then readLiteralLines fuel (c :: acc) rest
          else .error (faultAt cs (invalid "multiline literal string" []))

/-- The text after the line break that may follow the opening quotes of several lines. -/
def afterFirstBreak (cs : List Char) : List Char :=
  (lineBreak? cs).getD cs

def readText (cs : List Char) : Outcome String :=
  match cs with
  | '"' :: '"' :: '"' :: rest => readLinesText (rest.length + 1) [] (afterFirstBreak rest)
  | '"' :: rest => readLineText (rest.length + 1) [] rest
  | '\'' :: '\'' :: '\'' :: rest => readLiteralLines (rest.length + 1) [] (afterFirstBreak rest)
  | '\'' :: rest => readLiteralLine [] rest
  | cs => .error (faultAt cs (invalid "string" ["`\"`", "`'`"]))

/-- Digits with single underscores between them, at least one. -/
def takeDigits (isDigit : Char → Bool) : List Char → Option (List Char × List Char)
  | [] => none
  | c :: '_' :: d :: rest =>
    if isDigit c then
      if isDigit d then
        (takeDigits isDigit (d :: rest)).map fun (ds, rest) => (c :: ds, rest)
      else none
    else none
  | [_, '_'] => none
  | c :: rest =>
    if isDigit c then
      match takeDigits isDigit rest with
      | some (ds, rest) => some (c :: ds, rest)
      | none => if rest.head? = some '_' then none else some ([c], rest)
    else none

/-- A number of a radix that is not ten, after its two letters. -/
def readRadix (radix : Nat) (digits : List Char) : Option Int :=
  match Text.number? radix digits with
  | some n => if n < Nat.pow 2 63 then some n else none
  | none => none

/-- The sign at the front: whether it is a minus, whether there is one, and what follows. -/
def takeSign : List Char → Bool × Bool × List Char
  | '+' :: rest => (false, true, rest)
  | '-' :: rest => (true, true, rest)
  | cs => (false, false, cs)

/-- The fraction of a float, after its point. -/
def takeFraction : List Char → Option (List Char × List Char)
  | '.' :: rest => takeDigits Json.isDigit rest
  | cs => some ([], cs)

/-- The exponent of a float; the digits may begin with zeros. -/
def takeExponent : List Char → Option (Option Int × List Char)
  | c :: rest =>
    if c = 'e' ∨ c = 'E' then
      let (negative, _, rest) := takeSign rest
      (takeDigits Json.isDigit rest).map fun (ds, rest) =>
        let n : Int := Json.natOf ds
        (some (if negative then -n else n), rest)
    else some (none, c :: rest)
  | [] => some (none, [])

/-- A number that is written in base ten. -/
def readDecimal (cs : List Char) : Option (Except String Scalar × List Char) := do
  let (negative, _, rest) := takeSign cs
  let (whole, rest) ← takeDigits Json.isDigit rest
  if whole.head? = some '0' ∧ whole.length > 1 then none
  else
    let (fraction, rest) ← takeFraction rest
    let (exponent, rest) ← takeExponent rest
    if fraction.isEmpty && exponent.isNone then
      let n : Int := Json.natOf whole
      let n := if negative then -n else n
      if -(Nat.pow 2 63 : Int) ≤ n ∧ n < Nat.pow 2 63 then return (.ok (.integer n), rest)
      else return (.error "number too large to fit in target type", rest)
    else
      let n : Numeral :=
        { negative, significand := Json.natOf (whole ++ fraction)
          exponent := exponent.getD 0 - fraction.length, plain := false }
      match Decimal.ofNumeral n with
      | some b => return (.ok (.float (Decimal.text b)), rest)
      | none =>
        if negative then return (.ok (.float "-inf"), rest)
        else return (.error "floating-point number is too large", rest)

/-- The number that as many digits as `count` write. -/
def takeCount (count : Nat) (cs : List Char) : Option (Nat × List Char) :=
  let digits := cs.take count
  if digits.length = count ∧ digits.all Json.isDigit then
    some (Json.natOf digits, cs.drop count)
  else none

def daysOf (year month : Nat) : Nat :=
  if month = 2 then
    if (year % 4 = 0 ∧ year % 100 ≠ 0) ∨ year % 400 = 0 then 29 else 28
  else if month ∈ [4, 6, 9, 11] then 30 else 31

def takeDate (cs : List Char) : Option (List Char) := do
  let (year, rest) ← takeCount 4 cs
  match rest with
  | '-' :: rest =>
    let (month, rest) ← takeCount 2 rest
    match rest with
    | '-' :: rest =>
      let (day, rest) ← takeCount 2 rest
      if 1 ≤ month ∧ month ≤ 12 ∧ 1 ≤ day ∧ day ≤ daysOf year month then some rest else none
    | _ => none
  | _ => none

def takeTime (cs : List Char) : Option (List Char) := do
  let (hour, rest) ← takeCount 2 cs
  match rest with
  | ':' :: rest =>
    let (minute, rest) ← takeCount 2 rest
    match rest with
    | ':' :: rest =>
      let (second, rest) ← takeCount 2 rest
      if hour ≤ 23 ∧ minute ≤ 59 ∧ second ≤ 60 then
        match rest with
        | '.' :: d :: rest' =>
          if Json.isDigit d then some (rest'.dropWhile Json.isDigit) else none
        | '.' :: [] => none
        | rest => some rest
      else none
    | _ => none
  | _ => none

/-- What follows the offset of a moment, if it has one. -/
def takeOffset : List Char → Option (List Char)
  | 'Z' :: rest => some rest
  | 'z' :: rest => some rest
  | c :: rest =>
    if c = '+' ∨ c = '-' then do
      let (hour, rest) ← takeCount 2 rest
      match rest with
      | ':' :: rest =>
        let (minute, rest) ← takeCount 2 rest
        if hour ≤ 23 ∧ minute ≤ 59 then some rest else none
      | _ => none
    else some (c :: rest)
  | [] => some []

/-- What follows a moment: a date, a time of day, or both with or without an offset. -/
def takeMoment (cs : List Char) : Option (List Char) :=
  match takeDate cs with
  | some (c :: rest) =>
    if c = 'T' ∨ c = 't' then (takeTime rest).bind takeOffset
    else if c = ' ' then
      match takeTime rest with
      | some rest => takeOffset rest
      | none => some (c :: rest)
    else some (c :: rest)
  | some [] => some []
  | none => takeTime cs

/-- A value that begins like a number. -/
def readNumber (cs : List Char) : Outcome Scalar :=
  let number := invalid "number" []
  match takeMoment cs with
  | some rest => .ok (.moment, rest)
  | none =>
    let radix (r : Nat) (rest : List Char) : Outcome Scalar :=
      match takeDigits (Text.isDigitOf r) rest with
      | some (digits, rest) =>
        match readRadix r digits with
        | some i => .ok (.integer i, rest)
        | none => .error (faultAt cs (.because "number too large to fit in target type"))
      | none => .error (faultAt rest number)
    match cs with
    | '0' :: 'x' :: rest => radix 16 rest
    | '0' :: 'o' :: rest => radix 8 rest
    | '0' :: 'b' :: rest => radix 2 rest
    | cs =>
      let (negative, _, rest) := takeSign cs
      let sign := if negative then "-" else ""
      match rest with
      | 'i' :: 'n' :: 'f' :: rest => .ok (.float (sign ++ "inf"), rest)
      | 'n' :: 'a' :: 'n' :: rest => .ok (.float "NaN", rest)
      | _ =>
        match readDecimal cs with
        | some (.ok value, rest) => .ok (value, rest)
        | some (.error cause, _) => .error (faultAt cs (.because cause))
        | none => .error (faultAt rest number)

def readScalar (cs : List Char) : Outcome Scalar :=
  let word (w : String) (value : Scalar) : Outcome Scalar :=
    match Json.readWord w.toList cs with
    | some rest => .ok (value, rest)
    | none => .error (faultAt cs (invalid "string" ["`\"`", "`'`"]))
  match cs with
  | [] => .error (faultAt [] (invalid "string" ["`\"`", "`'`"]))
  | c :: _ =>
    if c = '"' ∨ c = '\'' then (readText cs).map fun (s, rest) => (.text s, rest)
    else if Json.isDigit c ∨ c = '+' ∨ c = '-' then readNumber cs
    else if c = 't' then word "true" (.boolean true)
    else if c = 'f' then word "false" (.boolean false)
    else if c = 'i' then word "inf" (.float "inf")
    else if c = 'n' then word "nan" (.float "NaN")
    else .error (faultAt cs (invalid "string" ["`\"`", "`'`"]))

end GrammarBench.Toml
