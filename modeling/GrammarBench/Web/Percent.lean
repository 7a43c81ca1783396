import GrammarBench.Text.Digits
import GrammarBench.Text.Utf8

/-!
# Percent signs

In addresses, a percent sign with two hexadecimal digits stands for a byte. What may not stand in a
part of an address is written in this way, byte by byte; each part has its own characters that need
not be.
-/

namespace GrammarBench.Percent

/-- The byte that two hexadecimal digits write. -/
def byteOf? (high low : UInt8) : Option UInt8 :=
  let digits := [Char.ofNat high.toNat, Char.ofNat low.toNat]
  (Text.number? 16 digits).map UInt8.ofNat

/-- The bytes that bytes stand for. A percent sign without two digits stands for itself. -/
def decode : List UInt8 → List UInt8
  | [] => []
  | 37 :: high :: low :: rest =>
    match byteOf? high low with
    | some b => b :: decode rest
    | none => 37 :: decode (high :: low :: rest)
  | b :: rest => b :: decode rest

/-- The text that a text stands for, if it is one. -/
def decodeText? (text : String) : Option String :=
  (Text.decodeStrict (decode (Text.utf8 text))).toOption

/-- A byte, written with a percent sign and large letters. -/
def writeByte (b : UInt8) : List Char :=
  ['%', (Text.digitChar (b.toNat / 16)).toUpper, (Text.digitChar (b.toNat % 16)).toUpper]

/-- The text with percent signs for all characters that are not kept. -/
def encode (isKept : Char → Bool) (cs : List Char) : String :=
  String.ofList <| cs.flatMap fun c =>
    if isKept c then [c] else (String.utf8EncodeChar c).flatMap writeByte

/-- The character belongs to ASCII and is no control. -/
def isBasic (c : Char) : Bool :=
  ' ' ≤ c && c < '\x7f'

/-- The character belongs to ASCII, is visible, and is none of the given ones. -/
def isVisibleBut (marks : List Char) (c : Char) : Bool :=
  isBasic c && c != ' ' && !marks.contains c

end GrammarBench.Percent
