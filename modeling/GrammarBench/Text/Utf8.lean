/-!
# UTF-8

Texts as bytes and back. A byte text is cut into *pieces*: characters, and broken pieces, each the
longest run of bytes that could have begun a character. A lossy reading shows every broken piece
as one U+FFFD, a strict reading refuses the text and names the first broken piece.

The reader is a state machine over the bytes, so that a text may be handed to it in any chunks:
only the concatenation of the bytes matters.
-/

namespace GrammarBench.Text

def utf8 (s : String) : List UInt8 :=
  s.toList.flatMap String.utf8EncodeChar

inductive Piece where
  | char (c : Char)
  /-- Bytes that begin a character and do not complete it; `atEnd` when the text ends there. -/
  | broken (length : Nat) (atEnd : Bool)
deriving Repr, DecidableEq

namespace Piece

def size : Piece → Nat
  | char c => (String.utf8EncodeChar c).length
  | broken length _ => length

/-- The piece as a character; a broken one is the replacement character. -/
def toChar : Piece → Char
  | char c => c
  | broken _ _ => '\uFFFD'

end Piece

inductive Utf8State where
  | ground
  /-- In a character: `owed` bytes are missing, the next one from `low` to `high`; `code` holds
  the bits read and `seen` counts the bytes read. -/
  | inside (owed : Nat) (low high : UInt8) (code seen : Nat)
deriving Repr, DecidableEq

/-- The first byte of a character: the state it leads to. A byte that begins no character is a
broken piece of its own. -/
def utf8First (b : UInt8) : List Piece × Utf8State :=
  if b < 0x80 then ([.char (Char.ofNat b.toNat)], .ground)
  else if b < 0xC2 then ([.broken 1 false], .ground)
  else if b < 0xE0 then ([], .inside 1 0x80 0xBF (b.toNat - 0xC0) 1)
  else if b < 0xF0 then
    ([], .inside 2 (if b = 0xE0 then 0xA0 else 0x80) (if b = 0xED then 0x9F else 0xBF)
      (b.toNat - 0xE0) 1)
  else if b < 0xF5 then
    ([], .inside 3 (if b = 0xF0 then 0x90 else 0x80) (if b = 0xF4 then 0x8F else 0xBF)
      (b.toNat - 0xF0) 1)
  else ([.broken 1 false], .ground)

/-- One byte: the pieces that it completes and the state after it. -/
def utf8Step (state : Utf8State) (b : UInt8) : List Piece × Utf8State :=
  match state with
  | .ground => utf8First b
  | .inside owed low high code seen =>
    if low ≤ b ∧ b ≤ high then
      let code := code * 64 + (b.toNat - 0x80)
      if owed ≤ 1 then ([.char (Char.ofNat code)], .ground)
      else ([], .inside (owed - 1) 0x80 0xBF code (seen + 1))
    else
      let (pieces, state) := utf8First b
      (.broken seen false :: pieces, state)

/-- The pieces of a byte text, read from a state. -/
def utf8Pieces (state : Utf8State) : List UInt8 → List Piece
  | [] =>
    match state with
    | .ground => []
    | .inside _ _ _ _ seen => [.broken seen true]
  | b :: bs => (utf8Step state b).1 ++ utf8Pieces (utf8Step state b).2 bs

/-- The text of the bytes, with U+FFFD for every broken piece. -/
def decodeLossy (bytes : List UInt8) : String :=
  String.ofList ((utf8Pieces .ground bytes).map Piece.toChar)

/-- Why bytes are no text: the place of the first broken piece and its length, which is absent
when the bytes end inside a character. -/
structure Utf8Fault where
  index : Nat
  length : Option Nat
deriving Repr, DecidableEq

/-- The first broken piece, looked for from the byte `index` on. -/
def firstBroken? (index : Nat) : List Piece → Option Utf8Fault
  | [] => none
  | .char c :: ps => firstBroken? (index + (Piece.char c).size) ps
  | .broken length atEnd :: _ => some ⟨index, if atEnd then none else some length⟩

def decodeStrict (bytes : List UInt8) : Except Utf8Fault String :=
  let pieces := utf8Pieces .ground bytes
  match firstBroken? 0 pieces with
  | some fault => .error fault
  | none => .ok (String.ofList (pieces.map Piece.toChar))

def Utf8Fault.message (fault : Utf8Fault) : String :=
  match fault.length with
  | some n => s!"invalid utf-8 sequence of {n} bytes from index {fault.index}"
  | none => s!"incomplete utf-8 byte sequence from index {fault.index}"

end GrammarBench.Text
