import GrammarBench.Text.Punycode
import GrammarBench.Text.Utf8
import GrammarBench.Web.Domain.Direction
import GrammarBench.Web.Domain.Joiner
import GrammarBench.Web.Domain.Mapping

/-!
# Domains

Domains may hold letters of any script, and are looked up in ASCII. Every spelling is brought to
one form, each label is checked, and labels that are not ASCII are written in Punycode behind
`xn--`. Labels that come in that form already are read, so that they are held to the same checks.
-/

namespace GrammarBench.Domain

def punycodeMark : List Char := ['x', 'n', '-', '-']

/-- Labels longer than this are not written in Punycode. -/
def longestWritten : Nat := 1000

/-- Labels longer than this are not read from Punycode. -/
def longestRead : Nat := 2000

/-- The letters are in the one form of all their spellings, and ASCII cannot write them. -/
def needsPunycode (letters : List Char) : Bool :=
  letters.all isPlain && Text.compose letters == letters &&
    !letters.all Text.Punycode.isBasic && !punycodeMark.isPrefixOf letters

/-- A label in the letters that it stands for. A label in Punycode has to need it. -/
def readLabel? (label : List Char) : Option (List Char) :=
  if punycodeMark.isPrefixOf label then
    let written := label.drop punycodeMark.length
    if written.length > longestRead then none
    else (Text.Punycode.decode? written).filter needsPunycode
  else some label

/-- The label may be used: it does not begin with a mark, and its joiners stand where they may. -/
def isLabel (label : List Char) : Bool :=
  !label.head?.any Text.isMark && joinersStand [] label

def writeLabel? (label : List Char) : Option (List Char) :=
  if label.all Text.Punycode.isBasic then some label
  else if label.length > longestWritten then none
  else some (punycodeMark ++ Text.Punycode.encode label)

/-- The character may not stand in a domain of an address. -/
def isForbidden (c : Char) : Bool :=
  c.toNat ≤ 0x20 || c.toNat == 0x7F ||
    ['%', '#', '/', ':', '<', '>', '?', '@', '[', '\\', ']', '^', '|'].contains c

/-- The labels that a domain stands for, in their letters. -/
def labels? (cs : List Char) : Option (List (List Char)) := do
  let letters := (← cs.mapM spelled?).flatten
  let labels ← (Text.pieces (· == '.') (Text.compose letters)).mapM readLabel?
  let isMixed := labels.any runsRightToLeft && !labels.all hasOneDirection
  if labels.all isLabel && !isMixed then some labels else none

/-- The form in ASCII of a domain, which is given in bytes; none if it is not one. -/
def toAscii? (bytes : List UInt8) : Option String := do
  let text ← (Text.decodeStrict bytes).toOption
  let labels ← (← labels? text.toList).mapM writeLabel?
  let domain := ['.'].intercalate labels
  if domain.any isForbidden then none else some (String.ofList domain)

end GrammarBench.Domain
