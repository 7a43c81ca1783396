import GrammarBench.Text.Digits
import GrammarBench.Text.Pieces

/-!
# Long numeric host names

A host may be named by eight numbers below 65536 in base sixteen with colons between them. Two
colons in a row stand for as many zeros as are missing, once; the last two numbers may be written as
four bytes with dots between them. The written form has two colons for the longest run of zeros.
-/

namespace GrammarBench

structure Ipv6 where
  groups : List Nat
deriving Repr, DecidableEq

namespace Ipv6

/-- Reads one group: one to four digits. -/
def group? (cs : List Char) : Option Nat :=
  if cs.isEmpty || cs.length > 4 then none else Text.number? 16 cs

/-- Reads a byte in base ten, without leading zeros. -/
def byte? (cs : List Char) : Option Nat :=
  if cs.isEmpty || (cs.head? == some '0' && cs.length > 1) then none
  else match Text.number? 10 cs with
    | some n => if n < 256 then some n else none
    | none => none

/-- Reads four bytes with dots between them as two groups. -/
def dotted? (cs : List Char) : Option (List Nat) := do
  match ← (Text.pieces (· == '.') cs).mapM byte? with
  | [a, b, c, d] => some [a * 256 + b, c * 256 + d]
  | _ => none

/-- Reads texts between colons. Only the very last one may have dots in it. -/
def readPieces? (isLast : Bool) : List (List Char) → Option (List Nat)
  | [] => some []
  | [piece] =>
    if isLast && piece.contains '.' then dotted? piece else (group? piece).map ([·])
  | piece :: rest => do
    let group ← group? piece
    let groups ← readPieces? isLast rest
    return group :: groups

/-- Reads groups with colons between them, of which there may be none. -/
def readGroups? (isLast : Bool) (cs : List Char) : Option (List Nat) :=
  if cs.isEmpty then some [] else readPieces? isLast (Text.pieces (· == ':') cs)

/-- What stands before and after the first two colons in a row. -/
def cutZeros? : List Char → Option (List Char × List Char)
  | [] => none
  | ':' :: ':' :: cs => some ([], cs)
  | c :: cs => (cutZeros? cs).map fun (before, after) => (c :: before, after)

def read? (cs : List Char) : Option Ipv6 :=
  match cutZeros? cs with
  | some (before, after) => do
    let before ← readGroups? false before
    let after ← readGroups? true after
    let missing := 8 - (before.length + after.length)
    if missing = 0 then none
    else return ⟨before ++ List.replicate missing 0 ++ after⟩
  | none => do
    let groups ← readGroups? true cs
    if groups.length = 8 then some ⟨groups⟩ else none

def zerosAt (groups : List Nat) : Nat :=
  (groups.takeWhile (· == 0)).length

def longestZeros : List Nat → Nat
  | [] => 0
  | n :: ns => max (zerosAt (n :: ns)) (longestZeros ns)

/-- The groups before the first run of zeros that is as long as `length`, and those after it. -/
def cutRun (length : Nat) : List Nat → List Nat × List Nat
  | [] => ([], [])
  | n :: ns =>
    if zerosAt (n :: ns) = length then ([], (n :: ns).drop length)
    else ((n :: (cutRun length ns).1), (cutRun length ns).2)

def groupsText (groups : List Nat) : String :=
  ":".intercalate (groups.map fun n => String.ofList (Text.hexDigits n))

/-- The written form, in brackets. A single zero is written out. -/
def text (a : Ipv6) : String :=
  let length := longestZeros a.groups
  if length < 2 then "[" ++ groupsText a.groups ++ "]"
  else
    let (before, after) := cutRun length a.groups
    "[" ++ groupsText before ++ "::" ++ groupsText after ++ "]"

end Ipv6

end GrammarBench
