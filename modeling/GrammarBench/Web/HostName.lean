import GrammarBench.Web.Domain
import GrammarBench.Web.HostName.Ipv4
import GrammarBench.Web.HostName.Ipv6
import GrammarBench.Web.Percent

/-!
# Host names

A host is named by a domain or by numbers. In addresses of schemes that are not those of the web a
host may have any name, or none.
-/

namespace GrammarBench

inductive HostName where
  /-- A domain, or any other name. -/
  | named (name : String)
  | ipv4 (address : Ipv4)
  | ipv6 (address : Ipv6)
deriving Repr, DecidableEq

namespace HostName

def empty : HostName := named ""

def text : HostName → String
  | named name => name
  | ipv4 address => address.text
  | ipv6 address => address.text

/-- Reads a numeric name in brackets; its first bracket has been read. -/
def readBracketed? (cs : List Char) : Option HostName :=
  if cs.getLast? == some ']' then (Ipv6.read? cs.dropLast).map ipv6 else none

def readDomain? (cs : List Char) : Option HostName := do
  let domain ← Domain.toAscii? (Percent.decode (Text.utf8 (String.ofList cs)))
  if domain.isEmpty then none
  else if Ipv4.endsInNumber domain.toList then (Ipv4.read? domain.toList).map ipv4
  else return named domain

def isForbidden (c : Char) : Bool :=
  ['\x00', ' ', '#', '/', ':', '<', '>', '?', '@', '[', '\\', ']', '^', '|'].contains c

/-- Reads the name of a host. Where it need not be a domain it may also be empty. -/
def read? (isDomain : Bool) (cs : List Char) : Option HostName :=
  match cs with
  | '[' :: rest => readBracketed? rest
  | _ =>
    if isDomain then readDomain? cs
    else if cs.any isForbidden then none
    else some (named (Percent.encode Percent.isBasic cs))

end HostName

end GrammarBench
