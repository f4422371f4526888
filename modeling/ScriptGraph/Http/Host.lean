import ScriptGraph.Http.Domain.Label
import ScriptGraph.Http.Ipv4
import ScriptGraph.Http.Ipv6
import ScriptGraph.Http.Percent

/-! # Hosts

The host of an address is a domain name or one of two kinds of number. Where the scheme gives no
meaning to names, the host is any text.
-/

namespace ScriptGraph.Http

inductive Host where
  | domain (name : String)
  | ipv4 (address : Ipv4)
  | ipv6 (address : Ipv6)
  /-- A text that is no name. -/
  | other (text : String)
  deriving DecidableEq

namespace Host

def text : Host → String
  | domain name => name
  | ipv4 address => address.text
  | ipv6 address => s!"[{address.text}]"
  | other text => text

/-- The host between brackets, if a text begins with one; an outer `none` if it does not. -/
def bracketed? : List Char → Option (Option Host)
  | '[' :: rest =>
    some (if rest.getLast? = some ']' then (Ipv6.ofChars? rest.dropLast).map ipv6 else none)
  | _ => none

/-- Reads a host where names have a meaning. A name that ends in a number must be a number. -/
def ofName? (cs : List Char) : Option Host :=
  match bracketed? cs with
  | some host => host
  | none => do
    let name ← Domain.ofText? (← Percent.decode? cs).toList
    if name.isEmpty then none
    else if Ipv4.isMeant name then return .ipv4 (← Ipv4.ofChars? name)
    else return .domain (String.ofList name)

/-- Characters that cannot be part of any host. -/
def isForbidden (c : Char) : Bool :=
  ['\x00', '\t', '\n', '\r', ' ', '#', '/', ':', '<', '>', '?', '@', '[', '\\', ']', '^',
    '|'].contains c

/-- Reads a host where names have no meaning. -/
def ofAny? (cs : List Char) : Option Host :=
  match bracketed? cs with
  | some host => host
  | none =>
    if cs.any isForbidden then none else some (.other (String.ofList (Percent.encode [] cs)))

end Host

end ScriptGraph.Http
