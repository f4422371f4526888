import ScriptGraph.Http.Host

/-! # Addresses

The addresses that requests are sent to, in their normal form: scheme and name in lower case, no
default port, a path without dot segments, and every character that has no place in an address
percent-encoded.
-/

namespace ScriptGraph.Http

/-- How the rest of an address is read after its scheme. -/
inductive SchemeKind where
  /-- An address with a host, such as one of the web. -/
  | network
  | file
  /-- An address of any form. -/
  | general
  deriving DecidableEq

namespace SchemeKind

def ofName (scheme : String) : SchemeKind :=
  if ["http", "https", "ws", "wss", "ftp"].contains scheme then network
  else if scheme = "file" then file
  else general

/-- Whether backslashes count as slashes, and names of hosts have a meaning. -/
def isKnown (kind : SchemeKind) : Bool :=
  kind ≠ general

end SchemeKind

/-- The user that a request is sent for, percent-encoded. A password is not empty. -/
structure Credentials where
  user : String
  password : Option String
  deriving DecidableEq

/-- Where an address leads, before its path. -/
structure Authority where
  credentials : Option Credentials := none
  host : Option Host := none
  port : Option Nat := none
  deriving DecidableEq

/-- An address in normal form. -/
structure Url where
  scheme : String
  authority : Option Authority := none
  path : String
  query : Option String := none
  fragment : Option String := none
  deriving DecidableEq

/-- A part that may be missing, behind its mark. -/
def marked (mark : String) (part : Option String) : String :=
  match part with
  | some s => mark ++ s
  | none => ""

def Credentials.text (c : Credentials) : String :=
  c.user ++ marked ":" c.password ++ "@"

namespace Authority

def text (a : Authority) : String :=
  let host :=
    match a.host with
    | some host => host.text
    | none => ""
  marked "" (a.credentials.map (·.text)) ++ host ++ marked ":" (a.port.map toString)

/-- Whether the credentials can be sent as a header. -/
def hasReadableCredentials (a : Authority) : Bool :=
  a.credentials.any fun c =>
    match Percent.decode? c.user.toList with
    | none => false
    | some user => !user.isEmpty || c.password.any fun p => (Percent.decode? p.toList).isSome

end Authority

namespace Url

def host? (u : Url) : Option Host :=
  u.authority.bind (·.host)

/-- The text of an address. Without an authority no path can begin with two slashes, so a dot
segment is put in front of it. -/
def text (u : Url) : String :=
  let lead :=
    match u.authority with
    | some authority => "//" ++ authority.text
    | none => if "//".isPrefixOf u.path then "/." else ""
  u.scheme ++ ":" ++ lead ++ u.path ++ marked "?" u.query ++ marked "#" u.fragment

/-- The address that a request shows. Credentials that can be sent as a header are not part of
it. -/
def withoutCredentials (u : Url) : Url :=
  match u.authority with
  | some authority =>
    if authority.hasReadableCredentials then
      { u with authority := some { authority with credentials := none } }
    else u
  | none => u

/-- Whether requests can be sent by the scheme. -/
def isWeb (u : Url) : Bool :=
  u.scheme = "http" || u.scheme = "https"

/-- The longest address, in bytes, that a request can carry. -/
def lengthLimit : Nat := 65534

/-- The characters of a host that a request can carry. -/
def isCarriedInHost (c : Char) : Bool :=
  c.isAlphanum ||
    ['!', '$', '&', '\'', '(', ')', '*', '+', ',', '-', '.', ':', ';', '=', '[', ']', '_',
      '~'].contains c

/-- Whether a request can carry the address. -/
def isCarried (u : Url) : Bool :=
  u.host?.all (fun host => host.text.toList.all isCarriedInHost) &&
    u.text.utf8ByteSize ≤ lengthLimit

end Url

end ScriptGraph.Http
