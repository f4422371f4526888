import ScriptGraph.Http.Url.Reader
import ScriptGraph.Json.Value

/-! # Requests and responses

A request is checked before it is sent: its address, method and headers must have a form that can be
sent. What comes back is a status, headers and the bytes of a body.
-/

namespace ScriptGraph.Http

/-- Why a request fails. -/
inductive Failure where
  /-- It cannot be sent; an address that is one, but that nothing can be sent to, is named. -/
  | unsendable (address : Option String)
  /-- The connection broke. -/
  | connection (address : String)
  /-- The body broke off. -/
  | body
  deriving DecidableEq

def Failure.message : Failure → String
  | .unsendable none => "builder error"
  | .unsendable (some address) => s!"builder error for url ({address})"
  | .connection address => s!"error sending request for url ({address})"
  | .body => "error decoding response body"

/-- The characters of a method and of the name of a header. -/
def isTokenChar (c : Char) : Bool :=
  c.isAlphanum ||
    ['!', '#', '$', '%', '&', '\'', '*', '+', '-', '.', '^', '_', '`', '|', '~'].contains c

def isToken (s : String) : Bool :=
  !s.isEmpty && s.toList.all isTokenChar

/-- The values that a header can have: any without controls other than the tabulator. -/
def isHeaderValue (s : String) : Bool :=
  s.toList.all fun c => c = '\t' || (32 ≤ c.toNat && c.toNat ≠ 127)

/-- Whether a request with a method sends a body text along. -/
def sendsBody (method body : String) : Bool :=
  method ≠ "GET" && !body.isEmpty

structure Request where
  method : String
  url : Url
  /-- Names in lower case. -/
  headers : List (String × String)
  body : Option String
  deriving DecidableEq

/-- Puts a request together, or tells why it cannot be sent. The headers count once the address is
known to have a host, and before its scheme does. -/
def Request.build (method address : String) (headers : List (String × String))
    (body : Option String) : Except Failure Request :=
  match Url.ofText? address with
  | none => .error (.unsendable none)
  | some whole =>
    let url := whole.withoutCredentials
    if url.host?.isNone then .error (.unsendable (some url.text))
    else if !headers.all (fun (name, value) => isToken name && isHeaderValue value) then
      .error (.unsendable none)
    else if !(url.isWeb && url.isCarried) then .error (.unsendable (some url.text))
    else .ok {
      method, url, body
      headers := headers.map fun (name, value) => (name.toLower, value) }

structure Response where
  status : UInt16
  headers : List (String × String)
  body : List UInt8
  deriving DecidableEq

namespace Response

/-- Headers by name; of several with one name the last counts. -/
def headerFields (r : Response) : Json.Members :=
  Json.Members.ofList (r.headers.map fun (name, value) => (name.toLower, .string value))

/-- The length of the body that the headers promise. -/
def promisedLength? (r : Response) : Option Nat :=
  (r.headers.find? fun (name, _) => name.toLower = "content-length").bind (·.2.toNat?)

/-- The text of the body, with a replacement character for each faulty sequence. No body follows the
request for a head or the status without content. -/
def text (r : Response) (method : String) : Except Failure String :=
  if method = "HEAD" ∨ r.status = 204 then .ok ""
  else match r.promisedLength? with
    | some length =>
      if r.body.length < length then .error .body
      else .ok (Text.Utf8.decodeLossy (r.body.take length))
    | none => .ok (Text.Utf8.decodeLossy r.body)

end Response

/-- The world that requests go to: what comes back for the request with a number, if anything. -/
abbrev Exchange := (number : Nat) → Request → Option Response

/-- A world in which nobody answers. -/
def Exchange.unreachable : Exchange := fun _ _ => none

end ScriptGraph.Http
