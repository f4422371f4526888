import ScriptGraph.Http.Url.Path

/-! # Reading addresses

An address begins with a scheme, and the scheme decides how the rest is read. Blanks and controls
around an address and breaks inside of it do not count.
-/

namespace ScriptGraph.Http.Url

def queryReserved : List Char := [' ', '"', '#', '<', '>']

def fragmentReserved : List Char := [' ', '"', '<', '>', '`']

def credentialsReserved : List Char :=
  pathReserved ++ ['/', ':', ';', '=', '@', '[', '\\', ']', '^', '|']

def encoded (reserved cs : List Char) : String :=
  String.ofList (Percent.encode reserved cs)

/-! ### Query and fragment -/

/-- Splits off the query and the fragment of an address. -/
def splitTail (kind : SchemeKind) (cs : List Char) : List Char × Option String × Option String :=
  let (before, fragment) := cs.span (· ≠ '#')
  let (main, query) := before.span (· ≠ '?')
  let reserved := if kind.isKnown then '\'' :: queryReserved else queryReserved
  let part (reserved : List Char) : List Char → Option String
    | [] => none
    | _ :: cs => some (encoded reserved cs)
  (main, part reserved query, part fragmentReserved fragment)

/-! ### Authority -/

/-- Whether a character ends an authority. -/
def endsAuthority (kind : SchemeKind) (c : Char) : Bool :=
  c = '/' || (kind.isKnown && c = '\\')

/-- Reads a user and a password, which the first colon separates. -/
def credentials? (cs : List Char) : Option Credentials :=
  let (user, password) := cs.span (· ≠ ':')
  let user := encoded credentialsReserved user
  let password :=
    match password with
    | _ :: c :: cs => some (encoded credentialsReserved (c :: cs))
    | _ => none
  if user.isEmpty && password.isNone then none else some { user, password }

/-- Splits an authority at its last at sign, if it has one. -/
def splitCredentials (cs : List Char) : Option (List Char) × List Char :=
  let (host, rest) := cs.reverse.span (· ≠ '@')
  match rest with
  | [] => (none, cs)
  | _ :: credentials => (some credentials.reverse, host.reverse)

/-- Splits a host from the colon before its port. Colons between brackets belong to the host. -/
def splitPort (cs : List Char) : List Char × List Char :=
  let rec go (inBrackets : Bool) : List Char → List Char × List Char
    | [] => ([], [])
    | c :: rest =>
      if c = ':' && !inBrackets then ([], c :: rest)
      else
        let inBrackets := if c = '[' then true else if c = ']' then false else inBrackets
        let (host, port) := go inBrackets rest
        (c :: host, port)
  go false cs

def defaultPort? (scheme : String) : Option Nat :=
  match scheme with
  | "http" | "ws" => some 80
  | "https" | "wss" => some 443
  | "ftp" => some 21
  | _ => none

/-- The number of a port, unless it is the default one; an outer `none` is a fault. -/
def port? (scheme : String) (digits : List Char) : Option (Option Nat) :=
  let n := Text.numberIn 10 digits
  if !digits.all Char.isDigit || 65535 < n then none
  else if digits.isEmpty || defaultPort? scheme = some n then some none
  else some (some n)

/-! ### Addresses by the kind of their scheme -/

/-- Reads an address with an authority, after the slashes before it. The host can be missing where
the scheme is a general one and neither credentials nor a port need it, but not between an at sign
and something else. A backslash ends a port also where it does not count as a slash. -/
def ofAuthority? (scheme : String) (kind : SchemeKind) (main : List Char) (isWhole : Bool) :
    Option Url := do
  let (server, rest) := main.span fun c => !endsAuthority kind c
  let (user, server) := splitCredentials server
  let credentials := user.bind credentials?
  let (name, port) := splitPort server
  let (port, tail) := port.span (· ≠ '\\')
  let rest := tail ++ rest
  let path :=
    match kind, rest with
    | .general, [] => ""
    | .general, '\\' :: _ => (readPath kind ['/'] rest).text
    | _, rest => (readPath kind ['/'] (rest.drop 1)).text
  if name.isEmpty then
    if kind = .network || !port.isEmpty || credentials.isSome ||
        user = some [] && !(rest.isEmpty && isWhole) then none
    else return { scheme, authority := some {}, path }
  else
    let host ← if kind = .network then Host.ofName? name else Host.ofAny? name
    let port ← port? scheme (port.drop 1)
    return { scheme, authority := some { credentials, host, port }, path }

/-- Reads the address of a file. Only two slashes can stand before a host, and where there is a
drive there is none. -/
def ofFile? (main : List Char) : Option Url := do
  let isSlash (c : Char) : Bool := c = '/' || c = '\\'
  let address (host : Option Host) (rest : List Char) : Url :=
    let path := readPath .file ['/'] (if rest.head?.any isSlash then rest.tail else rest)
    let host := if path.beginsWithDrive then none else host
    { scheme := "file", authority := some { host }, path := path.text }
  match main with
  | a :: b :: rest =>
    if isSlash a && isSlash b then
      let (name, path) := rest.span fun c => !isSlash c
      if name.isEmpty || isDrive name then return address none rest
      else
        let host ← Host.ofName? name
        return address (if host = .domain "localhost" then none else some host) path
    else return address none main
  | main => return address none main

/-- Reads an address of a general scheme. Without a slash the path has no segments. -/
def ofGeneral? (scheme : String) (main : List Char) (isWhole : Bool) : Option Url :=
  match main with
  | '/' :: '/' :: rest => ofAuthority? scheme .general rest isWhole
  | '/' :: rest => some { scheme, path := (readPath .general ['/'] rest).text }
  | cs => some { scheme, path := encoded [] cs }

def isSchemeChar (c : Char) : Bool :=
  c.isAlphanum || c = '+' || c = '-' || c = '.'

/-- Reads an address. -/
def ofText? (text : String) : Option Url :=
  let isOuter (c : Char) : Bool := c.toNat ≤ 32
  let cs := ((text.toList.dropWhile isOuter).reverse.dropWhile isOuter).reverse
  let cs := cs.filter fun c => c ≠ '\t' && c ≠ '\n' && c ≠ '\r'
  match cs.span isSchemeChar with
  | (first :: more, ':' :: rest) =>
    if !first.isAlpha then none
    else do
      let scheme := lowered (first :: more)
      let kind := SchemeKind.ofName scheme
      let (main, query, fragment) := splitTail kind rest
      let isWhole := query.isNone && fragment.isNone
      let url ←
        match kind with
        | .network =>
          ofAuthority? scheme kind (main.dropWhile fun c => c = '/' || c = '\\') isWhole
        | .file => ofFile? main
        | .general => ofGeneral? scheme main isWhole
      return { url with query, fragment }
  | _ => none

end ScriptGraph.Http.Url
