import WalletAuth.Json.Reader
import WalletAuth.Json.Value
import WalletAuth.Text.Case
import WalletAuth.Net.SocketAddress
import WalletAuth.Server.Target

/-!
# WalletAuth.Server.Http — requests and responses at the API boundary

A request is a method, a target, headers, a body and the peer's address; a response is a status,
headers and a body. Routing reads the path of the target alone (see `Target.path`).

* A header is read as text only when every character of it is visible ASCII or a tab; any other
  value counts as absent.
* A JSON body is accepted only under a media type `application/json` or `application/…+json`
  (names in any case, parameters allowed), and only up to 16384 bytes. A body that is not JSON is
  refused with `400`, one that is JSON of the wrong form with `422`, each with the reader's error
  and the path to it.
* Every response carries its length, and the security headers: no caching, no referrer, no
  sniffing, no framing, strict transport, no powerful features, and a content policy that
  forbids every resource.
-/

namespace WalletAuth
namespace Http

/-- A request as it reaches the router. -/
structure Request where
  method : String
  target : Target
  headers : List (String × String) := []
  body : String := ""
  peer : Net.SocketAddress
  deriving Repr

/-- A response. -/
structure Response where
  status : Nat
  headers : List (String × String) := []
  body : String := ""
  /-- Whether the response states its body's length; the fallback for unknown paths sends
  its empty body without one. -/
  sized : Bool := true
  deriving DecidableEq, Repr

/-- Whether a header value is text: visible ASCII and tabs only. -/
def isHeaderText (v : String) : Bool :=
  v.toList.all fun c => c = '\t' ∨ (32 ≤ c.toNat ∧ c.toNat ≤ 126)

namespace Request

/-- The first value of a header, by its name in any case. -/
def header? (r : Request) (name : String) : Option String :=
  (r.headers.find? fun h => Text.eqIgnoreAsciiCase h.1 name).map (·.2)

/-- The first value of a header when it is text. -/
def textHeader? (r : Request) (name : String) : Option String :=
  match r.header? name with
  | some v => if isHeaderText v then some v else none
  | none => none

/-- The path the router matches. -/
def path (r : Request) : String := r.target.path

end Request

namespace MediaType

/-- Whether a character may appear in a token. -/
def isToken (c : Char) : Bool := c.isAlphanum || "!#$%&'*+-.^_`|~".toList.contains c

/-- Whether a character may appear inside a quoted parameter value. -/
def isQuotedChar (c : Char) : Bool := c.toNat > 31 && c.toNat != 127

/-- The top-level type: token characters up to a `/` that is not the first character, and the
rest after it. -/
def topLevel : List Char → List Char → Option (List Char × List Char)
  | acc, c :: rest =>
    if isToken c then topLevel (c :: acc) rest
    else if c = '/' && !acc.isEmpty then some (acc.reverse, rest)
    else none
  | _, [] => none

/-- The subtype: token characters up to the end or to a `;` that is not the first character,
and the parameters after that `;`. -/
def subLevel : List Char → List Char → Option (List Char × Option (List Char))
  | acc, c :: rest =>
    if c = ';' && !acc.isEmpty then some (acc.reverse, some rest)
    else if isToken c then subLevel (c :: acc) rest
    else none
  | acc, [] => some (acc.reverse, none)

/-- Where a reader of parameters stands. -/
inductive ParamState where
  | nameStart
  | name
  | valueStart
  | value
  | quotedStart
  | quoted
  | afterQuote
  deriving DecidableEq, Repr

/-- Whether parameters are well formed: each is optional blanks, a token name, `=`, and a token
value or a quoted one (blanks may follow the closing quote); they are separated by `;`. -/
def paramsOk : ParamState → List Char → Bool
  | .nameStart, [] => true
  | .nameStart, c :: rest =>
    if c = ' ' then paramsOk .nameStart rest
    else if isToken c then paramsOk .name rest
    else false
  | .name, [] => false
  | .name, c :: rest =>
    if isToken c then paramsOk .name rest
    else if c = '=' then paramsOk .valueStart rest
    else false
  | .valueStart, [] => true
  | .valueStart, c :: rest =>
    if c = '"' then paramsOk .quotedStart rest
    else if isToken c then paramsOk .value rest
    else false
  | .value, [] => true
  | .value, c :: rest =>
    if isToken c then paramsOk .value rest
    else if c = ';' then paramsOk .nameStart rest
    else false
  | .quotedStart, [] => false
  | .quotedStart, c :: rest => if isQuotedChar c then paramsOk .quoted rest else false
  | .quoted, [] => false
  | .quoted, c :: rest =>
    if c = '"' then paramsOk .afterQuote rest
    else if isQuotedChar c then paramsOk .quoted rest
    else false
  | .afterQuote, [] => true
  | .afterQuote, c :: rest =>
    if c = ';' then paramsOk .nameStart rest
    else if c = ' ' then paramsOk .afterQuote rest
    else false

/-- A subtype split at its last `+` that is not its first character: the subtype proper and the
suffix. -/
def splitSuffix (sub : List Char) : List Char × Option (List Char) :=
  let pluses := (List.range sub.length).filter fun i => i > 0 && sub[i]? == some '+'
  match pluses.getLast? with
  | some i => (sub.take i, some (sub.drop (i + 1)))
  | none => (sub, none)

/-- The type, subtype and suffix of a media type text, or `none` when it is malformed. -/
def parse (s : String) : Option (String × String × Option String) :=
  if s = "*/*" then some ("*", "*", none)
  else do
    let (top, rest) ← topLevel [] s.toList
    let (sub, params) ← subLevel [] rest
    if !(params.map (paramsOk .nameStart)).getD true then none
    let (proper, suffix) := splitSuffix sub
    pure (String.ofList top, String.ofList proper, suffix.map String.ofList)

/-- Whether a media type names JSON: `application/json`, or any `application` subtype with the
suffix `+json`, in any case. -/
def isJson (s : String) : Bool :=
  match parse s with
  | some (top, sub, suffix) =>
    Text.eqIgnoreAsciiCase top "application" &&
      (Text.eqIgnoreAsciiCase sub "json" ||
        (suffix.map fun x => Text.eqIgnoreAsciiCase x "json").getD false)
  | none => false

end MediaType

/-- The largest body read, in bytes. -/
def bodyLimit : Nat := 16384

/-- Why a JSON body was refused. -/
inductive BodyRejection where
  /-- The request does not say its body is JSON. -/
  | notJson
  /-- The body is longer than `bodyLimit`. -/
  | tooLarge
  /-- The body is not JSON. -/
  | unparsable (e : Json.ReadError)
  /-- The body is JSON of the wrong form. -/
  | mistyped (e : Json.ReadError)

namespace Response

/-- A JSON response. -/
def json (status : Nat) (j : Json) : Response :=
  { status, headers := [("content-type", "application/json")], body := j.compact }

/-- A plain-text response. -/
def plain (status : Nat) (text : String) : Response :=
  { status, headers := [("content-type", "text/plain; charset=utf-8")], body := text }

/-- A response without a body. -/
def empty (status : Nat) : Response := { status }

/-- The answer to a known path asked with a method it does not serve. -/
def methodNotAllowed (allowed : String) : Response :=
  { status := 405, headers := [("allow", allowed)] }

/-- The answer to an unknown path: empty, with no length stated. -/
def notFound : Response := { empty 404 with sized := false }

/-- Sets a header, replacing any value it had. -/
def setHeader (r : Response) (name value : String) : Response :=
  { r with headers := r.headers.filter (·.1 != name) ++ [(name, value)] }

/-- The security headers every response carries. -/
def securityHeaders : List (String × String) :=
  [("cache-control", "no-store"), ("referrer-policy", "no-referrer"),
    ("x-content-type-options", "nosniff"), ("x-frame-options", "DENY"),
    ("strict-transport-security", "max-age=63072000; includeSubDomains; preload"),
    ("permissions-policy", "camera=(), microphone=(), geolocation=(), payment=()"),
    ("content-security-policy", "default-src 'none'; frame-ancestors 'none'; base-uri 'none'")]

/-- The response as sent to a request with `method`: its length set when it states one, the
security headers added, and no body for a `HEAD` request (its length is still that of the
body it would have). -/
def finish (method : String) (r : Response) : Response :=
  let sized :=
    if !r.sized || r.headers.any (·.1 == "content-length") then r
    else r.setHeader "content-length" (toString r.body.utf8ByteSize)
  let secured := securityHeaders.foldl (fun acc (n, v) => acc.setHeader n v) sized
  if method = "HEAD" then { secured with body := "" } else secured

end Response

/-- The plain-text answer to a refused body. -/
def BodyRejection.response : BodyRejection → Response
  | .notJson => .plain 415 "Expected request with `Content-Type: application/json`"
  | .tooLarge => .plain 413 "Failed to buffer the request body: length limit exceeded"
  | .unparsable e => .plain 400 ("Failed to parse the request body as JSON: " ++ e.textWithPath)
  | .mistyped e =>
    .plain 422 ("Failed to deserialize the JSON body into the target type: " ++ e.textWithPath)

/-- Reads a request's body as JSON with `decode`: the media type first, then the length, then
the text. -/
def Request.jsonBody {α : Type} (r : Request) (decode : String → Except Json.ReadError α) :
    Except BodyRejection α :=
  if !((r.textHeader? "content-type").map MediaType.isJson).getD false then .error .notJson
  else if r.body.utf8ByteSize > bodyLimit then .error .tooLarge
  else
    match decode r.body with
    | .ok v => .ok v
    | .error e => .error (if e.isData then .mistyped e else .unparsable e)

end Http
end WalletAuth
