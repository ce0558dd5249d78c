import WalletAuth.Url.Basic
import WalletAuth.Redis.Reply

/-!
# WalletAuth.Backend.Target — where a key-value server is reached

A server is named by a URL. `redis`, `rediss`, `valkey` and `valkeys` URLs name a host and port
(6379 when none is given) and, in their path, a database number; `redis+unix`, `valkey+unix` and
`unix` URLs name a socket by its file path and take the database from the query's `db`. A URL of
any other scheme, or a text that is not a URL, is refused.

A TLS scheme is refused too, since the client is built without TLS; a host URL needs a host, a
socket URL a local absolute path, and a database number must be a signed 64-bit number.

A host URL takes user name and password from its user information, a socket URL from the
query's `user` and `pass`; both take the protocol version from the query's `protocol` (`2`
or `resp2`, the default, or `3` or `resp3`).
-/

namespace WalletAuth
namespace KeyValue

/-- Where a key-value server is reached. -/
inductive Address where
  | tcp (host : Url.Host) (port : Nat)
  | unix (path : String)
  deriving DecidableEq, Repr

/-- The protocol version the client speaks. -/
inductive Protocol where
  | resp2
  | resp3
  deriving DecidableEq, Repr

/-- Where a key-value server is reached, the database used there, the credentials and the
protocol version. -/
structure Target where
  address : Address
  db : Int := 0
  username : Option String := none
  password : Option String := none
  protocol : Protocol := .resp2
  deriving DecidableEq, Repr

/-- The port of a server when its URL gives none. -/
def defaultPort : Nat := 6379

/-- Schemes of servers reached over TCP. -/
def tcpSchemes : List String := ["redis", "rediss", "valkey", "valkeys"]

/-- Schemes of servers reached through a local socket. -/
def socketSchemes : List String := ["redis+unix", "valkey+unix", "unix"]

/-- A decimal signed 64-bit number, with an optional sign. -/
def parseSigned (s : String) : Option Int :=
  let digits (cs : List Char) : Option Nat :=
    if cs.isEmpty || !cs.all Char.isDigit then none
    else some (cs.foldl (fun n c => n * 10 + (c.toNat - 48)) 0)
  match s.toList with
  | '-' :: rest => (digits rest).bind fun n => if n ≤ Nat.pow 2 63 then some (-(n : Int)) else none
  | '+' :: rest => (digits rest).bind fun n => if n < Nat.pow 2 63 then some (n : Int) else none
  | cs => (digits cs).bind fun n => if n < Nat.pow 2 63 then some (n : Int) else none

/-- A database number, or the failure of one that is not a number. -/
def database (s : String) : Except Redis.Failure Int :=
  match parseSigned s with
  | some n => .ok n
  | none => .error (.invalidConfig "Invalid database number")

/-- The protocol version a query asks for. -/
def protocolOf (value : Option String) : Except Redis.Failure Protocol :=
  match value with
  | none => .ok .resp2
  | some v =>
    if v == "2" || v == "resp2" then .ok .resp2
    else if v == "3" || v == "resp3" then .ok .resp3
    else .error (.invalidProtocol v)

/-- Percent-decodes user information; `what` names it in the failure when the bytes are not
UTF-8. -/
def decodeCredential (what raw : String) : Except Redis.Failure String :=
  match String.fromUTF8? ⟨(Url.percentDecode raw.toUTF8.toList).toArray⟩ with
  | some s => .ok s
  | none => .error (.invalidConfig (what ++ " is not valid UTF-8 string"))

/-- Decodes `+` as a blank and `%XX` escapes in a query component. -/
def formDecode (s : String) : String :=
  let bytes := Url.percentDecode (s.toUTF8.toList.map fun b => if b = 43 then 32 else b)
  (String.fromUTF8? ⟨bytes.toArray⟩).getD s

/-- The value of a query parameter; of several with one name, the last. -/
def queryParam (query name : String) : Option String :=
  let pairs := (query.splitOn "&").filter (· ≠ "") |>.map fun part =>
    match part.splitOn "=" with
    | k :: rest => (formDecode k, formDecode ("=".intercalate rest))
    | [] => ("", "")
  (pairs.filter (·.1 == name)).getLast?.map (·.2)

/-- The path, query and fragment of a URL's tail. -/
def splitTail (tail : String) : String × String :=
  let cs := tail.toList
  let path := cs.takeWhile fun c => c != '?' && c != '#'
  let afterPath := cs.drop path.length
  let query := match afterPath with
    | '?' :: rest => rest.takeWhile (· != '#')
    | _ => []
  (String.ofList path, String.ofList query)

/-- The local file path a socket URL names: its path decoded, when it is absolute and the host
is absent or `localhost`. -/
def filePath (u : Url.Parsed) (path : String) : Option String :=
  let localHost := match u.host with
    | none => true
    | some h => h == .domain "localhost"
  if !localHost || !path.startsWith "/" then none
  else
    let bytes := Url.percentDecode path.toUTF8.toList
    let n := bytes.length
    let drive := n > 2 && (bytes[n - 2]?.map fun b => (Char.ofNat b.toNat).isAlpha).getD false &&
      (bytes[n - 1]? == some 58 || bytes[n - 1]? == some 124)
    let bytes := if drive then bytes ++ [47] else bytes
    some ((String.fromUTF8? ⟨bytes.toArray⟩).getD path)

/-- Where a URL says the server is. -/
def Target.ofUrl (text : String) : Except Redis.Failure Target := do
  let u ← match Url.parse text with
    | .ok u => pure u
    | .error _ => throw (.invalidConfig "Redis URL did not parse")
  let (path, query) := splitTail u.tail
  if tcpSchemes.contains u.scheme then
    let host ← match u.host with
      | some h => pure h
      | none => throw (.invalidConfig "Missing hostname")
    if u.scheme == "rediss" || u.scheme == "valkeys" then
      throw (.invalidConfig "can't connect with TLS, the feature is not enabled")
    let dbText := String.ofList ((path.toList.dropWhile (· == '/')).reverse.dropWhile (· == '/')).reverse
    let db ← if dbText.isEmpty then pure 0 else database dbText
    let username ← if u.username.isEmpty then pure none
      else some <$> decodeCredential "Username" u.username
    let password ← if u.password.isEmpty then pure none
      else some <$> decodeCredential "Password" u.password
    let protocol ← protocolOf (queryParam query "protocol")
    pure ⟨.tcp host (u.port.getD defaultPort), db, username, password, protocol⟩
  else if socketSchemes.contains u.scheme then
    let file ← match filePath u path with
      | some f => pure f
      | none => throw (.invalidConfig "Missing path")
    let db ← match queryParam query "db" with
      | some d => database d
      | none => pure 0
    let protocol ← protocolOf (queryParam query "protocol")
    pure ⟨.unix file, db, queryParam query "user", queryParam query "pass", protocol⟩
  else throw (.invalidConfig "Redis URL did not parse")

end KeyValue
end WalletAuth
