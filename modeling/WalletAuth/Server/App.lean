import WalletAuth.Server.Http
import WalletAuth.Server.Error
import WalletAuth.Server.Request
import WalletAuth.Session.Store
import WalletAuth.Handshake.Basic
import WalletAuth.Message.Json
import WalletAuth.Config.Basic

/-!
# WalletAuth.Server.App — the sign-in API

Five endpoints:

* `POST /api/auth/challenge` issues a challenge for an account, bound to the request's `Origin`;
* `POST /api/auth/verify` checks a signed challenge, records the sign-in on the account, and
  opens a session whose token it answers;
* `GET /api/auth/me` answers the account behind a session;
* `POST /api/auth/logout` closes the session;
* `POST /api/auth/logout/all` closes every session of its account.

The first two count requests per peer address in a window of a minute and refuse the ones
beyond the configured limit. The last three need `Authorization: Bearer TOKEN` naming a kept
session. A body is read before anything else; the key-value server is reached next, and every
failure of it is an internal error.
-/

namespace WalletAuth

/-- A sign-in server: its settings, its handshake, and whether its key-value server can be
reached. -/
structure App where
  config : Config
  handshake : Handshake
  kvReachable : Bool := true

/-- Computations of an endpoint: they fail with the error the caller is shown. -/
abbrev AppM := ExceptT ApiError BackendM

/-- The session a request is authorised by. -/
structure SessionAuth where
  address : Address
  chainId : Nat
  token : String
  deriving DecidableEq, Repr

/-- The count a counter reply is read as: its low 32 bits. -/
def counterValue (n : Int) : Nat := (n % Int.pow 2 32).toNat

/-- Counts one request under `key`; the first of a window starts it, `window` seconds long, the
count of seconds sent as a signed 64-bit number. Answers whether the count is within `max`. -/
def checkRateLimit (key : String) (max window : Nat) : KeyValue.ClientM Bool := do
  let count := counterValue (← KeyValue.integer ["INCRBY", key, "1"])
  if count = 1 then
    discard (KeyValue.command ["EXPIRE", key, toString (SessionStore.signedSeconds window)])
  pure (count ≤ max)

namespace App

/-- The server of a configuration: its handshake has the configured policy and nonce time to
live. -/
def ofConfig (c : Config) (kvReachable : Bool) : App :=
  ⟨c, ⟨c.challengePolicy, Span.ofSeconds c.nonceTtlSecs⟩, kvReachable⟩

/-- Opens a connection to the key-value server. -/
def connect (app : App) : AppM Unit :=
  if app.kvReachable then pure ()
  else throw (.internal ("Redis connection error: " ++ Redis.Failure.missingSocket.message))

/-- A storage step: its failure is internal. -/
def storage {α : Type} (m : SessionStore.StorageM α) : AppM α :=
  ExceptT.adapt (fun e => ApiError.ofStore e.message) m

/-- A step of the handshake: its refusal is reported as `ApiError.ofAuth` says. -/
def refuse {α : Type} (r : Except AuthError α) : AppM α :=
  match r with
  | .ok v => pure v
  | .error e => throw (ApiError.ofAuth e)

/-- Counts a request from `peer` against the limit of a minute. -/
def enforceRateLimit (app : App) (peer : Net.SocketAddress) : AppM Unit := do
  let key := "ratelimit:auth:" ++ peer.hostText
  let allowed ← ExceptT.adapt (fun f => ApiError.internal ("Rate limit check failed: " ++ f.message))
    (checkRateLimit key app.config.rateLimitAuthPerMin 60)
  if !allowed then throw .rateLimited

/-- The session a request names in its `Authorization` header. -/
def authenticate (app : App) (req : Http.Request) : AppM SessionAuth := do
  let header ← match req.textHeader? "authorization" with
    | some h => pure h
    | none => throw (.unauthorized "Missing authorization header")
  let token ← if header.startsWith "Bearer " then pure (String.ofList (header.toList.drop 7))
    else throw (.unauthorized "Invalid authorization format")
  app.connect
  let session ← match ← storage (SessionStore.getSession token) with
    | some s => pure s
    | none => throw (.unauthorized "Invalid or expired session")
  match Address.parseHex session.address with
  | .ok a => pure ⟨a, session.chainId, token⟩
  | .error e => throw (.internal ("Invalid address in session: " ++ e.message))

/-- `POST /api/auth/challenge`: a challenge for the body's account, bound to the request's
origin, with its text to sign. -/
def issueChallenge (app : App) (req : Http.Request) (body : ChallengeBody) : AppM Http.Response := do
  app.connect
  app.enforceRateLimit req.peer
  let origin := (req.textHeader? "origin").getD ""
  let attempt : Attempt := {}
  let (r, _) ← ((app.handshake.requestChallenge (body.toRequest origin)).run.run attempt : BackendM _)
  let c ← refuse r
  pure (.json 200 (.obj [("message", .str c.render), ("challenge", c.toJson)]))

/-- `POST /api/auth/verify`: checks the signed text, records the sign-in, and opens a session. -/
def verify (app : App) (req : Http.Request) (body : VerifyBody) : AppM Http.Response := do
  app.connect
  app.enforceRateLimit req.peer
  let signature ← refuse (decodeSignature body.signature)
  let identity ← refuse (← app.handshake.verifySigned ⟨body.message, signature⟩)
  let address := identity.address.checksummed
  let now := identity.verifiedAt.secs.toNat
  let _ ← storage (SessionStore.recordLogin address identity.chainId now)
  let token ← Backend.freshToken
  storage (SessionStore.storeSession ⟨token, address, identity.chainId, now⟩
    app.config.sessionTtlSecs)
  pure (.json 200 (.obj [("token", .str token), ("address", .str address),
    ("chain_id", .int identity.chainId),
    ("verified_at", .str (Rfc3339.formatAuto identity.verifiedAt))]))

/-- `GET /api/auth/me`: the account behind the session, on the session's chain. -/
def me (app : App) (auth : SessionAuth) : AppM Http.Response := do
  app.connect
  let address := auth.address.checksummed
  match ← storage (SessionStore.getAccount address) with
  | none => throw (.notFound "Account not found")
  | some a =>
    pure (.json 200 (.obj [("address", .str address), ("chain_id", .int auth.chainId),
      ("first_seen", .int a.firstSeen), ("last_login", .int a.lastLogin)]))

/-- `POST /api/auth/logout`: closes the session. -/
def logout (app : App) (auth : SessionAuth) : AppM Http.Response := do
  app.connect
  let _ ← storage (SessionStore.deleteSession auth.token auth.address.checksummed)
  pure (.empty 204)

/-- `POST /api/auth/logout/all`: closes every session of the account. -/
def logoutAll (app : App) (auth : SessionAuth) : AppM Http.Response := do
  app.connect
  let _ ← storage (SessionStore.deleteAccountSessions auth.address.checksummed)
  pure (.empty 204)

/-- The response of an endpoint's outcome: a failure answers `{"error": …}` with its status. -/
def respond (m : AppM Http.Response) : BackendM Http.Response := do
  match ← m.run with
  | .ok r => pure r
  | .error e => pure (.json e.status (.obj [("error", .str e.bodyMessage)]))

/-- An endpoint that reads a JSON body first. -/
def withBody {α : Type} (req : Http.Request) (decode : String → Except Json.ReadError α)
    (k : α → AppM Http.Response) : BackendM Http.Response :=
  match req.jsonBody decode with
  | .error r => pure r.response
  | .ok b => respond (k b)

/-- An endpoint that needs a session. -/
def withSession (app : App) (req : Http.Request) (k : SessionAuth → AppM Http.Response) :
    BackendM Http.Response :=
  respond do k (← app.authenticate req)

/-- The endpoint of a request's path and method, before the response is finished. -/
def route (app : App) (req : Http.Request) : BackendM Http.Response :=
  let post (k : BackendM Http.Response) : BackendM Http.Response :=
    if req.method = "POST" then k else pure (.methodNotAllowed "POST")
  match req.path with
  | "/api/auth/challenge" => post (withBody req ChallengeBody.decode (app.issueChallenge req))
  | "/api/auth/verify" => post (withBody req VerifyBody.decode (app.verify req))
  | "/api/auth/me" =>
    if req.method = "GET" ∨ req.method = "HEAD" then withSession app req app.me
    else pure (.methodNotAllowed "GET,HEAD")
  | "/api/auth/logout" => post (withSession app req app.logout)
  | "/api/auth/logout/all" => post (withSession app req app.logoutAll)
  | _ => pure .notFound

/-- Serves one request. -/
def handle (app : App) (req : Http.Request) : BackendM Http.Response := do
  pure ((← app.route req).finish req.method)

end App
end WalletAuth
