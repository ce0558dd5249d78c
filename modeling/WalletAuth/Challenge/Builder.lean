import WalletAuth.Challenge.Policy
import WalletAuth.Nonce.Registry
import WalletAuth.Message.Challenge
import WalletAuth.Auth.Error

/-!
# WalletAuth.Challenge.Builder — turning a request into a challenge backed by a nonce

Everything the caller gives is checked before a nonce is spent on it, in this order: the
account, the origin, the URI (same origin as the request), the chain, then the validity
window, which must end after now and no later than one time to live from now, and start before
it ends. The message is then assembled once with a placeholder nonce, so that a field the
message format refuses is reported before any nonce is issued.

Only then is a nonce issued and the message assembled with it. The clock is read again at
issue, so that assembly can still fail (an expiry that is no longer after the issue instant);
the record is then released and the error reported.

Instants in the message are cut to whole milliseconds.
-/

namespace WalletAuth

/-- The optional parts of a challenge request. -/
structure ChallengeOptions where
  statement : Option String := none
  chainId : Option Nat := none
  uri : Option String := none
  expirationTime : Option Instant := none
  notBefore : Option Instant := none
  requestId : Option String := none
  resources : List String := []
  deriving DecidableEq, Repr

/-- A challenge request: the account and origin as the caller wrote them, and the options. -/
structure ChallengeRequest where
  address : String
  origin : String
  options : ChallengeOptions := {}
  deriving DecidableEq, Repr

namespace ChallengeBuilder

/-- How a refusal of the message format is reported to the caller. -/
def assemblyError (e : MessageError) : AuthError :=
  match e with
  | .invalidField "expiration time" _ => .invalidTimeWindow
  | .invalidField "uri" _ => .invalidOrigin
  | other => .invalidRequest other.message

/-- The message for a nonce, issue instant and expiry. -/
def assemble (p : ChallengePolicy) (address : Address) (uri : String) (chainId : Nat)
    (o : ChallengeOptions) (nonce : String) (issuedAt expiration : Instant) :
    Except AuthError Challenge :=
  let draft : Challenge := {
    scheme := p.scheme, domain := p.domain, address, statement := o.statement.orElse fun _ => p.statement,
    uri, chainId, nonce, issuedAt := Timestamp.ofInstant issuedAt,
    expirationTime := some (Timestamp.ofInstant expiration),
    notBefore := o.notBefore.map Timestamp.ofInstant, requestId := o.requestId,
    resources := o.resources }
  draft.validate.mapError assemblyError

/-- The nonce written while the caller's fields are checked. -/
def placeholderNonce : String := String.ofList (List.replicate (2 * nonceBytes) '0')

/-- The checks made before the clock is read: the account, the origin, the URI and the
chain. -/
def checkRequest (p : ChallengePolicy) (req : ChallengeRequest) :
    Except AuthError (Address × String × Nat) := do
  let address ← match Address.parseAccount req.address with
    | some a => pure a
    | none => throw .invalidAddress
  let origin ← match Url.parse req.origin with
    | .ok u => pure u
    | .error _ => throw .invalidOrigin
  if !p.permitsOrigin origin then throw .invalidOrigin
  let uri ← match req.options.uri with
    | some u =>
      match Url.parse u with
      | .ok parsed =>
        if parsed.origin.same origin.origin then pure u else throw .invalidOrigin
      | .error _ => throw .invalidOrigin
    | none => pure origin.origin.serialize
  let chainId := req.options.chainId.getD p.defaultChainId
  if !p.allowsChain chainId then throw .unsupportedChain
  pure (address, uri, chainId)

/-- The expiry of the challenge: the one asked for, which must lie after `now` and within one
time to live of it, or else one time to live from `now`; a start must come before it. -/
def checkWindow (ttl : Span) (o : ChallengeOptions) (now : Instant) : Except AuthError Instant := do
  let windowEnd := now.add ttl
  let expiration ← match o.expirationTime with
    | some e => if e ≤ now ∨ windowEnd < e then throw .invalidTimeWindow else pure e
    | none => pure windowEnd
  if let some nb := o.notBefore then
    if expiration ≤ nb then throw .invalidTimeWindow
  pure expiration

/-- Lifts a checked result. -/
def orThrow {α : Type} (r : Except AuthError α) : ExceptT AuthError BackendM α :=
  match r with
  | .ok v => pure v
  | .error e => throw e

/-- Builds a challenge for a request and issues the nonce backing it. -/
def build (p : ChallengePolicy) (ttl : Span) (req : ChallengeRequest) :
    ExceptT AuthError BackendM (Challenge × NonceRecord) := do
  let (address, uri, chainId) ← orThrow (checkRequest p req)
  let now ← Backend.now
  let expiration ← orThrow (checkWindow ttl req.options now)
  let _ ← orThrow (assemble p address uri chainId req.options placeholderNonce now expiration)
  let record ← match ← (Registry.issue ttl address).run with
    | .ok r => pure r
    | .error e => throw (.store e.message)
  let expiration := req.options.expirationTime.getD record.expiresAt
  match assemble p address uri chainId req.options record.nonce record.issuedAt expiration with
  | .ok c => pure (c, record)
  | .error e =>
    let _ ← (Registry.release record).run
    throw e

end ChallengeBuilder
end WalletAuth
