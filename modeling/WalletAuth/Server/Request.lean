import WalletAuth.Json.Decode
import WalletAuth.Challenge.Builder

/-!
# WalletAuth.Server.Request — the bodies of the sign-in endpoints

A challenge request names the account and, optionally, the chain, the URI, the statement, the
validity window, a request id and resources; the origin comes from the request's header, never
from its body. A verification request carries the signed text and its signature in hex.

Both are read with the JSON reader against their shapes, so a body that does not fit is
refused with the reader's exact error.
-/

namespace WalletAuth

/-- The body of a challenge request. -/
structure ChallengeBody where
  address : String
  chainId : Option Nat
  uri : Option String
  statement : Option String
  expirationTime : Option Instant
  notBefore : Option Instant
  requestId : Option String
  resources : List String
  deriving DecidableEq, Repr

namespace ChallengeBody

/-- The shape of the body: every field but the account may be left out. -/
def shape : Json.Shape :=
  .record "ChallengeRequest"
    [("address", .string, false), ("chain_id", .option .u64, false),
      ("uri", .option .string, false), ("statement", .option .string, false),
      ("expiration_time", .option .instant, false), ("not_before", .option .instant, false),
      ("request_id", .option .string, false), ("resources", .seq .string, true)]

/-- The body of a datum read against `shape`. -/
def ofDatum : Json.Datum → Option ChallengeBody
  | .fields [a, c, u, s, e, n, r, rs] => do
    pure ⟨← a.str?, ← c.optNat?, ← u.optStr?, ← s.optStr?, ← e.optInstant?, ← n.optInstant?,
      ← r.optStr?, ← rs.strs?⟩
  | _ => none

/-- Reads a body. -/
def decode (text : String) : Except Json.ReadError ChallengeBody :=
  match Json.decode shape text with
  | .error e => .error e
  | .ok d =>
    match ofDatum d with
    | some b => .ok b
    | none => .error (.custom "invalid type: map, expected struct ChallengeRequest")

/-- The challenge request of a body sent from an origin. -/
def toRequest (b : ChallengeBody) (origin : String) : ChallengeRequest :=
  ⟨b.address, origin,
    { statement := b.statement, chainId := b.chainId, uri := b.uri,
      expirationTime := b.expirationTime, notBefore := b.notBefore, requestId := b.requestId,
      resources := b.resources }⟩

end ChallengeBody

/-- The body of a verification request. -/
structure VerifyBody where
  message : String
  signature : String
  deriving DecidableEq, Repr

namespace VerifyBody

/-- The shape of the body. -/
def shape : Json.Shape :=
  .record "VerifyRequest" [("message", .string, false), ("signature", .string, false)]

/-- Reads a body. -/
def decode (text : String) : Except Json.ReadError VerifyBody :=
  match Json.decode shape text with
  | .error e => .error e
  | .ok (.fields [.text m, .text s]) => .ok ⟨m, s⟩
  | .ok _ => .error (.custom "invalid type: map, expected struct VerifyRequest")

end VerifyBody
end WalletAuth
