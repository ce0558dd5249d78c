import WalletAuth.Json.Decode
import WalletAuth.Redis.Reply

/-!
# WalletAuth.Nonce.Record — nonces bound to accounts, and what can go wrong with them

A nonce is issued for one account and is valid from its issue instant until its expiry. A store
keeps each record under its account and nonce, first pending, then consumed; a consumed
record stays until its retention ends, so that a replay is told apart from an unknown nonce.

* `NonceRecord.toJson` is how a record is kept as text: the account in lowercase hex, the
  instants as RFC 3339 with the shortest exact fraction.
* `NonceRecord.ofText` reads that text back, with the reader's exact error on anything else.
* `StoreError` is a failure of the store itself; `NonceError` adds the three answers about a
  nonce that is not usable.
-/

namespace WalletAuth

/-- A nonce issued for an account, with its issue and expiry instants. -/
structure NonceRecord where
  address : Address
  nonce : String
  issuedAt : Instant
  expiresAt : Instant
  deriving DecidableEq, Repr

/-- What a store holds under an account and nonce. -/
inductive NonceState where
  | pending (r : NonceRecord)
  | consumed (r : NonceRecord)
  | missing
  deriving DecidableEq, Repr

/-- A failure of the store: its server failed, a kept record did not read back, or an insert
met a record already there. -/
inductive StoreError where
  | server (f : Redis.Failure)
  | json (e : Json.ReadError)
  | duplicate
  deriving DecidableEq, Repr

/-- Why a nonce could not be used. -/
inductive NonceError where
  | notFound
  | expired
  | alreadyUsed
  | store (e : StoreError)
  deriving DecidableEq, Repr

namespace StoreError

/-- The sentence that reports the failure. -/
def message : StoreError → String
  | .server f => "Redis error: " ++ f.message
  | .json e => "JSON error: " ++ e.text
  | .duplicate => "Nonce already exists"

/-- The failure of a store that cannot read anything: an empty text where a record was due. -/
def unreadable : StoreError := .json ⟨.malformed .expectedValue, 1, 1, []⟩

end StoreError

namespace NonceError

/-- The sentence that reports the error; a store failure keeps its own sentence. -/
def message : NonceError → String
  | .notFound => "Nonce not found"
  | .expired => "Nonce expired"
  | .alreadyUsed => "Nonce already used"
  | .store e => e.message

/-- The name of the error's cause. -/
def kind : NonceError → String
  | .notFound => "NotFound"
  | .expired => "Expired"
  | .alreadyUsed => "AlreadyUsed"
  | .store _ => "Store"

end NonceError

namespace NonceRecord

/-- The record as kept: fields in declaration order, the account in lowercase hex. -/
def toJson (r : NonceRecord) : Json :=
  .obj [("address", .str r.address.lowerPrefixed), ("nonce", .str r.nonce),
    ("issued_at", .str (Rfc3339.formatAuto r.issuedAt)),
    ("expires_at", .str (Rfc3339.formatAuto r.expiresAt))]

/-- The kept text of a record. -/
def toText (r : NonceRecord) : String := r.toJson.compact

/-- The shape a kept record is read against. -/
def shape : Json.Shape :=
  .record "NonceRecord"
    [("address", .address, false), ("nonce", .string, false),
      ("issued_at", .instant, false), ("expires_at", .instant, false)]

/-- The record of a datum read against `shape`. -/
def ofDatum : Json.Datum → Option NonceRecord
  | .fields [.address a, .text n, .instant i, .instant e] => some ⟨a, n, i, e⟩
  | _ => none

/-- Reads a kept record. -/
def ofText (text : String) : Except StoreError NonceRecord :=
  match Json.decode shape text with
  | .error e => .error (.json e)
  | .ok d =>
    match ofDatum d with
    | some r => .ok r
    | none => .error StoreError.unreadable

end NonceRecord
end WalletAuth
