import WalletAuth.Json.Decode

/-!
# WalletAuth.Session.Record — signed-in sessions and accounts as the key-value server keeps them

A session names its token, the account it signed in (checksummed), the chain it signed in on and
the Unix second it began. An account names its address (checksummed), the Unix seconds of its
first and of its latest sign-in, and the chain of the latest.

Both are kept as compact JSON with their fields in declaration order, and read back against a
record shape, so that a kept text that does not fit is refused with the reader's error.
-/

namespace WalletAuth

/-- A signed-in session. -/
structure StoredSession where
  token : String
  address : String
  chainId : Nat
  createdAt : Nat
  deriving DecidableEq, Repr

/-- An account that has signed in at least once. -/
structure StoredAccount where
  address : String
  firstSeen : Nat
  lastLogin : Nat
  lastChainId : Nat
  deriving DecidableEq, Repr

/-- Reads a kept text against a record shape, then builds the value from the fields read. -/
def readKept {α : Type} (shape : Json.Shape) (build : Json.Datum → Option α) (text : String) :
    Except Json.ReadError α :=
  match Json.decode shape text with
  | .error e => .error e
  | .ok d =>
    match build d with
    | some v => .ok v
    | none => .error (.custom ("invalid type: map, expected " ++ shape.expected))

namespace StoredSession

/-- The session as kept. -/
def toJson (s : StoredSession) : Json :=
  .obj [("token", .str s.token), ("address", .str s.address), ("chain_id", .int s.chainId),
    ("created_at", .int s.createdAt)]

/-- The kept text of a session. -/
def toText (s : StoredSession) : String := s.toJson.compact

/-- The shape a kept session is read against. -/
def shape : Json.Shape :=
  .record "StoredSession"
    [("token", .string, false), ("address", .string, false), ("chain_id", .u64, false),
      ("created_at", .u64, false)]

/-- Reads a kept session. -/
def ofText : String → Except Json.ReadError StoredSession :=
  readKept shape fun d =>
    match d with
    | .fields [.text t, .text a, .count c, .count at_] => some ⟨t, a, c, at_⟩
    | _ => none

end StoredSession

namespace StoredAccount

/-- The account as kept. -/
def toJson (a : StoredAccount) : Json :=
  .obj [("address", .str a.address), ("first_seen", .int a.firstSeen),
    ("last_login", .int a.lastLogin), ("last_chain_id", .int a.lastChainId)]

/-- The kept text of an account. -/
def toText (a : StoredAccount) : String := a.toJson.compact

/-- The shape a kept account is read against. -/
def shape : Json.Shape :=
  .record "StoredAccount"
    [("address", .string, false), ("first_seen", .u64, false), ("last_login", .u64, false),
      ("last_chain_id", .u64, false)]

/-- Reads a kept account. -/
def ofText : String → Except Json.ReadError StoredAccount :=
  readKept shape fun d =>
    match d with
    | .fields [.text a, .count f, .count l, .count c] => some ⟨a, f, l, c⟩
    | _ => none

/-- The account after a sign-in at `now` on `chainId`: a known account keeps its address and
its first sign-in. -/
def afterLogin (known : Option StoredAccount) (address : String) (chainId now : Nat) :
    StoredAccount :=
  match known with
  | some a => { a with lastLogin := now, lastChainId := chainId }
  | none => ⟨address, now, now, chainId⟩

end StoredAccount
end WalletAuth
