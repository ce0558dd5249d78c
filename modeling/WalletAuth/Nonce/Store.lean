import WalletAuth.Backend.KeyValue

/-!
# WalletAuth.Nonce.Store — the methods of a nonce store

Each method acts on the backend's nonce store, whichever kind it is.

In the key-value server a record is kept as its text under `prefix:account:nonce`, the account
in lowercase hex without `0x`, and expires with its retention, rounded down to whole seconds
but at least one. A consumed record keeps its expiry and has `used:` put before its text. A
claim is one script on the server, so that of two claims of one key only one finds it pending.
Retention is the server's own expiry there, so purging removes nothing.
-/

namespace WalletAuth
namespace NonceStore

/-- Store computations. -/
abbrev StoreM := ExceptT StoreError BackendM

/-- The text marking a consumed record. -/
def usedMark : String := "used:"

/-- The claim script: it answers `0` for a missing key, `2` and the text for a consumed one,
and otherwise marks the record consumed and answers `1` and its text. -/
def claimScript : String :=
  "\nlocal val = redis.call(\x27GET\x27, KEYS[1])\nif not val then\n    return \x7b0, \x27\x27\x7d\nend\n" ++
  "if string.sub(val, 1, 5) == \x27used:\x27 then\n    return \x7b2, string.sub(val, 6)\x7d\nend\n" ++
  "redis.call(\x27SET\x27, KEYS[1], \x27used:\x27 .. val, \x27KEEPTTL\x27)\nreturn \x7b1, val\x7d\n"

/-- The key of a record in the key-value server. -/
def recordKey (pfx : String) (a : Address) (n : String) : String :=
  pfx ++ ":" ++ a.lowerHex ++ ":" ++ n

/-- The expiry of a kept record in seconds: its retention from issue, at least one. -/
def expirySeconds (r : NonceRecord) (retainUntil : Instant) : Int :=
  max 1 (retainUntil.since r.issuedAt).wholeSeconds

/-- A key-value client step inside a store method. -/
def client {α : Type} (m : KeyValue.ClientM α) : StoreM α :=
  ExceptT.adapt StoreError.server m

/-- Reads a kept text: `used:` marks a consumed record. -/
def decodeKept (text : String) : Except StoreError NonceState :=
  if text.startsWith usedMark then
    NonceRecord.ofText (String.ofList (text.toList.drop usedMark.length)) |>.map .consumed
  else NonceRecord.ofText text |>.map .pending

/-- Fails when the method is among the faults. -/
def guard (faults : List StoreMethod) (m : StoreMethod) : StoreM Unit :=
  if faults.contains m then throw StoreError.unreadable else pure ()

/-- The records of a losing store kept under an account and nonce. -/
def losingFind (records : List NonceRecord) (a : Address) (n : String) : Option NonceRecord :=
  records.find? fun r => r.address == a && r.nonce == n

/-- Replaces the in-process records. -/
def setMemory (m : MemoryStore) (faults : List StoreMethod) : StoreM Unit :=
  Backend.setNonces (.memory m faults)

/-- Prepares the store: the key-value server must answer a ping. -/
def init : StoreM Unit := do
  match (← get).nonces with
  | .memory _ faults => guard faults .init
  | .keyValue _ reachable => client do
    KeyValue.connect reachable
    let _ ← KeyValue.command ["PING"]
  | .losing _ => pure ()
  | .broken => throw StoreError.unreadable

/-- Keeps a new pending record until `retainUntil`; a taken key is `duplicate`. -/
def insert (r : NonceRecord) (retainUntil : Instant) : StoreM Unit := do
  match (← get).nonces with
  | .memory m faults =>
    guard faults .insert
    match m.insert r retainUntil with
    | .ok m' => setMemory m' faults
    | .error e => throw e
  | .keyValue pfx reachable =>
    let set ← client do
      KeyValue.connect reachable
      KeyValue.optString ["SET", recordKey pfx r.address r.nonce, r.toText, "NX", "EX",
        toString (expirySeconds r retainUntil)]
    if set.isNone then throw .duplicate
  | .losing rs => Backend.setNonces (.losing (rs ++ [r]))
  | .broken => throw StoreError.unreadable

/-- What is kept under an account and nonce. -/
def get (a : Address) (n : String) : StoreM NonceState := do
  match (← MonadState.get).nonces with
  | .memory m faults =>
    guard faults .get
    pure (m.get a n)
  | .keyValue pfx reachable =>
    let text ← client do
      KeyValue.connect reachable
      KeyValue.optString ["GET", recordKey pfx a n]
    match text with
    | none => pure .missing
    | some t =>
      match decodeKept t with
      | .ok s => pure s
      | .error e => throw e
  | .losing rs =>
    match losingFind rs a n with
    | some r => pure (.pending r)
    | none => pure .missing
  | .broken => throw StoreError.unreadable

/-- Reads the answer of the claim script. -/
def claimAnswer (reply : Redis.Reply) : StoreM NonceState :=
  match reply with
  | .array [status, .bulk text] =>
    match status.integer with
    | .error f => throw (.server f)
    | .ok 0 => pure .missing
    | .ok 1 =>
      match NonceRecord.ofText text with
      | .ok r => pure (.pending r)
      | .error e => throw e
    | .ok _ =>
      match NonceRecord.ofText text with
      | .ok r => pure (.consumed r)
      | .error e => throw e
  | _ => throw (.server (.incompatible "not a claim answer"))

/-- Marks a record consumed, answering what was kept before. -/
def claim (a : Address) (n : String) : StoreM NonceState := do
  match (← MonadState.get).nonces with
  | .memory m faults =>
    guard faults .claim
    let (before, m') := m.claim a n
    setMemory m' faults
    pure before
  | .keyValue pfx reachable =>
    let reply ← client do
      KeyValue.connect reachable
      KeyValue.evalScript claimScript [recordKey pfx a n]
    claimAnswer reply
  | .losing rs =>
    match losingFind rs a n with
    | some r => pure (.consumed r)
    | none => pure .missing
  | .broken => throw StoreError.unreadable

/-- Forgets a record. -/
def remove (a : Address) (n : String) : StoreM Unit := do
  match (← MonadState.get).nonces with
  | .memory m faults =>
    guard faults .remove
    setMemory (m.remove a n) faults
  | .keyValue pfx reachable => client do
    KeyValue.connect reachable
    let _ ← KeyValue.command ["DEL", recordKey pfx a n]
  | .losing _ => pure ()
  | .broken => throw StoreError.unreadable

/-- Drops the records whose retention is at or before `now`, answering how many went. -/
def purgeExpired (now : Instant) : StoreM Nat := do
  match (← MonadState.get).nonces with
  | .memory m faults =>
    guard faults .purgeExpired
    let (removed, m') := m.purge now
    setMemory m' faults
    pure removed
  | .keyValue _ _ => pure 0
  | .losing _ => pure 0
  | .broken => throw StoreError.unreadable

/-- Deletes the keys one by one, stopping at the first failure. -/
def deleteAll : List String → KeyValue.ClientM Unit
  | [] => pure ()
  | k :: ks => do
    let _ ← KeyValue.command ["DEL", k]
    deleteAll ks

/-- Drops every record the store owns. -/
def teardown : StoreM Unit := do
  match (← MonadState.get).nonces with
  | .memory _ faults =>
    guard faults .teardown
    setMemory {} faults
  | .keyValue pfx reachable => client do
    KeyValue.connect reachable
    let keys ← KeyValue.scanKeys (pfx ++ ":*")
    deleteAll keys
  | .losing _ => pure ()
  | .broken => throw StoreError.unreadable

/-- The number of records kept in process, for an in-process store. -/
def size? : NonceStore → Option Nat
  | .memory m _ => some m.size
  | _ => none

end NonceStore
end WalletAuth
