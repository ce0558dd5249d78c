import WalletAuth.Nonce.Memory
import WalletAuth.Nonce.Entropy
import WalletAuth.Time.Clock
import WalletAuth.Redis.Server
import WalletAuth.Session.Token

/-!
# WalletAuth.Backend.Basic — what a sign-in server runs against

A sign-in server reads a clock, draws nonces from an entropy source and session tokens from a
token source, keeps nonce records in a store, and keeps sessions, accounts and rate-limit
counters in a key-value server. All five are one value, `Backend`, threaded through every
operation by `BackendM`.

The nonce store is one of:

* `memory`: records in process; the methods named in its fault list fail as a store that
  cannot read anything would;
* `keyValue`: records in the key-value server under a key prefix, through a client that may
  fail to connect;
* `losing`: a store that loses every race for a nonce: a claim always finds it consumed;
* `broken`: a store whose every method fails.
-/

namespace WalletAuth

/-- The methods of a nonce store. -/
inductive StoreMethod where
  | init
  | insert
  | get
  | claim
  | remove
  | purgeExpired
  | teardown
  deriving DecidableEq, Repr

/-- The method of its snake-case name. -/
def StoreMethod.ofName? : String → Option StoreMethod
  | "init" => some .init
  | "insert" => some .insert
  | "get" => some .get
  | "claim" => some .claim
  | "remove" => some .remove
  | "purge_expired" => some .purgeExpired
  | "teardown" => some .teardown
  | _ => none

/-- Where nonce records are kept. -/
inductive NonceStore where
  | memory (m : MemoryStore) (faults : List StoreMethod)
  | keyValue (pfx : String) (reachable : Bool)
  | losing (records : List NonceRecord)
  | broken
  deriving DecidableEq, Repr

/-- The clock, the entropy source, the nonce store, the key-value server and the token source. -/
structure Backend where
  clock : ManualClock
  entropy : SteppedEntropy
  nonces : NonceStore
  kv : Redis.Server
  tokens : TokenSource := {}

/-- Computations that read and change the backend. -/
abbrev BackendM := StateM Backend

namespace Backend

/-- Reads the clock (moving it by its step). -/
def now : BackendM Instant :=
  modifyGet fun b => let (t, c) := b.clock.read; (t, { b with clock := c })

/-- Draws a fresh nonce. -/
def freshNonce : BackendM String :=
  modifyGet fun b => let (n, e) := b.entropy.draw; (n, { b with entropy := e })

/-- Draws a fresh session token. -/
def freshToken : BackendM String :=
  modifyGet fun b => let (t, s) := b.tokens.draw; (t, { b with tokens := s })

/-- Runs one command on the key-value server, at the clock's instant without reading it. -/
def kvExec (args : List String) : BackendM Redis.Reply :=
  modifyGet fun b => let (r, s) := b.kv.exec b.clock.now args; (r, { b with kv := s })

/-- Replaces the nonce store. -/
def setNonces (s : NonceStore) : BackendM Unit := modify fun b => { b with nonces := s }

end Backend
end WalletAuth
