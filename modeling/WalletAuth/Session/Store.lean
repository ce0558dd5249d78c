import WalletAuth.Session.Record
import WalletAuth.Backend.KeyValue
import WalletAuth.Nonce.Record
import WalletAuth.Text.Case

/-!
# WalletAuth.Session.Store — sessions and accounts in the key-value server

Keys:

* `session:TOKEN` holds a session's text and expires with the session;
* `account_sessions:ADDRESS` is the set of an account's tokens, so that all of them can be
  revoked at once; it lives as long as the newest session;
* `account:ADDRESS` holds an account's text and never expires.

The address in a key is lowercased, so one account has one key whatever the case it is written
in. A failure of the server, or a kept text that does not read back, is a `StoreError`.
-/

namespace WalletAuth
namespace SessionStore

abbrev StorageM := ExceptT StoreError BackendM

def client {α : Type} (m : KeyValue.ClientM α) : StorageM α :=
  ExceptT.adapt StoreError.server m

def sessionKey (token : String) : String := "session:" ++ token

def accountSessionsKey (address : String) : String :=
  "account_sessions:" ++ String.map Text.asciiLower address

def accountKey (address : String) : String := "account:" ++ String.map Text.asciiLower address

/-- A count of seconds as the signed 64-bit number sent to the server: counts of 2⁶³ and more
wrap around to negative numbers. -/
def signedSeconds (n : Nat) : Int :=
  let m : Nat := n % Nat.pow 2 64
  if m < Nat.pow 2 63 then (m : Int) else (m : Int) - Int.pow 2 64

/-- Reads a kept text, or fails with the reader's error. -/
def readBack {α : Type} (read : String → Except Json.ReadError α) (text : Option String) :
    StorageM (Option α) :=
  match text with
  | none => pure none
  | some t =>
    match read t with
    | .ok v => pure (some v)
    | .error e => throw (.json e)

/-- Keeps a session for `ttl` seconds and adds its token to its account's set, whose life is
renewed to the same `ttl`. -/
def storeSession (s : StoredSession) (ttl : Nat) : StorageM Unit := client do
  let _ ← KeyValue.command ["SETEX", sessionKey s.token, toString ttl, s.toText]
  let _ ← KeyValue.command ["SADD", accountSessionsKey s.address, s.token]
  let _ ← KeyValue.command ["EXPIRE", accountSessionsKey s.address, toString (signedSeconds ttl)]
  pure ()

def getSession (token : String) : StorageM (Option StoredSession) := do
  readBack StoredSession.ofText (← client (KeyValue.optString ["GET", sessionKey token]))

/-- Forgets a session and takes its token out of its account's set; answers whether the
session was there. -/
def deleteSession (token address : String) : StorageM Bool := client do
  let deleted ← KeyValue.integer ["DEL", sessionKey token]
  let _ ← KeyValue.command ["SREM", accountSessionsKey address, token]
  pure (deleted > 0)

/-- Forgets every session of an account, and its set; answers how many tokens the set held. -/
def deleteAccountSessions (address : String) : StorageM Nat := client do
  let tokens ← KeyValue.strings ["SMEMBERS", accountSessionsKey address]
  tokens.forM fun t => do let _ ← KeyValue.command ["DEL", sessionKey t]
  let _ ← KeyValue.command ["DEL", accountSessionsKey address]
  pure tokens.length

def getAccount (address : String) : StorageM (Option StoredAccount) := do
  readBack StoredAccount.ofText (← client (KeyValue.optString ["GET", accountKey address]))

/-- Records a sign-in at `now` on `chainId`, creating the account on its first one; answers the
account as kept after it. -/
def recordLogin (address : String) (chainId now : Nat) : StorageM StoredAccount := do
  let account := StoredAccount.afterLogin (← getAccount address) address chainId now
  let _ ← client (KeyValue.command ["SET", accountKey address, account.toText])
  pure account

end SessionStore
end WalletAuth
