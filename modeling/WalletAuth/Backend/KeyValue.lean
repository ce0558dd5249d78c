import WalletAuth.Backend.Basic
import WalletAuth.Hash.Sha1
import WalletAuth.Encoding.Hex

/-!
# WalletAuth.Backend.KeyValue — a client of the key-value server

Every use of the server opens a connection first; an unreachable server fails there, before any
command is sent. A reply is then read as the type the caller expects: an error reply becomes a
`Redis.Failure`, and so does a reply of another type.

* `scanKeys` walks the whole key space in steps of 100 keys and keeps at most 10,000 matches.
* `evalScript` runs a script by its digest, and on `NOSCRIPT` loads it and runs it again.
-/

namespace WalletAuth
namespace KeyValue

/-- Client computations: they fail with the server's or the connection's failure. -/
abbrev ClientM := ExceptT Redis.Failure BackendM

/-- Opens a connection. -/
def connect (reachable : Bool) : ClientM Unit :=
  if reachable then pure () else throw Redis.Failure.missingSocket

/-- Sends a command; an error reply fails. -/
def command (args : List String) : ClientM Redis.Reply := do
  let r ← Backend.kvExec args
  match r.check with
  | .ok r => pure r
  | .error f => throw f

/-- A reply read as an optional string. -/
def optString (args : List String) : ClientM (Option String) := do
  match (← command args).optString with
  | .ok s => pure s
  | .error f => throw f

/-- A reply read as an integer. -/
def integer (args : List String) : ClientM Int := do
  match (← command args).integer with
  | .ok n => pure n
  | .error f => throw f

/-- A reply read as a list of strings. -/
def strings (args : List String) : ClientM (List String) := do
  match (← command args).strings with
  | .ok xs => pure xs
  | .error f => throw f

/-- The most keys a scan returns. -/
def scanLimit : Nat := 10000

/-- The keys of one scan step, and the next cursor. -/
def scanStep (cursor : Nat) (pattern : String) : ClientM (Nat × List String) := do
  match ← command ["SCAN", toString cursor, "MATCH", pattern, "COUNT", "100"] with
  | .array [.bulk next, keys] =>
    match next.toNat?, keys.strings with
    | some n, .ok ks => pure (n, ks)
    | _, .error f => throw f
    | none, _ => throw (.incompatible "cursor is not a number")
  | _ => throw (.incompatible "not a scan reply")

/-- Scan steps from `cursor` until the cursor comes back to zero, at most `fuel` of them. -/
def scanFrom : Nat → Nat → String → List String → ClientM (List String)
  | 0, _, _, acc => pure acc
  | fuel + 1, cursor, pattern, acc => do
    let (next, ks) ← scanStep cursor pattern
    let acc := acc ++ ks
    if acc.length ≥ scanLimit then pure (acc.take scanLimit)
    else if next = 0 then pure acc
    else scanFrom fuel next pattern acc

/-- The keys matching a pattern, at most `scanLimit` of them. -/
def scanKeys (pattern : String) : ClientM (List String) := do
  let b ← get
  scanFrom (b.kv.size + 2) 0 pattern []

/-- The hex SHA-1 digest that names a script. -/
def scriptDigest (code : String) : String := Hex.encode (Sha1.digest code.toUTF8)

/-- Runs a script by its digest on the given keys, loading it when the server lacks it. -/
def evalScript (code : String) (keys : List String) : ClientM Redis.Reply := do
  let call := ["EVALSHA", scriptDigest code, toString keys.length] ++ keys
  let first ← Backend.kvExec call
  match first.check with
  | .ok r => pure r
  | .error f =>
    if f.isNoScript then
      let _ ← command ["SCRIPT", "LOAD", code]
      command call
    else throw f

end KeyValue
end WalletAuth
