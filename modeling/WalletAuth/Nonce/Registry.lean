import WalletAuth.Backend.Program

/-!
# WalletAuth.Nonce.Registry — issuing and spending nonces

The registry issues a nonce for an account, valid for its time to live from the instant of
issue, and keeps the record one more time to live beyond its expiry, so that a replay late in
that window is still told `alreadyUsed` rather than `notFound`.

* `lookup` checks a nonce without spending it; a pending record found expired is removed.
* `consume` spends a nonce; of two consumes of one nonce at most one succeeds, since the store's
  claim answers `pending` only once.
* `sweep` drops the records whose retention has passed.

Each operation is written in `Registry.Steps` as the atomic steps it takes (clock readings,
nonce draws, store methods), so that calls can be interleaved; `lookup`, for one, is a `get`
and then a separate `remove`. The operations of `Registry` run those steps alone.
-/

namespace WalletAuth
namespace Registry

/-- Registry computations. -/
abbrev RegistryM := ExceptT NonceError BackendM

/-- Registry computations as atomic steps. -/
abbrev RegistryP := ExceptT NonceError Prog

/-- A store method, one atomic step, inside a registry operation. -/
def store {α : Type} (m : Prog (Except StoreError α)) : RegistryP α :=
  ExceptT.adapt NonceError.store (ExceptT.mk m)

namespace Steps

/-- Issues a fresh nonce for an account: the clock is read, then a nonce drawn. -/
def issue (ttl : Span) (a : Address) : RegistryP NonceRecord := do
  let issuedAt ← Prog.now
  let nonce ← Prog.freshNonce
  let r : NonceRecord := ⟨a, nonce, issuedAt, issuedAt.add ttl⟩
  store (Prog.atomic (.insert r (r.expiresAt.add ttl)))
  pure r

/-- Forgets a record that will never be handed out. -/
def release (r : NonceRecord) : RegistryP Unit := store (Prog.atomic (.remove r.address r.nonce))

/-- The record of a nonce that is still outstanding. -/
def lookup (a : Address) (n : String) : RegistryP NonceRecord := do
  match ← store (Prog.atomic (.get a n)) with
  | .missing => throw .notFound
  | .consumed _ => throw .alreadyUsed
  | .pending r =>
    if r.expiresAt ≤ (← Prog.now) then
      store (Prog.atomic (.remove a n))
      throw .expired
    else pure r

/-- Spends a nonce, answering its record. -/
def consume (a : Address) (n : String) : RegistryP NonceRecord := do
  match ← store (Prog.atomic (.claim a n)) with
  | .missing => throw .notFound
  | .consumed _ => throw .alreadyUsed
  | .pending r =>
    if r.expiresAt ≤ (← Prog.now) then throw .expired
    else pure r

/-- Drops the records past their retention, answering how many went. -/
def sweep : RegistryP Nat := do
  let now ← Prog.now
  store (Prog.atomic (.purge now))

end Steps

/-- A registry operation run alone on the backend. -/
def lower {α : Type} (m : RegistryP α) : RegistryM α := ExceptT.mk m.run.run

/-- Issues a fresh nonce for an account. -/
def issue (ttl : Span) (a : Address) : RegistryM NonceRecord := lower (Steps.issue ttl a)

/-- Forgets a record that will never be handed out. -/
def release (r : NonceRecord) : RegistryM Unit := lower (Steps.release r)

/-- The record of a nonce that is still outstanding. -/
def lookup (a : Address) (n : String) : RegistryM NonceRecord := lower (Steps.lookup a n)

/-- Spends a nonce, answering its record. -/
def consume (a : Address) (n : String) : RegistryM NonceRecord := lower (Steps.consume a n)

/-- Drops the records past their retention, answering how many went. -/
def sweep : RegistryM Nat := lower Steps.sweep

/-- One pass of the background sweep: a failure counts as nothing removed. -/
def sweepOnce : BackendM Nat := do
  match ← sweep.run with
  | .ok n => pure n
  | .error _ => pure 0

end Registry
end WalletAuth
