import WalletAuth.Handshake.Attempt
import WalletAuth.Challenge.Builder
import WalletAuth.Message.Parse
import WalletAuth.Account.Signature

/-!
# WalletAuth.Handshake.Basic — issuing challenges and verifying signed answers

A handshake is a policy and a nonce time to live. It moves attempts through their phases:

* `requestChallenge` needs an idle attempt, and issues a challenge whose deadline is the
  nonce's expiry.
* `submitSigned` needs an attempt with a challenge and time left before its deadline. It then
  checks, in order: the text parses; it names the attempt's nonce and account; it has not
  expired and has started; its domain (and scheme, when both name one) is the policy's, ignoring
  ASCII case; its chain is served; the nonce is outstanding. The attempt is then verifying; the
  signature must be the account's, and the nonce must still be there to spend.
* `verifySigned` makes an attempt out of the signed text itself, with a deadline one time to
  live from now, and submits to it.
* `expire` rejects an attempt that is not final and whose deadline has come.

Any failure after the phase check rejects the attempt with that failure. The checks of a
signed answer are written in `Handshake.Steps` as atomic steps on the backend, so that
concurrent submissions can be interleaved; `submitSigned` and `verifySigned` run them alone.
-/

namespace WalletAuth

/-- The policy and nonce time to live of a handshake. -/
structure Handshake where
  policy : ChallengePolicy
  ttl : Span
  deriving DecidableEq, Repr

/-- Computations on one attempt: the attempt survives a failure. -/
abbrev AttemptM := ExceptT AuthError (StateT Attempt BackendM)

/-- Computations on one attempt, as atomic steps on the backend. -/
abbrev AttemptP := ExceptT AuthError (StateT Attempt Prog)

namespace Handshake

/-- Rejects the attempt with an error. -/
def reject {m : Type → Type} [Monad m] {α : Type} (e : AuthError) :
    ExceptT AuthError (StateT Attempt m) α := do
  modify fun a => { a with state := .rejected e }
  throw e

/-- Runs a failing backend step; its error rejects the attempt. -/
def orReject {α : Type} (m : ExceptT AuthError BackendM α) : AttemptM α := do
  match ← (m.run : BackendM _) with
  | .ok v => pure v
  | .error e => reject e

/-- `idle → challenge issued`. -/
def requestChallenge (h : Handshake) (req : ChallengeRequest) : AttemptM Challenge := do
  let a ← get
  if a.state ≠ .idle then throw (.invalidState a.state.phase)
  let (c, r) ← orReject (ChallengeBuilder.build h.policy h.ttl req)
  set { a with deadline := some r.expiresAt, challenge := some c, state := .challengeIssued }
  pure c

/-- How a failed lookup is reported. -/
def lookupError : NonceError → AuthError
  | .notFound => .nonceNotFound
  | .expired => .nonceExpired
  | .alreadyUsed => .nonceAlreadyUsed
  | .store e => .store e.message

/-- How a failed spend is reported: a nonce gone since the lookup was taken by another. -/
def consumeError : NonceError → AuthError
  | .expired => .nonceExpired
  | .store e => .store e.message
  | .notFound | .alreadyUsed => .nonceReuse

/-- Lifts a registry operation, reporting its error as `report` says. -/
def registry {α : Type} (report : NonceError → AuthError) (m : Registry.RegistryP α) :
    AttemptP α := do
  match ← (m.run : Prog _) with
  | .ok v => pure v
  | .error e => throw (report e)

/-- Lifts a checked result. -/
def check {m : Type → Type} [Monad m] {α : Type} (r : Except AuthError α) :
    ExceptT AuthError (StateT Attempt m) α :=
  match r with
  | .ok v => pure v
  | .error e => throw e

/-- Whether a message's domain and scheme are the policy's. -/
def sameSite (p : ChallengePolicy) (c : Challenge) : Bool :=
  Text.eqIgnoreAsciiCase c.domain p.domain &&
    match c.scheme, p.scheme with
    | some theirs, some ours => Text.eqIgnoreAsciiCase theirs ours
    | _, _ => true

/-- The challenge the attempt was issued. -/
def issuedChallenge (a : Attempt) : Except AuthError Challenge :=
  match a.challenge with
  | some e => .ok e
  | none => .error (.invalidState .challengeIssued)

/-- The attempt waits for a signed answer. -/
def awaitsAnswer (a : Attempt) : Except AuthError Unit :=
  if a.state ≠ .challengeIssued then .error (.invalidState a.state.phase) else .ok ()

/-- The message names the nonce and the account of the issued challenge. -/
def sameNonce (expected c : Challenge) : Except AuthError Unit :=
  if c.nonce ≠ expected.nonce ∨ c.address ≠ expected.address then .error .nonceNotFound
  else .ok ()

/-- The message has not expired and has started at `now`. -/
def inWindow (c : Challenge) (now : Instant) : Except AuthError Unit :=
  if c.expirationTime.any (fun e => e.at_ ≤ now) then .error .challengeExpired
  else if c.notBefore.any (fun nb => now < nb.at_) then .error .challengeNotYetValid
  else .ok ()

/-- The message is for the policy's site and one of its chains. -/
def forPolicy (p : ChallengePolicy) (c : Challenge) : Except AuthError Unit :=
  if !sameSite p c then .error .domainMismatch
  else if !p.allowsChain c.chainId then .error .unsupportedChain
  else .ok ()

/-- The time left before the attempt's deadline; the clock is read only when there is one. -/
def timeLeft (h : Handshake) (a : Attempt) : Prog Span :=
  match a.deadline with
  | some d => do pure (d.since (← Prog.now))
  | none => pure h.ttl

namespace Steps

/-- The checks of a submitted answer, in order. -/
def runChecks (h : Handshake) (signed : SignedResponse) : AttemptP Identity := do
  let c ← check ((Challenge.parse signed.message).mapError fun e => .malformedMessage e.message)
  let expected ← check (issuedChallenge (← get))
  check (sameNonce expected c)
  let now ← Prog.now
  check (inWindow c now)
  check (forPolicy h.policy c)
  let _ ← registry lookupError (Registry.Steps.lookup c.address c.nonce)
  modify fun a => { a with state := .verifying }
  let _ ← check (verifySignature signed.message signed.signature c.address)
  let _ ← registry consumeError (Registry.Steps.consume c.address c.nonce)
  let verifiedAt ← Prog.now
  pure ⟨c.address, c.chainId, verifiedAt⟩

/-- `challenge issued → verifying → authenticated`, or rejected. -/
def submitSigned (h : Handshake) (signed : SignedResponse) : AttemptP Identity := do
  let a ← get
  check (awaitsAnswer a)
  let remaining ← timeLeft h a
  let identity ← (if remaining.nanos ≤ 0 then reject .challengeExpired
    else tryCatch (runChecks h signed) reject)
  modify fun a => { a with identity := some identity, state := .authenticated }
  pure identity

/-- Verifies a signed answer with no attempt kept between the two round trips: the attempt is
made from the message, with a deadline one time to live from now. -/
def verifySigned (h : Handshake) (signed : SignedResponse) : Prog (Except AuthError Identity) := do
  match Challenge.parse signed.message with
  | .error e => pure (.error (.malformedMessage e.message))
  | .ok c =>
    let now ← Prog.now
    let deadline := now.add h.ttl
    let a : Attempt := { state := .challengeIssued, challenge := some c, deadline := some deadline }
    let (r, _) ← (submitSigned h signed).run.run a
    pure r

end Steps

/-- An attempt computation run alone on the backend. -/
def lower {α : Type} (m : AttemptP α) : AttemptM α :=
  ExceptT.mk fun a => (m.run.run a).run

/-- `challenge issued → verifying → authenticated`, or rejected. -/
def submitSigned (h : Handshake) (signed : SignedResponse) : AttemptM Identity :=
  lower (Steps.submitSigned h signed)

/-- Verifies a signed answer with no attempt kept between the two round trips. -/
def verifySigned (h : Handshake) (signed : SignedResponse) :
    BackendM (Except AuthError Identity) :=
  (Steps.verifySigned h signed).run

/-- Rejects an attempt that is not final and whose deadline has come; answers whether it did. -/
def expire : StateT Attempt BackendM Bool := do
  let a ← get
  if a.state.isTerminal then return false
  match a.deadline with
  | some d =>
    if d ≤ (← Backend.now) then
      set { a with state := .rejected .challengeExpired }
      return true
    else return false
  | none => return false

/-- The text of a challenge for an account from an origin, on a fresh attempt. -/
def challengeText (h : Handshake) (address : Address) (origin : String) :
    BackendM (Except AuthError String) := do
  let req : ChallengeRequest := ⟨address.checksummed, origin, {}⟩
  let fresh : Attempt := {}
  let (r, _) ← ((h.requestChallenge req).run.run fresh : BackendM _)
  pure (r.map Challenge.render)

end Handshake
end WalletAuth
