/-!
# WalletAuth.Auth.Error — why a sign-in attempt is refused

Every refusal is final for the attempt that met it. The refusals fall in three groups, and the
group decides how a server reports them:

* request errors — the caller asked for something the policy does not allow (address, origin,
  chain, validity window, an invalid optional field);
* verification errors — the signed message, its nonce or its signature did not check out;
* faults — a call in the wrong phase, or the nonce store failing.

`AuthError.kind` is the stable snake-case name, `AuthError.message` the sentence.
-/

namespace WalletAuth

/-- The phase of a sign-in attempt. -/
inductive Phase where
  | idle
  | challengeIssued
  | verifying
  | authenticated
  | rejected
  deriving DecidableEq, Repr, Inhabited

/-- The snake-case name of a phase. -/
def Phase.name : Phase → String
  | .idle => "idle"
  | .challengeIssued => "challenge_issued"
  | .verifying => "verifying"
  | .authenticated => "authenticated"
  | .rejected => "rejected"

/-- The phase of a snake-case name. -/
def Phase.ofName? : String → Option Phase
  | "idle" => some .idle
  | "challenge_issued" => some .challengeIssued
  | "verifying" => some .verifying
  | "authenticated" => some .authenticated
  | "rejected" => some .rejected
  | _ => none

/-- Why an attempt was refused. -/
inductive AuthError where
  | invalidAddress
  | invalidOrigin
  | unsupportedChain
  | invalidTimeWindow
  | invalidRequest (detail : String)
  | malformedMessage (detail : String)
  | domainMismatch
  | nonceNotFound
  | nonceExpired
  | nonceAlreadyUsed
  | nonceReuse
  | challengeExpired
  | challengeNotYetValid
  | malformedSignature
  | recoveryFailed
  | signatureMismatch
  | invalidState (phase : Phase)
  | store (detail : String)
  deriving DecidableEq, Repr, Inhabited

namespace AuthError

/-- The stable snake-case name. -/
def kind : AuthError → String
  | .invalidAddress => "invalid_address"
  | .invalidOrigin => "invalid_origin"
  | .unsupportedChain => "unsupported_chain"
  | .invalidTimeWindow => "invalid_time_window"
  | .invalidRequest _ => "invalid_request"
  | .malformedMessage _ => "malformed_message"
  | .domainMismatch => "domain_mismatch"
  | .nonceNotFound => "nonce_not_found"
  | .nonceExpired => "nonce_expired"
  | .nonceAlreadyUsed => "nonce_already_used"
  | .nonceReuse => "nonce_reuse"
  | .challengeExpired => "challenge_expired"
  | .challengeNotYetValid => "challenge_not_yet_valid"
  | .malformedSignature => "malformed_signature"
  | .recoveryFailed => "recovery_failed"
  | .signatureMismatch => "signature_mismatch"
  | .invalidState _ => "invalid_state"
  | .store _ => "store"

/-- The sentence that reports the refusal. -/
def message : AuthError → String
  | .invalidAddress => "Invalid account address"
  | .invalidOrigin => "Origin not permitted"
  | .unsupportedChain => "Chain not supported"
  | .invalidTimeWindow => "Invalid validity window"
  | .invalidRequest d => "Invalid request: " ++ d
  | .malformedMessage d => "Malformed message: " ++ d
  | .domainMismatch => "Domain does not match this server"
  | .nonceNotFound => "Nonce not found"
  | .nonceExpired => "Nonce expired"
  | .nonceAlreadyUsed => "Nonce already used"
  | .nonceReuse => "Nonce consumed concurrently"
  | .challengeExpired => "Challenge expired"
  | .challengeNotYetValid => "Challenge not yet valid"
  | .malformedSignature => "Malformed signature"
  | .recoveryFailed => "Signature recovery failed"
  | .signatureMismatch => "Signature does not match address"
  | .invalidState ph => "Operation not allowed in state " ++ ph.name
  | .store d => "Nonce store error: " ++ d

/-- The refusals caused by what the caller asked for. -/
def isRequestError : AuthError → Bool
  | .invalidAddress | .invalidOrigin | .unsupportedChain | .invalidTimeWindow
  | .invalidRequest _ => true
  | _ => false

end AuthError
end WalletAuth
