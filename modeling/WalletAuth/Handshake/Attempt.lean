import WalletAuth.Message.Challenge
import WalletAuth.Auth.Error

/-!
# WalletAuth.Handshake.Attempt — one sign-in attempt and its phases

An attempt starts idle, gets a challenge, is verified, and ends authenticated or rejected:

```
idle ──request──▶ challenge issued ──submit──▶ verifying ──▶ authenticated
  └──────────────────────┴─────────────────────────┴──────▶ rejected
```

Authenticated and rejected are final. A rejected attempt keeps the error that rejected it; an
attempt keeps its challenge, its deadline and, once authenticated, the identity it proved.
-/

namespace WalletAuth

/-- Who signed in: the account, the chain and when it was verified. -/
structure Identity where
  address : Address
  chainId : Nat
  verifiedAt : Instant
  deriving DecidableEq, Repr

/-- The phase of an attempt, a rejection with its error. -/
inductive AttemptState where
  | idle
  | challengeIssued
  | verifying
  | authenticated
  | rejected (e : AuthError)
  deriving DecidableEq, Repr, Inhabited

namespace AttemptState

/-- The phase without the rejection's error. -/
def phase : AttemptState → Phase
  | .idle => .idle
  | .challengeIssued => .challengeIssued
  | .verifying => .verifying
  | .authenticated => .authenticated
  | .rejected _ => .rejected

/-- Whether nothing can happen to the attempt any more. -/
def isTerminal : AttemptState → Bool
  | .authenticated | .rejected _ => true
  | _ => false

end AttemptState

/-- A sign-in attempt. -/
structure Attempt where
  state : AttemptState := .idle
  challenge : Option Challenge := none
  deadline : Option Instant := none
  identity : Option Identity := none
  deriving DecidableEq, Repr

/-- What the account sends back: the exact text it signed, and the signature. -/
structure SignedResponse where
  message : String
  signature : ByteArray

end WalletAuth
