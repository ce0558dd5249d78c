import WalletAuth.Handshake.Basic

/-!
# WalletAuth.Handshake.SignIn — the account's side of the handshake

An account asks for a challenge, and signs it only after checking it: the challenge must name
the account itself, and its URI must be on the origin the account is visiting. The signed text
is then sent back for verification.
-/

namespace WalletAuth

/-- Why signing in failed on the account's side. -/
inductive SignInError where
  | auth (e : AuthError)
  | signer (e : SignerError)
  | unexpectedChallenge (reason : String)
  deriving DecidableEq, Repr

namespace SignInError

/-- The sentence that reports the failure. -/
def message : SignInError → String
  | .auth e => e.message
  | .signer e => e.message
  | .unexpectedChallenge r => "Refusing to sign challenge: " ++ r

/-- The name of the failure's cause. -/
def kind : SignInError → String
  | .auth e => e.kind
  | .signer e => e.kind
  | .unexpectedChallenge _ => "UnexpectedChallenge"

end SignInError

/-- Checks a challenge text before signing it. -/
def inspectChallenge (account : Address) (origin text : String) : Except SignInError Unit := do
  let c ← (Challenge.parse text).mapError fun e => .unexpectedChallenge e.message
  if c.address ≠ account then
    throw (.unexpectedChallenge "challenge names a different account")
  let originUrl ← (Url.parse origin).mapError fun e => .unexpectedChallenge e.message
  let uriUrl ← (Url.parse c.uri).mapError fun e => .unexpectedChallenge e.message
  if !uriUrl.origin.same originUrl.origin then
    throw (.unexpectedChallenge "challenge uri is not on this origin")

/-- Signs in with a key at a handshake, from an origin. -/
def signIn (h : Handshake) (key : SecretKey) (origin : String) :
    BackendM (Except SignInError Identity) := do
  let account := key.address
  match ← h.challengeText account origin with
  | .error e => pure (.error (.auth e))
  | .ok text =>
    match inspectChallenge account origin text with
    | .error e => pure (.error e)
    | .ok () =>
      match key.signText text with
      | .error e => pure (.error (.signer e))
      | .ok sig => return (← h.verifySigned ⟨text, sig⟩).mapError .auth

end WalletAuth
