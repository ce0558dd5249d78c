import WalletAuth.Url.Basic
import WalletAuth.Text.Case

/-!
# WalletAuth.Challenge.Policy — the server's rules for issuing challenges

The server, not the caller, names the domain (and optionally the scheme) a challenge is for.
A caller's origin is accepted when its authority is that domain, or when it is one of the
explicitly allowed origins.

* The authority of a URL is its host, with `:port` when the port is not the scheme's default.
* An allowed origin matches after its trailing slashes are dropped; both comparisons ignore
  ASCII case.
-/

namespace WalletAuth

/-- The rules for issuing challenges. -/
structure ChallengePolicy where
  /-- The authority written as the message domain. -/
  domain : String
  /-- The scheme written before the domain, if any. -/
  scheme : Option String
  /-- The statement used when a request gives none. -/
  statement : Option String
  /-- Origins accepted besides the domain's own. -/
  allowedOrigins : List String
  defaultChainId : Nat
  allowedChainIds : List Nat
  deriving DecidableEq, Repr

/-- `host[:port]` of a URL, the port only when it is not the scheme's default. -/
def Url.Parsed.authority? (u : Url.Parsed) : Option String :=
  u.hostText?.map fun h =>
    match u.port with
    | some p => h ++ ":" ++ toString p
    | none => h

namespace ChallengePolicy

/-- Whether a request from this origin may get a challenge. -/
def permitsOrigin (p : ChallengePolicy) (origin : Url.Parsed) : Bool :=
  let ascii := origin.origin.serialize
  p.allowedOrigins.any (fun o => Text.eqIgnoreAsciiCase (Text.trimEndChar o '/') ascii) ||
    match origin.authority? with
    | some a => Text.eqIgnoreAsciiCase a p.domain
    | none => false

/-- Whether a chain is served. -/
def allowsChain (p : ChallengePolicy) (chainId : Nat) : Bool := p.allowedChainIds.contains chainId

end ChallengePolicy
end WalletAuth
