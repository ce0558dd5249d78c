import WalletAuth.Message.Timestamp
import WalletAuth.Account.Address
import WalletAuth.Url.Basic
import WalletAuth.Text.Blank

/-!
# WalletAuth.Message.Challenge — the sign-in message and its text

The message an account signs: who asks (optional scheme, domain), who signs (address), why
(optional one-line statement), where (URI), on which chain, with which nonce, when (issued at,
optional expiry and start) and optional request id and resources. Its text is fixed line by
line:

```
[scheme "://"] domain " wants you to sign in with your Ethereum account:"
address (EIP-55)
<blank>
[statement]
<blank>
URI: uri
Version: 1
Chain ID: chain-id
Nonce: nonce
Issued At: timestamp
[Expiration Time: timestamp]
[Not Before: timestamp]
[Request ID: request-id]
[Resources:
- uri …]
```

`Challenge.checkFields` is the builder's check, in its order: scheme, domain, statement, URI,
nonce, window, request id, resources; `Challenge.validate` gives back a message that passes it.
`Challenge.render` writes the text.
-/

namespace WalletAuth

/-- A sign-in message. -/
structure Challenge where
  scheme : Option String
  domain : String
  address : Address
  statement : Option String
  uri : String
  chainId : Nat
  nonce : String
  issuedAt : Timestamp
  expirationTime : Option Timestamp
  notBefore : Option Timestamp
  requestId : Option String
  resources : List String
  deriving DecidableEq, Repr

namespace Challenge

/-- The header's fixed tail. -/
def preamble : String := " wants you to sign in with your Ethereum account:"

/-- The shortest nonce accepted. -/
def minNonceLength : Nat := 8

/-- A scheme: an ASCII letter, then ASCII letters, digits, `+`, `-` and `.`. -/
def isScheme (s : String) : Bool :=
  match s.toList with
  | c :: rest => c.isAlpha && rest.all fun c => c.isAlphanum || c == '+' || c == '-' || c == '.'
  | [] => false

/-- A URI field: no blanks, and an absolute URL. -/
def validateUri (field value : String) : Except MessageError Unit :=
  if value.isEmpty || Text.hasBlank value then .error (.invalidField field value)
  else
    match Url.parse value with
    | .ok _ => .ok ()
    | .error e => .error (.invalidField field (value ++ ": " ++ e.message))

/-- Passes when `ok` holds, and fails with `err` otherwise. -/
def require (ok : Bool) (err : MessageError) : Except MessageError Unit :=
  if ok then .ok () else .error err

/-- The builder's checks, in order; an absent optional field passes. -/
def checkFields (c : Challenge) : Except MessageError Unit := do
  c.scheme.forM fun s => require (isScheme s) (.invalidField "scheme" s)
  require (!(c.domain.isEmpty || Text.hasBlank c.domain || c.domain.toList.contains '/'))
    (.invalidField "domain" c.domain)
  c.statement.forM fun st =>
    require (!st.toList.any fun ch => ch == '\n' || ch == '\r')
      (.invalidField "statement" "contains a line terminator")
  validateUri "uri" c.uri
  require (!(c.nonce.utf8ByteSize < minNonceLength || !c.nonce.toList.all Char.isAlphanum))
    (.invalidField "nonce" c.nonce)
  c.expirationTime.forM fun e =>
    require (!decide (e.at_ ≤ c.issuedAt.at_))
      (.invalidField "expiration time" "must be after issued at")
  c.requestId.forM fun r => require (!Text.hasBlank r) (.invalidField "request id" r)
  c.resources.forM (validateUri "resource")

/-- The message, once it passes the builder's checks. -/
def validate (c : Challenge) : Except MessageError Challenge := do
  c.checkFields
  pure c

/-- The lines after `Issued At`, each with its leading line feed. -/
def optionalLines (c : Challenge) : String :=
  (match c.expirationTime with | some t => "\nExpiration Time: " ++ t.text | none => "") ++
  (match c.notBefore with | some t => "\nNot Before: " ++ t.text | none => "") ++
  (match c.requestId with | some r => "\nRequest ID: " ++ r | none => "") ++
  (if c.resources.isEmpty then ""
   else "\nResources:" ++ String.join (c.resources.map fun r => "\n- " ++ r))

/-- The text of the message. -/
def render (c : Challenge) : String :=
  (match c.scheme with | some s => s ++ "://" | none => "") ++ c.domain ++ preamble ++ "\n" ++
  c.address.checksummed ++ "\n\n" ++
  (match c.statement with | some s => s ++ "\n" | none => "") ++ "\n" ++
  "URI: " ++ c.uri ++ "\n" ++
  "Version: 1\n" ++
  "Chain ID: " ++ toString c.chainId ++ "\n" ++
  "Nonce: " ++ c.nonce ++ "\n" ++
  "Issued At: " ++ c.issuedAt.text ++ optionalLines c

end Challenge
end WalletAuth
