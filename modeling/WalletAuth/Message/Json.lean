import WalletAuth.Message.Challenge
import WalletAuth.Json.Value

/-!
# WalletAuth.Message.Json — the JSON form of a sign-in message

Members in camelCase and in field order; optional fields only when present, resources only
when there are any; the address checksummed, the version the string `"1"`, the chain id a
number, timestamps their texts.
-/

namespace WalletAuth
namespace Challenge

/-- The JSON form of a message. -/
def toJson (c : Challenge) : Json :=
  .obj <|
    (match c.scheme with | some s => [("scheme", .str s)] | none => []) ++
    [("domain", .str c.domain), ("address", .str c.address.checksummed)] ++
    (match c.statement with | some s => [("statement", .str s)] | none => []) ++
    [("uri", .str c.uri), ("version", .str "1"), ("chainId", .int c.chainId),
     ("nonce", .str c.nonce), ("issuedAt", .str c.issuedAt.text)] ++
    (match c.expirationTime with | some t => [("expirationTime", .str t.text)] | none => []) ++
    (match c.notBefore with | some t => [("notBefore", .str t.text)] | none => []) ++
    (match c.requestId with | some r => [("requestId", .str r)] | none => []) ++
    (if c.resources.isEmpty then [] else [("resources", .arr (c.resources.map .str))])

end Challenge
end WalletAuth
