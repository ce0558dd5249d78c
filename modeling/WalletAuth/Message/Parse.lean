import WalletAuth.Message.Challenge
import WalletAuth.Text.Affix

/-!
# WalletAuth.Message.Parse — reading a sign-in message back from its text

The text is split at line feeds only (a carriage return stays in its line) and read line by
line in the order `Challenge.render` writes them. Each required line must carry its tag; the
optional lines are recognised by their tag and must come in order; anything left over is an
unexpected line. The fields then pass `Challenge.validate`, so a message read here could
have been built.

* The header names an optional scheme before `://` and the domain.
* The address must be the exact checksummed text.
* After the blank line, either a blank line (no statement) or a statement line followed by a
  blank line; two non-blank lines are a statement spanning lines.
* The chain id is decimal without sign or leading zero, below 2⁶⁴.
-/

namespace WalletAuth
namespace Challenge

/-- The lines still to read. -/
abbrev Lines := List String

/-- A reader of a message's lines: it takes lines from the front, or fails. -/
abbrev LineReader := StateT Lines (Except MessageError)

/-- The next line, or the field that was being looked for is missing. -/
def nextLine (field : String) : LineReader String := fun ls =>
  match ls with
  | l :: rest => .ok (l, rest)
  | [] => .error (.missingField field)

/-- A line's value after its tag; a line without the tag means the field is missing. -/
def tagged (line tag field : String) : Except MessageError String :=
  match Text.dropPrefix? line tag with
  | some v => .ok v
  | none => .error (.missingField field)

/-- A required line: its value after `tag`. -/
def readTagged (tag field : String) : LineReader String := do
  let line ← nextLine field
  tagged line tag field

/-- The largest chain id. -/
def maxChainId : Nat := Nat.pow 2 64 - 1

/-- A chain id: decimal digits, no leading zero, at most `2⁶⁴ − 1`. -/
def parseChainId (v : String) : Except MessageError Nat :=
  let cs := v.toList
  let canonical := !cs.isEmpty && cs.all Char.isDigit && (v == "0" || cs.head? != some '0')
  if !canonical then .error (.invalidField "chain id" v)
  else
    let n := cs.foldl (fun n d => n * 10 + (d.toNat - 48)) 0
    if n > maxChainId then .error (.invalidField "chain id" v) else .ok n

/-- The message format version: `1` is the only one. -/
def parseVersion (v : String) : Except MessageError String :=
  if v == "1" then .ok v else .error (.invalidField "version" v)

/-- The header: an optional scheme before the first `://`, the domain, then the preamble. -/
def readHeader : LineReader (Option String × String) := do
  let header ← nextLine "domain"
  match Text.dropSuffix? header preamble with
  | none => throw (.missingField "domain")
  | some origin =>
    match Text.splitOnce? origin "://" with
    | some (s, d) => pure (some s, d)
    | none => pure (none, origin)

/-- The address line: the exact checksummed text. -/
def readAddress : LineReader Address := do
  let line ← nextLine "address"
  match Address.parseChecksummed line with
  | .ok a => pure a
  | .error e => throw (.invalidField "address" (line ++ ": " ++ e.message))

/-- The blank line under the address. -/
def readBlank : LineReader Unit := do
  let blank ← nextLine "address"
  if !blank.isEmpty then throw (.unexpectedLine blank)

/-- The statement slot and the URI line: a statement line then a blank line, or a blank line
alone; two non-blank lines are a statement spanning lines. -/
def readStatement : LineReader (Option String × String) := do
  let first ← nextLine "uri"
  let second ← nextLine "uri"
  if second.isEmpty then
    let u ← nextLine "uri"
    pure (some first, u)
  else if first.isEmpty then pure (none, second)
  else throw (.invalidField "statement" "spans multiple lines")

/-- The next line's value if it starts with `tag`; otherwise nothing is taken. -/
def optionalTagged (tag : String) : LineReader (Option String) := fun ls =>
  match ls with
  | l :: rest =>
    match Text.dropPrefix? l tag with
    | some v => .ok (some v, rest)
    | none => .ok (none, l :: rest)
  | [] => .ok (none, [])

/-- An optional timestamp line. -/
def optionalTimestamp (tag : String) : LineReader (Option Timestamp) := do
  match ← optionalTagged tag with
  | some v => some <$> Timestamp.parse v
  | none => pure none

/-- The resource items at the front: lines starting with `- `. -/
def resourceItems : Lines → List String × Lines
  | l :: rest =>
    match Text.dropPrefix? l "- " with
    | some v =>
      let (items, rest') := resourceItems rest
      (v :: items, rest')
    | none => ([], l :: rest)
  | [] => ([], [])

/-- The optional resources: `Resources:` and at least one item. -/
def readResources : LineReader (List String) := fun ls =>
  match ls with
  | "Resources:" :: rest =>
    let (items, rest) := resourceItems rest
    if items.isEmpty then .error (.invalidField "resources" "empty list") else .ok (items, rest)
  | _ => .ok ([], ls)

/-- Nothing may follow the last field. -/
def readEnd : LineReader Unit := fun ls =>
  match ls with
  | extra :: _ => .error (.unexpectedLine extra)
  | [] => .ok ((), [])

/-- Reads a message from all of its lines, in the order `render` writes them. -/
def readMessage : LineReader Challenge := do
  let (scheme, domain) ← readHeader
  let address ← readAddress
  readBlank
  let (statement, uriLine) ← readStatement
  let uri ← tagged uriLine "URI: " "uri"
  let _ ← parseVersion (← readTagged "Version: " "version")
  let chainId ← parseChainId (← readTagged "Chain ID: " "chain id")
  let nonce ← readTagged "Nonce: " "nonce"
  let issuedAt ← Timestamp.parse (← readTagged "Issued At: " "issued at")
  let expirationTime ← optionalTimestamp "Expiration Time: "
  let notBefore ← optionalTimestamp "Not Before: "
  let requestId ← optionalTagged "Request ID: "
  let resources ← readResources
  readEnd
  validate ⟨scheme, domain, address, statement, uri, chainId, nonce, issuedAt, expirationTime,
    notBefore, requestId, resources⟩

/-- Reads a message from its text. -/
def parse (text : String) : Except MessageError Challenge :=
  (readMessage.run (Text.lines text)).map Prod.fst

end Challenge
end WalletAuth
