/-!
# WalletAuth.Server.Target — request targets

A request names its resource by a target in one of three forms:

* origin form, a path with an optional query (`/api/auth/me?x`);
* absolute form, a scheme, `://`, an authority and then a path (`http://x/api/auth/me`);
* authority form, an authority alone (`example.com:443`), which has no path at all.

A fragment (`#…`) is dropped wherever it starts. A character that may not stand in its part is
refused, as is an authority with stray brackets, two port colons, a `%` outside the user part, or
an `@` with nothing after it. The router reads only `Target.path`: the path of an absolute
target with none is `/`, and the path of an authority alone is empty, which matches no route.

* `Target.parse`: the target of a text, or why it is none.
* `Target.path`: what the router matches.
-/

namespace WalletAuth
namespace Http

/-- Why a text is not a request target. -/
inductive TargetError where
  | empty
  | tooLong
  | invalidCharacter
  | invalidAuthority
  | invalidFormat
  | schemeTooLong
  deriving DecidableEq, Repr

/-- The wording of a target failure. -/
def TargetError.message : TargetError → String
  | .empty => "empty string"
  | .tooLong => "uri too long"
  | .invalidCharacter => "invalid uri character"
  | .invalidAuthority => "invalid authority"
  | .invalidFormat => "invalid format"
  | .schemeTooLong => "scheme too long"

/-- A request target: its scheme and authority when written, and its path and query without
the fragment. -/
structure Target where
  scheme : Option String := none
  authority : String := ""
  pathAndQuery : String := ""
  deriving DecidableEq, Repr

namespace Target

/-- The longest target, in bytes. -/
def maxLength : Nat := 65534

/-- The longest scheme before `://`. -/
def maxSchemeLength : Nat := 64

/-- Whether a character may stand in a path as written: visible ASCII except the space,
`#`, `<`, `>`, `?` and the backquote, or any character beyond ASCII. -/
def isPathChar (c : Char) : Bool :=
  let n := c.toNat
  n == 0x21 || n == 0x22 || (0x24 ≤ n && n ≤ 0x3B) || n == 0x3D || (0x40 ≤ n && n ≤ 0x5F) ||
    (0x61 ≤ n && n ≤ 0x7E) || n ≥ 0x7F

/-- Whether a character may stand in a query as written: visible ASCII except the space, the
double quote, `#`, `<` and `>`, or any character beyond ASCII. -/
def isQueryChar (c : Char) : Bool :=
  let n := c.toNat
  n == 0x21 || (0x24 ≤ n && n ≤ 0x3B) || n == 0x3D || n ≥ 0x3F

/-- Whether a character may stand in an authority without a rule of its own: letters, digits
and `!$&'()*+,-.;=_~`. -/
def isAuthorityChar (c : Char) : Bool :=
  (c.isAlphanum && c.toNat < 128) || "!$&'()*+,-.;=_~".toList.contains c

/-- Whether a character may stand in a scheme: ASCII letters, digits and `+-.`. -/
def isSchemeChar (c : Char) : Bool :=
  (c.isAlphanum && c.toNat < 128) || c = '+' || c = '-' || c = '.'

/-- Reads a query up to a fragment, in reverse onto `acc`. -/
def readQuery (acc : List Char) : List Char → Except TargetError (List Char)
  | [] => .ok acc
  | '#' :: _ => .ok acc
  | c :: rest => if isQueryChar c then readQuery (c :: acc) rest else .error .invalidCharacter

/-- Reads a path and its query up to a fragment, in reverse onto `acc`. -/
def readPath (acc : List Char) : List Char → Except TargetError (List Char)
  | [] => .ok acc
  | '#' :: _ => .ok acc
  | '?' :: rest => readQuery ('?' :: acc) rest
  | c :: rest => if isPathChar c then readPath (c :: acc) rest else .error .invalidCharacter

/-- The path and query of a text, without its fragment. -/
def pathAndQueryOf (cs : List Char) : Except TargetError String :=
  (fun r => String.ofList r.reverse) <$> readPath [] cs

/-- What a scan of an authority has seen so far. -/
structure AuthorityScan where
  colons : Nat := 0
  opened : Bool := false
  closed : Bool := false
  percent : Bool := false
  lastAt : Option Nat := none

/-- The checks at the end of an authority of `len` characters: brackets in pairs, at most one
port colon, something after an `@`, and no `%` outside the user part. -/
def AuthorityScan.finish (st : AuthorityScan) (len : Nat) : Except TargetError Nat :=
  if st.opened != st.closed then .error .invalidAuthority
  else if st.colons > 1 then .error .invalidAuthority
  else if len > 0 && st.lastAt == some (len - 1) then .error .invalidAuthority
  else if st.percent then .error .invalidAuthority
  else .ok len

/-- The length of the authority at the start of a text: everything up to the first `/`, `?`
or `#`. Colons before an `@` or inside brackets are not port colons, and a `%` before an `@`
belongs to the user part. -/
def authorityEnd (cs : List Char) : Except TargetError Nat :=
  go cs 0 {}
where
  /-- Scans from position `i`. -/
  go : List Char → Nat → AuthorityScan → Except TargetError Nat
    | [], i, st => st.finish i
    | c :: rest, i, st =>
      if c = '/' || c = '?' || c = '#' then st.finish i
      else if c = ':' then
        if st.colons ≥ 8 then .error .invalidAuthority
        else go rest (i + 1) { st with colons := st.colons + 1 }
      else if c = '[' then
        if st.percent || st.opened then .error .invalidAuthority
        else go rest (i + 1) { st with opened := true }
      else if c = ']' then
        if !st.opened || st.closed then .error .invalidAuthority
        else go rest (i + 1) { st with closed := true, colons := 0, percent := false }
      else if c = '@' then go rest (i + 1) { st with lastAt := some i, colons := 0, percent := false }
      else if c = '%' then go rest (i + 1) { st with percent := true }
      else if isAuthorityChar c then go rest (i + 1) st
      else .error .invalidCharacter

/-- The scheme at the start of a text, when `://` follows it, with the rest after `://`.
`http` and `https` are known in any case; any other scheme is letters, digits and `+-.`
up to the first colon. -/
def schemeOf (cs : List Char) : Except TargetError (Option (String × List Char)) :=
  let lower := cs.map Char.toLower
  if lower.take 7 == "http://".toList then .ok (some ("http", cs.drop 7))
  else if lower.take 8 == "https://".toList then .ok (some ("https", cs.drop 8))
  else if cs.length ≤ 3 then .ok none
  else
    let name := cs.takeWhile isSchemeChar
    match cs.drop name.length with
    | ':' :: '/' :: '/' :: rest =>
      if name.length > maxSchemeLength then .error .schemeTooLong
      else .ok (some (String.ofList name, rest))
    | _ => .ok none

/-- The target of a text with at least two characters that does not start with `/`: a scheme,
an authority and a path, or an authority alone. -/
def parseFull (s : String) (cs : List Char) : Except TargetError Target := do
  match ← schemeOf cs with
  | none =>
    let e ← authorityEnd cs
    if e ≠ cs.length then .error .invalidFormat else .ok { authority := s }
  | some (scheme, rest) =>
    let e ← authorityEnd rest
    if e = 0 then .error .invalidFormat
    else
      let pq ← pathAndQueryOf (rest.drop e)
      .ok { scheme := some scheme, authority := String.ofList (rest.take e), pathAndQuery := pq }

/-- The target of a text. `/` and `*` alone are paths; another single character is an
authority; a text starting with `/` is a path and query. -/
def parse (s : String) : Except TargetError Target :=
  if s.utf8ByteSize > maxLength then .error .tooLong
  else
    match s.toList with
    | [] => .error .empty
    | ['/'] => .ok { pathAndQuery := "/" }
    | ['*'] => .ok { pathAndQuery := "*" }
    | [c] => do
      let e ← authorityEnd [c]
      if e ≠ 1 then .error .invalidCharacter else .ok { authority := s }
    | cs@('/' :: _) => do .ok { pathAndQuery := ← pathAndQueryOf cs }
    | cs => parseFull s cs

/-- The path the router matches: the path before the query, `/` when an origin or absolute
target writes none, and empty for an authority alone. -/
def path (t : Target) : String :=
  if t.pathAndQuery.isEmpty && t.scheme.isNone then ""
  else
    let p := t.pathAndQuery.takeWhile (· ≠ '?')
    if p.isEmpty then "/" else p.copy

end Target

end Http
end WalletAuth
