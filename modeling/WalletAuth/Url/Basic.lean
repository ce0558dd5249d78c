import WalletAuth.Url.Host

/-!
# WalletAuth.Url.Basic — reading absolute URLs and their origins

Of a URL are kept its scheme, its host, an explicit port, and the text after the authority or
the scheme. The reading walks the whole grammar, since every part can make a text fail to be a
URL.

* Leading and trailing C0 controls and spaces are dropped, and tabs and newlines anywhere.
* A scheme is a letter followed by letters, digits, `+`, `-` and `.`, ended by `:`; without
  one a text is a relative URL, which needs a base.
* Special schemes (http, https, ws, wss, ftp) take an authority after any number of slashes
  or backslashes: user information up to the last `@`, a host, an optional port up to 65535.
  `file` takes an optional host after `//`. Any other scheme takes a host kept as written after
  `//`, and otherwise has a path in which C0 controls, DEL and code points beyond ASCII are
  percent-encoded.
* The origin of an http, https, ws, wss or ftp URL is its scheme, host and port (the default
  port when none is given); a `blob` URL has the origin of the URL its path spells, whatever
  its scheme; every other URL has a unique origin, which equals no origin, not even itself.
-/

namespace WalletAuth
namespace Url

/-- The default port of a scheme, if it has one. -/
def defaultPort : String → Option Nat
  | "http" => some 80
  | "https" => some 443
  | "ws" => some 80
  | "wss" => some 443
  | "ftp" => some 21
  | _ => none

/-- How a scheme's URLs are read. -/
inductive SchemeKind where
  | special
  | file
  | other
  deriving DecidableEq

/-- The kind of a (lowercased) scheme. -/
def schemeKind (s : String) : SchemeKind :=
  if s == "file" then .file
  else if (defaultPort s).isSome then .special
  else .other

/-- What is kept of a URL. -/
structure Parsed where
  scheme : String
  host : Option Host
  port : Option Nat
  /-- The path after `scheme:` when the URL has no authority, percent-encoded. -/
  pathText : String
  /-- The text after the authority, or after `scheme:` when there is none: path, query and
  fragment. -/
  tail : String
  /-- The user name as written before `@`, empty when there is none. -/
  username : String := ""
  /-- The password as written after the user name's `:`, empty when there is none. -/
  password : String := ""
  deriving DecidableEq, Repr

/-- The characters a URL is read from: ends trimmed of C0 controls and spaces, tabs and
newlines removed. -/
def prepare (s : String) : List Char :=
  let trimmed := ((s.toList.dropWhile (·.toNat ≤ 0x20)).reverse.dropWhile (·.toNat ≤ 0x20)).reverse
  trimmed.filter fun c => c != '\t' && c != '\n' && c != '\r'

/-- The scheme, lowercased, and the rest after its colon. -/
def scheme? (cs : List Char) : Option (String × List Char) :=
  match cs with
  | c :: _ =>
    if !c.isAlpha then none
    else
      let body := cs.takeWhile fun c => c.isAlphanum || c == '+' || c == '-' || c == '.'
      match cs.drop body.length with
      | ':' :: rest => some (String.ofList (body.map Char.toLower), rest)
      | _ => none
  | [] => none

/-- Ends an authority: `/`, `?`, `#`, and `\` for special schemes. -/
def endsAuthority (special : Bool) (c : Char) : Bool :=
  c == '/' || c == '?' || c == '#' || (special && c == '\\')

/-- User information: the user name and password written before the last `@` of the
authority. -/
structure Userinfo where
  user : List Char := []
  password : List Char := []

/-- Splits off user information: everything up to the last `@` before the end of the
authority. Also says whether it names a user or a password. -/
def afterUserinfo (special : Bool) (cs : List Char) :
    Except UrlError (List Char × Bool × Userinfo) :=
  let auth := cs.takeWhile fun c => !endsAuthority special c
  match (auth.zipIdx).filter (·.1 == '@') |>.getLast? with
  | none => .ok (cs, false, {})
  | some (_, 0) =>
    let rest := cs.drop 1
    match rest with
    | c :: _ => if endsAuthority special c then .error .emptyHost else .ok (rest, false, {})
    | [] => .ok (rest, false, {})
  | some (_, i) =>
    -- a user information of only `:` names neither user nor password
    let info := cs.take i
    let user := info.takeWhile (· != ':')
    let password := info.drop (user.length + 1)
    .ok (cs.drop (i + 1), !user.isEmpty || !password.isEmpty, ⟨user, password⟩)

/-- The host text: up to `:` outside brackets or the end of the authority. -/
def hostText (special : Bool) (cs : List Char) : List Char × List Char :=
  let rec go (fuel : Nat) (cs : List Char) (inside : Bool) (acc : List Char) :
      List Char × List Char :=
    match fuel, cs with
    | 0, _ => (acc.reverse, cs)
    | _, [] => (acc.reverse, [])
    | fuel + 1, c :: rest =>
      if (c == ':' && !inside) || endsAuthority special c then (acc.reverse, cs)
      else
        let inside := if c == '[' then true else if c == ']' then false else inside
        go fuel rest inside (c :: acc)
  go (cs.length + 1) cs false []

/-- The port after a colon: digits up to 65535, then the end of the authority. `none` for no
digits or the scheme's default. -/
def port (scheme : String) (cs : List Char) : Except UrlError (Option Nat × List Char) :=
  let digits := cs.takeWhile Char.isDigit
  let rest := cs.drop digits.length
  let value := digits.foldl (fun n d => n * 10 + (d.toNat - 48)) 0
  if value > 65535 then .error .invalidPort
  else
    match rest with
    | c :: _ =>
      if c == '/' || c == '\\' || c == '?' || c == '#' then .ok (finish digits value, rest)
      else .error .invalidPort
    | [] => .ok (finish digits value, rest)
where
  finish (digits : List Char) (value : Nat) : Option Nat :=
    if digits.isEmpty || defaultPort scheme == some value then none else some value

/-- Host and port of an authority. -/
def authority (scheme : String) (kind : SchemeKind) (cs : List Char) :
    Except UrlError (Option Host × Option Nat × List Char × Userinfo) := do
  let special := kind == .special
  let (cs, hadUserinfo, info) ← afterUserinfo special cs
  let (hostChars, rest) := hostText special cs
  if special && hostChars.isEmpty then throw .emptyHost
  let host ← if special then Host.parseSpecial hostChars else Host.parseOther hostChars
  let emptyHost := host == .domain ""
  if emptyHost && rest.head? == some ':' then throw .emptyHost
  let (p, after) ← match rest with
    | ':' :: r => port scheme r
    | _ => pure (none, rest)
  if emptyHost && hadUserinfo then throw .emptyHost
  pure (if emptyHost then none else some host, p, after, info)

/-- Whether a text starts with a drive letter such as `C:` or `c|`. -/
def startsWithDrive (cs : List Char) : Bool :=
  match cs with
  | c :: d :: rest => c.isAlpha && (d == ':' || d == '|') &&
      (match rest with | [] => true | e :: _ => e == '/' || e == '\\' || e == '?' || e == '#')
  | _ => false

/-- Reads a `file` URL's optional host. -/
def fileHost (cs : List Char) : Except UrlError (Option Host) :=
  match cs with
  | a :: b :: rest =>
    if (a == '/' || a == '\\') && (b == '/' || b == '\\') then
      let h := rest.takeWhile fun c => !(c == '/' || c == '\\' || c == '?' || c == '#')
      if h.isEmpty || startsWithDrive rest then .ok none
      else
        match Host.parseSpecial h with
        | .ok (.domain "localhost") => .ok none
        | .ok host => .ok (some host)
        | .error e => .error e
    else .ok none
  | _ => .ok none

/-- Reads an absolute URL. -/
def parse (text : String) : Except UrlError Parsed := do
  let cs := prepare text
  match scheme? cs with
  | none => throw .relativeWithoutBase
  | some (scheme, rest) =>
    match schemeKind scheme with
    | .special =>
      let afterSlashes := rest.dropWhile fun c => c == '/' || c == '\\'
      let (host, p, after, info) ← authority scheme .special afterSlashes
      pure ⟨scheme, host, p, "", String.ofList after, String.ofList info.user,
        String.ofList info.password⟩
    | .file =>
      let host ← fileHost rest
      pure ⟨scheme, host, none, "", "", "", ""⟩
    | .other =>
      match rest with
      | '/' :: '/' :: r =>
        let (host, p, after, info) ← authority scheme .other r
        pure ⟨scheme, host, p, "", String.ofList after, String.ofList info.user,
          String.ofList info.password⟩
      | _ =>
        let path := rest.takeWhile fun c => c != '?' && c != '#'
        pure ⟨scheme, none, none, percentEncodeControls path, String.ofList rest, "", ""⟩

/-- The origin of a URL. -/
inductive Origin where
  | tuple (scheme : String) (host : Host) (port : Nat)
  | unique
  deriving DecidableEq, Repr

/-- The origin of a URL of a network scheme: its scheme, host and port. -/
def Parsed.networkOrigin (u : Parsed) : Origin :=
  match u.host, defaultPort u.scheme with
  | some h, some d => .tuple u.scheme h (u.port.getD d)
  | _, _ => .unique

/-- The origin, looking through at most `depth` nested `blob` URLs: a `blob` URL has the
origin of the URL its path spells. -/
def Parsed.originWithin : Nat → Parsed → Origin
  | 0, _ => .unique
  | depth + 1, u =>
    if u.scheme == "blob" then
      match parse u.pathText with
      | .ok inner => inner.originWithin depth
      | .error _ => .unique
    else u.networkOrigin

/-- The origin. Each nested `blob` URL is spelled by a shorter path than the one around it, so
the path's length bounds the nesting. -/
def Parsed.origin (u : Parsed) : Origin := u.originWithin (u.pathText.length + 1)

/-- Two origins are the same only when both are tuples and equal; a unique origin is the same
as nothing. -/
def Origin.same : Origin → Origin → Bool
  | .tuple s h p, .tuple s' h' p' => s == s' && h == h' && p == p'
  | _, _ => false

/-- `scheme://host`, with `:port` unless it is the default; `null` when unique. -/
def Origin.serialize : Origin → String
  | .tuple s h p =>
    if defaultPort s == some p then s ++ "://" ++ h.serialize
    else s ++ "://" ++ h.serialize ++ ":" ++ toString p
  | .unique => "null"

/-- The host as text, if the URL has one. -/
def Parsed.hostText? (u : Parsed) : Option String := u.host.map Host.serialize

end Url
end WalletAuth
