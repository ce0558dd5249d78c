import WalletAuth.Url.Idna

/-!
# WalletAuth.Url.Host — hosts of URLs: domains, IPv4 and IPv6 addresses

A host of a special URL (http, https, ws, wss, ftp, file) is percent-decoded, mapped to its
ASCII form (lowercased; a label beyond ASCII is Punycode-encoded behind `xn--`), refused if it
holds a forbidden code point, and read as an IPv4 address when its last label is a number.
A host of any other URL is kept as written, refused only for a forbidden host code point.
An IPv6 address stands in brackets and is written back in its shortest form.

* `Host.parseSpecial`, `Host.parseOther`: the two host grammars.
* `Host.serialize`: the host as it appears in an origin.
-/

namespace WalletAuth
namespace Url

/-- Why a text is not a URL. -/
inductive UrlError where
  | emptyHost
  | idna
  | invalidPort
  | invalidIpv4
  | invalidIpv6
  | invalidDomainCharacter
  | relativeWithoutBase
  deriving DecidableEq, Repr

/-- The wording of a URL failure. -/
def UrlError.message : UrlError → String
  | .emptyHost => "empty host"
  | .idna => "invalid international domain name"
  | .invalidPort => "invalid port number"
  | .invalidIpv4 => "invalid IPv4 address"
  | .invalidIpv6 => "invalid IPv6 address"
  | .invalidDomainCharacter => "invalid domain character"
  | .relativeWithoutBase => "relative URL without a base"

/-- A parsed host. -/
inductive Host where
  | domain (name : String)
  | ipv4 (addr : Nat)
  | ipv6 (pieces : List Nat)
  deriving DecidableEq, Repr

/-! ## Domain names -/

/-- The code points the host of a non-special URL may not hold. -/
def isForbiddenHostChar (c : Char) : Bool :=
  "\x00\t\n\r #/:<>?@[\\]^|".toList.contains c

/-- Splits a list at every occurrence of a separator. -/
def splitOn (sep : Char) : List Char → List (List Char)
  | [] => [[]]
  | c :: rest =>
    match splitOn sep rest with
    | [] => [[]]
    | l :: ls => if c == sep then [] :: l :: ls else (c :: l) :: ls

/-! ## IPv4 -/

/-- A number in an IPv4 address: decimal, octal after `0`, hex after `0x`. `some none` when
it overflows 32 bits. -/
def ipv4Number (part : List Char) : Option (Option Nat) :=
  if part.isEmpty then none
  else
    let (radix, digits) :=
      match part with
      | '0' :: 'x' :: rest => (16, rest)
      | '0' :: 'X' :: rest => (16, rest)
      | '0' :: rest@(_ :: _) => (8, rest)
      | _ => (10, part)
    if digits.isEmpty then some (some 0)
    else
      let val (c : Char) : Option Nat :=
        if '0' ≤ c ∧ c ≤ '9' then some (c.toNat - 48)
        else if 'a' ≤ c ∧ c ≤ 'f' then some (c.toNat - 87)
        else if 'A' ≤ c ∧ c ≤ 'F' then some (c.toNat - 55)
        else none
      match digits.mapM val with
      | none => none
      | some ds =>
        if ds.any (· ≥ radix) then none
        else
          let n := ds.foldl (fun acc d => acc * radix + d) 0
          if n < Nat.pow 2 32 then some (some n) else some none

/-- Whether the last label (before an optional final dot) is a number. -/
def endsInNumber (domain : List Char) : Bool :=
  let parts := (splitOn '.' domain).reverse
  let last? := match parts with
    | [] :: p :: _ => some p
    | [] :: [] => none
    | p :: _ => some p
    | [] => none
  match last? with
  | none => false
  | some last =>
    (!last.isEmpty && last.all Char.isDigit) || (ipv4Number last).isSome

/-- Reads an IPv4 address of one to four numbers. -/
def parseIpv4 (domain : List Char) : Except UrlError Nat := do
  let parts := splitOn '.' domain
  let parts := if parts.getLast? == some [] then parts.dropLast else parts
  if parts.length > 4 then throw .invalidIpv4
  let nums ← parts.mapM fun p =>
    match ipv4Number p with
    | some (some n) => pure n
    | _ => throw .invalidIpv4
  match nums.reverse with
  | [] => throw .invalidIpv4
  | last :: revInit =>
    let init := revInit.reverse
    if last ≥ Nat.pow 256 (4 - init.length) then throw .invalidIpv4
    if init.any (· > 255) then throw .invalidIpv4
    pure ((init.zipIdx).foldl (fun acc (n, i) => acc + n * Nat.pow 256 (3 - i)) last)

/-! ## IPv6 -/

/-- The value of a hex digit. -/
def hexVal (c : Char) : Option Nat :=
  if '0' ≤ c ∧ c ≤ '9' then some (c.toNat - 48)
  else if 'a' ≤ c ∧ c ≤ 'f' then some (c.toNat - 87)
  else if 'A' ≤ c ∧ c ≤ 'F' then some (c.toNat - 55)
  else none

/-- Up to four hex digits: the value, the count, the rest. -/
def hexPiece (cs : List Char) : Nat × Nat × List Char :=
  let ds := (cs.take 4).takeWhile fun c => (hexVal c).isSome
  (ds.foldl (fun acc c => acc * 16 + (hexVal c).getD 0) 0, ds.length, cs.drop ds.length)

/-- The decimal bytes of an IPv4 tail inside an IPv6 address. -/
def ipv4Tail (fuel : Nat) (cs : List Char) (seen : Nat) (acc : List Nat) : Option (List Nat) :=
  match fuel with
  | 0 => none
  | fuel + 1 =>
    if cs.isEmpty then (if seen == 4 then some acc.reverse else none)
    else do
      let cs ← if seen > 0 then
          (match cs with
           | '.' :: r => if seen < 4 then some r else none
           | _ => none)
        else some cs
      match cs with
      | c :: _ =>
        if !c.isDigit then none
        else
          let ds := cs.takeWhile Char.isDigit
          if ds.length > 1 ∧ ds.head? == some '0' then none
          else
            let v := ds.foldl (fun a d => a * 10 + (d.toNat - 48)) 0
            if v > 255 then none else ipv4Tail fuel (cs.drop ds.length) (seen + 1) (v :: acc)
      | [] => none

/-- Reads the inside of an IPv6 bracket: up to eight hex pieces, one `::` standing for a run
of zero pieces, and optionally a dotted IPv4 tail in the last two pieces. -/
def parseIpv6 (input : List Char) : Except UrlError (List Nat) := do
  let mut addr : Array Nat := Array.replicate 8 0
  let mut piece := 0
  let mut compress : Option Nat := none
  let mut cs := input
  if cs.head? == some ':' then
    match cs with
    | ':' :: ':' :: rest =>
      cs := rest
      piece := 1
      compress := some 1
    | _ => throw .invalidIpv6
  for _ in [0:input.length + 1] do
    if cs.isEmpty then break
    if piece == 8 then throw .invalidIpv6
    if cs.head? == some ':' then
      if compress.isSome then throw .invalidIpv6
      cs := cs.drop 1
      piece := piece + 1
      compress := some piece
      continue
    let (value, len, rest) := hexPiece cs
    match rest with
    | '.' :: _ =>
      if len == 0 || piece > 6 then throw .invalidIpv6
      match ipv4Tail 8 cs 0 [] with
      | some [a, b, c, d] =>
        addr := (addr.set! piece (a * 256 + b)).set! (piece + 1) (c * 256 + d)
        piece := piece + 2
        cs := []
        break
      | _ => throw .invalidIpv6
    | ':' :: rest' =>
      if rest'.isEmpty then throw .invalidIpv6
      addr := addr.set! piece value
      piece := piece + 1
      cs := rest'
    | [] =>
      addr := addr.set! piece value
      piece := piece + 1
      cs := []
    | _ => throw .invalidIpv6
  match compress with
  | some c =>
    let before := addr.toList.take c
    let after := (addr.toList.take piece).drop c
    pure (before ++ List.replicate (8 - before.length - after.length) 0 ++ after)
  | none => if piece == 8 then pure addr.toList else throw .invalidIpv6

/-- The longest run of at least two zero pieces, first of equals: its start and length. -/
def longestZeroRun (pieces : List Nat) : Option (Nat × Nat) :=
  let (best, cur) := (pieces.zipIdx).foldl
    (fun (acc : Option (Nat × Nat) × Option (Nat × Nat)) (v, i) =>
      let (best, cur) := acc
      if v == 0 then
        let cur := match cur with | some (s, l) => some (s, l + 1) | none => some (i, 1)
        (best, cur)
      else
        let best := match cur, best with
          | some (s, l), some (_, bl) => if l > bl then some (s, l) else best
          | some c, none => some c
          | none, _ => best
        (best, none))
    (none, none)
  let best := match cur, best with
    | some (s, l), some (_, bl) => if l > bl then some (s, l) else best
    | some c, none => some c
    | none, _ => best
  match best with
  | some (s, l) => if l ≥ 2 then some (s, l) else none
  | none => none

/-- An IPv6 address in its shortest form, without brackets. -/
def ipv6Text (pieces : List Nat) : String :=
  let hex (v : Nat) := String.ofList (Nat.toDigits 16 v)
  match longestZeroRun pieces with
  | none => ":".intercalate (pieces.map hex)
  | some (s, l) =>
    ":".intercalate ((pieces.take s).map hex) ++ "::" ++
      ":".intercalate ((pieces.drop (s + l)).map hex)

/-! ## Hosts -/

/-- The text of a host. -/
def Host.serialize : Host → String
  | .domain s => s
  | .ipv4 a => ".".intercalate ([3, 2, 1, 0].map fun i => toString (a / Nat.pow 256 i % 256))
  | .ipv6 p => "[" ++ ipv6Text p ++ "]"

/-- Percent-decodes bytes: `%` and two hex digits stand for one byte. -/
def percentDecode : List UInt8 → List UInt8
  | 37 :: h :: l :: rest =>
    match hexVal (Char.ofNat h.toNat), hexVal (Char.ofNat l.toNat) with
    | some a, some b => (a * 16 + b).toUInt8 :: percentDecode rest
    | _, _ => 37 :: percentDecode (h :: l :: rest)
  | b :: rest => b :: percentDecode rest
  | [] => []

/-- Reads the host of a special URL. -/
def Host.parseSpecial (input : List Char) : Except UrlError Host := do
  if input.head? == some '[' then
    if input.getLast? != some ']' then throw .invalidIpv6
    return .ipv6 (← parseIpv6 ((input.drop 1).dropLast))
  let bytes := percentDecode (String.ofList input).toUTF8.toList
  let decoded ← match String.fromUTF8? ⟨bytes.toArray⟩ with
    | some s => pure s.toList
    | none => throw .idna
  match toAscii decoded with
  | none => throw .idna
  | some ascii =>
    if ascii.isEmpty then throw .emptyHost
    if endsInNumber ascii.toList then return .ipv4 (← parseIpv4 ascii.toList)
    return .domain ascii

/-- Percent-encodes the C0 controls and the code points beyond ASCII. -/
def percentEncodeControls (s : List Char) : String :=
  String.join <| s.map fun c =>
    if c.toNat < 0x20 ∨ c.toNat ≥ 0x7F then
      String.join ((c.toString.toUTF8.toList).map fun b =>
        let h := String.ofList (Nat.toDigits 16 b.toNat)
        "%" ++ (if h.length == 1 then "0" ++ h else h).toUpper)
    else c.toString

/-- Reads the host of a URL that is not special. -/
def Host.parseOther (input : List Char) : Except UrlError Host := do
  if input.head? == some '[' then
    if input.getLast? != some ']' then throw .invalidIpv6
    return .ipv6 (← parseIpv6 ((input.drop 1).dropLast))
  if input.any isForbiddenHostChar then throw .invalidDomainCharacter
  return .domain (percentEncodeControls input)

end Url
end WalletAuth
