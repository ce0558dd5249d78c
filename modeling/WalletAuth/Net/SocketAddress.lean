/-!
# WalletAuth.Net.SocketAddress — the address a server listens on

A socket address is an IPv4 address and a port, `a.b.c.d:port`, or an IPv6 address in brackets
with an optional numeric scope and a port, `[addr%scope]:port`.

Reading is strict:

* an IPv4 address is exactly four decimal parts of one to three digits, each at most 255 and
  without a leading zero;
* an IPv6 address is up to eight groups of one to four hex digits, at most one `::` standing
  for one or more zero groups, and possibly an IPv4 address in place of the last two groups
  (but not before a `::`);
* a port is decimal digits (leading zeros allowed) up to 65535, a scope up to 2³² − 1;
* the whole text must be used.

A peer is named by its IP address alone (`ofHost`, `hostText`).

Writing gives IPv4 in decimal, IPv6 in lowercase hex with the first longest run of two or more
zero groups written `::`, an IPv4-mapped address as `::ffff:a.b.c.d`, and the scope only when it
is not zero.
-/

namespace WalletAuth
namespace Net

/-- A socket address. -/
inductive SocketAddress where
  | v4 (octets : List Nat) (port : Nat)
  | v6 (groups : List Nat) (scope : Nat) (port : Nat)
  deriving DecidableEq, Repr

/-- Reading steps: the value and the characters left, or nothing when the text does not fit. -/
abbrev Reader (α : Type) := List Char → Option (α × List Char)

/-- The value of a digit in a radix up to 16. -/
def digitValue (radix : Nat) (c : Char) : Option Nat :=
  let v := if c.isDigit then some (c.toNat - 48)
    else if 'a' ≤ c ∧ c ≤ 'f' then some (c.toNat - 87)
    else if 'A' ≤ c ∧ c ≤ 'F' then some (c.toNat - 55)
    else none
  v.bind fun d => if d < radix then some d else none

/-- The longest run of digits at the front, with its value. -/
def digitRun (radix : Nat) : List Char → List Nat × List Char
  | [] => ([], [])
  | c :: cs =>
    match digitValue radix c with
    | some d => let (ds, rest) := digitRun radix cs; (d :: ds, rest)
    | none => ([], c :: cs)

/-- A number of at most `maxDigits` digits (when given) and at most `limit`; a leading zero
only when allowed or alone. -/
def number (radix : Nat) (maxDigits : Option Nat) (zeroPrefix : Bool) (limit : Nat) : Reader Nat :=
  fun cs =>
    let (ds, rest) := digitRun radix cs
    let v := ds.foldl (fun a d => a * radix + d) 0
    let tooLong := match maxDigits with
      | some m => decide (ds.length > m)
      | none => false
    if ds.isEmpty then none
    else if tooLong then none
    else if !zeroPrefix && ds.length > 1 && ds.head? == some 0 then none
    else if v > limit then none
    else some (v, rest)

/-- A given character. -/
def char (c : Char) : Reader Unit := fun cs =>
  match cs with
  | d :: rest => if c == d then some ((), rest) else none
  | [] => none

/-- Four decimal octets separated by dots. -/
def ipv4 : Reader (List Nat) := fun cs => do
  let (a, cs) ← number 10 (some 3) false 255 cs
  let ((), cs) ← char '.' cs
  let (b, cs) ← number 10 (some 3) false 255 cs
  let ((), cs) ← char '.' cs
  let (c, cs) ← number 10 (some 3) false 255 cs
  let ((), cs) ← char '.' cs
  let (d, cs) ← number 10 (some 3) false 255 cs
  pure ([a, b, c, d], cs)

/-- A separator before every item but the first. -/
def separated {α : Type} (sep : Char) (first : Bool) (r : Reader α) : Reader α := fun cs =>
  if first then r cs
  else do
    let ((), cs) ← char sep cs
    r cs

/-- Up to `limit` colon-separated groups; an IPv4 address may stand for the last two when two
are left. Answers the groups and whether an IPv4 address ended them. -/
def groups : Nat → Nat → Bool → List Nat → List Char → List Nat × Bool × List Char
  | 0, _, _, acc, cs => (acc.reverse, false, cs)
  | n + 1, limit, first, acc, cs =>
    let asIpv4 := if n + 1 ≥ 2 then separated ':' first ipv4 cs else none
    match asIpv4 with
    | some (o, rest) =>
      match o with
      | [a, b, c, d] => ((acc.reverse ++ [a * 256 + b, c * 256 + d]), true, rest)
      | _ => (acc.reverse, false, cs)
    | none =>
      match separated ':' first (number 16 (some 4) true 0xFFFF) cs with
      | some (g, rest) => groups n limit false (g :: acc) rest
      | none => (acc.reverse, false, cs)

/-- An IPv6 address. -/
def ipv6 : Reader (List Nat) := fun cs =>
  let (head, headIpv4, cs) := groups 8 8 true [] cs
  if head.length = 8 then some (head, cs)
  else if headIpv4 then none
  else do
    let ((), cs) ← char ':' cs
    let ((), cs) ← char ':' cs
    let limit := 8 - (head.length + 1)
    let (tail, _, cs) := groups limit limit true [] cs
    pure (head ++ List.replicate (8 - head.length - tail.length) 0 ++ tail, cs)

/-- A port after its colon. -/
def port : Reader Nat := fun cs => do
  let ((), cs) ← char ':' cs
  number 10 none true 65535 cs

/-- An IPv4 socket address. -/
def socketV4 : Reader SocketAddress := fun cs => do
  let (o, cs) ← ipv4 cs
  let (p, cs) ← port cs
  pure (.v4 o p, cs)

/-- An IPv6 socket address. -/
def socketV6 : Reader SocketAddress := fun cs => do
  let ((), cs) ← char '[' cs
  let (g, cs) ← ipv6 cs
  let (scope, cs) := match char '%' cs with
    | some ((), rest) =>
      match number 10 none true (Nat.pow 2 32 - 1) rest with
      | some (s, rest') => (some s, rest')
      | none => (none, cs)
    | none => (some 0, cs)
  let scope ← scope
  let ((), cs) ← char ']' cs
  let (p, cs) ← port cs
  pure (.v6 g scope p, cs)

namespace SocketAddress

/-- Reads a socket address from the whole text. -/
def parse (s : String) : Option SocketAddress :=
  let cs := s.toList
  let whole (r : Option (SocketAddress × List Char)) : Option SocketAddress :=
    match r with
    | some (a, []) => some a
    | _ => none
  match whole (socketV4 cs) with
  | some a => some a
  | none => whole (socketV6 cs)

/-- The socket address of a bare IP address and a port: the text is an IPv4 address, or else an
IPv6 address without brackets or scope. -/
def ofHost (s : String) (p : Nat) : Option SocketAddress :=
  let cs := s.toList
  match ipv4 cs with
  | some (o, []) => some (.v4 o p)
  | _ =>
    match ipv6 cs with
    | some (g, []) => some (.v6 g 0 p)
    | _ => none

/-- The error text of a text that is not a socket address. -/
def parseErrorText : String := "invalid socket address syntax"

/-- IPv4 octets in dotted decimal. -/
def ipv4Text (o : List Nat) : String := ".".intercalate (o.map toString)

/-- Lowercase hex of a group. -/
def hexText (g : Nat) : String := String.ofList (Nat.toDigits 16 g)

/-- The first longest run of zero groups, as start and length. -/
def zeroRun (gs : List Nat) : Nat × Nat :=
  let step := fun (st : (Nat × Nat) × (Nat × Nat)) (ig : Nat × Nat) =>
    let ((bs, bl), (cs, cl)) := st
    let (i, g) := ig
    if g = 0 then
      let cur := if cl = 0 then (i, 1) else (cs, cl + 1)
      (if cur.2 > bl then cur else (bs, bl), cur)
    else ((bs, bl), (0, 0))
  (((List.range gs.length).zip gs).foldl step ((0, 0), (0, 0))).1

/-- Groups joined by colons. -/
def groupsText (gs : List Nat) : String := ":".intercalate (gs.map hexText)

/-- An IPv6 address in its shortest form. -/
def ipv6Text (gs : List Nat) : String :=
  match gs with
  | [0, 0, 0, 0, 0, 0xFFFF, hi, lo] =>
    "::ffff:" ++ ipv4Text [hi / 256, hi % 256, lo / 256, lo % 256]
  | _ =>
    let (start, len) := zeroRun gs
    if len > 1 then groupsText (gs.take start) ++ "::" ++ groupsText (gs.drop (start + len))
    else groupsText gs

/-- The text of a socket address. -/
def toText : SocketAddress → String
  | .v4 o p => ipv4Text o ++ ":" ++ toString p
  | .v6 g scope p =>
    "[" ++ ipv6Text g ++ (if scope = 0 then "" else "%" ++ toString scope) ++ "]:" ++ toString p

/-- The text of the address's IP alone, without port, brackets or scope. -/
def hostText : SocketAddress → String
  | .v4 o _ => ipv4Text o
  | .v6 g _ _ => ipv6Text g

end SocketAddress
end Net
end WalletAuth
