import WalletAuth.Redis.Reply
import WalletAuth.Time.Instant
import Std.Data.TreeMap.Basic

/-!
# WalletAuth.Redis.Server — a key-value server holding strings and sets

Sessions, accounts, rate-limit counters and (optionally) nonce records live in a key-value
server. This module is that server as a value: keys in sorted order, each holding a string or
a set of strings and an optional expiry instant, plus whether the claim script has been
loaded and which commands are made to fail.

* Time is an argument of every command: a key whose expiry is at or before it is gone first.
* A command named in `failing` answers `ERR injected failure` and changes nothing.
* `CLIENT` and `SELECT` answer `OK` and change nothing: there is one database.
* `PING` answers `PONG`, whatever its arguments.
* `SCRIPT LOAD` with one script answers `claim-script`; `EVALSHA` answers `NOSCRIPT` until a
  script was loaded, and then, like `EVAL`, runs the claim script on its key when it names
  exactly one key (later arguments are ignored).
  The claim reads a key: missing gives `[0, ""]`, a value starting `used:` gives `[2, rest]`,
  any other value is marked `used:` keeping its expiry and gives `[1, value]`.
* `SET` reads all its options before checking them: a later `EX` or `PX` replaces an earlier
  one, and `NX` with `XX`, or `KEEPTTL` with an expiry, is refused only at the end.
* `SCAN` walks the sorted keys, the cursor being an index into them and the step's end
  computed modulo 2⁶⁴; its pattern is matched on the bytes of the UTF-8 form, so `?` is one byte,
  in the server's dialect: Redis's glob (`*`, `?`, `[...]` classes with `^` and ranges,
  backslash escapes), or the stand-in's, which knows `*` and `?` only.
* `SET` with `EX` or `PX`, `SETEX` and `EXPIRE` refuse, with `invalid expire time`, a time to
  live whose milliseconds or whose deadline in milliseconds since the epoch leave 64 bits.
* Integer arguments are an optional sign and decimal digits, leading zeros allowed; counts
  (a cursor, a number of keys to create) are unsigned: an optional `+` and digits.
* Other commands answer `ERR unknown command`.
-/

namespace WalletAuth
namespace Redis

/-- What a key holds: a string, or a set kept sorted without repeats. -/
inductive Value where
  | str (s : String)
  | set (members : List String)
  deriving DecidableEq, Repr

/-- A key with its value and expiry. -/
structure Entry where
  key : String
  value : Value
  expiry : Option Instant
  deriving DecidableEq, Repr

/-- The pattern language of `SCAN`: Redis's glob, or the stand-in server's, which knows `*` and
`?` only. -/
inductive GlobDialect where
  | redis
  | wildcards
  deriving DecidableEq, Repr

/-- The server: entries by key, whether a script is loaded, the failing commands, and the glob
dialect of its `SCAN`. -/
structure Server where
  entries : Std.TreeMap String Entry := {}
  scriptLoaded : Bool := false
  failing : List String := []
  glob : GlobDialect := .wildcards
  deriving Inhabited

def wrongType : String := "WRONGTYPE Operation against a key holding the wrong kind of value"

def notInteger : String := "ERR value is not an integer or out of range"

def optionError : String := "ERR syntax error"

def unknownSubcommand : String := "ERR unknown subcommand"

/-- What `SCRIPT LOAD` answers: the one script the server runs is the claim script. -/
def scriptName : String := "claim-script"

def populateLimit : Nat := 100000

def arityError (name : String) : Reply :=
  .error ("ERR wrong number of arguments for '" ++ name.toLower ++ "' command")

/-- The smallest and largest 64-bit signed integers. -/
def minInt64 : Int := -(Int.pow 2 63)
def maxInt64 : Int := Int.pow 2 63 - 1

/-- A 64-bit signed integer: an optional `+` or `-`, then one or more digits (leading zeros
allowed), within range. -/
def parseInt64? (s : String) : Option Int :=
  let cs := s.toList
  let (neg, ds) := match cs with
    | '-' :: rest => (true, rest)
    | '+' :: rest => (false, rest)
    | _ => (false, cs)
  if ds.isEmpty || !ds.all Char.isDigit then none
  else
    let v : Int := ds.foldl (fun n d => 10 * n + (d.toNat - 48)) 0
    let v := if neg then -v else v
    if minInt64 ≤ v ∧ v ≤ maxInt64 then some v else none

/-- An instant in milliseconds since the epoch, as Redis reads its clock. -/
def millisAt (t : Instant) : Int := t.secs * 1000 + (t.nanos / 1000000 : Nat)

/-- Whether Redis takes `ms` milliseconds from `now` as a key's time to live: the count fits in
64 bits, and so does the deadline in milliseconds since the epoch. -/
def expiryFits (now : Instant) (ms : Int) : Bool :=
  decide (minInt64 ≤ ms ∧ ms ≤ maxInt64 ∧ ms + millisAt now ≤ maxInt64)

/-- The check of `SET` and `SETEX`, which also refuse a deadline at or before the epoch. -/
def setExpiryFits (now : Instant) (ms : Int) : Bool :=
  expiryFits now ms && decide (0 < ms + millisAt now)

def maxUInt64 : Nat := Nat.pow 2 64 - 1

/-- A 64-bit unsigned integer: an optional `+`, then one or more digits (leading zeros
allowed), within range. -/
def parseUInt64? (s : String) : Option Nat :=
  let ds := match s.toList with
    | '+' :: rest => rest
    | cs => cs
  if ds.isEmpty || !ds.all Char.isDigit then none
  else
    let v := ds.foldl (fun n d => 10 * n + (d.toNat - 48)) 0
    if v ≤ maxUInt64 then some v else none

/-- The bytes a glob pattern gives a meaning: `*`, `?`, `[`, `]`, `^`, `-` and the backslash. -/
def starByte : UInt8 := 42
def anyByte : UInt8 := 63
def openByte : UInt8 := 91
def closeByte : UInt8 := 93
def caretByte : UInt8 := 94
def dashByte : UInt8 := 45
def escapeByte : UInt8 := 92

/-- The stand-in's match of a text against a pattern, both as bytes: `*` stands for any run of
bytes and `?` for any one byte; every other byte stands for itself. -/
def wildcardMatch : List UInt8 → List UInt8 → Bool
  | [], s => s.isEmpty
  | x :: p, s =>
    if x == starByte then (List.range (s.length + 1)).any fun i => wildcardMatch p (s.drop i)
    else
      match s with
      | c :: s' => (x == anyByte || x == c) && wildcardMatch p s'
      | [] => false

/-- A byte as a C `char` reads it, with the bytes from 128 up negative: ranges in a class
compare bytes that way. -/
def signedByte (b : UInt8) : Int := if b.toNat < 128 then b.toNat else (b.toNat : Int) - 256

def inRange (lo hi c : UInt8) : Bool :=
  let (a, b) := if signedByte hi < signedByte lo then (hi, lo) else (lo, hi)
  decide (signedByte a ≤ signedByte c ∧ signedByte c ≤ signedByte b)

/-- Where the reading of a class stands: at its start (where `^` negates it), between members,
after a byte that may begin a range, after such a byte and a `-`, or after a backslash. -/
inductive ClassState where
  | start
  | plain
  | pending (x : UInt8)
  | dash (x : UInt8)
  | escaped
  deriving DecidableEq

/-- One byte of a class, read in state `st` against the text's byte `c`: the next state (`none`
once the closing `]` is read) and whether a member that holds `c` was completed. A byte that
may begin a range counts once the next byte is seen not to be `-`. -/
def classStep (c : UInt8) (st : ClassState) (y : UInt8) : Option ClassState × Bool :=
  let member (held : Bool) : Option ClassState × Bool :=
    if y == escapeByte then (some .escaped, held)
    else if y == closeByte then (none, held)
    else (some (.pending y), held)
  match st with
  | .dash x => (some .plain, inRange x y c)
  | .escaped => (some .plain, y == c)
  | .pending x => if y == dashByte then (some (.dash x), false) else member (x == c)
  | .start | .plain => member false

/-- Whether the bytes of a class left unfinished at the end of the pattern hold `c`. -/
def ClassState.holdsAtEnd (c : UInt8) : ClassState → Bool
  | .pending x => x == c
  | .dash x => x == c || dashByte == c
  | .escaped => escapeByte == c
  | .start | .plain => false

mutual

/-- The match of a pattern against the rest of a text, once at least one byte of the text was
taken: at the end of the text only `*`s may be left of the pattern. `*` stands for any run of
bytes, `?` for any one byte, `[...]` for one byte of a class, and a backslash makes the next byte
stand for itself. -/
def matchRest : List UInt8 → List UInt8 → Bool
  | p, [] => p.all (· == starByte)
  | [], _ :: _ => false
  | x :: p, c :: s =>
    if x == starByte then
      if p.isEmpty then true
      else (List.range (s.length + 1)).any fun i => matchRest p ((c :: s).drop i)
    else if x == anyByte then matchRest p s
    else if x == openByte then matchClass c false false .start p s
    else if x == escapeByte then matchEscaped c p s
    else x == c && matchRest p s

/-- The match after a backslash: the next byte stands for itself; a final backslash stands for
itself. -/
def matchEscaped (c : UInt8) : List UInt8 → List UInt8 → Bool
  | [], s => escapeByte == c && s.isEmpty
  | y :: p, s => y == c && matchRest p s

/-- The match of byte `c` against a class read from the pattern up to its `]` (`found` says
whether a member matched so far, `negated` whether the class began with `^`), then the match of
the rest. A class the pattern does not close takes the whole pattern. -/
def matchClass (c : UInt8) (negated found : Bool) (st : ClassState) :
    List UInt8 → List UInt8 → Bool
  | [], s => (found || st.holdsAtEnd c) != negated && s.isEmpty
  | y :: p, s =>
    if st == .start && y == caretByte then matchClass c true found .plain p s
    else
      match classStep c st y with
      | (none, m) => (found || m) != negated && matchRest p s
      | (some st', m) => matchClass c negated (found || m) st' p s

end

/-- Whether a text matches a Redis glob pattern, both as bytes. An empty text is matched by the
empty pattern only. -/
def globMatch (p : List UInt8) : List UInt8 → Bool
  | [] => p.isEmpty
  | s@(_ :: _) => matchRest p s

/-- Whether a key matches a pattern of a dialect, compared on their UTF-8 bytes. -/
def keyMatches (d : GlobDialect) (pattern key : String) : Bool :=
  match d with
  | .redis => globMatch pattern.toUTF8.data.toList key.toUTF8.data.toList
  | .wildcards => wildcardMatch pattern.toUTF8.data.toList key.toUTF8.data.toList

namespace Server

def find? (srv : Server) (k : String) : Option Entry := srv.entries.get? k

def put (srv : Server) (e : Entry) : Server :=
  { srv with entries := srv.entries.insert e.key e }

/-- Adds entries for the keys not present yet. -/
def putAbsent (srv : Server) (fresh : List Entry) : Server :=
  fresh.foldl (fun s e => if s.entries.contains e.key then s else s.put e) srv

def erase (srv : Server) (k : String) : Server :=
  { srv with entries := srv.entries.erase k }

def isLive (now : Instant) (e : Entry) : Bool :=
  match e.expiry with
  | some x => now < x
  | none => true

/-- Drops the keys whose expiry has come. -/
def purge (srv : Server) (now : Instant) : Server :=
  { srv with entries := srv.entries.filter fun _ e => isLive now e }

def toList (srv : Server) : List Entry := srv.entries.values

def keys (srv : Server) : List String := srv.entries.keys

def size (srv : Server) : Nat := srv.entries.size

end Server

/-- Adds members to a sorted set. -/
def insertMember (m : String) : List String → List String
  | [] => [m]
  | x :: xs => if x == m then x :: xs else if m < x then m :: x :: xs else x :: insertMember m xs

/-- The claim script on one key. -/
def claim (srv : Server) (k : String) : Reply × Server :=
  match srv.find? k with
  | none => (.array [.int 0, .bulk ""], srv)
  | some ⟨_, .set _, _⟩ => (.error ("ERR Error running script: " ++ wrongType), srv)
  | some ⟨_, .str v, exp⟩ =>
    if v.startsWith "used:" then (.array [.int 2, .bulk (String.ofList (v.toList.drop 5))], srv)
    else (.array [.int 1, .bulk v], srv.put ⟨k, .str ("used:" ++ v), exp⟩)

/-- What `SET` was asked to do besides storing the value. -/
structure SetOptions where
  onlyIfAbsent : Bool := false
  onlyIfPresent : Bool := false
  keepTtl : Bool := false
  expiresIn : Option Span := none

/-- Reads the options of `SET`, a later expiry replacing an earlier one. -/
def readSetOptions : List String → SetOptions → Except String SetOptions
  | [], o => .ok o
  | a :: rest, o =>
    match a.toUpper with
    | "NX" => readSetOptions rest { o with onlyIfAbsent := true }
    | "XX" => readSetOptions rest { o with onlyIfPresent := true }
    | "KEEPTTL" => readSetOptions rest { o with keepTtl := true }
    | "EX" | "PX" =>
      match rest with
      | [] => .error notInteger
      | v :: more =>
        match parseInt64? v with
        | none => .error notInteger
        | some n =>
          if n ≤ 0 then .error "ERR invalid expire time in 'set' command"
          else
            let span := if a.toUpper == "EX" then Span.ofSeconds n else Span.ofMillis n
            readSetOptions more { o with expiresIn := some span }
    | _ => .error optionError

/-- The options of `SET`: read, then checked for `NX` with `XX` and `KEEPTTL` with an
expiry. -/
def setOptions (args : List String) : Except String SetOptions := do
  let o ← readSetOptions args {}
  if (o.onlyIfAbsent && o.onlyIfPresent) || (o.keepTtl && o.expiresIn.isSome) then
    .error optionError
  else pure o

/-- The keys of one `SCAN` step. The step ends at `cursor + count` computed modulo 2⁶⁴; it
holds the keys from index `cursor` up to that end (none when the sum wrapped below the
cursor), those matching the pattern, and the next cursor is the end, or `0` once the end
reaches the number of keys. -/
def scanStep (d : GlobDialect) (keys : List String) (cursor count : Nat) (pattern : Option String) :
    Nat × List String :=
  let stop := (cursor + count) % Nat.pow 2 64
  let batch := (keys.drop cursor).take (stop - cursor)
  let hits := match pattern with
    | some p => batch.filter (keyMatches d p)
    | none => batch
  let next := if stop < keys.length then stop else 0
  (next, hits)

def scanDefaultCount : Nat := 10

/-- Reads the options of `SCAN` as name and value pairs; a last name without a value is
ignored. `COUNT` takes a 64-bit unsigned number, at least 1, and falls back to the default
when its value is not one; any other name is refused. -/
def scanOptions : List String → Option String → Nat → Except String (Option String × Nat)
  | a :: v :: rest, p, n =>
    match a.toUpper with
    | "MATCH" => scanOptions rest (some v) n
    | "COUNT" => scanOptions rest p (max 1 ((parseUInt64? v).getD scanDefaultCount))
    | _ => .error optionError
  | _, p, n => .ok (p, n)

/-- Runs one command at time `now`. -/
def Server.exec (srv : Server) (now : Instant) (args : List String) : Reply × Server :=
  let srv := srv.purge now
  match args with
  | [] => (.error "ERR empty command", srv)
  | cmd :: rest =>
    let name := cmd.toUpper
    if srv.failing.contains name then (.error "ERR injected failure", srv)
    else
    match name, rest with
    | "PING", _ => (.status "PONG", srv)
    | "CLIENT", _ => (.status "OK", srv)
    | "SELECT", _ => (.status "OK", srv)
    | "GET", [k] =>
      match srv.find? k with
      | none => (.nil, srv)
      | some ⟨_, .str v, _⟩ => (.bulk v, srv)
      | some ⟨_, .set _, _⟩ => (.error wrongType, srv)
    | "GET", _ => (arityError cmd, srv)
    | "SET", k :: v :: opts =>
      match setOptions opts with
      | .error e => (.error e, srv)
      | .ok o =>
        if o.expiresIn.any fun d => !setExpiryFits now (d.nanos / 1000000) then
          (.error "ERR invalid expire time in 'set' command", srv)
        else
        let old := srv.find? k
        if (o.onlyIfAbsent && old.isSome) || (o.onlyIfPresent && old.isNone) then (.nil, srv)
        else
          let expiry := match o.expiresIn with
            | some d => some (now.add d)
            | none => if o.keepTtl then old.bind (·.expiry) else none
          (.status "OK", srv.put ⟨k, .str v, expiry⟩)
    | "SET", _ => (arityError cmd, srv)
    | "SETEX", [k, secs, v] =>
      match parseInt64? secs with
      | none => (.error notInteger, srv)
      | some n =>
        if n ≤ 0 ∨ !setExpiryFits now (n * 1000) then
          (.error "ERR invalid expire time in 'setex' command", srv)
        else (.status "OK", srv.put ⟨k, .str v, some (now.add (Span.ofSeconds n))⟩)
    | "SETEX", _ => (arityError cmd, srv)
    | "DEL", ks@(_ :: _) =>
      let present := ks.eraseDups.filter fun k => (srv.find? k).isSome
      (.int present.length, present.foldl Server.erase srv)
    | "DEL", [] => (arityError cmd, srv)
    | "EXPIRE", [k, secs] =>
      match parseInt64? secs with
      | none => (.error notInteger, srv)
      | some n =>
        if !expiryFits now (n * 1000) then (.error "ERR invalid expire time in 'expire' command", srv)
        else
        match srv.find? k with
        | none => (.int 0, srv)
        | some e =>
          if n ≤ 0 then (.int 1, srv.erase k)
          else (.int 1, srv.put { e with expiry := some (now.add (Span.ofSeconds n)) })
    | "EXPIRE", _ => (arityError cmd, srv)
    | "TTL", [k] =>
      match srv.find? k with
      | none => (.int (-2), srv)
      | some ⟨_, _, none⟩ => (.int (-1), srv)
      | some ⟨_, _, some t⟩ =>
        let ms := (t.since now).nanos / 1000000
        (.int ((ms + 500) / 1000), srv)
    | "TTL", _ => (arityError cmd, srv)
    | "INCR", [k] => incrBy srv k 1
    | "INCR", _ => (arityError cmd, srv)
    | "INCRBY", [k, by_] =>
      match parseInt64? by_ with
      | none => (.error notInteger, srv)
      | some d => incrBy srv k d
    | "INCRBY", _ => (arityError cmd, srv)
    | "SADD", k :: ms@(_ :: _) =>
      match srv.find? k with
      | some ⟨_, .str _, _⟩ => (.error wrongType, srv)
      | found =>
        let (members, exp) := match found with
          | some ⟨_, .set xs, e⟩ => (xs, e)
          | _ => ([], none)
        let members' := ms.foldl (fun acc m => insertMember m acc) members
        (.int (members'.length - members.length), srv.put ⟨k, .set members', exp⟩)
    | "SADD", _ => (arityError cmd, srv)
    | "SREM", k :: ms@(_ :: _) =>
      match srv.find? k with
      | none => (.int 0, srv)
      | some ⟨_, .str _, _⟩ => (.error wrongType, srv)
      | some ⟨_, .set xs, e⟩ =>
        let kept := xs.filter fun x => !ms.contains x
        let srv' := if kept.isEmpty then srv.erase k else srv.put ⟨k, .set kept, e⟩
        (.int (xs.length - kept.length), srv')
    | "SREM", _ => (arityError cmd, srv)
    | "SMEMBERS", [k] =>
      match srv.find? k with
      | none => (.array [], srv)
      | some ⟨_, .str _, _⟩ => (.error wrongType, srv)
      | some ⟨_, .set xs, _⟩ => (.array (xs.map .bulk), srv)
    | "SMEMBERS", _ => (arityError cmd, srv)
    | "SCAN", cursor :: opts =>
      match parseUInt64? cursor with
      | none => (.error "ERR invalid cursor", srv)
      | some c =>
        match scanOptions opts none scanDefaultCount with
        | .error e => (.error e, srv)
        | .ok (pattern, count) =>
          let (next, hits) := scanStep srv.glob srv.keys c count pattern
          (.array [.bulk (toString next), .array (hits.map .bulk)], srv)
    | "SCAN", _ => (arityError cmd, srv)
    | "SCRIPT", [sub, _] =>
      if sub.toUpper == "LOAD" then (.bulk scriptName, { srv with scriptLoaded := true })
      else (.error unknownSubcommand, srv)
    | "SCRIPT", _ => (.error unknownSubcommand, srv)
    | "EVALSHA", _ :: keys =>
      if !srv.scriptLoaded then (.error "NOSCRIPT No matching script. Please use EVAL.", srv)
      else
        match keys with
        | "1" :: k :: _ => claim srv k
        | _ => (arityError cmd, srv)
    | "EVALSHA", [] =>
      if !srv.scriptLoaded then (.error "NOSCRIPT No matching script. Please use EVAL.", srv)
      else (arityError cmd, srv)
    | "EVAL", _ :: "1" :: k :: _ => claim srv k
    | "EVAL", _ => (arityError cmd, srv)
    | "DEBUG", sub :: n :: opt =>
      if sub.toUpper != "POPULATE" then (.error unknownSubcommand, srv)
      else
        match parseUInt64? n with
        | none => (.error "ERR value is out of range", srv)
        | some count =>
          if count > populateLimit then (.error "ERR value is out of range", srv)
          else
            let pfx := opt.headD "key"
            let fresh := (List.range count).map fun i =>
              (⟨pfx ++ ":" ++ toString i, .str ("value:" ++ toString i), none⟩ : Entry)
            (.status "OK", srv.putAbsent fresh)
    | "DEBUG", _ => (.error unknownSubcommand, srv)
    | "DBSIZE", _ => (.int srv.size, srv)
    | _, _ => (.error ("ERR unknown command '" ++ cmd ++ "'"), srv)
where
  /-- Adds to the integer held by a key, keeping its expiry. -/
  incrBy (srv : Server) (k : String) (d : Int) : Reply × Server :=
    match srv.find? k with
    | some ⟨_, .set _, _⟩ => (.error wrongType, srv)
    | found =>
      let (cur, exp) := match found with
        | some ⟨_, .str v, e⟩ => (parseInt64? v, e)
        | _ => (some 0, none)
      match cur with
      | none => (.error notInteger, srv)
      | some v =>
        let r := v + d
        if r < minInt64 ∨ r > maxInt64 then (.error "ERR increment or decrement would overflow", srv)
        else (.int r, srv.put ⟨k, .str (toString r), exp⟩)

/-- The remaining lifetime of a key in milliseconds, if it expires. -/
def Entry.ttlMillis (e : Entry) (now : Instant) : Option Int :=
  e.expiry.map fun t => (t.since now).nanos / 1000000

end Redis
end WalletAuth
