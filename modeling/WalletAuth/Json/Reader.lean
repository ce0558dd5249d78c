import WalletAuth.Number.Binary64

/-!
# WalletAuth.Json.Reader — reading JSON text byte by byte, with exact error positions

A reader walks the UTF-8 bytes of a JSON text and counts lines and columns as it goes: the
column is the number of bytes read on the current line. An error found at the current byte is
reported at that count (`Cursor.error`); an error about the byte not yet read is reported one
further on (`Cursor.peekError`). Errors of the data rather than the syntax carry no position
until the caller that knows where reading stopped fills it in (`ReadError.locate`).

* Blanks are space, tab, line feed and carriage return.
* A string ends at `"`; a control byte inside it, a bad escape or a lone surrogate escape is an
  error.
* A number is an unsigned integer when it has no sign, fraction or exponent and fits in 64 bits;
  a negative integer that fits in 64 bits; otherwise a binary64 value, computed by scaling the
  integer significand by powers of ten (`Number.ofParts`).
-/

namespace WalletAuth
namespace Json

/-- The syntax errors of a JSON text. -/
inductive SyntaxError where
  | eofList
  | eofObject
  | eofString
  | eofValue
  | expectedColon
  | expectedListCommaOrEnd
  | expectedObjectCommaOrEnd
  | expectedIdent
  | expectedValue
  | invalidEscape
  | invalidNumber
  | numberOutOfRange
  | controlCharacter
  | keyMustBeString
  | loneLeadingSurrogate
  | trailingComma
  | trailingCharacters
  | unexpectedEndOfHexEscape
  | recursionLimit
  deriving DecidableEq, Repr

namespace SyntaxError

/-- The text of a syntax error. -/
def message : SyntaxError → String
  | .eofList => "EOF while parsing a list"
  | .eofObject => "EOF while parsing an object"
  | .eofString => "EOF while parsing a string"
  | .eofValue => "EOF while parsing a value"
  | .expectedColon => "expected `:`"
  | .expectedListCommaOrEnd => "expected `,` or `]`"
  | .expectedObjectCommaOrEnd => "expected `,` or `\x7d`"
  | .expectedIdent => "expected ident"
  | .expectedValue => "expected value"
  | .invalidEscape => "invalid escape"
  | .invalidNumber => "invalid number"
  | .numberOutOfRange => "number out of range"
  | .controlCharacter => "control character (\\u0000-\\u001F) found while parsing a string"
  | .keyMustBeString => "key must be a string"
  | .loneLeadingSurrogate => "lone leading surrogate in hex escape"
  | .trailingComma => "trailing comma"
  | .trailingCharacters => "trailing characters"
  | .unexpectedEndOfHexEscape => "unexpected end of hex escape"
  | .recursionLimit => "recursion limit exceeded"

/-- Whether the error is the text ending too early. -/
def isEof : SyntaxError → Bool
  | .eofList | .eofObject | .eofString | .eofValue => true
  | _ => false

end SyntaxError

/-- What went wrong: the text is not JSON, or its value does not fit what was asked for. -/
inductive Fault where
  | malformed (e : SyntaxError)
  | data (message : String)
  deriving DecidableEq, Repr

/-- A reading error, at a line and column counted from 1; line `0` means not yet known. -/
structure ReadError where
  fault : Fault
  line : Nat
  column : Nat
  /-- The members and indices leading to the value that failed, outermost first. -/
  path : List String := []
  deriving DecidableEq, Repr

/-- The digits at the front of a character list, and the rest. -/
def spanDigits (cs : List Char) : List Char × List Char :=
  (cs.takeWhile Char.isDigit, cs.dropWhile Char.isDigit)

/-- A trailing ` at line L column C` of a message, split off when both numbers are present. -/
def splitPosition (msg : String) : String × Nat × Nat :=
  let marker := " at line ".toList
  let cs := msg.toList
  -- the last occurrence of the marker
  let starts := (List.range cs.length).filter fun i => (cs.drop i).take marker.length == marker
  match starts.getLast? with
  | none => (msg, 0, 0)
  | some i =>
    let (lineDigits, rest) := spanDigits (cs.drop (i + marker.length))
    let colMarker := " column ".toList
    if rest.take colMarker.length == colMarker then
      let (colDigits, tail) := spanDigits (rest.drop colMarker.length)
      match tail, (String.ofList lineDigits).toNat?, (String.ofList colDigits).toNat? with
      | [], some l, some c => (String.ofList (cs.take i), l, c)
      | _, _, _ => (msg, 0, 0)
    else (msg, 0, 0)

namespace ReadError

/-- A data error with the given text; a position written at its end is taken as its own. -/
def custom (msg : String) : ReadError :=
  let (text, line, column) := splitPosition msg
  ⟨.data text, line, column, []⟩

/-- The text of the error without its path. -/
def text (e : ReadError) : String :=
  let base := match e.fault with
    | .malformed s => s.message
    | .data m => m
  if e.line = 0 then base
  else base ++ " at line " ++ toString e.line ++ " column " ++ toString e.column

/-- Whether the value, rather than the syntax, is at fault. -/
def isData (e : ReadError) : Bool :=
  match e.fault with
  | .data _ => true
  | .malformed _ => false

/-- Whether the text ended too early. -/
def isEof (e : ReadError) : Bool :=
  match e.fault with
  | .malformed s => s.isEof
  | .data _ => false

/-- The path as written before a message: members joined by `.`, indices in brackets. -/
def pathText (e : ReadError) : String :=
  (e.path.foldl
      (fun (acc : String × Bool) seg =>
        let isIndex := seg.startsWith "["
        let sep := if acc.2 && !isIndex then "." else ""
        (acc.1 ++ sep ++ seg, true))
      ("", false)).1

/-- The text with the path in front, when there is one. -/
def textWithPath (e : ReadError) : String :=
  if e.path.isEmpty then e.text else e.pathText ++ ": " ++ e.text

/-- The error one level further in, under the member or index `seg`. -/
def under (seg : String) (e : ReadError) : ReadError := { e with path := seg :: e.path }

end ReadError

/-- A position in a JSON text: the bytes not yet read, and the line and column reached. -/
structure Cursor where
  rest : List UInt8
  line : Nat := 1
  column : Nat := 0
  /-- How many more arrays and objects may be opened. -/
  depth : Nat := 128

namespace Cursor

/-- A cursor at the start of a text. -/
def ofString (s : String) : Cursor := { rest := s.toUTF8.toList }

/-- The next byte, if any. -/
def peek (c : Cursor) : Option UInt8 := c.rest.head?

/-- The cursor after one more byte. -/
def bump (c : Cursor) : Cursor :=
  match c.rest with
  | [] => c
  | b :: bs =>
    if b = 10 then { c with rest := bs, line := c.line + 1, column := 0 }
    else { c with rest := bs, column := c.column + 1 }

theorem bump_rest_length {c : Cursor} {b : UInt8} {bs : List UInt8} (h : c.rest = b :: bs) :
    c.bump.rest.length < c.rest.length := by
  simp only [bump, h]
  split <;> simp

/-- An error at the bytes read so far. -/
def error (c : Cursor) (e : SyntaxError) : ReadError := ⟨.malformed e, c.line, c.column, []⟩

/-- An error at the next byte. -/
def peekError (c : Cursor) (e : SyntaxError) : ReadError :=
  let c' := c.bump
  ⟨.malformed e, c'.line, c'.column, []⟩

/-- Whether a byte is a JSON blank. -/
def isBlank (b : UInt8) : Bool := b = 32 || b = 10 || b = 9 || b = 13

/-- The cursor after any blanks. -/
def skipBlanks (c : Cursor) : Cursor :=
  match _hr : c.rest with
  | [] => c
  | b :: _ => if isBlank b then c.bump.skipBlanks else c
termination_by c.rest.length
decreasing_by exact bump_rest_length _hr

/-- The cursor after the whole text. -/
def toEnd (c : Cursor) : Cursor := c.rest.foldl (fun d _ => d.bump) c

/-- Whether a byte is an ASCII digit. -/
def isDigit (b : UInt8) : Bool := 48 ≤ b && b ≤ 57

/-- The cursor after any digits. -/
def skipDigits (c : Cursor) : Cursor :=
  match _hr : c.rest with
  | [] => c
  | b :: _ => if isDigit b then c.bump.skipDigits else c
termination_by c.rest.length
decreasing_by exact bump_rest_length _hr

end Cursor

/-- Reading with a cursor that may fail; the cursor reached stays visible to the caller. -/
abbrev ReadM := StateT Cursor (Except (ReadError × Cursor))

namespace ReadM

/-- The next byte, not consumed. -/
def peek : ReadM (Option UInt8) := do return (← get).peek

/-- Consumes one byte. -/
def eat : ReadM Unit := modify Cursor.bump

/-- Consumes and returns the next byte. -/
def next : ReadM (Option UInt8) := do
  let b ← peek
  eat
  return b

/-- Fails with an error, keeping the cursor where it is. -/
def fail {α : Type} (e : ReadError) : ReadM α := do
  let c ← get
  throw (e, c)

/-- Fails with a syntax error at the bytes read. -/
def failHere {α : Type} (e : SyntaxError) : ReadM α := do fail ((← get).error e)

/-- Fails with a syntax error at the next byte. -/
def failNext {α : Type} (e : SyntaxError) : ReadM α := do fail ((← get).peekError e)

/-- Skips blanks and shows the next byte. -/
def blank : ReadM (Option UInt8) := do
  modify Cursor.skipBlanks
  peek

/-- Runs a step and reports its outcome; after a failure the cursor is where it stopped. -/
def attempt {α : Type} (m : ReadM α) : ReadM (Except ReadError α) := fun c =>
  match m c with
  | .ok (a, c') => .ok (.ok a, c')
  | .error (e, c') => .ok (.error e, c')

/-- Opens an array or object at the next byte, within the nesting limit. -/
def enter : ReadM Unit := do
  let c ← get
  if c.depth ≤ 1 then failNext .recursionLimit
  else set { c.bump with depth := c.depth - 1 }

/-- Closes a level of nesting. -/
def leave : ReadM Unit := modify fun c => { c with depth := c.depth + 1 }

/-- Gives an error without a position the position reached. -/
def locate (e : ReadError) : ReadM ReadError := do
  if e.line = 0 then
    let c ← get
    return { e with line := c.line, column := c.column }
  else return e

/-- Runs a step; an error it raises gets the position reached if it has none. -/
def located {α : Type} (m : ReadM α) : ReadM α := fun c =>
  match m c with
  | .ok r => .ok r
  | .error (e, c') =>
    if e.line = 0 then .error ({ e with line := c'.line, column := c'.column }, c')
    else .error (e, c')

/-- Expects the remaining bytes of a keyword. -/
def ident : List UInt8 → ReadM Unit
  | [] => pure ()
  | b :: bs => do
    match ← next with
    | none => failHere .eofValue
    | some x => if x = b then ident bs else failHere .expectedIdent

/-- Fails with an error found while the text is read, at the end of the document. -/
def finish : ReadM Unit := do
  match ← blank with
  | some _ => failNext .trailingCharacters
  | none => pure ()

end ReadM

/-! ## Strings -/

/-- The value of a hexadecimal digit. -/
def hexValue (b : UInt8) : Option Nat :=
  if 48 ≤ b && b ≤ 57 then some (b.toNat - 48)
  else if 97 ≤ b && b ≤ 102 then some (b.toNat - 87)
  else if 65 ≤ b && b ≤ 70 then some (b.toNat - 55)
  else none

/-- The UTF-8 bytes of a code point. -/
def utf8Bytes (n : Nat) : List UInt8 := (String.singleton (Char.ofNat n)).toUTF8.toList

namespace ReadM

/-- Four hex digits of a `\u` escape. -/
def hexEscape : ReadM Nat := do
  let c ← get
  match c.rest with
  | a :: b :: d :: e :: _ =>
    modify fun c => c.bump.bump.bump.bump
    match hexValue a, hexValue b, hexValue d, hexValue e with
    | some w, some x, some y, some z => return ((w * 16 + x) * 16 + y) * 16 + z
    | _, _, _, _ => failHere .invalidEscape
  | _ =>
    set c.toEnd
    failHere .eofString

/-- A `\u` escape, with its trailing surrogate when it is a leading one. -/
def unicodeEscape : ReadM (List UInt8) := do
  let n ← hexEscape
  if 0xDC00 ≤ n ∧ n ≤ 0xDFFF then failHere .loneLeadingSurrogate
  else if n < 0xD800 ∨ n > 0xDBFF then return utf8Bytes n
  else
    match ← peek with
    | none => failHere .eofString
    | some b =>
      eat
      if b ≠ 92 then failHere .unexpectedEndOfHexEscape
      else
        match ← peek with
        | none => failHere .eofString
        | some u =>
          eat
          if u ≠ 117 then failHere .unexpectedEndOfHexEscape
          else
            let n2 ← hexEscape
            if n2 < 0xDC00 ∨ n2 > 0xDFFF then failHere .loneLeadingSurrogate
            else return utf8Bytes (((n - 0xD800) * 1024 + (n2 - 0xDC00)) + 0x10000)

/-- The bytes an escape stands for, the backslash already read. -/
def escape : ReadM (List UInt8) := do
  match ← next with
  | none => failHere .eofString
  | some b =>
    if b = 34 then return [34]
    else if b = 92 then return [92]
    else if b = 47 then return [47]
    else if b = 98 then return [8]
    else if b = 102 then return [12]
    else if b = 110 then return [10]
    else if b = 114 then return [13]
    else if b = 116 then return [9]
    else if b = 117 then unicodeEscape
    else failHere .invalidEscape

/-- Skips an escape, the backslash already read, checking only its form. -/
def skipEscape : ReadM Unit := do
  match ← next with
  | none => failHere .eofString
  | some b =>
    if b = 34 || b = 92 || b = 47 || b = 98 || b = 102 || b = 110 || b = 114 || b = 116 then
      pure ()
    else if b = 117 then do let _ ← hexEscape
    else failHere .invalidEscape

/-- The bytes of a string up to its closing quote, the opening one already read. -/
def stringBytes (fuel : Nat) (acc : Array UInt8) : ReadM (Array UInt8) :=
  match fuel with
  | 0 => failHere .eofString
  | fuel + 1 => do
    match ← peek with
    | none => failHere .eofString
    | some b =>
      if b = 34 then do eat; return acc
      else if b = 92 then do
        eat
        let bs ← escape
        stringBytes fuel (acc ++ bs.toArray)
      else if b < 32 then do eat; failHere .controlCharacter
      else do eat; stringBytes fuel (acc.push b)

/-- A string, the opening quote already read. -/
def string : ReadM String := do
  let n := (← get).rest.length
  let bytes ← stringBytes (n + 1) #[]
  return (String.fromUTF8? ⟨bytes⟩).getD ""

/-- Skips a string, the opening quote already read. -/
def skipString (fuel : Nat) : ReadM Unit :=
  match fuel with
  | 0 => failHere .eofString
  | fuel + 1 => do
    match ← peek with
    | none => failHere .eofString
    | some b =>
      if b = 34 then eat
      else if b = 92 then do eat; skipEscape; skipString fuel
      else if b < 32 then failHere .controlCharacter
      else do eat; skipString fuel

end ReadM

/-! ## Numbers -/

/-- A number as read: an unsigned or a negative 64-bit integer, or a binary64 value. -/
inductive Number where
  | unsigned (n : Nat)
  | negative (n : Int)
  | float (x : Binary64)
  deriving DecidableEq, Repr

/-- The largest unsigned 64-bit integer. -/
def u64Max : Nat := Nat.pow 2 64 - 1

/-- Whether `a · 10 + d` would pass `limit`. -/
def overflows (a d limit : Nat) : Bool := a ≥ limit / 10 && (a > limit / 10 || d > limit % 10)

/-- The powers of ten the reader scales by, up to `10^308`. -/
def maxPow10 : Nat := 308

/-- A significand scaled by `10^exponent` the reader's way: the significand rounded to binary64,
then multiplied or divided by one rounded power of ten, an exponent beyond `308` being taken in
steps of `10^308`; a result beyond the finite range is out of range. -/
def Number.ofParts (positive : Bool) (significand : Nat) (exponent : Int) :
    Except SyntaxError Binary64 :=
  let rec go : Nat → Binary64 → Int → Except SyntaxError Binary64
    | 0, f, _ => .ok f
    | fuel + 1, f, e =>
      if e.natAbs ≤ maxPow10 then
        if e ≥ 0 then
          let g := f.mul (Binary64.pow10 e.natAbs)
          if g.isInfinite then .error .numberOutOfRange else .ok g
        else .ok (f.div (Binary64.pow10 e.natAbs))
      else if f.isZero then .ok f
      else if e ≥ 0 then .error .numberOutOfRange
      else go fuel (f.div (Binary64.pow10 maxPow10)) (e + maxPow10)
  match go 8 (Binary64.ofNat significand) exponent with
  | .ok f => .ok (if positive then f else f.neg)
  | .error e => .error e

/-- The limits of a 32-bit exponent. -/
def clampExponent (e : Int) : Int := max (-(Int.pow 2 31)) (min (Int.pow 2 31 - 1) e)

namespace ReadM

/-- Scales the significand, failing at the position reached. -/
def fromParts (positive : Bool) (significand : Nat) (exponent : Int) : ReadM Binary64 := do
  match Number.ofParts positive significand exponent with
  | .ok f => return f
  | .error e => failHere e

/-- The digits of an exponent after the first, with a guard against overflow. -/
def exponentDigits (fuel : Nat) (exp : Nat) : ReadM (Option Nat) :=
  match fuel with
  | 0 => return some exp
  | fuel + 1 => do
    match ← peek with
    | some b =>
      if Cursor.isDigit b then do
        eat
        let d := b.toNat - 48
        if overflows exp d (Nat.pow 2 31 - 1) then return none
        else exponentDigits fuel (exp * 10 + d)
      else return some exp
    | none => return some exp

/-- An exponent, at the `e`. -/
def exponentPart (positive : Bool) (significand : Nat) (start : Int) : ReadM Binary64 := do
  eat
  let positiveExp ← do
    match ← peek with
    | some 43 => do eat; pure true
    | some 45 => do eat; pure false
    | _ => pure true
  match ← next with
  | none => failHere .eofValue
  | some b =>
    if !Cursor.isDigit b then failHere .invalidNumber
    else
      let n := (← get).rest.length
      match ← exponentDigits (n + 1) (b.toNat - 48) with
      | some exp =>
        let e := if positiveExp then start + exp else start - exp
        fromParts positive significand (clampExponent e)
      | none =>
        if significand != 0 && positiveExp then failHere .numberOutOfRange
        else do
          modify Cursor.skipDigits
          return (if positive then Binary64.ofNat 0 else (Binary64.ofNat 0).neg)

/-- Digits beyond what 64 bits hold are dropped; an exponent may follow. -/
def afterOverflow (positive : Bool) (significand : Nat) (exponent : Int) : ReadM Binary64 := do
  modify Cursor.skipDigits
  match ← peek with
  | some 101 | some 69 => exponentPart positive significand exponent
  | _ => fromParts positive significand exponent

/-- The digits of a fraction. -/
def fractionDigits (fuel : Nat) (positive : Bool) (significand : Nat) (before : Int) (after : Int) :
    ReadM (Nat × Int × Bool) :=
  match fuel with
  | 0 => return (significand, after, false)
  | fuel + 1 => do
    match ← peek with
    | some b =>
      if Cursor.isDigit b then
        let d := b.toNat - 48
        if overflows significand d u64Max then return (significand, after, true)
        else do
          eat
          fractionDigits fuel positive (significand * 10 + d) before (after - 1)
      else return (significand, after, false)
    | none => return (significand, after, false)

/-- A fraction, at the point. -/
def fractionPart (positive : Bool) (significand : Nat) (before : Int) : ReadM Binary64 := do
  eat
  let n := (← get).rest.length
  let (sig, after, overflowed) ← fractionDigits (n + 1) positive significand before 0
  if overflowed then afterOverflow positive sig (before + after)
  else if after = 0 then
    match ← peek with
    | some _ => failNext .invalidNumber
    | none => failNext .eofValue
  else
    match ← peek with
    | some 101 | some 69 => exponentPart positive sig (before + after)
    | _ => fromParts positive sig (before + after)

/-- An integer too long for 64 bits: the rest of its digits raise the exponent. -/
def longInteger (fuel : Nat) (positive : Bool) (significand : Nat) (exponent : Int) :
    ReadM Binary64 :=
  match fuel with
  | 0 => fromParts positive significand exponent
  | fuel + 1 => do
    match ← peek with
    | some b =>
      if Cursor.isDigit b then do eat; longInteger fuel positive significand (exponent + 1)
      else if b = 46 then fractionPart positive significand exponent
      else if b = 101 || b = 69 then exponentPart positive significand exponent
      else fromParts positive significand exponent
    | none => fromParts positive significand exponent

/-- What follows the integer digits. -/
def afterInteger (positive : Bool) (significand : Nat) : ReadM Number := do
  match ← peek with
  | some 46 => return .float (← fractionPart positive significand 0)
  | some 101 | some 69 => return .float (← exponentPart positive significand 0)
  | _ =>
    if positive then return .unsigned significand
    else if significand = 0 ∨ significand > Nat.pow 2 63 then
      return .float (Binary64.ofNat significand).neg
    else return .negative (-(significand : Int))

/-- The integer digits after the first. -/
def integerDigits (fuel : Nat) (positive : Bool) (significand : Nat) : ReadM Number :=
  match fuel with
  | 0 => afterInteger positive significand
  | fuel + 1 => do
    match ← peek with
    | some b =>
      if Cursor.isDigit b then
        let d := b.toNat - 48
        if overflows significand d u64Max then do
          let n := (← get).rest.length
          return .float (← longInteger (n + 1) positive significand 0)
        else do
          eat
          integerDigits fuel positive (significand * 10 + d)
      else afterInteger positive significand
    | none => afterInteger positive significand

/-- A number, after its sign. -/
def number (positive : Bool) : ReadM Number := do
  match ← next with
  | none => failHere .eofValue
  | some b =>
    if b = 48 then
      match ← peek with
      | some d => if Cursor.isDigit d then failNext .invalidNumber else afterInteger positive 0
      | none => afterInteger positive 0
    else if Cursor.isDigit b then
      let n := (← get).rest.length
      integerDigits (n + 1) positive (b.toNat - 48)
    else failHere .invalidNumber

/-- Skips an exponent, at the `e`. -/
def skipExponent : ReadM Unit := do
  eat
  match ← peek with
  | some 43 | some 45 => eat
  | _ => pure ()
  match ← next with
  | some b => if Cursor.isDigit b then modify Cursor.skipDigits else failHere .invalidNumber
  | none => failHere .invalidNumber

/-- Skips a number, after its sign, checking only its form. -/
def skipNumber : ReadM Unit := do
  match ← next with
  | some 48 =>
    match ← peek with
    | some d => if Cursor.isDigit d then failNext .invalidNumber else pure ()
    | none => pure ()
  | some b => if Cursor.isDigit b then modify Cursor.skipDigits else failHere .invalidNumber
  | none => failHere .invalidNumber
  match ← peek with
  | some 46 =>
    eat
    match ← peek with
    | some d =>
      if Cursor.isDigit d then do
        modify Cursor.skipDigits
        match ← peek with
        | some 101 | some 69 => skipExponent
        | _ => pure ()
      else failNext .invalidNumber
    | none => failNext .invalidNumber
  | some 101 | some 69 => skipExponent
  | _ => pure ()

/-! ## Skipping a whole value -/

/-- After a value inside the open arrays and objects `frames` (innermost first): closes what
ends here and stops at the next member or item, or at the end of the outermost. -/
def closeFrames (fuel : Nat) (frames : List UInt8) (acceptComma : Bool) : ReadM (Option (List UInt8)) :=
  match fuel with
  | 0 => return none
  | fuel + 1 =>
    match frames with
    | [] => return none
    | frame :: outer => do
      match ← blank with
      | some 44 =>
        if acceptComma then do eat; return some frames
        else
          -- a comma right after an opening bracket starts no value
          return some frames
      | some b =>
        if (b = 93 && frame = 91) || (b = 125 && frame = 123) then do
          eat
          match outer with
          | [] => return none
          | _ => closeFrames fuel outer true
        else if acceptComma then
          failNext (if frame = 91 then .expectedListCommaOrEnd else .expectedObjectCommaOrEnd)
        else return some frames
      | none => failNext (if frame = 91 then .eofList else .eofObject)

/-- Inside an object, the key and colon before the next value. -/
def skipKey : ReadM Unit := do
  match ← blank with
  | some 34 =>
    eat
    let n := (← get).rest.length
    skipString (n + 1)
  | some _ => failNext .keyMustBeString
  | none => failNext .eofObject
  match ← blank with
  | some 58 => eat
  | some _ => failNext .expectedColon
  | none => failNext .eofObject

/-- Skips one value of any kind, checking its syntax. -/
def skipValue (fuel : Nat) (frames : List UInt8) : ReadM Unit :=
  match fuel with
  | 0 => pure ()
  | fuel + 1 => do
    let opened ← do
      match ← blank with
      | none => failNext .eofValue
      | some b =>
        if b = 110 then do eat; ident [117, 108, 108]; pure none
        else if b = 116 then do eat; ident [114, 117, 101]; pure none
        else if b = 102 then do eat; ident [97, 108, 115, 101]; pure none
        else if b = 45 then do eat; skipNumber; pure none
        else if Cursor.isDigit b then do skipNumber; pure none
        else if b = 34 then do
          eat
          let n := (← get).rest.length
          skipString (n + 1)
          pure none
        else if b = 91 || b = 123 then do eat; pure (some b)
        else failNext .expectedValue
    let n := (← get).rest.length
    let next? ← match opened with
      | some b => closeFrames (n + 1) (b :: frames) false
      | none => closeFrames (n + 1) frames true
    match next? with
    | none => pure ()
    | some fs =>
      match fs with
      | 123 :: _ => do skipKey; skipValue fuel fs
      | _ => skipValue fuel fs

end ReadM

end Json
end WalletAuth
