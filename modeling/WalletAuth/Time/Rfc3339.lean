import WalletAuth.Time.Instant
import WalletAuth.Text.Blank

/-!
# WalletAuth.Time.Rfc3339 — reading and writing RFC 3339 date-times

Writing: `YYYY-MM-DDTHH:MM:SS`, a fraction, then `Z`; a leap second shows as second `60`; a
year outside `0000…9999` is written with its sign and at least four digits. `formatMillis`
always writes three fraction digits; `formatAuto` writes none for a whole second, else the
fewest of 3, 6 or 9 digits that are exact.

Reading (`parse`): at least 19 bytes (else "premature end of input"), then strictly left to
right — four-digit year, `-`, month, `-`, day, `T`/`t`/space, hour, `:`, minute, `:`, second,
an optional `.` with one or more digits (the first nine kept), and `Z`/`z` or a sign (`+`,
`-`, `−`) with `HH:MM` up to 23:59. The calendar date is checked once the day is read, the
time of day once the fraction is read, the offset's range last, after the check that nothing
follows. A second 60 is a leap second.

`parseRelaxed` is the lenient form used for JSON instants: blanks may stand between the
parts, numbers may have fewer digits (the year any number after a sign, which must fit a
signed 32-bit number), the offset may be `UTC` or hours and minutes with or without a colon,
and trailing blanks are allowed. A reading whose instant in UTC leaves the calendar range
names no instant.
-/

namespace WalletAuth
namespace Rfc3339

/-- Why a text is not a date-time. -/
inductive ParseError where
  | outOfRange
  | invalid
  | tooShort
  | tooLong
  | impossible
  deriving DecidableEq, Repr

/-- The wording of a reading failure. -/
def ParseError.message : ParseError → String
  | .outOfRange => "input is out of range"
  | .invalid => "input contains invalid characters"
  | .tooShort => "premature end of input"
  | .tooLong => "trailing input"
  | .impossible => "no possible date and time matching input"

/-- Bytes still to read. -/
abbrev Input := List UInt8

/-- A reader of a value from the front of the input. -/
abbrev Reader (α : Type) := Input → Except ParseError (α × Input)

/-- Whether a byte is an ASCII digit. -/
def isDigit (b : UInt8) : Bool := 48 ≤ b && b ≤ 57

/-- Up to `max` digits, at least `min`; too few bytes is premature, a non-digit before `min`
is invalid. -/
def number (min max : Nat) : Reader Nat := fun s =>
  if s.length < min then .error .tooShort
  else
    let ds := (s.take max).takeWhile isDigit
    if ds.length < min then .error .invalid
    else .ok (ds.foldl (fun n d => 10 * n + (d.toNat - 48)) 0, s.drop ds.length)

/-- One expected byte. -/
def expect (c : UInt8) : Input → Except ParseError Input
  | [] => .error .tooShort
  | b :: rest => if b == c then .ok rest else .error .invalid

/-- A fraction after its point: 1 to 9 digits scaled to nanoseconds, further digits skipped. -/
def fraction : Reader Nat := fun s => do
  let (v, rest) ← number 1 9 s
  let used := s.length - rest.length
  .ok (v * Nat.pow 10 (9 - used), rest.dropWhile isDigit)

/-- A value checked against an inclusive range. -/
def inRange (v lo hi : Nat) : Except ParseError Nat :=
  if lo ≤ v ∧ v ≤ hi then .ok v else .error .outOfRange

/-- Two digit bytes at the front. -/
def twoDigits? : Input → Option (UInt8 × UInt8 × Input)
  | a :: b :: rest => some (a, b, rest)
  | _ => none

/-- A signed `HH` + separator + `MM` offset in seconds east, or `Z`; `sep` consumes the
separator. -/
def offset (sep : Input → Except ParseError Input) : Reader Int := fun s =>
  match s with
  | [] => .error .tooShort
  | b :: rest =>
    if b == 90 || b == 122 then .ok (0, rest)
    else
      let signed : Option (Bool × Input) :=
        if b == 43 then some (false, rest)
        else if b == 45 then some (true, rest)
        else match s with
          | 0xE2 :: 0x88 :: 0x92 :: r => some (true, r)
          | _ => none
      match signed with
      | none => .error .invalid
      | some (neg, r) =>
        match twoDigits? r with
        | none => .error .tooShort
        | some (h1, h2, r) =>
          if !(isDigit h1 && isDigit h2) then .error .invalid
          else do
            let hours := (h1.toNat - 48) * 10 + (h2.toNat - 48)
            let r ← sep r
            match twoDigits? r with
            | none => .error .tooShort
            | some (m1, m2, r) =>
              if isDigit m1 && isDigit m2 then
                if m1.toNat - 48 ≥ 6 then .error .outOfRange
                else
                  let secs : Int := hours * 3600 + ((m1.toNat - 48) * 10 + (m2.toNat - 48)) * 60
                  .ok (if neg then -secs else secs, r)
              else .error .invalid

/-- The calendar fields read so far; the second is 0 to 60. -/
structure Fields where
  year : Int
  month : Nat
  day : Nat
  hour : Nat
  minute : Nat
  second : Nat
  nanos : Nat

/-- The first second of the calendar range, the start of year -262143. -/
def firstSecond : Int := Civil.daysFromCivil (-262143) 1 1 * 86400

/-- The last second of the calendar range, the end of year 262142. -/
def lastSecond : Int := Civil.daysFromCivil 262142 12 31 * 86400 + 86399

/-- The instant of read fields at an offset: the year must lie in the calendar range and the
date must exist; second 60 is a leap second added to second 59. A reading whose instant in
UTC falls outside the calendar range names no instant. -/
def Fields.toInstant (f : Fields) (off : Int) : Except ParseError Instant :=
  if f.year < -262143 ∨ f.year > 262142 then .error .outOfRange
  else if f.day > Civil.daysInMonth f.year f.month then .error .outOfRange
  else
    let (second, nanos) := if f.second = 60 then (59, f.nanos + nanosPerSecond) else (f.second, f.nanos)
    let t := Civil.toInstant ⟨f.year, f.month, f.day, f.hour, f.minute, second, nanos⟩ off
    if t.secs < firstSecond ∨ t.secs > lastSecond then .error .impossible else .ok t

/-- The separator between date and time: `T`, `t` or a space. -/
def dateTimeSeparator : Input → Except ParseError Input
  | [] => .error .tooShort
  | b :: rest => if b == 84 || b == 116 || b == 32 then .ok rest else .error .invalid

/-- The largest offset RFC 3339 allows, 23:59, in seconds. -/
def maxOffset : Int := (23 * 60 + 59) * 60

/-- Whether a month and day name a day of the given year. -/
def isDate (year : Int) (month day : Nat) : Bool :=
  1 ≤ month && month ≤ 12 && 1 ≤ day && day ≤ Civil.daysInMonth year month

/-- Whether hour, minute and second name a time of day; second 60 is a leap second. -/
def isTime (hour minute second : Nat) : Bool :=
  hour ≤ 23 && minute ≤ 59 && second ≤ 60

/-- Reads an RFC 3339 date-time, strictly. The date is checked as soon as its day is read,
the time of day once its fraction is read, and the offset's range only after the whole text
is known to end there. -/
def parse (text : String) : Except ParseError Instant := do
  let s := text.toUTF8.toList
  if s.length < 19 then throw .tooShort
  let (year, s) ← number 4 4 s
  let s ← expect 45 s
  let (month, s) ← number 2 2 s
  let s ← expect 45 s
  let (day, s) ← number 2 2 s
  if !isDate year month day then throw .outOfRange
  let s ← dateTimeSeparator s
  let (hour, s) ← number 2 2 s
  let s ← expect 58 s
  let (minute, s) ← number 2 2 s
  let s ← expect 58 s
  let (second, s) ← number 2 2 s
  let (nanos, s) ← match s with
    | 46 :: rest => fraction rest
    | _ => pure (0, s)
  if !isTime hour minute second then throw .outOfRange
  let (off, s) ← offset (expect 58) s
  if !s.isEmpty then throw .tooLong
  if off < -maxOffset ∨ off > maxOffset then throw .outOfRange
  Fields.toInstant ⟨year, month, day, hour, minute, second, nanos⟩ off

/-- Drops leading blanks (decoding the bytes as UTF-8 for non-ASCII blanks). -/
def trimStart (s : Input) : Input :=
  match String.fromUTF8? ⟨s.toArray⟩ with
  | some t => (String.ofList (t.toList.dropWhile Text.isBlank)).toUTF8.toList
  | none => s

/-- The largest signed 64-bit number: longer digit runs are out of range. -/
def maxReading : Nat := Nat.pow 2 63 - 1

/-- A year must fit a signed 32-bit number. -/
def yearFits (y : Int) : Bool := -(Int.pow 2 31 : Int) ≤ y && y < Int.pow 2 31

/-- A number of any length after a sign; a value past `maxReading` is out of range. -/
def longNumber : Reader Nat := fun s => do
  let (v, r) ← number 1 (s.length + 1) s
  if v > maxReading then throw .outOfRange
  pure (v, r)

/-- A number after optional blanks; a year may carry a sign and then any number of digits,
and must fit a signed 32-bit number. -/
def relaxedNumber (width : Nat) (signed : Bool) : Reader Int := fun s => do
  let s := trimStart s
  let (v, r) ← match s with
    | 45 :: rest =>
      if signed then (longNumber rest).map fun (v, r) => (-(v : Int), r)
      else (number 1 width s).map fun (v, r) => ((v : Int), r)
    | 43 :: rest =>
      if signed then (longNumber rest).map fun (v, r) => ((v : Int), r)
      else (number 1 width s).map fun (v, r) => ((v : Int), r)
    | _ => (number 1 width s).map fun (v, r) => ((v : Int), r)
  if signed && !yearFits v then throw .outOfRange
  pure (v, r)

/-- A literal byte after optional blanks. -/
def relaxedLiteral (c : UInt8) (s : Input) : Except ParseError Input :=
  expect c (trimStart s)

/-- A range check on a signed reading. -/
def inRangeInt (v : Int) (lo hi : Nat) : Except ParseError Nat :=
  if (lo : Int) ≤ v ∧ v ≤ hi then .ok v.toNat else .error .outOfRange

/-- Colons and blanks between offset hours and minutes. -/
def colonOrBlanks (s : Input) : Except ParseError Input :=
  match String.fromUTF8? ⟨s.toArray⟩ with
  | some t => .ok (String.ofList (t.toList.dropWhile fun c => c == ':' || Text.isBlank c)).toUTF8.toList
  | none => .ok s

/-- Reads a date-time in the lenient form. -/
def parseRelaxed (text : String) : Except ParseError Instant := do
  let s := text.toUTF8.toList
  let (year, s) ← relaxedNumber 4 true s
  let s ← relaxedLiteral 45 s
  let (month, s) ← relaxedNumber 2 false s
  let month ← inRangeInt month 1 12
  let s ← relaxedLiteral 45 s
  let (day, s) ← relaxedNumber 2 false s
  let day ← inRangeInt day 1 31
  let s ← dateTimeSeparator s
  let (hour, s) ← relaxedNumber 2 false s
  let hour ← inRangeInt hour 0 23
  let s ← relaxedLiteral 58 s
  let (minute, s) ← relaxedNumber 2 false s
  let minute ← inRangeInt minute 0 59
  let s ← relaxedLiteral 58 s
  let (second, s) ← relaxedNumber 2 false s
  let second ← inRangeInt second 0 60
  let (nanos, s) ← match s with
    | 46 :: rest => fraction rest
    | _ => pure (0, s)
  let s := trimStart s
  let (off, s) ← match s with
    | a :: b :: c :: rest =>
      if (a == 85 || a == 117) && (b == 84 || b == 116) && (c == 67 || c == 99) then
        pure ((0 : Int), rest)
      else offset colonOrBlanks s
    | _ => offset colonOrBlanks s
  if !(trimStart s).isEmpty then throw .tooLong
  if off ≤ -86400 ∨ off ≥ 86400 then throw .outOfRange
  Fields.toInstant ⟨year, month, day, hour, minute, second, nanos⟩ off

/-- `v` in decimal, padded with zeros to `width` digits. -/
def pad (width v : Nat) : String :=
  let s := toString v
  String.ofList (List.replicate (width - s.length) '0') ++ s

/-- The year: four digits within `0…9999`, else a sign and at least four digits. -/
def yearText (y : Int) : String :=
  if 0 ≤ y ∧ y ≤ 9999 then pad 4 y.toNat
  else (if y < 0 then "-" else "+") ++ pad 4 y.natAbs

/-- Everything up to the seconds, with a leap second shown as 60, and the nanoseconds past
the shown second. -/
def headText (t : Instant) : String × Nat :=
  let c := Civil.ofInstant t
  let (sec, nanos) := if c.nanos ≥ nanosPerSecond then (c.second + 1, c.nanos - nanosPerSecond)
    else (c.second, c.nanos)
  (yearText c.year ++ "-" ++ pad 2 c.month ++ "-" ++ pad 2 c.day ++ "T" ++ pad 2 c.hour ++ ":" ++
    pad 2 c.minute ++ ":" ++ pad 2 sec, nanos)

/-- With exactly three fraction digits. -/
def formatMillis (t : Instant) : String :=
  let (head, nanos) := headText t
  head ++ "." ++ pad 3 (nanos / 1000000) ++ "Z"

/-- With the fewest exact fraction digits among none, 3, 6 and 9. -/
def formatAuto (t : Instant) : String :=
  let (head, nanos) := headText t
  let frac :=
    if nanos = 0 then ""
    else if nanos % 1000000 = 0 then "." ++ pad 3 (nanos / 1000000)
    else if nanos % 1000 = 0 then "." ++ pad 6 (nanos / 1000)
    else "." ++ pad 9 nanos
  head ++ frac ++ "Z"

end Rfc3339
end WalletAuth
