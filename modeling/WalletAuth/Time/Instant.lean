/-!
# WalletAuth.Time.Instant — instants on the UTC time line, and spans between them

An instant is a count of seconds since 1970-01-01T00:00:00Z and a count of nanoseconds into
that second. The nanoseconds may reach up to (not including) two seconds: an instant whose
nanoseconds are a second or more lies inside a leap second inserted after its second, and
orders after every other instant of that second and before the next second.

* `Instant.add`: moving by a span. Inside a leap second, a move that stays inside only moves
  the nanoseconds; a move forward out of it counts from the second before, a move backward
  from the second after.
* `Instant.since`: the span from one instant to another, counting a leap second crossed on
  the way.
* `Civil`: the proleptic Gregorian calendar date and time of day of an instant.
-/

namespace WalletAuth

/-- One second in nanoseconds. -/
def nanosPerSecond : Nat := 1000000000

/-- A signed span of time in nanoseconds. -/
structure Span where
  nanos : Int
  deriving DecidableEq, Repr

namespace Span

/-- A span of whole seconds. -/
def ofSeconds (s : Int) : Span := ⟨s * nanosPerSecond⟩

/-- A span of whole milliseconds. -/
def ofMillis (ms : Int) : Span := ⟨ms * 1000000⟩

/-- The whole seconds of the span, rounded toward zero. -/
def wholeSeconds (d : Span) : Int := d.nanos.tdiv nanosPerSecond

/-- The nanoseconds beyond the whole seconds, with the sign of the span. -/
def subsecNanos (d : Span) : Int := d.nanos.tmod nanosPerSecond

end Span

/-- An instant: seconds since the epoch and nanoseconds into the second (a second or more
inside a leap second). -/
structure Instant where
  secs : Int
  nanos : Nat
  deriving DecidableEq, Repr, Inhabited

namespace Instant

/-- Instants are ordered by second, then by nanosecond. -/
def toKey (t : Instant) : Int × Nat := (t.secs, t.nanos)

instance : LT Instant := ⟨fun a b => a.secs < b.secs ∨ (a.secs = b.secs ∧ a.nanos < b.nanos)⟩
instance : LE Instant := ⟨fun a b => a.secs < b.secs ∨ (a.secs = b.secs ∧ a.nanos ≤ b.nanos)⟩

instance (a b : Instant) : Decidable (a < b) :=
  inferInstanceAs (Decidable (a.secs < b.secs ∨ (a.secs = b.secs ∧ a.nanos < b.nanos)))
instance (a b : Instant) : Decidable (a ≤ b) :=
  inferInstanceAs (Decidable (a.secs < b.secs ∨ (a.secs = b.secs ∧ a.nanos ≤ b.nanos)))

/-- The later of two instants. -/
def max (a b : Instant) : Instant := if a ≤ b then b else a

/-- An instant from a signed count of nanoseconds since the epoch, outside any leap second. -/
def ofNanos (t : Int) : Instant :=
  ⟨t / nanosPerSecond, (t % nanosPerSecond).toNat⟩

/-- The instant moved by the span `d`. -/
def add (t : Instant) (d : Span) : Instant :=
  let secsToAdd := d.wholeSeconds
  let fracToAdd := d.subsecNanos
  let base : Option (Int × Int) :=
    if t.nanos ≥ nanosPerSecond then
      if secsToAdd > 0 ∨ (fracToAdd > 0 ∧ (t.nanos : Int) + fracToAdd ≥ 2 * nanosPerSecond) then
        some (t.secs, (t.nanos : Int) - nanosPerSecond)
      else if secsToAdd < 0 then
        some (t.secs + 1, (t.nanos : Int) - nanosPerSecond)
      else none
    else some (t.secs, t.nanos)
  match base with
  | none => ⟨t.secs, ((t.nanos : Int) + fracToAdd).toNat⟩
  | some (s, f) => ofNanos ((s + secsToAdd) * nanosPerSecond + f + fracToAdd)

/-- Seconds into the day, and the day, of an instant. -/
def secondOfDay (t : Instant) : Int := t.secs % 86400

/-- The span from `b` to `a`, counting a leap second that lies between them. -/
def since (a b : Instant) : Span :=
  let dayDiff := a.secs / 86400 - b.secs / 86400
  let sa := a.secondOfDay
  let sb := b.secondOfDay
  let adjust : Int :=
    if sa > sb ∧ b.nanos ≥ nanosPerSecond then 1
    else if sa < sb ∧ a.nanos ≥ nanosPerSecond then -1
    else 0
  ⟨(dayDiff * 86400 + (sa - sb) + adjust) * nanosPerSecond + ((a.nanos : Int) - b.nanos)⟩

/-- The instant with its nanoseconds cut to whole milliseconds. -/
def truncMillis (t : Instant) : Instant := ⟨t.secs, t.nanos - t.nanos % 1000000⟩

/-- The instant of a count of seconds and nanoseconds, if it names one: a leap nanosecond
count only in the last second of a minute. -/
def ofUnix? (secs : Int) (nanos : Nat) : Option Instant :=
  if nanos ≥ 2 * nanosPerSecond then none
  else if nanos ≥ nanosPerSecond ∧ secs % 60 ≠ 59 then none
  else some ⟨secs, nanos⟩

end Instant

/-- A calendar date and time of day, with nanoseconds (a second or more in a leap second). -/
structure Civil where
  year : Int
  month : Nat
  day : Nat
  hour : Nat
  minute : Nat
  second : Nat
  nanos : Nat
  deriving DecidableEq, Repr

namespace Civil

/-- Days from 1970-01-01 to the given proleptic Gregorian date. -/
def daysFromCivil (y : Int) (m d : Nat) : Int :=
  let y := if m ≤ 2 then y - 1 else y
  let era := y / 400
  let yoe := y - era * 400
  let mp : Int := if m > 2 then m - 3 else m + 9
  let doy := (153 * mp + 2) / 5 + d - 1
  let doe := yoe * 365 + yoe / 4 - yoe / 100 + doy
  era * 146097 + doe - 719468

/-- The proleptic Gregorian date of a day count from 1970-01-01. -/
def civilFromDays (z : Int) : Int × Nat × Nat :=
  let z := z + 719468
  let era := z / 146097
  let doe := z - era * 146097
  let yoe := (doe - doe / 1460 + doe / 36524 - doe / 146096) / 365
  let y := yoe + era * 400
  let doy := doe - (365 * yoe + yoe / 4 - yoe / 100)
  let mp := (5 * doy + 2) / 153
  let d := doy - (153 * mp + 2) / 5 + 1
  let m := if mp < 10 then mp + 3 else mp - 9
  (if m ≤ 2 then y + 1 else y, m.toNat, d.toNat)

/-- Whether a year is a leap year of the Gregorian calendar. -/
def isLeapYear (y : Int) : Bool := (y % 4 == 0 && y % 100 != 0) || y % 400 == 0

/-- The number of days of a month. -/
def daysInMonth (y : Int) (m : Nat) : Nat :=
  match m with
  | 2 => if isLeapYear y then 29 else 28
  | 4 | 6 | 9 | 11 => 30
  | _ => 31

/-- The calendar reading of an instant in UTC. -/
def ofInstant (t : Instant) : Civil :=
  let (y, m, d) := civilFromDays (t.secs / 86400)
  let sod := (t.secs % 86400).toNat
  ⟨y, m, d, sod / 3600, sod % 3600 / 60, sod % 60, t.nanos⟩

/-- The instant of a calendar reading taken at a fixed offset east of UTC, in seconds. -/
def toInstant (c : Civil) (offset : Int) : Instant :=
  let days := daysFromCivil c.year c.month c.day
  ⟨days * 86400 + c.hour * 3600 + c.minute * 60 + c.second - offset, c.nanos⟩

end Civil
end WalletAuth
