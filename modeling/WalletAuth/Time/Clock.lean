import WalletAuth.Time.Instant

/-!
# WalletAuth.Time.Clock — a clock that moves only when told

Every decision about expiry reads the time from a clock. This clock holds an instant that moves
when it is advanced or set, and, when it has a step, by that step after every reading: each
reading then sees a later instant than the one before.
-/

namespace WalletAuth

/-- The current instant, and how far one reading moves it. -/
structure ManualClock where
  now : Instant
  step : Span := ⟨0⟩
  deriving DecidableEq, Repr

namespace ManualClock

/-- A reading: the current instant, and the clock moved by its step. -/
def read (c : ManualClock) : Instant × ManualClock :=
  (c.now, { c with now := c.now.add c.step })

/-- The clock moved by a span. -/
def advance (c : ManualClock) (d : Span) : ManualClock := { c with now := c.now.add d }

/-- The clock set to an instant. -/
def set (c : ManualClock) (t : Instant) : ManualClock := { c with now := t }

@[simp] theorem read_fst (c : ManualClock) : c.read.1 = c.now := rfl

@[simp] theorem read_now (c : ManualClock) : c.read.2.now = c.now.add c.step := rfl

end ManualClock
end WalletAuth
