import WalletAuth.Time.Instant

/-!
# WalletAuth.Proofs.Time.Spans — moving instants by spans

`Instant.add` and `Instant.since` treat an instant inside a leap second (nanoseconds of a second
or more) apart. Away from leap seconds they are plain arithmetic on nanoseconds since the epoch:

* `add_of_lt`: moving is adding nanoseconds;
* `since_add`: the span to an instant moved by `d` is `d`;
* `add_add_of_lt`: two moves are one move by their sum;
* `since_pos_of_lt`: seen from outside a leap second, every later instant is a positive span
  away, a leap second at the far end included; with both ends outside leap seconds the span is
  the difference of the counts (`since_nanos_of_lt`) and positive exactly when the first instant
  is later (`since_pos_iff`).

`add_le_of_nonpos` holds for every valid instant, leap second or not: a move by a span of zero
or less never lands later; so do `le_add_of_nonneg` and `add_le_add_add`, for moves forward: they
never land earlier, and a forward move keeps the order of two readings of a clock that moves
forward (`add_of_leap` says what a move forward does inside a leap second). And
`lt_add_ofSeconds`, for every instant: a move forward by whole seconds always lands later.

All rest on `Span.split_nanos`, which says what the whole seconds and the remaining nanoseconds
of a span are, signs included.
-/

namespace WalletAuth

/-- The whole seconds and the nanoseconds beyond them make up the span; both carry its sign,
and the nanoseconds stay within a second. -/
theorem Span.split_nanos (d : Span) :
    d.wholeSeconds * nanosPerSecond + d.subsecNanos = d.nanos ∧
      (0 ≤ d.nanos → 0 ≤ d.wholeSeconds ∧ 0 ≤ d.subsecNanos) ∧
      (d.nanos ≤ 0 → d.wholeSeconds ≤ 0 ∧ d.subsecNanos ≤ 0) ∧
      -(nanosPerSecond : Int) < d.subsecNanos ∧ d.subsecNanos < nanosPerSecond := by
  have hsign : ((1000000000 : Nat) : Int).sign = 1 := rfl
  simp only [Span.wholeSeconds, Span.subsecNanos, Int.tdiv_eq_ediv, Int.tmod_eq_emod,
    Int.dvd_iff_emod_eq_zero, nanosPerSecond, hsign]
  split <;> omega

@[simp] theorem Span.wholeSeconds_ofSeconds (n : Int) : (Span.ofSeconds n).wholeSeconds = n := by
  simp only [Span.wholeSeconds, Span.ofSeconds]
  exact Int.mul_tdiv_cancel _ (by decide)

@[simp] theorem Span.subsecNanos_ofSeconds (n : Int) : (Span.ofSeconds n).subsecNanos = 0 := by
  simp only [Span.subsecNanos, Span.ofSeconds]
  exact Int.mul_tmod_left _ _

namespace Instant

theorem le_def {a b : Instant} : a ≤ b ↔ a.secs < b.secs ∨ (a.secs = b.secs ∧ a.nanos ≤ b.nanos) :=
  Iff.rfl

theorem lt_def {a b : Instant} : a < b ↔ a.secs < b.secs ∨ (a.secs = b.secs ∧ a.nanos < b.nanos) :=
  Iff.rfl

theorem le_refl (a : Instant) : a ≤ a := Or.inr ⟨rfl, Nat.le_refl _⟩

theorem lt_irrefl (a : Instant) : ¬a < a := by
  rw [lt_def]
  omega

theorem lt_of_lt_of_le {a b c : Instant} (hab : a < b) (hbc : b ≤ c) : a < c := by
  rw [lt_def] at *
  rw [le_def] at hbc
  omega

theorem lt_of_le_of_lt {a b c : Instant} (hab : a ≤ b) (hbc : b < c) : a < c := by
  rw [lt_def] at *
  rw [le_def] at hab
  omega

theorem le_trans {a b c : Instant} (hab : a ≤ b) (hbc : b ≤ c) : a ≤ c := by
  rw [le_def] at *
  omega

theorem lt_of_not_le {a b : Instant} (h : ¬a ≤ b) : b < a := by
  rw [le_def] at h
  rw [lt_def]
  omega

/-- Cutting to milliseconds keeps the order it finds. -/
theorem lt_of_truncMillis_lt {a b : Instant} (h : a.truncMillis < b.truncMillis) : a < b := by
  simp only [lt_def, truncMillis] at *
  omega

theorem ofNanos_eq {s : Int} {n : Nat} (hn : n < nanosPerSecond) :
    ofNanos (s * nanosPerSecond + n) = ⟨s, n⟩ := by
  simp only [ofNanos, nanosPerSecond] at *
  congr 1
  · omega
  · omega

theorem ofNanos_nanos_lt (x : Int) : (ofNanos x).nanos < nanosPerSecond := by
  simp only [ofNanos, nanosPerSecond]
  omega

/-- Moving by nothing stays put, inside a leap second too. -/
theorem add_zero (t : Instant) : t.add ⟨0⟩ = t := by
  have hs : Span.wholeSeconds ⟨0⟩ = 0 := rfl
  have hf : Span.subsecNanos ⟨0⟩ = 0 := rfl
  unfold add
  simp only [hs, hf]
  by_cases hn : t.nanos ≥ nanosPerSecond
  · simp [hn]
  · simp only [hn, if_false, Int.add_zero]
    exact ofNanos_eq (by omega)

/-- Outside a leap second, moving by a span is adding nanoseconds. -/
theorem add_of_lt {t : Instant} (ht : t.nanos < nanosPerSecond) (d : Span) :
    t.add d = ofNanos (t.secs * nanosPerSecond + t.nanos + d.nanos) := by
  obtain ⟨hsplit, -⟩ := d.split_nanos
  have hn : ¬t.nanos ≥ nanosPerSecond := by omega
  simp only [add, hn, if_false]
  congr 1
  simp only [nanosPerSecond] at *
  omega

theorem ofNanos_total (x : Int) :
    (ofNanos x).secs * (nanosPerSecond : Int) + ((ofNanos x).nanos : Int) = x := by
  simp only [ofNanos, nanosPerSecond]
  omega

/-- Outside a leap second, two moves are one move by their sum. -/
theorem add_add_of_lt {t : Instant} (ht : t.nanos < nanosPerSecond) (d e : Span) :
    (t.add d).add e = t.add ⟨d.nanos + e.nanos⟩ := by
  -- the first move never lands inside a leap second, so the second is plain arithmetic too
  rw [add_of_lt ht d, add_of_lt (ofNanos_nanos_lt _) e, ofNanos_total, add_of_lt ht]
  congr 1
  dsimp only
  omega

/-- Outside a leap second, the span from an instant to it moved by `d` is `d`. -/
theorem since_add {t : Instant} (ht : t.nanos < nanosPerSecond) (d : Span) :
    ((t.add d).since t).nanos = d.nanos := by
  rw [add_of_lt ht]
  -- neither end lies inside a leap second, so no second is counted or taken back
  have hend := ofNanos_nanos_lt (t.secs * nanosPerSecond + t.nanos + d.nanos)
  have h₁ : ¬((ofNanos (t.secs * nanosPerSecond + t.nanos + d.nanos)).secondOfDay >
      t.secondOfDay ∧ t.nanos ≥ nanosPerSecond) := fun h => by omega
  have h₂ : ¬((ofNanos (t.secs * nanosPerSecond + t.nanos + d.nanos)).secondOfDay <
      t.secondOfDay ∧ (ofNanos (t.secs * nanosPerSecond + t.nanos + d.nanos)).nanos ≥
        nanosPerSecond) := fun h => by omega
  simp only [since, if_neg h₁, if_neg h₂]
  simp only [ofNanos, secondOfDay, nanosPerSecond] at *
  omega

/-- Seen from an instant outside a leap second, any later instant is a positive span away. -/
theorem since_pos_of_lt {a b : Instant} (hb : b.nanos < nanosPerSecond) (h : b < a) :
    0 < (a.since b).nanos := by
  rw [lt_def] at h
  -- only a leap second at the later end can be counted back
  have h₁ : ¬(a.secondOfDay > b.secondOfDay ∧ b.nanos ≥ nanosPerSecond) := fun h => by omega
  simp only [since, if_neg h₁]
  by_cases h₂ : a.secondOfDay < b.secondOfDay ∧ a.nanos ≥ nanosPerSecond
  · rw [if_pos h₂]
    simp only [secondOfDay, nanosPerSecond] at *
    omega
  · rw [if_neg h₂]
    simp only [secondOfDay, nanosPerSecond] at *
    omega

/-- Moving back, or not at all, never lands later: for a valid instant, leap second or not. -/
theorem add_le_of_nonpos {t : Instant} (ht : t.nanos < 2 * nanosPerSecond) {d : Span}
    (hd : d.nanos ≤ 0) : t.add d ≤ t := by
  obtain ⟨hsplit, -, hneg, hlo, -⟩ := d.split_nanos
  obtain ⟨hw, hf⟩ := hneg hd
  rw [le_def]
  by_cases hleap : t.nanos ≥ nanosPerSecond
  · have h₁ : ¬(d.wholeSeconds > 0 ∨
        (d.subsecNanos > 0 ∧ (t.nanos : Int) + d.subsecNanos ≥ 2 * nanosPerSecond)) := by omega
    by_cases h₂ : d.wholeSeconds < 0
    · -- moving back out of the leap second counts from the second after it
      simp only [add, if_pos hleap, if_neg h₁, if_pos h₂, ofNanos]
      simp only [nanosPerSecond] at *
      omega
    · -- staying inside the leap second moves only the nanoseconds
      simp only [add, if_pos hleap, if_neg h₁, if_neg h₂]
      simp only [nanosPerSecond, true_and] at *
      omega
  · rw [add_of_lt (by omega)]
    simp only [ofNanos, nanosPerSecond] at *
    omega

theorem le_of_lt {a b : Instant} (h : a < b) : a ≤ b := by
  rw [lt_def] at h
  rw [le_def]
  omega

/-- Inside a leap second, a move forward stays inside while it fits, and otherwise counts from
the second before. -/
theorem add_of_leap {t : Instant} (hleap : nanosPerSecond ≤ t.nanos)
    (ht : t.nanos < 2 * nanosPerSecond) {d : Span} (hd : 0 ≤ d.nanos) :
    t.add d = if (t.nanos : Int) + d.nanos < 2 * nanosPerSecond
      then ⟨t.secs, ((t.nanos : Int) + d.nanos).toNat⟩
      else ofNanos (t.secs * nanosPerSecond + ((t.nanos : Int) - nanosPerSecond) + d.nanos) := by
  obtain ⟨hsplit, hpos, -, -, hhi⟩ := d.split_nanos
  obtain ⟨hw, hf⟩ := hpos hd
  have hleap' : t.nanos ≥ nanosPerSecond := hleap
  by_cases hfit : (t.nanos : Int) + d.nanos < 2 * nanosPerSecond
  · -- less than a second is left of the leap second: no whole second is moved
    have h₁ : ¬(d.wholeSeconds > 0 ∨
        (d.subsecNanos > 0 ∧ (t.nanos : Int) + d.subsecNanos ≥ 2 * nanosPerSecond)) := by
      simp only [nanosPerSecond] at *
      omega
    have h₂ : ¬d.wholeSeconds < 0 := by omega
    simp only [add, if_pos hleap', if_neg h₁, if_neg h₂, if_pos hfit]
    congr 2
    simp only [nanosPerSecond] at *
    omega
  · have h₁ : d.wholeSeconds > 0 ∨
        (d.subsecNanos > 0 ∧ (t.nanos : Int) + d.subsecNanos ≥ 2 * nanosPerSecond) := by
      simp only [nanosPerSecond] at *
      omega
    simp only [add, if_pos hleap', if_pos h₁, if_neg hfit]
    congr 1
    simp only [nanosPerSecond] at *
    omega

/-- Moving forward, or not at all, never lands earlier: for a valid instant, leap second or
not. -/
theorem le_add_of_nonneg {t : Instant} (ht : t.nanos < 2 * nanosPerSecond) {d : Span}
    (hd : 0 ≤ d.nanos) : t ≤ t.add d := by
  rw [le_def]
  by_cases hleap : nanosPerSecond ≤ t.nanos
  · rw [add_of_leap hleap ht hd]
    split
    · simp only [nanosPerSecond, true_and] at *
      omega
    · simp only [ofNanos, nanosPerSecond] at *
      omega
  · rw [add_of_lt (by omega)]
    simp only [ofNanos, nanosPerSecond] at *
    omega

/-- A clock that moves forward keeps the order of the instants a forward span away from its
readings: from a valid instant, a span `d` after it comes no later than `d` after a later
reading. Inside a leap second the later reading may still be in it or past it. -/
theorem add_le_add_add {t : Instant} (ht : t.nanos < 2 * nanosPerSecond) {s d : Span}
    (hs : 0 ≤ s.nanos) (hd : 0 ≤ d.nanos) : t.add d ≤ (t.add s).add d := by
  by_cases hleap : nanosPerSecond ≤ t.nanos
  · rw [add_of_leap hleap ht hs]
    split
    · -- the later reading is still inside the leap second
      rename_i hfit
      have hu : nanosPerSecond ≤ (⟨t.secs, ((t.nanos : Int) + s.nanos).toNat⟩ : Instant).nanos := by
        simp only [nanosPerSecond] at *
        omega
      have hu' : (⟨t.secs, ((t.nanos : Int) + s.nanos).toNat⟩ : Instant).nanos <
          2 * nanosPerSecond := by
        simp only [nanosPerSecond] at *
        omega
      rw [add_of_leap hleap ht hd, add_of_leap hu hu' hd]
      split <;> split <;> simp only [le_def, ofNanos, nanosPerSecond, true_and] at * <;> omega
    · -- the later reading is past the leap second
      rw [add_of_lt (ofNanos_nanos_lt _), ofNanos_total, add_of_leap hleap ht hd]
      split <;> simp only [le_def, ofNanos, nanosPerSecond] at * <;> omega
  · rw [add_add_of_lt (by omega), add_of_lt (by omega), add_of_lt (by omega)]
    simp only [le_def, ofNanos, nanosPerSecond] at *
    omega

/-- Moving forward by whole seconds always lands later, from any instant. -/
theorem lt_add_ofSeconds (t : Instant) {n : Int} (hn : 0 < n) : t < t.add (Span.ofSeconds n) := by
  unfold add
  rw [Span.wholeSeconds_ofSeconds, Span.subsecNanos_ofSeconds]
  dsimp only
  -- inside a leap second the move counts from the second's end, still at least a second on
  by_cases hleap : t.nanos ≥ nanosPerSecond
  · rw [if_pos hleap, if_pos (Or.inl hn)]
    simp only [lt_def, ofNanos, nanosPerSecond] at hleap ⊢
    omega
  · rw [if_neg hleap]
    simp only [lt_def, ofNanos, nanosPerSecond] at hleap ⊢
    omega

/-- Away from leap seconds, the span from `b` to `a` is the difference of their second and
nanosecond counts. -/
theorem since_nanos_of_lt {a b : Instant} (ha : a.nanos < nanosPerSecond)
    (hb : b.nanos < nanosPerSecond) :
    (a.since b).nanos = (a.secs - b.secs) * nanosPerSecond + ((a.nanos : Int) - b.nanos) := by
  -- neither instant lies inside a leap second, so no second is added or taken back
  have h₁ : ¬(a.secondOfDay > b.secondOfDay ∧ b.nanos ≥ nanosPerSecond) := fun h => by omega
  have h₂ : ¬(a.secondOfDay < b.secondOfDay ∧ a.nanos ≥ nanosPerSecond) := fun h => by omega
  simp only [since, if_neg h₁, if_neg h₂]
  simp only [secondOfDay, nanosPerSecond]
  omega

/-- Instants are totally ordered: `a` is at or before `b` exactly when `b` is not before `a`. -/
theorem le_iff_not_lt {a b : Instant} : a ≤ b ↔ ¬b < a := by
  show (a.secs < b.secs ∨ (a.secs = b.secs ∧ a.nanos ≤ b.nanos)) ↔
    ¬(b.secs < a.secs ∨ (b.secs = a.secs ∧ b.nanos < a.nanos))
  omega

/-- Away from leap seconds, the span from `b` to `a` is positive exactly when `a` is later. -/
theorem since_pos_iff {a b : Instant} (ha : a.nanos < nanosPerSecond)
    (hb : b.nanos < nanosPerSecond) : 0 < (a.since b).nanos ↔ b < a := by
  rw [since_nanos_of_lt ha hb]
  show _ ↔ b.secs < a.secs ∨ (b.secs = a.secs ∧ b.nanos < a.nanos)
  simp only [nanosPerSecond] at *
  omega

end Instant
end WalletAuth
