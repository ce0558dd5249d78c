import Mathlib
import WalletAuth.Proofs.Time.Calendar
import WalletAuth.Proofs.Time.Rfc3339
import WalletAuth.Proofs.Time.Spans
import WalletAuth.Proofs.Message.Codec
import WalletAuth.Message.Timestamp

/-!
# WalletAuth.Proofs.Time.Printed — a printed date-time reads back

`Rfc3339.formatMillis` writes an instant as `YYYY-MM-DDTHH:MM:SS.sssZ` when its year has four
digits, and with a sign and the year's digits otherwise. The strict reader `Rfc3339.parse`
reads four digits for the year, so

* a text of the printed shape reads as its fields, after the calendar checks
  (`parse_printed`): each zero-padded number is read back whole (`number_pad`,
  `fraction_pad3`);
* the printed text of an instant on a whole millisecond reads back as the instant when the
  year has four digits (`parse_formatMillis`), a leap second included: it is printed as second
  60 and read back as the second it extends; and
* a year with a sign fails at the first byte (`parse_formatMillis_ne_ok`).

A timestamp the server makes keeps its instant cut to the millisecond below, and its text
reads back as the same timestamp exactly when the year has four digits
(`Timestamp.ofInstant_reads_back_iff`).
-/

namespace WalletAuth

theorem Text.toUTF8_toList_append (s t : String) :
    (s ++ t).toUTF8.toList = s.toUTF8.toList ++ t.toUTF8.toList := by
  rw [Text.toUTF8_toList, Text.toUTF8_toList, Text.toUTF8_toList, String.toList_append,
    List.flatMap_append]

namespace Rfc3339

/-! ## Numbers padded with zeros -/

theorem toList_pad (w v : Nat) :
    (pad w v).toList = List.replicate (w - (Nat.toDigits 10 v).length) '0' ++ Nat.toDigits 10 v := by
  simp [pad, String.length]

theorem length_pad {w v : Nat} (hw : 0 < w) (hv : v < 10 ^ w) : (pad w v).toList.length = w := by
  have hlen := (Nat.length_toDigits_le_iff (by decide) hw).2 hv
  rw [toList_pad, List.length_append, List.length_replicate]
  omega

theorem isDigit_of_mem_pad {w v : Nat} {c : Char} (hc : c ∈ (pad w v).toList) : c.isDigit = true := by
  rw [toList_pad] at hc
  rcases List.mem_append.1 hc with h | h
  · rw [List.eq_of_mem_replicate h]
    rfl
  · exact Nat.isDigit_of_mem_toDigits (by decide) (by decide) h

/-- Zeros in front do not change the value of the digits. -/
theorem ofDigitChars_pad (w v : Nat) : Nat.ofDigitChars 10 (pad w v).toList 0 = v := by
  rw [toList_pad, Nat.ofDigitChars_append, Nat.ofDigitChars_replicate_zero, Nat.mul_zero,
    Nat.ofDigitChars_ten_toDigits]

theorem toNat_toUInt8_of_isDigit {c : Char} (hc : c.isDigit = true) : c.toUInt8.toNat = c.toNat := by
  have := Challenge.isDigit_iff.1 hc
  rw [← Char.toUInt8_val, UInt32.toNat_toUInt8, Char.toNat_val]
  omega

theorem isDigit_toUInt8 {c : Char} (hc : c.isDigit = true) : isDigit c.toUInt8 = true := by
  have hc' := Challenge.isDigit_iff.1 hc
  have := toNat_toUInt8_of_isDigit hc
  simp only [isDigit, Bool.and_eq_true, decide_eq_true_eq, UInt8.le_iff_toNat_le, UInt8.toNat_ofNat]
  omega

/-- A padded number is written with one byte per digit. -/
theorem toUTF8_pad (w v : Nat) : (pad w v).toUTF8.toList = (pad w v).toList.map Char.toUInt8 :=
  Text.toUTF8_toList_of_ascii fun _ hc => by
    have := Challenge.isDigit_iff.1 (isDigit_of_mem_pad hc)
    omega

theorem length_pad_bytes {w v : Nat} (hw : 0 < w) (hv : v < 10 ^ w) :
    (pad w v).toUTF8.toList.length = w := by
  rw [toUTF8_pad, List.length_map, length_pad hw hv]

theorem isDigit_of_mem_pad_bytes {w v : Nat} {b : UInt8} (hb : b ∈ (pad w v).toUTF8.toList) :
    isDigit b = true := by
  rw [toUTF8_pad, List.mem_map] at hb
  obtain ⟨c, hc, rfl⟩ := hb
  exact isDigit_toUInt8 (isDigit_of_mem_pad hc)

/-- The reader folds the bytes of a padded number back to the number. -/
theorem foldl_pad (w v : Nat) :
    (pad w v).toUTF8.toList.foldl (fun n d => 10 * n + (d.toNat - 48)) 0 = v := by
  refine Eq.trans ?_ (ofDigitChars_pad w v)
  rw [toUTF8_pad, List.foldl_map, Nat.ofDigitChars_eq_foldl]
  refine List.foldl_ext _ _ 0 fun n c hc => ?_
  rw [toNat_toUInt8_of_isDigit (isDigit_of_mem_pad hc)]
  rfl

/-! ## Reading numbers -/

theorem ok_bind {ε α β : Type} (a : α) (f : α → Except ε β) : (Except.ok a >>= f) = f a := rfl

theorem throw_bind {ε α β : Type} (e : ε) (f : α → Except ε β) : (throw e >>= f) = throw e := rfl

/-- The number reader takes exactly the digits in front, when they are as many as it may take
or a non-digit stops them. -/
theorem number_append {min max : Nat} {ds rest : Input} (hds : ∀ b ∈ ds, isDigit b = true)
    (hmin : min ≤ ds.length) (hmax : ds.length ≤ max)
    (hstop : ds.length = max ∨ ∀ b ∈ rest.head?, isDigit b = false) :
    number min max (ds ++ rest) = .ok (ds.foldl (fun n d => 10 * n + (d.toNat - 48)) 0, rest) := by
  have htake : ((ds ++ rest).take max).takeWhile isDigit = ds := by
    rw [List.take_append, List.take_of_length_le hmax, List.takeWhile_append_of_pos hds]
    -- what follows the digits stops the reading
    suffices (rest.take (max - ds.length)).takeWhile isDigit = [] by rw [this, List.append_nil]
    rcases hstop with h | h
    · rw [h, Nat.sub_self, List.take_zero, List.takeWhile_nil]
    · cases rest with
      | nil => simp
      | cons b r =>
        cases max - ds.length with
        | zero => simp
        | succ k => simp [List.take_succ_cons, h b rfl]
  unfold number
  rw [if_neg (by simp only [List.length_append]; omega)]
  dsimp only
  rw [htake, if_neg (by omega), List.drop_left]

/-- A fixed-width padded number is read back whole. -/
theorem number_pad {w v : Nat} (hw : 0 < w) (hv : v < 10 ^ w) (rest : Input) :
    number w w ((pad w v).toUTF8.toList ++ rest) = .ok (v, rest) := by
  have hlen := length_pad_bytes hw hv
  rw [number_append (fun _ hb => isDigit_of_mem_pad_bytes hb) hlen.ge hlen.le (.inl hlen),
    foldl_pad]

/-- Three fraction digits before a non-digit are milliseconds. -/
theorem fraction_pad3 {ms : Nat} (hms : ms < 1000) {b : UInt8} (hb : isDigit b = false)
    (rest : Input) :
    fraction ((pad 3 ms).toUTF8.toList ++ b :: rest) = .ok (ms * 1000000, b :: rest) := by
  have hlen := length_pad_bytes (by decide) (show ms < 10 ^ 3 by omega)
  unfold fraction
  rw [number_append (fun _ hb => isDigit_of_mem_pad_bytes hb) (by omega) (by omega)
    (.inr (by simp [hb])), foldl_pad, ok_bind]
  dsimp only
  rw [List.length_append, hlen, Nat.add_sub_cancel, List.dropWhile_cons, hb]
  rfl

/-- A number the reader must find at least one digit of does not start with a non-digit. -/
theorem number_of_not_isDigit (min max : Nat) (hmin : 0 < min) {b : UInt8} (hb : isDigit b = false)
    (rest : Input) : ∃ e, number min max (b :: rest) = .error e := by
  unfold number
  split
  · exact ⟨_, rfl⟩
  · have hnone : ((b :: rest).take max).takeWhile isDigit = [] := by
      cases max with
      | zero => rfl
      | succ k => simp [List.take_succ_cons, hb]
    dsimp only
    rw [hnone, if_pos (by simpa using hmin)]
    exact ⟨_, rfl⟩

/-! ## Reading a printed date-time -/

/-- `Z` is the offset zero. -/
theorem offset_utc (sep : Input → Except ParseError Input) (rest : Input) :
    offset sep (90 :: rest) = .ok (0, rest) := rfl

/-- A text of the printed shape reads as its fields, once the date and the time of day pass
the calendar checks. -/
theorem parse_printed {text : String} {y mo d h mi s ms : Nat} (hy : y < 10000) (hmo : mo < 100)
    (hd : d < 100) (hh : h < 100) (hmi : mi < 100) (hs : s < 100) (hms : ms < 1000)
    (htext : text.toUTF8.toList = (pad 4 y).toUTF8.toList ++ 45 :: (pad 2 mo).toUTF8.toList ++
      45 :: (pad 2 d).toUTF8.toList ++ 84 :: (pad 2 h).toUTF8.toList ++
      58 :: (pad 2 mi).toUTF8.toList ++ 58 :: (pad 2 s).toUTF8.toList ++
      46 :: (pad 3 ms).toUTF8.toList ++ [90]) :
    parse text = if isDate y mo d && isTime h mi s then
      Fields.toInstant ⟨y, mo, d, h, mi, s, ms * 1000000⟩ 0 else .error .outOfRange := by
  unfold parse
  rw [htext]
  simp only [List.append_assoc, List.cons_append, List.length_append, List.length_cons,
    List.length_nil, length_pad_bytes (w := 4) (by decide) (show y < 10 ^ 4 by omega),
    length_pad_bytes (w := 2) (by decide) (show mo < 10 ^ 2 by omega),
    length_pad_bytes (w := 2) (by decide) (show d < 10 ^ 2 by omega),
    length_pad_bytes (w := 2) (by decide) (show h < 10 ^ 2 by omega),
    length_pad_bytes (w := 2) (by decide) (show mi < 10 ^ 2 by omega),
    length_pad_bytes (w := 2) (by decide) (show s < 10 ^ 2 by omega),
    length_pad_bytes (w := 3) (by decide) (show ms < 10 ^ 3 by omega)]
  -- every part reads back in turn; only the calendar checks and the offset's range remain
  simp only [Nat.reduceAdd, Nat.reduceLT, ↓reduceIte, ok_bind, expect, dateTimeSeparator,
    beq_self_eq_true, Bool.true_or, List.isEmpty_nil, Bool.not_true, offset_utc, throw_bind,
    number_pad (w := 4) (by decide) (show y < 10 ^ 4 by omega),
    number_pad (w := 2) (by decide) (show mo < 10 ^ 2 by omega),
    number_pad (w := 2) (by decide) (show d < 10 ^ 2 by omega),
    number_pad (w := 2) (by decide) (show h < 10 ^ 2 by omega),
    number_pad (w := 2) (by decide) (show mi < 10 ^ 2 by omega),
    number_pad (w := 2) (by decide) (show s < 10 ^ 2 by omega),
    fraction_pad3 hms (b := 90) (by decide)]
  have hoff : ¬((0 : Int) < -maxOffset ∨ 0 > maxOffset) := by decide
  rw [if_neg Bool.false_ne_true, if_neg hoff]
  cases isDate y mo d <;> cases isTime h mi s <;> rfl

/-- A text whose first byte is not a digit has no year to read. -/
theorem parse_ne_ok_of_head {text : String} {b : UInt8} {rest : Input}
    (htext : text.toUTF8.toList = b :: rest) (hb : isDigit b = false) (t : Instant) :
    parse text ≠ .ok t := by
  intro h
  unfold parse at h
  obtain ⟨-, h⟩ := ite_throw_ok h
  obtain ⟨⟨year, s⟩, hyear, -⟩ := bind_ok h
  obtain ⟨e, he⟩ := number_of_not_isDigit 4 4 (by decide) hb rest
  rw [htext, he] at hyear
  cases hyear

/-! ## The printed text of an instant -/

/-- The second of the minute a printed date-time shows: 60 inside a leap second. -/
def shownSecond (c : Civil) : Nat := if c.nanos ≥ nanosPerSecond then c.second + 1 else c.second

/-- The nanoseconds past the shown second. -/
def shownNanos (c : Civil) : Nat :=
  if c.nanos ≥ nanosPerSecond then c.nanos - nanosPerSecond else c.nanos

theorem formatMillis_eq (t : Instant) :
    formatMillis t = yearText (Civil.ofInstant t).year ++ "-" ++ pad 2 (Civil.ofInstant t).month ++
      "-" ++ pad 2 (Civil.ofInstant t).day ++ "T" ++ pad 2 (Civil.ofInstant t).hour ++ ":" ++
      pad 2 (Civil.ofInstant t).minute ++ ":" ++ pad 2 (shownSecond (Civil.ofInstant t)) ++ "." ++
      pad 3 (shownNanos (Civil.ofInstant t) / 1000000) ++ "Z" := by
  by_cases h : (Civil.ofInstant t).nanos ≥ nanosPerSecond
  · simp only [formatMillis, headText, shownSecond, shownNanos, if_pos h]
  · simp only [formatMillis, headText, shownSecond, shownNanos, if_neg h]

theorem toUTF8_dash : "-".toUTF8.toList = [45] := by rw [Text.toUTF8_toList]; decide
theorem toUTF8_plus : "+".toUTF8.toList = [43] := by rw [Text.toUTF8_toList]; decide
theorem toUTF8_T : "T".toUTF8.toList = [84] := by rw [Text.toUTF8_toList]; decide
theorem toUTF8_colon : ":".toUTF8.toList = [58] := by rw [Text.toUTF8_toList]; decide
theorem toUTF8_dot : ".".toUTF8.toList = [46] := by rw [Text.toUTF8_toList]; decide
theorem toUTF8_Z : "Z".toUTF8.toList = [90] := by rw [Text.toUTF8_toList]; decide

/-- With a four-digit year the printed text has the shape `parse_printed` reads. -/
theorem formatMillis_bytes {t : Instant}
    (hy : 0 ≤ (Civil.ofInstant t).year ∧ (Civil.ofInstant t).year ≤ 9999) :
    let c := Civil.ofInstant t
    (formatMillis t).toUTF8.toList = (pad 4 c.year.toNat).toUTF8.toList ++
      45 :: (pad 2 c.month).toUTF8.toList ++ 45 :: (pad 2 c.day).toUTF8.toList ++
      84 :: (pad 2 c.hour).toUTF8.toList ++ 58 :: (pad 2 c.minute).toUTF8.toList ++
      58 :: (pad 2 (shownSecond c)).toUTF8.toList ++
      46 :: (pad 3 (shownNanos c / 1000000)).toUTF8.toList ++ [90] := by
  rw [formatMillis_eq, yearText, if_pos hy]
  simp only [Text.toUTF8_toList_append, toUTF8_dash, toUTF8_T, toUTF8_colon, toUTF8_dot, toUTF8_Z,
    List.append_assoc, List.cons_append, List.nil_append]

/-- A year with a sign is printed with the sign first. -/
theorem formatMillis_bytes_of_signed {t : Instant}
    (hy : ¬(0 ≤ (Civil.ofInstant t).year ∧ (Civil.ofInstant t).year ≤ 9999)) :
    ∃ b rest, (formatMillis t).toUTF8.toList = b :: rest ∧ isDigit b = false := by
  rw [formatMillis_eq, yearText, if_neg hy]
  by_cases hneg : (Civil.ofInstant t).year < 0
  · simp only [if_pos hneg, Text.toUTF8_toList_append, toUTF8_dash, List.append_assoc,
      List.singleton_append]
    exact ⟨_, _, rfl, by decide⟩
  · simp only [if_neg hneg, Text.toUTF8_toList_append, toUTF8_plus, List.append_assoc,
      List.singleton_append]
    exact ⟨_, _, rfl, by decide⟩

end Rfc3339

/-! ## Instants a date-time holds -/

namespace Instant

/-- An instant a date-time can hold: under two seconds of nanoseconds, and a second or more of
them only in the last second of a minute, a leap second. -/
def IsDateTime (t : Instant) : Prop :=
  t.nanos < 2 * nanosPerSecond ∧ (nanosPerSecond ≤ t.nanos → t.secs % 60 = 59)

instance (t : Instant) : Decidable t.IsDateTime :=
  inferInstanceAs (Decidable (_ ∧ _))

/-- The date-times are the instants built from a count of seconds and nanoseconds. -/
theorem ofUnix?_eq_some_iff {s : Int} {n : Nat} {t : Instant} :
    ofUnix? s n = some t ↔ t = ⟨s, n⟩ ∧ t.IsDateTime := by
  unfold ofUnix? IsDateTime
  constructor
  · intro h
    split_ifs at h with h2 hleap
    cases h
    dsimp only
    exact ⟨rfl, by omega, fun h1 => by omega⟩
  · rintro ⟨rfl, hlt, hleap⟩
    dsimp only at hlt hleap
    rw [if_neg (by omega), if_neg (by omega)]

theorem truncMillis_le (t : Instant) : t.truncMillis ≤ t :=
  Or.inr ⟨rfl, Nat.sub_le _ _⟩

theorem truncMillis_nanos_mod (t : Instant) : t.truncMillis.nanos % 1000000 = 0 := by
  simp only [truncMillis]
  omega

/-- Cutting to milliseconds gives the latest whole millisecond at or before the instant. -/
theorem le_truncMillis {v t : Instant} (hv : v.nanos % 1000000 = 0) (h : v ≤ t) :
    v ≤ t.truncMillis := by
  simp only [le_def, truncMillis] at *
  omega

theorem IsDateTime.truncMillis {t : Instant} (ht : t.IsDateTime) : t.truncMillis.IsDateTime := by
  obtain ⟨hlt, hleap⟩ := ht
  exact ⟨by simp only [Instant.truncMillis]; omega,
    fun h => hleap (by simp only [Instant.truncMillis] at h; omega)⟩

end Instant

namespace Rfc3339

/-! ## Reading the printed text back -/

/-- The instants of the years 0 to 9999 lie within the calendar range. -/
theorem secs_mem_range {t : Instant}
    (hy : 0 ≤ (Civil.ofInstant t).year ∧ (Civil.ofInstant t).year ≤ 9999) :
    firstSecond ≤ t.secs ∧ t.secs ≤ lastSecond := by
  rcases hc : Civil.civilFromDays (t.secs / 86400) with ⟨y, m, d⟩
  rw [Civil.ofInstant_eq hc] at hy
  have hz := Civil.daysFromCivil_civilFromDays hc
  obtain ⟨hm1, hm12, hd1, hdm⟩ := Civil.civilFromDays_valid hc
  have hd31 := Civil.daysInMonth_le y m
  -- the day count of a date of these years is far inside the range
  have hdays : -(719468 + 146097) ≤ Civil.daysFromCivil y m d ∧
      Civil.daysFromCivil y m d ≤ 25 * 146097 := by
    dsimp only at hy
    dsimp only [Civil.daysFromCivil]
    split_ifs <;> omega
  have hfirst : firstSecond ≤ -(719468 + 146097) * 86400 := by decide
  have hlast : 25 * 146097 * 86400 + 86399 ≤ lastSecond := by decide
  omega

/-- What `formatMillis` shows of a date-time: a second up to 60, nanoseconds under a second
with the instant's sub-millisecond part, and second 60 read back as second 59 with the leap
nanoseconds. -/
theorem shown_spec {t : Instant} (ht : t.IsDateTime) :
    shownSecond (Civil.ofInstant t) ≤ 60 ∧ shownNanos (Civil.ofInstant t) < nanosPerSecond ∧
      shownNanos (Civil.ofInstant t) % 1000000 = t.nanos % 1000000 ∧
      (if shownSecond (Civil.ofInstant t) = 60 then
        (59, shownNanos (Civil.ofInstant t) + nanosPerSecond)
      else (shownSecond (Civil.ofInstant t), shownNanos (Civil.ofInstant t))) =
        ((Civil.ofInstant t).second, t.nanos) := by
  obtain ⟨-, -, -, -, -, -, hsec, hnanos⟩ := Civil.ofInstant_valid t
  obtain ⟨hlt, hleap⟩ := ht
  unfold shownSecond shownNanos
  rw [hnanos]
  unfold nanosPerSecond at *
  by_cases h : t.nanos ≥ 1000000000
  · -- a leap second, shown as second 60
    have h59 : (Civil.ofInstant t).second = 59 := by
      have := hleap h
      omega
    rw [if_pos h, if_pos h, h59, if_pos rfl, Prod.mk.injEq]
    omega
  · rw [if_neg h, if_neg h, if_neg (by omega)]
    exact ⟨by omega, by omega, rfl, rfl⟩

example : formatMillis ⟨1483228799, 1500000000⟩ = "2016-12-31T23:59:60.500Z" := by decide

/-- The fields `formatMillis` prints name the instant again, a leap second included. -/
theorem toInstant_shown {t : Instant} (ht : t.IsDateTime) (hms : t.nanos % 1000000 = 0)
    (hy : 0 ≤ (Civil.ofInstant t).year ∧ (Civil.ofInstant t).year ≤ 9999) :
    Fields.toInstant ⟨((Civil.ofInstant t).year.toNat : Int), (Civil.ofInstant t).month,
      (Civil.ofInstant t).day, (Civil.ofInstant t).hour, (Civil.ofInstant t).minute,
      shownSecond (Civil.ofInstant t), shownNanos (Civil.ofInstant t) / 1000000 * 1000000⟩ 0 =
      .ok t := by
  obtain ⟨hm1, hm12, hd1, hdm, hh, hmi, hsec, hnanos⟩ := Civil.ofInstant_valid t
  obtain ⟨-, -, hmod, hsecond⟩ := shown_spec ht
  have hyear : ((Civil.ofInstant t).year.toNat : Int) = (Civil.ofInstant t).year :=
    Int.toNat_of_nonneg hy.1
  -- the printed milliseconds are all the nanoseconds past the shown second
  have hwhole : shownNanos (Civil.ofInstant t) / 1000000 * 1000000 =
      shownNanos (Civil.ofInstant t) := by
    omega
  have hrange := secs_mem_range hy
  unfold Fields.toInstant
  dsimp only
  rw [hyear, if_neg (by omega), if_neg (by omega), hwhole, hsecond, ← hnanos]
  dsimp only
  rw [Civil.toInstant_ofInstant, if_neg (by omega)]

/-- The printed text of an instant on a whole millisecond reads back as the instant when its
year has four digits. -/
theorem parse_formatMillis {t : Instant} (ht : t.IsDateTime) (hms : t.nanos % 1000000 = 0)
    (hy : 0 ≤ (Civil.ofInstant t).year ∧ (Civil.ofInstant t).year ≤ 9999) :
    parse (formatMillis t) = .ok t := by
  obtain ⟨hm1, hm12, hd1, hdm, hh, hmi, hsec, hnanos⟩ := Civil.ofInstant_valid t
  obtain ⟨hshown, hsub, -, -⟩ := shown_spec ht
  have hd31 := Civil.daysInMonth_le (Civil.ofInstant t).year (Civil.ofInstant t).month
  have hdate : isDate ((Civil.ofInstant t).year.toNat : Int) (Civil.ofInstant t).month
      (Civil.ofInstant t).day = true := by
    simp only [isDate, Int.toNat_of_nonneg hy.1, Bool.and_eq_true, decide_eq_true_eq]
    omega
  have htime : isTime (Civil.ofInstant t).hour (Civil.ofInstant t).minute
      (shownSecond (Civil.ofInstant t)) = true := by
    simp only [isTime, Bool.and_eq_true, decide_eq_true_eq]
    omega
  unfold nanosPerSecond at hsub
  rw [parse_printed (by omega) (by omega) (by omega) (by omega) (by omega) (by omega) (by omega)
    (formatMillis_bytes hy), hdate, htime, Bool.and_self, if_pos rfl]
  exact toInstant_shown ht hms hy

/-- The printed text of an instant whose year has no four digits does not read. -/
theorem parse_formatMillis_ne_ok {t : Instant}
    (hy : ¬(0 ≤ (Civil.ofInstant t).year ∧ (Civil.ofInstant t).year ≤ 9999)) (u : Instant) :
    parse (formatMillis t) ≠ .ok u := by
  obtain ⟨b, rest, hbytes, hb⟩ := formatMillis_bytes_of_signed hy
  exact parse_ne_ok_of_head hbytes hb u

end Rfc3339

/-! ## Timestamps the server makes -/

theorem Timestamp.parse_eq_ok_iff {text : String} {ts : Timestamp} :
    Timestamp.parse text = .ok ts ↔ ts.text = text ∧ Rfc3339.parse text = .ok ts.at_ := by
  unfold Timestamp.parse
  split
  · rename_i t ht
    rw [ht]
    constructor
    · intro h
      cases h
      exact ⟨rfl, rfl⟩
    · rintro ⟨rfl, h⟩
      cases h
      rfl
  · rename_i e he
    rw [he]
    constructor
    · intro h
      cases h
    · rintro ⟨-, h⟩
      cases h

/-- A timestamp made from a date-time holds the latest whole millisecond at or before it, and its
text reads back as the same timestamp exactly when the year has four digits. -/
theorem Timestamp.ofInstant_reads_back_iff {d : Instant} (hd : d.IsDateTime) :
    (Timestamp.ofInstant d).at_ ≤ d ∧ (Timestamp.ofInstant d).at_.nanos % 1000000 = 0 ∧
      (∀ v : Instant, v.nanos % 1000000 = 0 → v ≤ d → v ≤ (Timestamp.ofInstant d).at_) ∧
      (Timestamp.parse (Timestamp.ofInstant d).text = .ok (Timestamp.ofInstant d) ↔
        0 ≤ (Civil.ofInstant d).year ∧ (Civil.ofInstant d).year ≤ 9999) := by
  refine ⟨d.truncMillis_le, d.truncMillis_nanos_mod, fun v hv h => Instant.le_truncMillis hv h, ?_⟩
  -- cutting to milliseconds keeps the second, so the year
  have hyear : (Civil.ofInstant d.truncMillis).year = (Civil.ofInstant d).year := rfl
  rw [Timestamp.parse_eq_ok_iff]
  constructor
  · rintro ⟨-, h⟩
    by_contra hy
    exact Rfc3339.parse_formatMillis_ne_ok (hyear ▸ hy) _ h
  · intro hy
    exact ⟨rfl, Rfc3339.parse_formatMillis hd.truncMillis d.truncMillis_nanos_mod (hyear ▸ hy)⟩

/-- The timestamp of 2016-12-31T23:59:60.500123456Z, inside a leap second, holds
23:59:60.500 and reads back. -/
theorem Timestamp.leapSecond_reads_back :
    (⟨1483228799, 1500123456⟩ : Instant).IsDateTime ∧
      ((Timestamp.ofInstant ⟨1483228799, 1500123456⟩).at_ ≤ ⟨1483228799, 1500123456⟩ ∧
        (Timestamp.ofInstant ⟨1483228799, 1500123456⟩).at_.nanos % 1000000 = 0 ∧
        (∀ v : Instant, v.nanos % 1000000 = 0 → v ≤ ⟨1483228799, 1500123456⟩ →
          v ≤ (Timestamp.ofInstant ⟨1483228799, 1500123456⟩).at_) ∧
        (Timestamp.parse (Timestamp.ofInstant ⟨1483228799, 1500123456⟩).text =
            .ok (Timestamp.ofInstant ⟨1483228799, 1500123456⟩) ↔
          0 ≤ (Civil.ofInstant ⟨1483228799, 1500123456⟩).year ∧
            (Civil.ofInstant ⟨1483228799, 1500123456⟩).year ≤ 9999)) :=
  ⟨by decide, Timestamp.ofInstant_reads_back_iff (by decide)⟩

end WalletAuth
