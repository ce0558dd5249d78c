import Mathlib
import WalletAuth.Proofs.Encoding.Bytes
import WalletAuth.Time.Rfc3339

/-!
# WalletAuth.Proofs.Time.Rfc3339 — a date-time that reads is one line

The strict reader `Rfc3339.parse` walks the bytes of a text from left to right, and each of its
parts consumes only bytes of a fixed class: digits, the separators `-`, `:`, `T`, `t`, space
and `.`, and the offset's `Z`, `z`, signs and minus sign. None of these is a line feed, and
the reader accepts a text only when nothing follows the offset. So a text that reads as a
date-time has no line feed (`lf_not_mem_of_parse`): inside a message it stays on its line.

`Skips s r` says that reading went from the bytes `s` to their tail `r` over bytes none of
which is a line feed; each part gets one lemma, and `skips_parse` chains them in the order the
reader runs them.
-/

namespace WalletAuth
namespace Rfc3339

/-- Reading went from `s` to its tail `r` over bytes none of which is a line feed. -/
def Skips (s r : Input) : Prop := ∃ p, s = p ++ r ∧ (10 : UInt8) ∉ p

namespace Skips

theorem refl (s : Input) : Skips s s := ⟨[], rfl, List.not_mem_nil⟩

theorem trans {s m r : Input} : Skips s m → Skips m r → Skips s r
  | ⟨p, hp, hp10⟩, ⟨q, hq, hq10⟩ =>
    ⟨p ++ q, by rw [hp, hq, List.append_assoc], by simp [hp10, hq10]⟩

theorem cons {b : UInt8} {s r : Input} (hb : b ≠ 10) (h : Skips s r) : Skips (b :: s) r :=
  (show Skips (b :: s) s from ⟨[b], rfl, by simpa [eq_comm] using hb⟩).trans h

theorem of_forall {p r : Input} (h : ∀ b ∈ p, b ≠ 10) : Skips (p ++ r) r :=
  ⟨p, rfl, fun hm => h 10 hm rfl⟩

end Skips

/-! ## Peeling the reader -/

section Peel

variable {ε α β : Type}

theorem bind_ok {x : Except ε α} {f : α → Except ε β} {b : β} (h : x >>= f = .ok b) :
    ∃ a, x = .ok a ∧ f a = .ok b := by
  cases x with
  | error e => cases h
  | ok a => exact ⟨a, rfl, h⟩

/-- A check that throws on failure passed. -/
theorem ite_throw_ok {c : Prop} [Decidable c] {e : ε} {f : α → Except ε β} {g : Except ε β} {b : β}
    (h : (if c then throw e >>= f else g) = .ok b) : ¬c ∧ g = .ok b := by
  by_cases hc : c
  · rw [if_pos hc] at h
    cases h
  · rw [if_neg hc] at h
    exact ⟨hc, h⟩

end Peel

/-! ## Each part skips its bytes -/

theorem ne_lf_of_isDigit {b : UInt8} (h : isDigit b = true) : b ≠ 10 := by
  rintro rfl
  exact absurd h (by decide)

theorem skips_dropWhile (s : Input) : Skips s (s.dropWhile isDigit) := by
  conv_lhs => rw [← List.takeWhile_append_dropWhile (p := isDigit) (l := s)]
  exact Skips.of_forall fun b hb => ne_lf_of_isDigit (List.mem_takeWhile_imp hb)

theorem skips_number {min max v : Nat} {s r : Input} (h : number min max s = .ok (v, r)) :
    Skips s r := by
  unfold number at h
  split at h
  · cases h
  · dsimp only at h
    split at h
    · cases h
    · cases h
      have hdigits : ∀ b ∈ (s.take max).takeWhile isDigit, b ≠ 10 :=
        fun b hb => ne_lf_of_isDigit (List.mem_takeWhile_imp hb)
      -- the digits read are a prefix of the input
      obtain ⟨t, ht⟩ := (List.takeWhile_prefix isDigit).trans (List.take_prefix max s)
      generalize (s.take max).takeWhile isDigit = ds at hdigits ht ⊢
      subst ht
      rw [List.drop_left]
      exact Skips.of_forall hdigits

theorem skips_expect {c : UInt8} (hc : c ≠ 10) {s r : Input} (h : expect c s = .ok r) :
    Skips s r := by
  cases s with
  | nil => cases h
  | cons b rest =>
    simp only [expect] at h
    split at h
    · rename_i hb
      cases h
      exact Skips.cons (by rw [beq_iff_eq.1 hb]; exact hc) (Skips.refl _)
    · cases h

theorem skips_dateTimeSeparator {s r : Input} (h : dateTimeSeparator s = .ok r) : Skips s r := by
  cases s with
  | nil => cases h
  | cons b rest =>
    simp only [dateTimeSeparator] at h
    split at h
    · rename_i hb
      cases h
      refine Skips.cons ?_ (Skips.refl _)
      rintro rfl
      exact absurd hb (by decide)
    · cases h

theorem skips_fraction {v : Nat} {s r : Input} (h : fraction s = .ok (v, r)) : Skips s r := by
  obtain ⟨⟨w, m⟩, hn, h⟩ := bind_ok h
  cases h
  exact (skips_number hn).trans (skips_dropWhile m)

/-- An optional fraction after a point, then the rest of the reading. -/
theorem skips_fractionPart {β : Type} {s : Input} {jp : Nat × Input → Except ParseError β} {b : β}
    (h : (match s with
      | 46 :: rest => fraction rest >>= jp
      | _ => pure (0, s) >>= jp) = .ok b) :
    ∃ nanos r, Skips s r ∧ jp (nanos, r) = .ok b := by
  split at h
  · obtain ⟨⟨nanos, r⟩, hf, h⟩ := bind_ok h
    exact ⟨nanos, r, Skips.cons (by decide) (skips_fraction hf), h⟩
  · exact ⟨0, s, Skips.refl _, h⟩

theorem twoDigits?_eq_some {s r : Input} {a b : UInt8} (h : twoDigits? s = some (a, b, r)) :
    s = a :: b :: r := by
  unfold twoDigits? at h
  split at h
  · cases h
    rfl
  · cases h

/-- Two digits, then the rest. -/
theorem skips_digits {s r : Input} {a b : UInt8} (h : twoDigits? s = some (a, b, r))
    (hd : (isDigit a && isDigit b) = true) : Skips s r := by
  rw [twoDigits?_eq_some h]
  simp only [Bool.and_eq_true] at hd
  exact Skips.cons (ne_lf_of_isDigit hd.1) (Skips.cons (ne_lf_of_isDigit hd.2) (Skips.refl r))

/-- The sign of an offset: `+`, `-` or the three bytes of `−`. -/
theorem skips_sign {b : UInt8} {rest r : Input} {neg : Bool}
    (h : (if (b == 43) = true then some (false, rest)
      else if (b == 45) = true then some (true, rest)
      else match b :: rest with
        | 226 :: 136 :: 146 :: r => some (true, r)
        | _ => none) = some (neg, r)) : Skips (b :: rest) r := by
  split at h
  · rename_i hb
    cases h
    exact Skips.cons (by rw [beq_iff_eq.1 hb]; decide) (Skips.refl _)
  · split at h
    · rename_i hb
      cases h
      exact Skips.cons (by rw [beq_iff_eq.1 hb]; decide) (Skips.refl _)
    · split at h
      · rename_i heq
        cases h
        rw [heq]
        exact Skips.cons (by decide) (Skips.cons (by decide) (Skips.cons (by decide) (Skips.refl _)))
      · cases h

theorem skips_offset {off : Int} {s r : Input} (h : offset (expect 58) s = .ok (off, r)) :
    Skips s r := by
  unfold offset at h
  cases s with
  | nil => cases h
  | cons b rest =>
    dsimp only at h
    split at h
    · -- `Z` or `z`
      rename_i hb
      cases h
      refine Skips.cons ?_ (Skips.refl _)
      rintro rfl
      exact absurd hb (by decide)
    · split at h
      · cases h
      · -- a sign, two hour digits, the separator and two minute digits
        rename_i neg r₁ hsign
        split at h
        · cases h
        · rename_i h₁ h₂ r₂ hhour
          split at h
          · cases h
          · rename_i hdigits
            obtain ⟨r₃, hsep, h⟩ := bind_ok h
            split at h
            · cases h
            · rename_i m₁ m₂ r₄ hminute
              split at h
              · rename_i hm
                split at h
                · cases h
                · cases h
                  exact (skips_sign hsign).trans <|
                    (skips_digits hhour (by simpa using hdigits)).trans <|
                      (skips_expect (by decide) hsep).trans (skips_digits hminute hm)
              · cases h

/-! ## The whole text -/

/-- A text that reads as a date-time is skipped to its end. -/
theorem skips_parse {text : String} {t : Instant} (h : parse text = .ok t) :
    Skips text.toUTF8.toList [] := by
  unfold parse at h
  obtain ⟨-, h⟩ := ite_throw_ok h
  obtain ⟨⟨year, s₁⟩, h₁, h⟩ := bind_ok h
  obtain ⟨s₂, h₂, h⟩ := bind_ok h
  obtain ⟨⟨month, s₃⟩, h₃, h⟩ := bind_ok h
  obtain ⟨s₄, h₄, h⟩ := bind_ok h
  obtain ⟨⟨day, s₅⟩, h₅, h⟩ := bind_ok h
  obtain ⟨-, h⟩ := ite_throw_ok h
  obtain ⟨s₆, h₆, h⟩ := bind_ok h
  obtain ⟨⟨hour, s₇⟩, h₇, h⟩ := bind_ok h
  obtain ⟨s₈, h₈, h⟩ := bind_ok h
  obtain ⟨⟨minute, s₉⟩, h₉, h⟩ := bind_ok h
  obtain ⟨s₁₀, h₁₀, h⟩ := bind_ok h
  obtain ⟨⟨second, s₁₁⟩, h₁₁, h⟩ := bind_ok h
  obtain ⟨nanos, s₁₂, hs₁₂, h⟩ := skips_fractionPart h
  obtain ⟨-, h⟩ := ite_throw_ok h
  obtain ⟨⟨off, s₁₃⟩, h₁₃, h⟩ := bind_ok h
  obtain ⟨hempty, -⟩ := ite_throw_ok h
  have hs₁₃ : s₁₃ = [] := by simpa using hempty
  subst hs₁₃
  exact (skips_number h₁).trans <| (skips_expect (by decide) h₂).trans <|
    (skips_number h₃).trans <| (skips_expect (by decide) h₄).trans <|
    (skips_number h₅).trans <| (skips_dateTimeSeparator h₆).trans <|
    (skips_number h₇).trans <| (skips_expect (by decide) h₈).trans <|
    (skips_number h₉).trans <| (skips_expect (by decide) h₁₀).trans <|
    (skips_number h₁₁).trans <| hs₁₂.trans (skips_offset h₁₃)

/-- A text that reads as a date-time has no line feed. -/
theorem lf_not_mem_of_parse {text : String} {t : Instant} (h : parse text = .ok t) :
    '\n' ∉ text.toList := by
  intro hlf
  obtain ⟨p, hp, hp10⟩ := skips_parse h
  rw [List.append_nil] at hp
  apply hp10
  rw [← hp, Text.toUTF8_toList]
  exact List.mem_flatMap.2 ⟨'\n', hlf, by decide⟩

end Rfc3339
end WalletAuth
