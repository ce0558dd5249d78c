import Mathlib
import WalletAuth.Proofs.Encoding.Hex

/-!
# WalletAuth.Proofs.Account.Checksum — the checksummed text of an account reads back

`Address.checksummed` writes `0x` and the forty lowercase digits of an account, some letters
raised to capitals by the digest of those digits (EIP-55). Hex decoding reads a digit in either
case as one value, so whatever the digest chose, the text decodes to the account's bytes
(`parseHex_checksummed`), and the checksum test then compares the text with itself
(`parseChecksummed_checksummed`).

The text is ASCII, its UTF-8 bytes are its character codes, and it holds no line feed
(`lf_not_mem_checksummed`), so it is one line of a message.
-/

namespace WalletAuth
namespace Hex

/-- `c` is the digit `d`, perhaps raised to a capital. -/
def CaseOf (c d : Char) : Prop := c = d ∨ c = d.toUpper

/-- A character raised to a capital or not is a case of itself. -/
theorem caseOf_ite (p : Prop) [Decidable p] (c : Char) : CaseOf (if p then c.toUpper else c) c := by
  by_cases hp : p
  · exact Or.inr (if_pos hp)
  · exact Or.inl (if_neg hp)

/-- A digit in either case decodes to its value, and is an ASCII character other than a line
feed. -/
theorem digitChar_caseOf : ∀ v : Fin 16, ∀ up : Bool,
    let c := if up then (digitChar v).toUpper else digitChar v
    digitValue c.toUInt8 = some (UInt8.ofNat v) ∧ c.toNat < 128 ∧ c ≠ '\n' := by
  decide

theorem CaseOf.digitChar {c : Char} {v : Nat} (hv : v < 16) (h : CaseOf c (digitChar v)) :
    digitValue c.toUInt8 = some (UInt8.ofNat v) ∧ c.toNat < 128 ∧ c ≠ '\n' := by
  rcases h with rfl | rfl
  · exact digitChar_caseOf ⟨v, hv⟩ false
  · exact digitChar_caseOf ⟨v, hv⟩ true

/-- Each digit of bytes is the digit of a value below 16. -/
theorem mem_flatMap_digitPair {d : Char} {l : List UInt8} (h : d ∈ l.flatMap digitPair) :
    ∃ v < 16, d = digitChar v := by
  obtain ⟨x, -, hx⟩ := List.mem_flatMap.1 h
  simp only [digitPair, List.mem_cons, List.not_mem_nil, or_false] at hx
  have := x.toNat_lt
  rcases hx with rfl | rfl
  · exact ⟨x.toNat / 16, by omega, rfl⟩
  · exact ⟨x.toNat % 16, by omega, rfl⟩

/-- A character of digits raised in places is a digit, in one case or the other. -/
theorem exists_digitChar_of_mem {c : Char} {cs ds : List Char} (hcs : List.Forall₂ CaseOf cs ds)
    (hds : ∀ d ∈ ds, ∃ v < 16, d = digitChar v) (hc : c ∈ cs) :
    ∃ v < 16, CaseOf c (digitChar v) := by
  induction hcs with
  | nil => cases hc
  | cons hcd _ ih =>
    rcases List.mem_cons.1 hc with rfl | hc
    · obtain ⟨v, hv, rfl⟩ := hds _ List.mem_cons_self
      exact ⟨v, hv, hcd⟩
    · exact ih (fun d hd => hds d (List.mem_cons_of_mem _ hd)) hc

/-- The high and low digit of a byte give the byte. -/
theorem byte_of_digits (x : UInt8) : UInt8.ofNat (x.toNat / 16) * 16 + UInt8.ofNat (x.toNat % 16) = x := by
  have hx := x.toNat_lt
  apply UInt8.toNat_inj.1
  simp
  omega

/-- Digits of bytes, each in either case, decode to the bytes. -/
theorem decodePairs_of_caseOf :
    ∀ (l : List UInt8) {cs : List Char} (i : Nat), List.Forall₂ CaseOf cs (l.flatMap digitPair) →
      decodePairs (cs.map Char.toUInt8) i = .ok l
  | [], _, _, h => by
    rw [List.flatMap_nil, List.forall₂_nil_right_iff] at h
    subst h
    rfl
  | x :: l, cs, i, h => by
    rw [List.flatMap_cons, digitPair, List.cons_append, List.cons_append, List.nil_append] at h
    obtain ⟨hi, lo, rest, hhi, hlo, hrest, rfl⟩ : ∃ hi lo rest, CaseOf hi (digitChar (x.toNat / 16)) ∧
        CaseOf lo (digitChar (x.toNat % 16)) ∧ List.Forall₂ CaseOf rest (l.flatMap digitPair) ∧
        cs = hi :: lo :: rest := by
      cases h with
      | cons hhi h =>
        cases h with
        | cons hlo hrest => exact ⟨_, _, _, hhi, hlo, hrest, rfl⟩
    have := x.toNat_lt
    obtain ⟨hh, -⟩ := hhi.digitChar (by omega)
    obtain ⟨hl, -⟩ := hlo.digitChar (by omega)
    simp only [List.map_cons, decodePairs, hh, hl, decodePairs_of_caseOf l (i + 2) hrest,
      Except.map, byte_of_digits]

end Hex

namespace Address

/-- Raising characters to capitals by any rule on their places keeps each one a case of itself. -/
theorem forall₂_map_zipIdx {f : Char × Nat → Char} (hf : ∀ c i, Hex.CaseOf (f (c, i)) c) :
    ∀ (l : List Char) (n : Nat), List.Forall₂ Hex.CaseOf ((l.zipIdx n).map f) l
  | [], _ => List.Forall₂.nil
  | c :: l, n => by
    rw [List.zipIdx_cons, List.map_cons]
    exact List.Forall₂.cons (hf c n) (forall₂_map_zipIdx hf l (n + 1))

/-- Each checksummed digit is the lowercase digit or its capital. -/
theorem checksumDigits_caseOf (lower : String) :
    List.Forall₂ Hex.CaseOf (checksumDigits lower).toList lower.toList := by
  rw [checksumDigits, String.toList_ofList]
  apply forall₂_map_zipIdx
  intro c i
  exact Hex.caseOf_ite _ c

theorem checksummed_toList (a : Address) :
    a.checksummed.toList = '0' :: 'x' :: (checksumDigits a.lowerHex).toList := by
  simp [checksummed]

/-- The checksummed digits of an account are its bytes' digits, each in either case. -/
theorem checksumDigits_lowerHex (a : Address) :
    List.Forall₂ Hex.CaseOf (checksumDigits a.lowerHex).toList (a.toBytes.data.toList.flatMap Hex.digitPair) := by
  rw [← lowerHex_toList]
  exact checksumDigits_caseOf _

theorem ascii_checksummed (a : Address) : ∀ c ∈ a.checksummed.toList, c.toNat < 128 ∧ c ≠ '\n' := by
  intro c hc
  rw [checksummed_toList] at hc
  rcases List.mem_cons.1 hc with rfl | hc
  · decide
  rcases List.mem_cons.1 hc with rfl | hc
  · decide
  obtain ⟨v, hv, hcv⟩ :=
    Hex.exists_digitChar_of_mem (checksumDigits_lowerHex a) (fun _ => Hex.mem_flatMap_digitPair) hc
  exact (hcv.digitChar hv).2

/-- The checksummed text is one line. -/
theorem lf_not_mem_checksummed (a : Address) : '\n' ∉ a.checksummed.toList :=
  fun h => (ascii_checksummed a _ h).2 rfl

theorem toUTF8_checksummed (a : Address) :
    a.checksummed.toUTF8.toList = 48 :: 120 :: (checksumDigits a.lowerHex).toList.map Char.toUInt8 := by
  rw [Text.toUTF8_toList_of_ascii (fun c hc => (ascii_checksummed a c hc).1), checksummed_toList]
  rfl

/-- The checksummed text decodes, in any case, to the account. -/
theorem parseHex_checksummed (a : Address) : parseHex a.checksummed = .ok a := by
  have hdigits := checksumDigits_lowerHex a
  have hlen : (checksumDigits a.lowerHex).toList.length = 40 := by
    rw [hdigits.length_eq, Hex.length_flatMap_digitPair, toBytes_length]
  have hdecode := Hex.decodePairs_of_caseOf _ 0 hdigits
  simp only [parseHex, Hex.decodeExact, toUTF8_checksummed, List.length_cons, List.length_map,
    hlen, Hex.stripPrefix, hdecode]
  -- the decoded bytes are the account's bytes
  change Except.ok (ofBytes ⟨a.toBytes.data.toList.toArray⟩) = _
  rw [Array.toArray_toList, ofBytes_toBytes]

/-- The checksummed text of an account is read back as the account. -/
theorem parseChecksummed_checksummed (a : Address) : parseChecksummed a.checksummed = .ok a := by
  have hprefix : a.checksummed.startsWith "0x" = true := by simp [checksummed]
  simp [parseChecksummed, hprefix, parseHex_checksummed]

end Address
end WalletAuth
