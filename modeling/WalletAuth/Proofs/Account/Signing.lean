import Mathlib
import WalletAuth.Proofs.Encoding.Bytes
import WalletAuth.Account.Signature

/-!
# WalletAuth.Proofs.Account.Signing — what a key signs is what the verifier accepts

A key signs the personal-message digest of a text and writes `r ‖ s ‖ v`, with `s` already in
the low half and `v = 27 + parity`. The verifier reads the same 65 bytes back: `r` and `s`
from their 32 bytes each, the parity from `v`, which may be 0, 1, 27 or 28. So what a key
signs parses back to the very signature it made (`parseSignature?_signText`), the low-`s`
fold leaves it alone, and the verifier recovers what ECDSA recovery gives for that signature.
Granted that recovery gives the signing key's public key, the verifier answers the key's
account when it is the one claimed and a mismatch otherwise (`signer_verifier_agree`).

The recovery byte is read only for its parity, so `v` and `v − 27` verify alike; a signature
is malformed exactly when it is not 65 bytes long or its last byte is none of the four.
-/

namespace WalletAuth

/-! ## Signatures as signing makes them -/

namespace Ecdsa

open Secp256k1

theorem n_pos : 0 < n := by decide

/-- The scalar order fits in 32 bytes. -/
theorem n_lt : n < 256 ^ 32 := by decide

/-- A signature in the low half is left as it is by the fold. -/
theorem lowS_of_le {sig : Signature} (h : sig.s ≤ n / 2) : sig.lowS = sig := by
  have : ¬ sig.s > n / 2 := by omega
  simp [Signature.lowS, this]

/-- The fold brings a value below `n` into the low half, and keeps `r`. -/
theorem lowS_bounds {sig : Signature} (h : sig.s < n) : sig.lowS.r = sig.r ∧ sig.lowS.s ≤ n / 2 := by
  unfold Signature.lowS
  split
  · exact ⟨rfl, by simp only; omega⟩
  · exact ⟨rfl, by omega⟩

/-- Signing gives an `r` below `n` and an `s` in the low half. -/
theorem sign_bounds {d : Nat} {hash : ByteArray} {sig : Signature} (h : sign d hash = some sig) :
    sig.r < n ∧ sig.s ≤ n / 2 := by
  simp only [sign, Option.bind_eq_bind, Option.bind_eq_some_iff] at h
  obtain ⟨k, -, R, -, h⟩ := h
  split at h
  · cases h
  · cases h
    have hlt : (⟨R.x % n, invMod n k * ((BigEndian.toNat hash + R.x % n * d) % n) % n,
        R.y % 2 == 1⟩ : Signature).s < n := Nat.mod_lt _ n_pos
    obtain ⟨hr, hs⟩ := lowS_bounds hlt
    exact ⟨hr ▸ Nat.mod_lt _ n_pos, hs⟩

end Ecdsa

/-! ## The bytes of a signature read back -/

namespace BigEndian

theorem ofNat_size (w v : Nat) : (ofNat w v).data.toList.length = w := by
  simp [ofNat_toList]

theorem toNat_ofNat_of_lt {w v : Nat} (h : v < 256 ^ w) : toNat (ofNat w v) = v := by
  rw [toNat_ofNat, Nat.mod_eq_of_lt h]

end BigEndian

/-- The recovery byte written for a parity reads back as that parity. -/
theorem recoveryParity?_written (odd : Bool) :
    recoveryParity? (if odd then 28 else 27) = some odd := by
  cases odd <;> rfl

/-- A recovery byte has no parity exactly when it is none of 0, 1, 27 and 28. -/
theorem recoveryParity?_eq_none_iff (v : UInt8) :
    recoveryParity? v = none ↔ v ∉ ([0, 1, 27, 28] : List UInt8) := by
  simp only [recoveryParity?, Bool.or_eq_true, beq_iff_eq, List.mem_cons, List.not_mem_nil, or_false]
  split_ifs with heven hodd
  · rcases heven with rfl | rfl <;> decide
  · rcases hodd with rfl | rfl <;> decide
  · simp only [true_iff]
    tauto

/-- `v` and `v − 27` name the same parity, for `v` 27 or 28. -/
theorem recoveryParity?_sub_27 {v : UInt8} (hv : v = 27 ∨ v = 28) :
    recoveryParity? (v - 27) = recoveryParity? v := by
  rcases hv with rfl | rfl <;> rfl

/-- What the verifier reads from bytes depends on their length, their first 64 bytes and the
parity of the last. -/
theorem parseSignature?_eq (bytes : ByteArray) :
    parseSignature? bytes = if bytes.size = 65 then
      (recoveryParity? (bytes.data.toList[64]!)).map fun odd =>
        ⟨BigEndian.toNat ⟨(bytes.data.toList.take 32).toArray⟩,
          BigEndian.toNat ⟨((bytes.data.toList.drop 32).take 32).toArray⟩, odd⟩
      else none := by
  have hfirst : BigEndian.toNat (bytes.extract 0 32) =
      BigEndian.toNat ⟨(bytes.data.toList.take 32).toArray⟩ := by
    rw [BigEndian.toNat_eq, BigEndian.toNat_eq, ByteArray.data_extract, Array.toList_extract]
    simp [List.extract]
  have hsecond : BigEndian.toNat (bytes.extract 32 64) =
      BigEndian.toNat ⟨((bytes.data.toList.drop 32).take 32).toArray⟩ := by
    rw [BigEndian.toNat_eq, BigEndian.toNat_eq, ByteArray.data_extract, Array.toList_extract]
  have hlast : bytes.get! 64 = bytes.data.toList[64]! := by
    rcases bytes with ⟨data⟩
    exact Array.getElem!_toList.symm
  simp only [parseSignature?, signatureLength, hfirst, hsecond, hlast, ne_eq, ite_not]

/-- The 65 bytes of `r`, `s` and a recovery byte read back as `r`, `s` and its parity. -/
theorem parseSignature?_bytes {r s : Nat} (hr : r < 256 ^ 32) (hs : s < 256 ^ 32) (v : UInt8) :
    parseSignature? (BigEndian.ofNat 32 r ++ BigEndian.ofNat 32 s ++ ⟨#[v]⟩) =
      (recoveryParity? v).map fun odd => ⟨r, s, odd⟩ := by
  have hlist : (BigEndian.ofNat 32 r ++ BigEndian.ofNat 32 s ++ ⟨#[v]⟩).data.toList =
      (BigEndian.ofNat 32 r).data.toList ++ (BigEndian.ofNat 32 s).data.toList ++ [v] := by
    simp [ByteArray.data_append]
  have hr32 := BigEndian.ofNat_size 32 r
  have hs32 := BigEndian.ofNat_size 32 s
  have hsize : (BigEndian.ofNat 32 r ++ BigEndian.ofNat 32 s ++ ⟨#[v]⟩).size = 65 := by
    rw [← ByteArray.size_data, ← Array.length_toList, hlist]
    simp [hr32, hs32]
  rw [parseSignature?_eq, if_pos hsize, hlist]
  have htake : ((BigEndian.ofNat 32 r).data.toList ++ (BigEndian.ofNat 32 s).data.toList ++ [v]).take 32 =
      (BigEndian.ofNat 32 r).data.toList := by
    rw [List.append_assoc, List.take_left' hr32]
  have hdrop : (((BigEndian.ofNat 32 r).data.toList ++ (BigEndian.ofNat 32 s).data.toList ++ [v]).drop 32).take 32 =
      (BigEndian.ofNat 32 s).data.toList := by
    rw [List.append_assoc, List.drop_left' hr32, List.take_left' hs32]
  have hlast : ((BigEndian.ofNat 32 r).data.toList ++ (BigEndian.ofNat 32 s).data.toList ++ [v])[64]! = v := by
    rw [getElem!_pos _ 64 (by simp [hr32, hs32])]
    rw [List.getElem_append_right (by simp [hr32, hs32])]
    simp [hr32, hs32]
  rw [htake, hdrop, hlast, Array.toArray_toList, Array.toArray_toList,
    BigEndian.toNat_ofNat_of_lt hr, BigEndian.toNat_ofNat_of_lt hs]

/-- What a key signs parses back to the signature it made. -/
theorem parseSignature?_signText {k : SecretKey} {text : String} {sig : Ecdsa.Signature}
    (h : Ecdsa.sign k.d (personalDigest text) = some sig) :
    ∃ bytes, k.signText text = .ok bytes ∧ parseSignature? bytes = some sig := by
  obtain ⟨hr, hs⟩ := Ecdsa.sign_bounds h
  have hn := Ecdsa.n_lt
  have hsign : k.signText text = .ok (BigEndian.ofNat 32 sig.r ++ BigEndian.ofNat 32 sig.s ++
      ⟨#[if sig.odd then 28 else 27]⟩) := by
    rw [SecretKey.signText, h]
    rfl
  refine ⟨_, hsign, ?_⟩
  rw [parseSignature?_bytes (by omega) (by omega), recoveryParity?_written]
  rfl


/-- Changing only the recovery byte of a 65-byte signature to one of the same parity changes
nothing the verifier reads. -/
theorem parseSignature?_set_recovery {bytes : ByteArray} (hsize : bytes.size = 65) {x : UInt8}
    (hx : recoveryParity? x = recoveryParity? (bytes.get! 64)) :
    parseSignature? (bytes.set! 64 x) = parseSignature? bytes := by
  rcases bytes with ⟨data⟩
  have hlen : data.toList.length = 65 := by
    rw [Array.length_toList]
    exact hsize
  have hset : (ByteArray.set! ⟨data⟩ 64 x).data.toList = data.toList.set 64 x := by
    simp [ByteArray.set!]
  have hsize' : (ByteArray.set! ⟨data⟩ 64 x).size = 65 := by
    rw [← ByteArray.size_data, ← Array.length_toList, hset, List.length_set, hlen]
  have hlast : (data.toList.set 64 x)[64]! = x := by
    rw [getElem!_pos _ 64 (by simp [hlen]), List.getElem_set_self]
  have hget : ByteArray.get! ⟨data⟩ 64 = data.toList[64]! := Array.getElem!_toList.symm
  have htake : (data.toList.set 64 x).take 32 = data.toList.take 32 := by
    rw [List.take_set_of_le (by omega)]
  have hdrop : ((data.toList.set 64 x).drop 32).take 32 = (data.toList.drop 32).take 32 := by
    rw [List.drop_set, if_neg (by omega), List.take_set_of_le (by omega)]
  rw [parseSignature?_eq, parseSignature?_eq, if_pos hsize', if_pos hsize, hset, hlast, htake,
    hdrop, hx, hget]

/-! ## What the verifier answers -/

/-- The verifier refuses a signature as malformed exactly when it is not 65 bytes long or its
recovery byte is none of 0, 1, 27 and 28; past that it fails only at recovery or at the
comparison. -/
theorem verifySignature_malformed_iff (text : String) (bytes : ByteArray) (claimed : Address) :
    verifySignature text bytes claimed = .error .malformedSignature ↔
      bytes.size ≠ 65 ∨ bytes.get! 64 ∉ ([0, 1, 27, 28] : List UInt8) := by
  have hnone : parseSignature? bytes = none ↔
      bytes.size ≠ 65 ∨ bytes.get! 64 ∉ ([0, 1, 27, 28] : List UInt8) := by
    rw [← recoveryParity?_eq_none_iff]
    unfold parseSignature?
    by_cases hsize : bytes.size = 65
    · simp [signatureLength, hsize]
    · simp [signatureLength, hsize]
  rw [← hnone]
  unfold verifySignature
  cases parseSignature? bytes with
  | none => simp
  | some sig =>
    simp only [reduceCtorEq, iff_false]
    cases recoverSigner text sig with
    | none => simp
    | some a => by_cases ha : a = claimed <;> simp [ha]

/-- A recovery byte of 27 or 28 verifies as its parity alone, 0 or 1. -/
theorem verifySignature_sub_27 (text : String) (claimed : Address) {bytes : ByteArray}
    (hsize : bytes.size = 65) (hv : bytes.get! 64 = 27 ∨ bytes.get! 64 = 28) :
    verifySignature text (bytes.set! 64 (bytes.get! 64 - 27)) claimed =
      verifySignature text bytes claimed := by
  unfold verifySignature
  rw [parseSignature?_set_recovery hsize (recoveryParity?_sub_27 hv)]

/-- Granted that recovery gives the signing key's public key for the signature it made, the
verifier reads what the key signed as the key's account: accepted when that account is the
one claimed, a mismatch otherwise. -/
theorem verifySignature_signText {k : SecretKey} {text : String} {sig : Ecdsa.Signature}
    {P : Secp256k1.Point} (hsign : Ecdsa.sign k.d (personalDigest text) = some sig)
    (hkey : k.publicKey? = some P) (hrecover : Ecdsa.recover (personalDigest text) sig = some P) :
    ∃ bytes, k.signText text = .ok bytes ∧ ∀ claimed, verifySignature text bytes claimed =
      if claimed = k.address then .ok k.address else .error .signatureMismatch := by
  obtain ⟨bytes, hbytes, hparse⟩ := parseSignature?_signText hsign
  refine ⟨bytes, hbytes, fun claimed => ?_⟩
  -- signing already folded `s` into the low half, so recovery sees the signature as made
  have hlow : sig.lowS = sig := Ecdsa.lowS_of_le (Ecdsa.sign_bounds hsign).2
  have hsigner : recoverSigner text sig = some k.address := by
    rw [recoverSigner, hlow, hrecover, SecretKey.address, hkey]
    rfl
  rw [verifySignature, hparse]
  dsimp only
  rw [hsigner]
  dsimp only
  by_cases hclaimed : claimed = k.address
  · rw [if_pos hclaimed.symm, if_pos hclaimed]
  · rw [if_neg (Ne.symm hclaimed), if_neg hclaimed]

/-- Signer and verifier agree. Granted that recovery gives the signing key's public key for the
signature it made, what a key signs verifies as the key's account when that account is claimed
and as a mismatch against any other; a recovery byte 27 or 28 verifies as its parity 0 or 1;
and a signature is malformed exactly when it is not 65 bytes long or its recovery byte is none
of 0, 1, 27 and 28. -/
theorem signer_verifier_agree {k : SecretKey} {text : String} {sig : Ecdsa.Signature}
    {P : Secp256k1.Point} (hsign : Ecdsa.sign k.d (personalDigest text) = some sig)
    (hkey : k.publicKey? = some P) (hrecover : Ecdsa.recover (personalDigest text) sig = some P) :
    (∃ bytes, k.signText text = .ok bytes ∧ ∀ claimed, verifySignature text bytes claimed =
      if claimed = k.address then .ok k.address else .error .signatureMismatch) ∧
    (∀ (m : String) (bytes : ByteArray) (claimed : Address), bytes.size = 65 →
      (bytes.get! 64 = 27 ∨ bytes.get! 64 = 28) →
      verifySignature m (bytes.set! 64 (bytes.get! 64 - 27)) claimed =
        verifySignature m bytes claimed) ∧
    (∀ (m : String) (bytes : ByteArray) (claimed : Address),
      verifySignature m bytes claimed = .error .malformedSignature ↔
        bytes.size ≠ 65 ∨ bytes.get! 64 ∉ ([0, 1, 27, 28] : List UInt8)) :=
  ⟨verifySignature_signText hsign hkey hrecover,
    fun m _ claimed hsize hv => verifySignature_sub_27 m claimed hsize hv,
    verifySignature_malformed_iff⟩

end WalletAuth
