import WalletAuth.Proofs.Encoding.Bytes

/-!
# WalletAuth.Proofs.Encoding.Hex — hexadecimal digits of byte strings

Each byte is written as two lowercase digits, so the digits of a byte string determine it.
For accounts: `Address.lowerHex` has 40 digits and names one account, which is what makes the
key of a nonce record in the key-value server name one account and nonce.
-/

namespace WalletAuth
namespace Hex

/-- The two lowercase digits of a byte. -/
def digitPair (x : UInt8) : List Char := [digitChar (x.toNat / 16), digitChar (x.toNat % 16)]

/-- The sixteen digits are distinct. -/
theorem digitChar_injective : ∀ u v : Fin 16, digitChar u = digitChar v → u = v := by
  decide

theorem digitPair_injective {x y : UInt8} (h : digitPair x = digitPair y) : x = y := by
  simp only [digitPair, List.cons.injEq, and_true] at h
  have hx : x.toNat < 256 := x.toNat_lt
  have hy : y.toNat < 256 := y.toNat_lt
  have hhi := digitChar_injective ⟨x.toNat / 16, by omega⟩ ⟨y.toNat / 16, by omega⟩ h.1
  have hlo := digitChar_injective ⟨x.toNat % 16, by omega⟩ ⟨y.toNat % 16, by omega⟩ h.2
  simp only [Fin.mk.injEq] at hhi hlo
  exact UInt8.toNat_inj.1 (by omega)

theorem encode_toList (b : ByteArray) : (encode b).toList = b.data.toList.flatMap digitPair := by
  rw [encode, String.toList_ofList, Bytes.toList_eq]
  rfl

theorem digitChar_isAlphanum : ∀ v : Fin 16, (digitChar v).isAlphanum = true := by
  decide

/-- Hex digits are letters and digits. -/
theorem encode_isAlphanum (b : ByteArray) : ∀ ch ∈ (encode b).toList, ch.isAlphanum = true := by
  rw [encode_toList]
  intro ch hch
  obtain ⟨x, -, hx⟩ := List.mem_flatMap.1 hch
  simp only [digitPair, List.mem_cons, List.not_mem_nil, or_false] at hx
  have hx256 : x.toNat < 256 := x.toNat_lt
  rcases hx with rfl | rfl
  · exact digitChar_isAlphanum ⟨x.toNat / 16, by omega⟩
  · exact digitChar_isAlphanum ⟨x.toNat % 16, by omega⟩

theorem length_flatMap_digitPair (l : List UInt8) :
    (l.flatMap digitPair).length = 2 * l.length := by
  induction l with
  | nil => rfl
  | cons x l ih =>
    simp only [List.flatMap_cons, List.length_append, ih, List.length_cons]
    simp [digitPair]
    omega

/-- Two digits a byte: the digits of a byte string give the byte string back. -/
theorem flatMap_digitPair_injective :
    ∀ {l l' : List UInt8}, l.flatMap digitPair = l'.flatMap digitPair → l = l'
  | [], [], _ => rfl
  | [], _ :: _, h | _ :: _, [], h => by simp [digitPair] at h
  | x :: l, y :: l', h => by
    simp only [List.flatMap_cons, digitPair, List.cons_append, List.nil_append,
      List.cons.injEq] at h
    obtain ⟨h₁, h₂, hrest⟩ := h
    have hxy : x = y := digitPair_injective (by simp [digitPair, h₁, h₂])
    rw [hxy, flatMap_digitPair_injective hrest]

end Hex

namespace Address

theorem lowerHex_toList (a : Address) :
    a.lowerHex.toList = a.toBytes.data.toList.flatMap Hex.digitPair :=
  Hex.encode_toList _

theorem lowerHex_length (a : Address) : a.lowerHex.length = 40 := by
  rw [← String.length_toList, lowerHex_toList, Hex.length_flatMap_digitPair, toBytes_length]

/-- The lowercase digits name one account. -/
theorem lowerHex_injective {a a' : Address} (h : a.lowerHex = a'.lowerHex) : a = a' := by
  have hbytes : a.toBytes.data.toList = a'.toBytes.data.toList := by
    apply Hex.flatMap_digitPair_injective
    rw [← lowerHex_toList, ← lowerHex_toList, h]
  have hval : a.val.val = a'.val.val := by
    rw [← toNat_toBytes, ← toNat_toBytes, BigEndian.toNat_eq, BigEndian.toNat_eq, hbytes]
  cases a
  cases a'
  simp only [mk.injEq]
  exact Fin.ext hval

end Address
end WalletAuth
