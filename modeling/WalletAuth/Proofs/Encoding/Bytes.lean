import Mathlib
import WalletAuth.Account.Address

/-!
# WalletAuth.Proofs.Encoding.Bytes — byte strings as lists, numbers as their bytes

Byte strings are packed arrays whose list view and fold are written as index loops; the
first lemmas bring both back to the array's own list, so that facts about encodings can be
proved on lists.

* `BigEndian.toNat_ofNat`: the bytes of a number in `w` places read back as the number modulo
  `256 ^ w`.
* `Address.ofBytes_toBytes`: an account's 20 bytes name the account.
* `Text.toUTF8_toList_of_ascii`: the UTF-8 bytes of an ASCII text are its character codes.
-/

namespace WalletAuth
namespace Bytes

theorem toList_loop (bs : ByteArray) (i : Nat) (r : List UInt8) :
    ByteArray.toList.loop bs i r = r.reverse ++ bs.data.toList.drop i := by
  fun_induction ByteArray.toList.loop bs i r with
  | case1 i r hi ih =>
    have hl : i < bs.data.toList.length := by
      rw [Array.length_toList]
      exact hi
    have hget : bs.get! i = bs.data.toList[i] := by
      rcases bs with ⟨data⟩
      have hd : i < data.size := hi
      simp [ByteArray.get!, getElem!_pos data i hd]
    rw [ih, hget, List.reverse_cons, List.append_assoc, List.singleton_append,
      List.getElem_cons_drop hl]
  | case2 i r hi =>
    have hl : bs.data.toList.length ≤ i := by
      rw [Array.length_toList]
      exact Nat.le_of_not_lt hi
    rw [List.drop_of_length_le hl, List.append_nil]

theorem toList_eq (bs : ByteArray) : bs.toList = bs.data.toList := by
  simp [ByteArray.toList, toList_loop]

theorem foldlM_loop {β : Type} {m : Type → Type} [Monad m] (f : β → UInt8 → m β)
    (bs : ByteArray) {i j : Nat} (H : bs.size ≤ i + j) (b : β) :
    ByteArray.foldlM.loop f bs bs.size (Nat.le_refl _) i j b =
      (bs.data.toList.drop j).foldlM f b := by
  induction i generalizing j b with
  | zero =>
    unfold ByteArray.foldlM.loop
    have hl : bs.data.toList.length ≤ j := by
      rw [Array.length_toList]
      exact Nat.zero_add j ▸ H
    simp [List.drop_of_length_le hl]
  | succ i ih =>
    unfold ByteArray.foldlM.loop
    split
    · rename_i hj
      have hl : j < bs.data.toList.length := by
        rw [Array.length_toList]
        exact hj
      rw [← List.getElem_cons_drop hl, List.foldlM_cons]
      dsimp only
      congr 1
      funext x
      exact ih (j := j + 1) (by omega) x
    · rename_i hj
      have hl : bs.data.toList.length ≤ j := by
        rw [Array.length_toList]
        exact Nat.le_of_not_lt hj
      simp [List.drop_of_length_le hl]

theorem foldl_eq {β : Type} (f : β → UInt8 → β) (init : β) (bs : ByteArray) :
    bs.foldl f init = bs.data.toList.foldl f init := by
  simp only [ByteArray.foldl, ByteArray.foldlM, Nat.le_refl, dite_true, Nat.sub_zero]
  rw [foldlM_loop _ _ (by omega), List.drop_zero, List.foldl_eq_foldlM]

end Bytes

namespace BigEndian

theorem toNat_eq (bs : ByteArray) :
    toNat bs = bs.data.toList.foldl (fun acc b => acc * 256 + b.toNat) 0 :=
  Bytes.foldl_eq _ _ _

theorem ofNat_toList (w v : Nat) : (ofNat w v).data.toList =
    (List.range w).map fun i => (v / 256 ^ (w - 1 - i) % 256).toUInt8 := by
  simp [ofNat]

/-- The bytes of `v` in `w + 1` places: those of `v / 256` in `w` places, then `v`'s low byte. -/
theorem ofNat_succ_toList (w v : Nat) : (ofNat (w + 1) v).data.toList =
    (ofNat w (v / 256)).data.toList ++ [(v % 256).toUInt8] := by
  rw [ofNat_toList, ofNat_toList, List.range_succ, List.map_append]
  congr 1
  · refine List.map_congr_left fun i hi => ?_
    have hi : i < w := List.mem_range.1 hi
    have hexp : w + 1 - 1 - i = (w - 1 - i) + 1 := by omega
    rw [hexp, Nat.pow_succ', ← Nat.div_div_eq_div_mul]
  · simp

/-- Reading back the bytes of `v` in `w` places gives `v` modulo `256 ^ w`. -/
theorem toNat_ofNat (w v : Nat) : toNat (ofNat w v) = v % 256 ^ w := by
  induction w generalizing v with
  | zero => simp [toNat_eq, ofNat_toList, Nat.mod_one]
  | succ w ih =>
    have hlow : ((v % 256).toUInt8).toNat = v % 256 := by
      simp [Nat.toUInt8]
    have hrest := ih (v / 256)
    rw [toNat_eq] at hrest ⊢
    rw [ofNat_succ_toList, List.foldl_append, hrest, List.foldl_cons, List.foldl_nil, hlow,
      Nat.pow_succ', Nat.mod_mul]
    omega

end BigEndian

namespace Address

theorem toNat_toBytes (a : Address) : BigEndian.toNat a.toBytes = a.val.val := by
  rw [toBytes, BigEndian.toNat_ofNat]
  exact Nat.mod_eq_of_lt (by simp)

theorem ofBytes_toBytes (a : Address) : ofBytes a.toBytes = a := by
  rw [ofBytes, toNat_toBytes]
  simp

theorem toBytes_length (a : Address) : a.toBytes.data.toList.length = 20 := by
  simp [toBytes, BigEndian.ofNat_toList]

end Address

namespace Text

/-- The UTF-8 bytes of a text, character by character. -/
theorem toUTF8_toList (s : String) : s.toUTF8.toList = s.toList.flatMap String.utf8EncodeChar := by
  conv_lhs => rw [← String.ofList_toList (s := s)]
  rw [Bytes.toList_eq, String.toUTF8_eq_toByteArray, String.toByteArray_ofList, List.utf8Encode,
    List.data_toByteArray, List.toList_toArray]

theorem flatMap_utf8EncodeChar_of_ascii :
    ∀ (l : List Char), (∀ c ∈ l, c.toNat < 128) →
      l.flatMap String.utf8EncodeChar = l.map Char.toUInt8
  | [], _ => rfl
  | c :: l, h => by
    -- an ASCII character is one byte, its code
    have hc : c.utf8Size = 1 := by
      rw [Char.utf8Size_eq_one_iff, UInt32.le_iff_toNat_le]
      have := h c List.mem_cons_self
      exact Nat.le_of_lt_succ this
    rw [List.flatMap_cons, String.utf8EncodeChar_eq_singleton hc, Char.toUInt8_val, List.map_cons,
      flatMap_utf8EncodeChar_of_ascii l (fun d hd => h d (List.mem_cons_of_mem c hd))]
    rfl

/-- The UTF-8 bytes of an ASCII text are the codes of its characters. -/
theorem toUTF8_toList_of_ascii {s : String} (h : ∀ c ∈ s.toList, c.toNat < 128) :
    s.toUTF8.toList = s.toList.map Char.toUInt8 := by
  rw [toUTF8_toList, flatMap_utf8EncodeChar_of_ascii _ h]

end Text

end WalletAuth
