import Mathlib
import WalletAuth.Proofs.Account.Checksum
import WalletAuth.Challenge.Builder

/-!
# WalletAuth.Proofs.Account.Spelling — the texts a caller may name an account by

A caller names an account by `0x` and the forty hex digits of its twenty bytes, written all in
lowercase, all in uppercase, or in the checksummed case (`Address.Spells`). Reading a caller's
account accepts exactly these texts, and the request check refuses every other text as an
invalid address (`parseAccount_grammar`).

Hex reading is blind to case: the digits it reads are the lowercase digits of the bytes it
answers, each perhaps raised to a capital (`Hex.caseOf_of_decodePairs`). A text in one case is
therefore the lowercase or the uppercase spelling of what it reads as, and a text in mixed
case is read only when it is the checksummed spelling.
-/

namespace WalletAuth

/-! ## Bytes read back from their digits -/

namespace BigEndian

/-- The bytes of a number read from `w` bytes, in `w` places, are those bytes. -/
theorem ofNat_toNat (l : List UInt8) :
    (ofNat l.length (toNat ⟨l.toArray⟩)).data.toList = l := by
  induction l using List.reverseRecOn with
  | nil => simp [ofNat_toList]
  | append_singleton l x ih =>
    have hx := x.toNat_lt
    have hfold : toNat ⟨(l ++ [x]).toArray⟩ = toNat ⟨l.toArray⟩ * 256 + x.toNat := by
      simp only [toNat_eq, List.foldl_append, List.foldl_cons, List.foldl_nil]
    have hdiv : toNat ⟨(l ++ [x]).toArray⟩ / 256 = toNat ⟨l.toArray⟩ := by omega
    have hmod : (toNat ⟨(l ++ [x]).toArray⟩ % 256).toUInt8 = x := by
      apply UInt8.toNat_inj.1
      simp [Nat.toUInt8, hfold]
    rw [List.length_append, List.length_singleton, ofNat_succ_toList, hdiv, hmod, ih]

/-- A number read from `w` bytes is below `256 ^ w`. -/
theorem toNat_lt (l : List UInt8) : toNat ⟨l.toArray⟩ < 256 ^ l.length := by
  have h := toNat_ofNat l.length (toNat ⟨l.toArray⟩)
  have hback : ofNat l.length (toNat ⟨l.toArray⟩) = ⟨l.toArray⟩ := by
    apply ByteArray.ext
    apply Array.toList_inj.1
    rw [ofNat_toNat]
  rw [hback] at h
  rw [h]
  exact Nat.mod_lt _ (Nat.pow_pos (by omega))

end BigEndian

namespace Address

/-- Twenty bytes name an account whose bytes they are. -/
theorem toBytes_ofBytes {l : List UInt8} (h : l.length = 20) :
    (ofBytes ⟨l.toArray⟩).toBytes.data.toList = l := by
  have hlt : BigEndian.toNat ⟨l.toArray⟩ < Nat.pow 2 160 := by
    have := BigEndian.toNat_lt l
    rw [h] at this
    simpa using this
  have hval : (ofBytes ⟨l.toArray⟩).val.val = BigEndian.toNat ⟨l.toArray⟩ := by
    simp [ofBytes, Nat.mod_eq_of_lt hlt]
  rw [toBytes, hval, ← h, BigEndian.ofNat_toNat]

end Address

/-! ## Hex digits in either case -/

namespace Hex

/-- The ASCII hex digits, each the digit of its value in one case or the other. -/
theorem ascii_hexDigit : ∀ n : Fin 128, Address.isHexDigit (Char.ofNat n) = true →
    ∃ v : Fin 16, digitValue (Char.ofNat n).toUInt8 = some (UInt8.ofNat v) ∧
      (Char.ofNat n = digitChar v ∨ Char.ofNat n = (digitChar v).toUpper) := by
  decide

/-- A hex digit is ASCII. -/
theorem toNat_lt_of_isHexDigit {c : Char} (h : Address.isHexDigit c = true) : c.toNat < 128 := by
  simp only [Address.isHexDigit, Char.isDigit, Char.le_def, Bool.or_eq_true, Bool.and_eq_true,
    decide_eq_true_eq, UInt32.le_iff_toNat_le] at h
  have : c.toNat = c.val.toNat := rfl
  simp at h
  omega

/-- A hex digit reads as a value below sixteen, and is that value's digit in some case. -/
theorem caseOf_of_isHexDigit {c : Char} (h : Address.isHexDigit c = true) :
    ∃ v < 16, digitValue c.toUInt8 = some (UInt8.ofNat v) ∧ CaseOf c (digitChar v) := by
  have hc : Char.ofNat c.toNat = c := Char.ofNat_toNat c
  obtain ⟨v, hval, hcase⟩ := ascii_hexDigit ⟨c.toNat, toNat_lt_of_isHexDigit h⟩ (by rw [hc]; exact h)
  rw [hc] at hval hcase
  exact ⟨v, v.isLt, hval, hcase⟩

/-- The digits of the byte made of two values below sixteen are the digits of the values. -/
theorem digitPair_ofNat {v w : Nat} (hv : v < 16) (hw : w < 16) :
    digitPair (UInt8.ofNat v * 16 + UInt8.ofNat w) = [digitChar v, digitChar w] := by
  have hnat : (UInt8.ofNat v * 16 + UInt8.ofNat w).toNat = v * 16 + w := by
    rw [UInt8.toNat_add, UInt8.toNat_mul, UInt8.toNat_ofNat', UInt8.toNat_ofNat']
    simp
    omega
  have hhigh : (v * 16 + w) / 16 = v := by omega
  have hlow : (v * 16 + w) % 16 = w := by omega
  rw [digitPair, hnat, hhigh, hlow]

theorem map_eq_ok {α β ε : Type} {f : α → β} {x : Except ε α} {b : β} (h : x.map f = .ok b) :
    ∃ a, x = .ok a ∧ f a = b := by
  cases x with
  | error e => cases h
  | ok a => exact ⟨a, rfl, by simpa [Except.map] using h⟩

/-- Whatever digits decode, they are the lowercase digits of the decoded bytes, each perhaps
raised to a capital. -/
theorem caseOf_of_decodePairs :
    ∀ {cs : List Char} {i : Nat} {l : List UInt8}, (∀ c ∈ cs, Address.isHexDigit c = true) →
      decodePairs (cs.map Char.toUInt8) i = .ok l → List.Forall₂ CaseOf cs (l.flatMap digitPair)
  | [], _, _, _, h => by
    cases h
    exact .nil
  | [_], _, _, _, h => by cases h
  | hi :: lo :: rest, _, _, hall, h => by
    obtain ⟨v, hv, hval, hcase⟩ := caseOf_of_isHexDigit (hall hi (by simp))
    obtain ⟨w, hw, hwal, hcase'⟩ := caseOf_of_isHexDigit (hall lo (by simp))
    simp only [List.map_cons, decodePairs, hval, hwal] at h
    obtain ⟨l', hl', rfl⟩ := map_eq_ok h
    have ih := caseOf_of_decodePairs (fun c hc => hall c (by simp [hc])) hl'
    rw [List.flatMap_cons, digitPair_ofNat hv hw]
    exact .cons hcase (.cons hcase' ih)

/-- Lowering or raising a digit in either case gives the lowered or raised digit. -/
theorem case_digitChar : ∀ v : Fin 16, ∀ up : Bool,
    let c := if up then (digitChar v).toUpper else digitChar v
    c.toLower = digitChar v ∧ c.toUpper = (digitChar v).toUpper ∧ Address.isHexDigit c = true := by
  decide

theorem cases_of_caseOf {c : Char} {v : Nat} (hv : v < 16) (h : CaseOf c (digitChar v)) :
    c.toLower = digitChar v ∧ c.toUpper = (digitChar v).toUpper ∧ Address.isHexDigit c = true := by
  rcases h with rfl | rfl
  · exact case_digitChar ⟨v, hv⟩ false
  · exact case_digitChar ⟨v, hv⟩ true

/-- Hex digits in any cases lower to the lowercase digits and raise to their capitals. -/
theorem forall₂_caseOf_cases {cs ds : List Char} (h : List.Forall₂ CaseOf cs ds)
    (hds : ∀ d ∈ ds, ∃ v < 16, d = digitChar v) :
    cs.map Char.toLower = ds ∧ cs.map Char.toUpper = ds.map Char.toUpper ∧
      ∀ c ∈ cs, Address.isHexDigit c = true := by
  induction h with
  | nil => simp
  | @cons c d cs ds hcd _ ih =>
    obtain ⟨v, hv, rfl⟩ := hds _ List.mem_cons_self
    obtain ⟨hlow, hup, hhex⟩ := cases_of_caseOf hv hcd
    obtain ⟨ihl, ihu, ihh⟩ := ih (fun d hd => hds d (List.mem_cons_of_mem _ hd))
    refine ⟨by simp [hlow, ihl], by simp [hup, ihu], ?_⟩
    intro x hx
    rcases List.mem_cons.1 hx with rfl | hx
    · exact hhex
    · exact ihh x hx

/-- The digits of bytes, in any cases: lowered they are the bytes' digits. -/
theorem forall₂_caseOf_digitPair {cs : List Char} {l : List UInt8}
    (h : List.Forall₂ CaseOf cs (l.flatMap digitPair)) :
    cs.map Char.toLower = l.flatMap digitPair ∧
      cs.map Char.toUpper = (l.flatMap digitPair).map Char.toUpper ∧
      ∀ c ∈ cs, Address.isHexDigit c = true :=
  forall₂_caseOf_cases h fun _ => mem_flatMap_digitPair

end Hex

/-! ## The spellings of an account -/

namespace Address

/-- The texts that name an account: `0x` and its forty digits all in lowercase, all in
uppercase, or in the checksummed case. -/
def Spells (a : Address) (s : String) : Prop :=
  s = "0x" ++ a.lowerHex ∨ s = "0x" ++ a.lowerHex.toUpper ∨ s = a.checksummed

instance (a : Address) (s : String) : Decidable (a.Spells s) :=
  inferInstanceAs (Decidable (_ ∨ _ ∨ _))

/-- Every spelling of an account is `0x` and some case of its lowercase digits. -/
theorem Spells.caseOf {a : Address} {s : String} (h : a.Spells s) :
    ∃ ds, s = "0x" ++ String.ofList ds ∧ List.Forall₂ Hex.CaseOf ds a.lowerHex.toList := by
  rcases h with rfl | rfl | rfl
  · refine ⟨a.lowerHex.toList, by simp, ?_⟩
    exact List.forall₂_same.2 fun c _ => Or.inl rfl
  · refine ⟨a.lowerHex.toList.map Char.toUpper, String.ext (by simp [String.toUpper]), ?_⟩
    exact List.forall₂_map_left_iff.2 (List.forall₂_same.2 fun c _ => Or.inr rfl)
  · exact ⟨(checksumDigits a.lowerHex).toList, by simp [checksummed], checksumDigits_caseOf _⟩

/-- Hex digits behind `0x` are ASCII: their UTF-8 bytes are their codes. -/
theorem toUTF8_prefixed {ds : List Char} (hhex : ∀ c ∈ ds, isHexDigit c = true) :
    ("0x" ++ String.ofList ds).toUTF8.toList = 48 :: 120 :: ds.map Char.toUInt8 := by
  have hascii : ∀ c ∈ ("0x" ++ String.ofList ds).toList, c.toNat < 128 := by
    intro c hc
    simp only [String.toList_append, String.toList_ofList, List.mem_append] at hc
    rcases hc with hc | hc
    · simp at hc
      rcases hc with rfl | rfl <;> decide
    · exact Hex.toNat_lt_of_isHexDigit (hhex c hc)
  rw [Text.toUTF8_toList_of_ascii hascii]
  simpa using ⟨rfl, rfl⟩

/-- Any case of an account's digits behind `0x` decodes to the account. -/
theorem parseHex_of_caseOf {a : Address} {ds : List Char}
    (h : List.Forall₂ Hex.CaseOf ds a.lowerHex.toList) :
    parseHex ("0x" ++ String.ofList ds) = .ok a := by
  rw [lowerHex_toList] at h
  have hlen : ds.length = 40 := by
    rw [h.length_eq, Hex.length_flatMap_digitPair, toBytes_length]
  have hbytes := toUTF8_prefixed (Hex.forall₂_caseOf_digitPair h).2.2
  have hdecode := Hex.decodePairs_of_caseOf _ 0 h
  simp only [parseHex, Hex.decodeExact, hbytes, List.length_cons, List.length_map, hlen,
    Hex.stripPrefix, hdecode]
  -- the decoded bytes are the account's bytes
  change Except.ok (ofBytes ⟨a.toBytes.data.toList.toArray⟩) = _
  rw [Array.toArray_toList, ofBytes_toBytes]

/-- A text `0x` and hex digits that decodes to an account holds its digits in some case. -/
theorem caseOf_of_parseHex {a : Address} {ds : List Char} (hhex : ∀ c ∈ ds, isHexDigit c = true)
    (h : parseHex ("0x" ++ String.ofList ds) = .ok a) :
    List.Forall₂ Hex.CaseOf ds a.lowerHex.toList := by
  simp only [parseHex, Hex.decodeExact, toUTF8_prefixed hhex, List.length_cons, List.length_map,
    Hex.stripPrefix] at h
  split at h
  · cases h
  split at h
  · cases h
  rename_i hodd hlen
  obtain ⟨bytes, hdec, rfl⟩ := Hex.map_eq_ok h
  obtain ⟨l, hl, rfl⟩ := Hex.map_eq_ok hdec
  have hcase := Hex.caseOf_of_decodePairs hhex hl
  have hl20 : l.length = 20 := by
    have := hcase.length_eq
    rw [Hex.length_flatMap_digitPair] at this
    simp only [ne_eq, Decidable.not_not] at hlen
    omega
  rw [lowerHex_toList, toBytes_ofBytes hl20]
  exact hcase

theorem parseAccount_prefixed (ds : List Char) :
    parseAccount ("0x" ++ String.ofList ds) =
      if ds.length = 40 ∧ ∀ c ∈ ds, isHexDigit c = true then
        if ds.map Char.toLower = ds ∨ ds.map Char.toUpper = ds then
          (parseHex ("0x" ++ String.ofList ds)).toOption
        else (parseChecksummed ("0x" ++ String.ofList ds)).toOption
      else none := by
  have hdigits : (("0x" ++ String.ofList ds).drop 2).copy = String.ofList ds := String.ext (by simp)
  have hlower : String.ofList ds = (String.ofList ds).toLower ↔ ds.map Char.toLower = ds := by
    rw [String.ext_iff]
    simp [String.toLower, eq_comm]
  have hupper : String.ofList ds = (String.ofList ds).toUpper ↔ ds.map Char.toUpper = ds := by
    rw [String.ext_iff]
    simp [String.toUpper, eq_comm]
  have hbad : (¬ds.length = 40 ∨ ∃ x ∈ ds, isHexDigit x = false) ↔
      ¬(ds.length = 40 ∧ ∀ c ∈ ds, isHexDigit c = true) := by
    simp only [not_and_or, not_forall, Bool.not_eq_true, exists_prop]
  simp only [parseAccount, Bool.not_eq_eq_eq_not, Bool.not_true, String.startsWith_string_eq_false_iff,
    String.toList_append, String.toList_ofList, List.prefix_append, not_true_eq_false, if_false,
    String.Slice.toString_eq, hdigits, String.length_ofList, ne_eq, decide_not, Bool.or_eq_true,
    decide_eq_false_iff_not, List.all_eq_false, Bool.not_eq_true, beq_iff_eq, hlower, hupper, hbad,
    ite_not]

theorem eq_ok_of_toOption {ε α : Type} {x : Except ε α} {a : α} (h : x.toOption = some a) :
    x = .ok a := by
  cases x with
  | error e => cases h
  | ok a' => cases h; rfl

/-- Only the checksummed text is read as checksummed. -/
theorem eq_checksummed_of_parseChecksummed {s : String} {a : Address}
    (h : parseChecksummed s = .ok a) : s = a.checksummed := by
  unfold parseChecksummed at h
  split at h
  · cases h
  split at h
  · cases h
  split at h
  · cases h
    exact beq_iff_eq.1 ‹_›
  · cases h

/-- A text that does not open with `0x` names no account. -/
theorem parseAccount_of_not_prefixed {s : String} (h : s.startsWith "0x" = false) :
    parseAccount s = none := by
  simp [parseAccount, h]

/-- Every text that opens with `0x` is `0x` and the characters after it. -/
theorem eq_prefixed_of_startsWith {s : String} (h : s.startsWith "0x" = true) :
    ∃ ds, s = "0x" ++ String.ofList ds := by
  rw [String.startsWith_string_iff] at h
  obtain ⟨ds, hds⟩ := h
  exact ⟨ds, String.ext (by simp [← hds])⟩

/-- The lowercase digits of an account are digits of values below sixteen. -/
theorem digitChar_of_mem_lowerHex (a : Address) :
    ∀ d ∈ a.lowerHex.toList, ∃ v < 16, d = Hex.digitChar v := by
  rw [lowerHex_toList]
  exact fun _ => Hex.mem_flatMap_digitPair

/-- A text read as an account is one of its spellings. -/
theorem spells_of_parseAccount {s : String} {a : Address} (h : parseAccount s = some a) :
    a.Spells s := by
  cases hpre : s.startsWith "0x" with
  | false => rw [parseAccount_of_not_prefixed hpre] at h; cases h
  | true =>
    obtain ⟨ds, rfl⟩ := eq_prefixed_of_startsWith hpre
    rw [parseAccount_prefixed] at h
    split at h
    · rename_i hok
      split at h
      · -- one case throughout: the digits are the account's, lowered or raised
        rename_i huniform
        have hcase := caseOf_of_parseHex hok.2 (eq_ok_of_toOption h)
        obtain ⟨hlow, hup, -⟩ := Hex.forall₂_caseOf_cases hcase (digitChar_of_mem_lowerHex a)
        rcases huniform with hl | hu
        · left
          rw [← hl, hlow, String.ofList_toList]
        · right; left
          rw [← hu, hup]
          exact congrArg ("0x" ++ ·) (String.ext (by simp [String.toUpper]))
      · -- mixed case: only the checksummed text is read
        right; right
        exact eq_checksummed_of_parseChecksummed (eq_ok_of_toOption h)
    · cases h

/-- Any case of an account's digits behind `0x` is read as the account, when it is in one case
throughout or is the checksummed text. -/
theorem parseAccount_of_caseOf {a : Address} {ds : List Char}
    (hcase : List.Forall₂ Hex.CaseOf ds a.lowerHex.toList)
    (hform : (ds.map Char.toLower = ds ∨ ds.map Char.toUpper = ds) ∨
      "0x" ++ String.ofList ds = a.checksummed) :
    parseAccount ("0x" ++ String.ofList ds) = some a := by
  obtain ⟨-, -, hhex⟩ := Hex.forall₂_caseOf_cases hcase (digitChar_of_mem_lowerHex a)
  have hlen : ds.length = 40 := by rw [hcase.length_eq, String.length_toList, lowerHex_length]
  rw [parseAccount_prefixed, if_pos ⟨hlen, hhex⟩]
  split
  · rw [parseHex_of_caseOf hcase]
    rfl
  · rename_i hmixed
    rw [hform.resolve_left hmixed, parseChecksummed_checksummed]
    rfl

/-- Every spelling of an account is read as the account. -/
theorem parseAccount_of_spells {s : String} {a : Address} (h : a.Spells s) :
    parseAccount s = some a := by
  obtain ⟨ds, rfl, hcase⟩ := h.caseOf
  obtain ⟨hlow, hup, -⟩ := Hex.forall₂_caseOf_cases hcase (digitChar_of_mem_lowerHex a)
  apply parseAccount_of_caseOf hcase
  rcases h with h | h | h
  · -- the lowercase digits lower to themselves
    refine Or.inl (Or.inl ?_)
    have hds : ds = a.lowerHex.toList := by simpa using congrArg String.toList h
    rw [hlow, hds]
  · -- the uppercase digits raise to themselves
    refine Or.inl (Or.inr ?_)
    have hds : ds = a.lowerHex.toList.map Char.toUpper := by
      simpa [String.toUpper] using congrArg String.toList h
    rw [hup, hds]
  · exact Or.inr h

/-- Every spelling of an account lowers to its lowercase spelling. -/
theorem Spells.toLower {a : Address} {s : String} (h : a.Spells s) :
    s.toLower = "0x" ++ a.lowerHex := by
  obtain ⟨ds, rfl, hcase⟩ := h.caseOf
  obtain ⟨hlow, -, -⟩ := Hex.forall₂_caseOf_cases hcase (digitChar_of_mem_lowerHex a)
  apply String.ext
  simp [String.toLower, hlow]

/-- A case variant of an account's checksummed text that is none of its spellings (a mixed-case
text with a letter's case changed) names no account. -/
theorem parseAccount_of_case_variant {a : Address} {t : String}
    (hvariant : t.toLower = a.checksummed.toLower) (hnot : ¬ a.Spells t) : parseAccount t = none := by
  cases hread : parseAccount t with
  | none => rfl
  | some b =>
    -- the text lowers to `b`'s lowercase spelling and to `a`'s, so `b` is `a`
    have hb := (spells_of_parseAccount hread).toLower
    have ha : a.checksummed.toLower = "0x" ++ a.lowerHex := Spells.toLower (Or.inr (Or.inr rfl))
    rw [hvariant, ha] at hb
    have hab : a = b := lowerHex_injective ((String.append_right_inj _).1 hb)
    exact absurd (hab ▸ spells_of_parseAccount hread) hnot

end Address

namespace ChallengeBuilder

/-- A request whose account text names no account is refused as an invalid address, before
anything else is checked. -/
theorem checkRequest_of_parseAccount {p : ChallengePolicy} {req : ChallengeRequest}
    (h : Address.parseAccount req.address = none) : checkRequest p req = .error .invalidAddress := by
  simp [checkRequest, h]
  rfl

end ChallengeBuilder

namespace Address

/-- Reading a caller's account accepts exactly the spellings of accounts, and the request check
refuses every other text as an invalid address. In particular the checksummed text of every
account is read as it, and a case variant of it that is none of its spellings (a mixed-case
text with a letter's case changed) is refused. -/
theorem parseAccount_grammar :
    (∀ (s : String) (a : Address), parseAccount s = some a ↔ a.Spells s) ∧
    (∀ (p : ChallengePolicy) (req : ChallengeRequest), (∀ a : Address, ¬ a.Spells req.address) →
      ChallengeBuilder.checkRequest p req = .error .invalidAddress) ∧
    (∀ a : Address, parseAccount a.checksummed = some a) ∧
    (∀ (a : Address) (t : String), t.toLower = a.checksummed.toLower → ¬ a.Spells t →
      parseAccount t = none) := by
  refine ⟨fun _ _ => ⟨spells_of_parseAccount, parseAccount_of_spells⟩, ?_, ?_, ?_⟩
  · intro p req hnone
    apply ChallengeBuilder.checkRequest_of_parseAccount
    cases hread : parseAccount req.address with
    | none => rfl
    | some a => exact absurd (spells_of_parseAccount hread) (hnone a)
  · intro a
    exact parseAccount_of_spells (Or.inr (Or.inr rfl))
  · intro a t hvariant hnot
    exact parseAccount_of_case_variant hvariant hnot

end Address
end WalletAuth
