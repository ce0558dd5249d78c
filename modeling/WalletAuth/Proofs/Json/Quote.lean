import WalletAuth.Session.Record

/-!
# WalletAuth.Proofs.Json.Quote — a quoted string ends at its first bare quote

A string is written between quotes with each of its characters escaped (`Json.escapeChar`). Every
escape reads back as its character (`readEscaped_escapeChar`) and none begins with a quote, so
escaped text followed by a quote gives back both the text and what follows the quote
(`escaped_append_quote`). A session's kept text therefore determines the session's token and its
address (`StoredSession.token_address_of_toText_eq`).
-/

namespace WalletAuth
namespace Json

/-- The value of a lowercase hex digit. -/
def hexDigitValue (h : Char) : Nat := if h.toNat < 58 then h.toNat - 48 else h.toNat - 87

theorem hexDigitValue_hexDigit : ∀ v < 16, hexDigitValue (hexDigit v) = v := by decide

/-- Reads the first character of the inside of a JSON string: an escape sequence, or a
character standing for itself. -/
def readEscaped : List Char → Option (Char × List Char)
  | '\\' :: 'u' :: '0' :: '0' :: h :: l :: r =>
    some (Char.ofNat (16 * hexDigitValue h + hexDigitValue l), r)
  | '\\' :: 'b' :: r => some (Char.ofNat 8, r)
  | '\\' :: 'f' :: r => some (Char.ofNat 12, r)
  | '\\' :: 'n' :: r => some ('\n', r)
  | '\\' :: 'r' :: r => some ('\r', r)
  | '\\' :: 't' :: r => some ('\t', r)
  | '\\' :: c :: r => some (c, r)
  | c :: r => some (c, r)
  | [] => none

/-- A character other than the backslash stands for itself. -/
theorem readEscaped_of_ne {c : Char} (hc : c ≠ '\\') (r : List Char) :
    readEscaped (c :: r) = some (c, r) := by
  unfold readEscaped
  split <;> simp_all

theorem readEscaped_escapeChar (c : Char) (r : List Char) :
    readEscaped ((escapeChar c).toList ++ r) = some (c, r) := by
  unfold escapeChar
  split
  · rfl
  · rfl
  · rfl
  · rfl
  · rfl
  · rename_i hback _ _ _
    split
    · rename_i h8
      rw [beq_iff_eq] at h8
      rw [← Char.ofNat_toNat c, h8]
      rfl
    · split
      · rename_i h12
        rw [beq_iff_eq] at h12
        rw [← Char.ofNat_toNat c, h12]
        rfl
      · split
        · rename_i hctl
          -- a control character is written as four hex digits, the first two zero
          have hhi := hexDigitValue_hexDigit (c.toNat / 16) (by omega)
          have hlo := hexDigitValue_hexDigit (c.toNat % 16) (by omega)
          have hs : ("\\u00" ++ (hexDigit (c.toNat / 16)).toString ++
              (hexDigit (c.toNat % 16)).toString).toList ++ r =
              '\\' :: 'u' :: '0' :: '0' :: hexDigit (c.toNat / 16) :: hexDigit (c.toNat % 16) :: r := by
            simp
          rw [hs]
          simp only [readEscaped, hhi, hlo]
          rw [Nat.div_add_mod, Char.ofNat_toNat]
        · -- any other character stands for itself
          have hs : (c.toString).toList = [c] := by simp
          rw [hs]
          exact readEscaped_of_ne hback r

/-- No escaped character begins with a quote, so the first quote after escaped text ends it. -/
theorem escapeChar_append_ne_quote (c : Char) (r r' : List Char) :
    (escapeChar c).toList ++ r ≠ '"' :: r' := by
  intro h
  have hread := readEscaped_escapeChar c r
  rw [h, readEscaped_of_ne (by decide)] at hread
  obtain ⟨rfl, rfl⟩ := Prod.mk.inj (Option.some.inj hread)
  -- the quote itself is escaped with a backslash in front
  exact absurd h (by simp [escapeChar])

/-- The characters of a string body, each escaped. -/
def escaped (xs : List Char) : List Char := xs.flatMap fun c => (escapeChar c).toList

@[simp] theorem escaped_nil : escaped [] = [] := rfl

@[simp] theorem escaped_cons (c : Char) (xs : List Char) :
    escaped (c :: xs) = (escapeChar c).toList ++ escaped xs := rfl

/-- Escaped text followed by a quote determines the text and what follows the quote. -/
theorem escaped_append_quote {xs ys r r' : List Char}
    (h : escaped xs ++ '"' :: r = escaped ys ++ '"' :: r') : xs = ys ∧ r = r' := by
  induction xs generalizing ys with
  | nil =>
    cases ys with
    | nil => simpa using h
    | cons d ys =>
      simp only [escaped_nil, escaped_cons, List.nil_append, List.append_assoc] at h
      exact absurd h.symm (escapeChar_append_ne_quote d _ r)
  | cons c xs ih =>
    cases ys with
    | nil =>
      simp only [escaped_nil, escaped_cons, List.nil_append, List.append_assoc] at h
      exact absurd h (escapeChar_append_ne_quote c _ r')
    | cons d ys =>
      simp only [escaped_cons, List.append_assoc] at h
      -- the first escaped characters read back alike, and so do the rests
      have hread := readEscaped_escapeChar c (escaped xs ++ '"' :: r)
      rw [h, readEscaped_escapeChar] at hread
      obtain ⟨rfl, hrest⟩ := Prod.mk.inj (Option.some.inj hread)
      obtain ⟨rfl, rfl⟩ := ih hrest.symm
      exact ⟨rfl, rfl⟩

theorem toList_quote (s : String) : (quote s).toList = '"' :: escaped s.toList ++ ['"'] := by
  simp [quote, escaped, String.toList_join, List.flatMap_map]

end Json

namespace StoredSession

/-- A session's text: its token and its address quoted, between texts that are the same for
every session but for the numbers at the end. -/
theorem toList_toText (s : StoredSession) : s.toText.toList =
    ("\x7b" ++ Json.quote "token" ++ ":").toList ++ '"' :: (Json.escaped s.token.toList ++ '"' ::
      (("," ++ Json.quote "address" ++ ":").toList ++ '"' :: (Json.escaped s.address.toList ++ '"' ::
        ("," ++ Json.quote "chain_id" ++ ":" ++ toString (s.chainId : Int) ++ "," ++
          Json.quote "created_at" ++ ":" ++ toString (s.createdAt : Int) ++ "\x7d").toList))) := by
  simp only [toText, toJson, Json.compact, Json.compactMembers, String.toList_append,
    Json.toList_quote s.token, Json.toList_quote s.address, List.append_assoc, List.cons_append]
  rfl

/-- A session's text determines its token and its address. -/
theorem token_address_of_toText_eq {s s' : StoredSession} (h : s.toText = s'.toText) :
    s.token = s'.token ∧ s.address = s'.address := by
  have hl := congrArg String.toList h
  rw [toList_toText, toList_toText, List.append_cancel_left_eq, List.cons.injEq] at hl
  obtain ⟨htoken, hrest⟩ := Json.escaped_append_quote hl.2
  rw [List.append_cancel_left_eq, List.cons.injEq] at hrest
  obtain ⟨haddress, -⟩ := Json.escaped_append_quote hrest.2
  exact ⟨String.toList_inj.mp htoken, String.toList_inj.mp haddress⟩

end StoredSession
end WalletAuth
