import Mathlib
import WalletAuth.Message.Parse

/-!
# WalletAuth.Proofs.Message.Codec — a message and its text determine each other

`Challenge.render` writes a message line by line and `Challenge.parse` reads the lines back in
the same order, one `LineReader` per part. `Challenge.textLines` is the list of lines of a
message; its text is those lines joined by line feeds (`toList_render`).

Each reader gets one lemma saying which lines it took: the lines its value prints to. Chained in
the order `readMessage` runs them, they give `textLines_of_readMessage`: the lines of a text
that parses are the lines of the message read from it. So the reader accepts only the canonical
text of a message (`parse_canonical`), and two texts that read as one message are one text.
-/

namespace WalletAuth
namespace Text

/-! ## Prefixes, suffixes and separators -/

theorem dropPrefix?_eq_some {s pre v : String} (h : dropPrefix? s pre = some v) : s = pre ++ v := by
  unfold dropPrefix? at h
  split at h
  · rename_i hp
    cases h
    obtain ⟨t, ht⟩ := List.isPrefixOf_iff_prefix.1 hp
    apply String.toList_inj.1
    simp [← ht, ← String.length_toList]
  · cases h

theorem dropSuffix?_eq_some {s suf v : String} (h : dropSuffix? s suf = some v) : s = v ++ suf := by
  unfold dropSuffix? at h
  split at h
  · rename_i hs
    cases h
    obtain ⟨t, ht⟩ := List.isSuffixOf_iff_suffix.1 hs
    apply String.toList_inj.1
    simp [← ht, ← String.length_toList]
  · cases h

/-- What comes before the first separator, the separator, and what follows it, make the text. -/
theorem splitFirst_eq_some {sep : List Char} :
    ∀ {cs a b : List Char}, splitFirst sep cs = some (a, b) → cs = a ++ sep ++ b
  | [], _, _, h => by cases h
  | c :: rest, a, b, h => by
    unfold splitFirst at h
    split at h
    · rename_i hp
      cases h
      obtain ⟨t, ht⟩ := List.isPrefixOf_iff_prefix.1 hp
      simp [← ht]
    · obtain ⟨⟨a', b'⟩, hs, hab⟩ := Option.map_eq_some_iff.1 h
      cases hab
      simp [splitFirst_eq_some hs]

theorem splitOnce?_eq_some {s sep a b : String} (h : splitOnce? s sep = some (a, b)) :
    s = a ++ sep ++ b := by
  unfold splitOnce? at h
  split at h
  · rename_i hsep
    cases h
    simp [String.isEmpty_iff.1 hsep]
  · obtain ⟨⟨a', b'⟩, hs, hab⟩ := Option.map_eq_some_iff.1 h
    cases hab
    apply String.toList_inj.1
    simp [splitFirst_eq_some hs]

end Text

namespace Challenge

/-! ## The lines of a message -/

/-- The first line: the optional scheme, the domain and the preamble. -/
def headerLine (scheme : Option String) (domain : String) : String :=
  (match scheme with | some s => s ++ "://" | none => "") ++ domain ++ preamble

/-- The statement slot and the URI line: a statement then a blank line, or a blank line. -/
def statementLines (statement : Option String) (uriLine : String) : Lines :=
  match statement with
  | some s => [s, "", uriLine]
  | none => ["", uriLine]

/-- An optional tagged line: present only with a value. -/
def optionLines (tag : String) (value : Option String) : Lines := (value.map (tag ++ ·)).toList

/-- The resources: none, or `Resources:` and one `- ` line per item. -/
def resourceLines (resources : List String) : Lines :=
  if resources.isEmpty then [] else "Resources:" :: resources.map ("- " ++ ·)

/-- The lines after `Issued At`. -/
def optionalLineList (c : Challenge) : Lines :=
  optionLines "Expiration Time: " (c.expirationTime.map (·.text)) ++
    optionLines "Not Before: " (c.notBefore.map (·.text)) ++
    optionLines "Request ID: " c.requestId ++ resourceLines c.resources

/-- The lines of the text of a message, in order. -/
def textLines (c : Challenge) : Lines :=
  headerLine c.scheme c.domain :: c.address.checksummed :: "" ::
    (statementLines c.statement ("URI: " ++ c.uri) ++
      ["Version: 1", "Chain ID: " ++ toString c.chainId, "Nonce: " ++ c.nonce,
        "Issued At: " ++ c.issuedAt.text] ++ c.optionalLineList)

/-! ## Reading line by line -/

section Readers

variable {α β : Type} {ls rest : Lines}

/-- Reading `x` then `f` succeeds only through a success of `x`. -/
theorem bind_ok {x : LineReader α} {f : α → LineReader β} {b : β}
    (h : (x >>= f) ls = .ok (b, rest)) : ∃ a mid, x ls = .ok (a, mid) ∧ f a mid = .ok (b, rest) := by
  change (x ls >>= fun p => f p.1 p.2) = _ at h
  cases hx : x ls with
  | error e => rw [hx] at h; cases h
  | ok p => rw [hx] at h; exact ⟨p.1, p.2, rfl, h⟩

/-- A step of plain `Except` inside a reader takes no line. -/
theorem lift_ok {e : Except MessageError α} {a : α} (h : (liftM e : LineReader α) ls = .ok (a, rest)) :
    e = .ok a ∧ rest = ls := by
  cases e with
  | error err => cases h
  | ok v => cases h; exact ⟨rfl, rfl⟩

/-- A step of plain `Except` followed by more reading. -/
theorem bind_lift_ok {e : Except MessageError α} {f : α → LineReader β} {b : β}
    (h : (liftM e >>= f) ls = .ok (b, rest)) : ∃ a, e = .ok a ∧ f a ls = .ok (b, rest) := by
  cases e with
  | error err => cases h
  | ok a => exact ⟨a, rfl, h⟩

theorem nextLine_ok {field l : String} (h : nextLine field ls = .ok (l, rest)) : ls = l :: rest := by
  cases ls with
  | nil => cases h
  | cons l' ls => cases h; rfl

theorem tagged_ok {line tag field v : String} (h : tagged line tag field = .ok v) :
    line = tag ++ v := by
  unfold tagged at h
  split at h
  · rename_i hv
    cases h
    exact Text.dropPrefix?_eq_some hv
  · cases h

theorem readTagged_ok {tag field v : String} (h : readTagged tag field ls = .ok (v, rest)) :
    ls = (tag ++ v) :: rest := by
  obtain ⟨line, mid, hl, h⟩ := bind_ok h
  obtain ⟨hv, rfl⟩ := lift_ok h
  rw [nextLine_ok hl, tagged_ok hv]

theorem readHeader_ok {scheme : Option String} {domain : String}
    (h : readHeader ls = .ok ((scheme, domain), rest)) : ls = headerLine scheme domain :: rest := by
  obtain ⟨header, mid, hl, h⟩ := bind_ok h
  rw [nextLine_ok hl]
  -- the header is the origin before the preamble, the origin a scheme and `://`, or not
  cases horigin : Text.dropSuffix? header preamble with
  | none => rw [horigin] at h; cases h
  | some origin =>
    rw [horigin] at h
    dsimp only at h
    rw [Text.dropSuffix?_eq_some horigin]
    cases hsplit : Text.splitOnce? origin "://" with
    | none =>
      rw [hsplit] at h
      cases h
      simp [headerLine]
    | some sd =>
      rw [hsplit] at h
      cases h
      simp [headerLine, Text.splitOnce?_eq_some hsplit]

theorem readAddress_ok {a : Address} (h : readAddress ls = .ok (a, rest)) :
    ls = a.checksummed :: rest := by
  obtain ⟨line, mid, hl, h⟩ := bind_ok h
  rw [nextLine_ok hl]
  cases hparse : Address.parseChecksummed line with
  | error e => rw [hparse] at h; cases h
  | ok a' =>
    rw [hparse] at h
    cases h
    -- only the checksummed text of an address is accepted
    unfold Address.parseChecksummed at hparse
    split at hparse
    · cases hparse
    · split at hparse
      · cases hparse
      · split at hparse
        · rename_i heq
          cases hparse
          simp only [beq_iff_eq] at heq
          rw [heq]
        · cases hparse

theorem readBlank_ok {u : Unit} (h : readBlank ls = .ok (u, rest)) : ls = "" :: rest := by
  obtain ⟨blank, mid, hl, h⟩ := bind_ok h
  rw [nextLine_ok hl]
  split at h
  · cases h
  · rename_i hb
    cases h
    simpa using hb

theorem readStatement_ok {statement : Option String} {uriLine : String}
    (h : readStatement ls = .ok ((statement, uriLine), rest)) :
    ls = statementLines statement uriLine ++ rest := by
  obtain ⟨first, mid, h₁, h⟩ := bind_ok h
  obtain ⟨second, mid', h₂, h⟩ := bind_ok h
  rw [nextLine_ok h₁, nextLine_ok h₂]
  split at h
  · -- a blank second line: the first line was the statement
    rename_i hsecond
    obtain ⟨u, mid'', h₃, h⟩ := bind_ok h
    cases h
    simp [statementLines, String.isEmpty_iff.1 hsecond, nextLine_ok h₃]
  · split at h
    · rename_i hfirst
      cases h
      simp [statementLines, String.isEmpty_iff.1 hfirst]
    · cases h

theorem optionalTagged_ok {tag : String} {value : Option String}
    (h : optionalTagged tag ls = .ok (value, rest)) : ls = optionLines tag value ++ rest := by
  unfold optionalTagged at h
  split at h
  · split at h
    · rename_i l ls v hv
      cases h
      simp [optionLines, Text.dropPrefix?_eq_some hv]
    · cases h
      rfl
  · cases h
    rfl

theorem optionalTimestamp_ok {tag : String} {value : Option Timestamp}
    (h : optionalTimestamp tag ls = .ok (value, rest)) :
    ls = optionLines tag (value.map (·.text)) ++ rest := by
  obtain ⟨o, mid, ho, h⟩ := bind_ok h
  rw [optionalTagged_ok ho]
  split at h
  · rename_i v
    unfold Timestamp.parse at h
    split at h
    · cases h
      rfl
    · cases h
  · cases h
    rfl

theorem resourceItems_eq : ∀ {ls rest : Lines} {items : List String},
    resourceItems ls = (items, rest) → ls = items.map ("- " ++ ·) ++ rest
  | [], _, _, h => by cases h; rfl
  | l :: ls, rest, items, h => by
    unfold resourceItems at h
    split at h
    · rename_i v hv
      cases hr : resourceItems ls with
      | mk items' rest' =>
        rw [hr] at h
        cases h
        simp [Text.dropPrefix?_eq_some hv, resourceItems_eq hr]
    · cases h
      rfl

theorem readResources_ok {resources : List String}
    (h : readResources ls = .ok (resources, rest)) : ls = resourceLines resources ++ rest := by
  unfold readResources at h
  split at h
  · rename_i tail
    cases hr : resourceItems tail with
    | mk items rest' =>
      rw [hr] at h
      dsimp only at h
      split at h
      · cases h
      · rename_i hne
        cases h
        simp [resourceLines, hne, resourceItems_eq hr]
  · cases h
    rfl

theorem readEnd_ok {u : Unit} (h : readEnd ls = .ok (u, rest)) : ls = [] ∧ rest = [] := by
  unfold readEnd at h
  split at h
  · cases h
  · cases h
    exact ⟨rfl, rfl⟩

end Readers

/-! ## Decimal chain ids -/

/-- The value of decimal digits, as the chain id reader folds them. -/
def digitsValue (cs : List Char) : Nat := cs.foldl (fun n d => n * 10 + (d.toNat - 48)) 0

theorem digitsValue_append (cs : List Char) (d : Char) :
    digitsValue (cs ++ [d]) = digitsValue cs * 10 + (d.toNat - 48) := by
  simp [digitsValue]

theorem isDigit_iff {c : Char} : c.isDigit = true ↔ 48 ≤ c.toNat ∧ c.toNat ≤ 57 := by
  simp only [Char.isDigit, Bool.and_eq_true, decide_eq_true_eq, UInt32.le_iff_toNat_le]
  rfl

/-- A digit is the digit character of its value. -/
theorem digitChar_of_isDigit {d : Char} (hd : d.isDigit = true) : (d.toNat - 48).digitChar = d := by
  have hb := isDigit_iff.1 hd
  apply Char.toNat_inj.1
  rw [Nat.toNat_digitChar_of_lt_ten (by omega)]
  omega

theorem digitsValue_toDigits (n : Nat) : digitsValue (Nat.toDigits 10 n) = n := by
  induction n using Nat.strong_induction_on with
  | _ n ih =>
    rw [Nat.toDigits_eq_if (by decide)]
    split
    · rename_i hn
      simp [digitsValue, Nat.toNat_digitChar_sub_48_of_lt_ten hn]
    · rename_i hn
      rw [digitsValue_append, ih (n / 10) (by omega),
        Nat.toNat_digitChar_sub_48_of_lt_ten (Nat.mod_lt n (by decide))]
      omega

/-- The first digit of a positive number is not `0`. -/
theorem head_toDigits_ne_zero {n : Nat} (hn : 0 < n) : (Nat.toDigits 10 n).head? ≠ some '0' := by
  induction n using Nat.strong_induction_on with
  | _ n ih =>
    rw [Nat.toDigits_eq_if (by decide)]
    split
    · simp only [List.head?_cons, ne_eq, Option.some.injEq, Nat.digitChar_eq_zero]
      omega
    · rename_i hlt
      have hq : 0 < n / 10 := by omega
      obtain ⟨d, ds, hds⟩ := List.exists_cons_of_ne_nil (Nat.toDigits_ne_nil (n := n / 10) (b := 10))
      have := ih (n / 10) (by omega) hq
      rw [hds] at this ⊢
      simpa using this

/-- Digits without a leading zero are the digits of their value, and that value is positive. -/
theorem toDigits_digitsValue :
    ∀ {cs : List Char}, cs ≠ [] → (∀ d ∈ cs, d.isDigit = true) → cs.head? ≠ some '0' →
      Nat.toDigits 10 (digitsValue cs) = cs ∧ 0 < digitsValue cs := by
  intro cs
  induction cs using List.reverseRecOn with
  | nil => intro h; exact absurd rfl h
  | append_singleton init d ih =>
    intro _ hdig hhead
    have hd : d.isDigit = true := hdig d (by simp)
    have hv : d.toNat - 48 < 10 := by have := isDigit_iff.1 hd; omega
    rw [digitsValue_append]
    cases init with
    | nil =>
      -- a single digit, not `0`
      have hd0 : d ≠ '0' := fun h => hhead (by simp [h])
      have hpos : 0 < d.toNat - 48 := by
        have := isDigit_iff.1 hd
        have : d.toNat ≠ 48 := fun h => hd0 (Char.toNat_inj.1 h)
        omega
      simp only [digitsValue, List.foldl_nil, zero_mul, zero_add]
      exact ⟨by rw [Nat.toDigits_of_lt_base hv, digitChar_of_isDigit hd]; rfl, hpos⟩
    | cons c init =>
      -- the digits before the last have their value, and it is positive
      obtain ⟨hinit, hpos⟩ := ih (List.cons_ne_nil c init)
        (fun d' hd' => hdig d' (List.mem_append_left _ hd')) (by simpa using hhead)
      refine ⟨?_, by omega⟩
      rw [Nat.toDigits_eq_if (by decide), if_neg (by omega)]
      have hdiv : (digitsValue (c :: init) * 10 + (d.toNat - 48)) / 10 = digitsValue (c :: init) := by
        omega
      have hmod : (digitsValue (c :: init) * 10 + (d.toNat - 48)) % 10 = d.toNat - 48 := by omega
      rw [hdiv, hmod, hinit, digitChar_of_isDigit hd]

/-- The chain id reader accepts exactly the decimal text of an id up to `maxChainId`. -/
theorem parseChainId_eq_ok_iff {v : String} {n : Nat} :
    parseChainId v = .ok n ↔ v = toString n ∧ n ≤ maxChainId := by
  unfold parseChainId
  dsimp only
  constructor
  · intro h
    split at h
    · cases h
    · rename_i hcanon
      split at h
      · cases h
      · rename_i hle
        cases h
        simp at hcanon
        obtain ⟨⟨hne, hdig⟩, hzero⟩ := hcanon
        by_cases hv : v = "0"
        · -- the text `0`
          subst hv
          exact ⟨rfl, by decide⟩
        · refine ⟨?_, by omega⟩
          apply String.toList_inj.1
          rw [Nat.toString_eq_repr, Nat.toList_repr]
          exact ((toDigits_digitsValue (by simpa using hne) hdig (hzero hv)).1).symm
  · rintro ⟨rfl, hle⟩
    have hne : (toString n).toList ≠ [] := by
      rw [Nat.toString_eq_repr, Nat.toList_repr]
      exact Nat.toDigits_ne_nil
    have hdig : ∀ d ∈ (toString n).toList, d.isDigit = true := by
      intro d hd
      rw [Nat.toString_eq_repr, Nat.toList_repr] at hd
      exact Nat.isDigit_of_mem_toDigits (by decide) (by decide) hd
    -- the digits of an id have no leading zero, and fold back to it
    have hzero : (toString n == "0" || (toString n).toList.head? != some '0') = true := by
      rcases Nat.eq_zero_or_pos n with rfl | hpos
      · rfl
      · simp only [Bool.or_eq_true, bne_iff_ne, ne_eq]
        right
        rw [Nat.toString_eq_repr, Nat.toList_repr]
        exact head_toDigits_ne_zero hpos
    have hval : digitsValue (toString n).toList = n := by
      rw [Nat.toString_eq_repr, Nat.toList_repr, digitsValue_toDigits]
    have hcanon : (!(toString n).toList.isEmpty && (toString n).toList.all Char.isDigit &&
        (toString n == "0" || (toString n).toList.head? != some '0')) = true := by
      simp only [Bool.and_eq_true, Bool.not_eq_true', List.isEmpty_eq_false_iff, List.all_eq_true]
      exact ⟨⟨hne, hdig⟩, hzero⟩
    rw [hcanon, if_neg (by decide)]
    change (if digitsValue (toString n).toList > maxChainId then _ else _) = _
    rw [hval, if_neg (by omega)]
    exact congrArg Except.ok hval

/-! ## The whole message -/

theorem parseVersion_ok {v w : String} (h : parseVersion v = .ok w) : v = "1" := by
  unfold parseVersion at h
  split at h
  · rename_i hv
    exact beq_iff_eq.1 hv
  · cases h

theorem timestampParse_text {v : String} {t : Timestamp} (h : Timestamp.parse v = .ok t) :
    t.text = v := by
  unfold Timestamp.parse at h
  split at h
  · cases h
    rfl
  · cases h

/-- `validate` gives back the message it checked. -/
theorem validate_eq_ok_iff {c c' : Challenge} : c.validate = .ok c' ↔ c.checkFields = .ok () ∧ c' = c := by
  unfold validate
  cases hc : c.checkFields with
  | error e => simp [bind, Except.bind]
  | ok u => simp [bind, Except.bind, pure, Except.pure, eq_comm]

/-- The lines a message was read from are its lines, and nothing follows them. -/
theorem textLines_of_readMessage {c : Challenge} (h : readMessage ls = .ok (c, rest)) :
    ls = c.textLines ∧ rest = [] := by
  obtain ⟨⟨scheme, domain⟩, ls₁, hheader, h⟩ := bind_ok h
  obtain ⟨address, ls₂, haddress, h⟩ := bind_ok h
  obtain ⟨⟨⟩, ls₃, hblank, h⟩ := bind_ok h
  obtain ⟨⟨statement, uriLine⟩, ls₄, hstatement, h⟩ := bind_ok h
  obtain ⟨uri, huri, h⟩ := bind_lift_ok h
  obtain ⟨version, ls₅, hversion, h⟩ := bind_ok h
  obtain ⟨_, hv, h⟩ := bind_lift_ok h
  obtain ⟨chainText, ls₆, hchainText, h⟩ := bind_ok h
  obtain ⟨chainId, hchain, h⟩ := bind_lift_ok h
  obtain ⟨nonce, ls₇, hnonce, h⟩ := bind_ok h
  obtain ⟨issuedText, ls₈, hissuedText, h⟩ := bind_ok h
  obtain ⟨issuedAt, hissued, h⟩ := bind_lift_ok h
  obtain ⟨expirationTime, ls₁₃, hexpiration, h⟩ := bind_ok h
  obtain ⟨notBefore, ls₁₄, hnotBefore, h⟩ := bind_ok h
  obtain ⟨requestId, ls₁₅, hrequestId, h⟩ := bind_ok h
  obtain ⟨resources, ls₁₆, hresources, h⟩ := bind_ok h
  obtain ⟨⟨⟩, ls₁₇, hend, h⟩ := bind_ok h
  obtain ⟨hvalid, hrest⟩ := lift_ok h
  obtain ⟨-, rfl⟩ := validate_eq_ok_iff.1 hvalid
  obtain ⟨hls₁₆, hls₁₇⟩ := readEnd_ok hend
  -- each reader took the lines its value prints to
  refine ⟨?_, hrest.trans hls₁₇⟩
  rw [readHeader_ok hheader, readAddress_ok haddress, readBlank_ok hblank,
    readStatement_ok hstatement, readTagged_ok hversion, readTagged_ok hchainText,
    readTagged_ok hnonce, readTagged_ok hissuedText, optionalTimestamp_ok hexpiration,
    optionalTimestamp_ok hnotBefore, optionalTagged_ok hrequestId, readResources_ok hresources,
    hls₁₆, tagged_ok huri, parseVersion_ok hv, (parseChainId_eq_ok_iff.1 hchain).1,
    ← timestampParse_text hissued]
  simp [textLines, optionalLineList]


/-! ## The text of a message -/

/-- Lines joined after a first one: each later line follows a separator. -/
theorem intercalate_cons {α : Type} (sep : α) (x : List α) :
    ∀ ys : List (List α), [sep].intercalate (x :: ys) = x ++ ys.flatMap (sep :: ·)
  | [] => by simp
  | y :: ys => by
    rw [List.intercalate_cons_cons, intercalate_cons sep y ys]
    simp

theorem toList_optionalLines (c : Challenge) :
    c.optionalLines.toList = c.optionalLineList.flatMap fun l => '\n' :: l.toList := by
  unfold optionalLines optionalLineList optionLines resourceLines
  rcases c.expirationTime with _ | e <;> rcases c.notBefore with _ | nb <;>
    rcases c.requestId with _ | r <;> by_cases hr : c.resources.isEmpty <;>
    simp [hr, String.toList_join, List.flatMap_map]

/-- The text of a message is its lines joined by line feeds. -/
theorem toList_render (c : Challenge) :
    c.render.toList = ['\n'].intercalate (c.textLines.map String.toList) := by
  rw [textLines, List.map_cons, intercalate_cons]
  unfold render
  rcases c.scheme with _ | sc <;> rcases c.statement with _ | s <;>
    simp [statementLines, toList_optionalLines, headerLine, List.flatMap_map]

/-- The lines of a text, joined by line feeds, give the text back. -/
theorem intercalate_lines (t : String) :
    ['\n'].intercalate ((Text.lines t).map String.toList) = t.toList := by
  simp [Text.lines, List.map_map, Function.comp_def, List.intercalate_splitOn]

/-- A text that reads as a message is that message's rendering. -/
theorem render_of_parse {t : String} {c : Challenge} (h : parse t = .ok c) : c.render = t := by
  unfold parse at h
  cases hr : readMessage (Text.lines t) with
  | error e =>
    rw [StateT.run, hr] at h
    cases h
  | ok p =>
    obtain ⟨c', rest⟩ := p
    rw [StateT.run, hr] at h
    cases h
    apply String.toList_inj.1
    rw [toList_render, ← (textLines_of_readMessage hr).1, intercalate_lines]

/-- The reader accepts only the canonical text of a message: a text that reads as a message is
its rendering, and no other text reads as the same message. -/
theorem parse_canonical {t : String} {c : Challenge} (h : parse t = .ok c) :
    c.render = t ∧ ∀ t', parse t' = .ok c → t' = t :=
  ⟨render_of_parse h, fun _ h' => (render_of_parse h').symm.trans (render_of_parse h)⟩

/-- A message without statement, for a URI of a scheme that takes no authority. -/
def sampleText : String :=
  "example.com wants you to sign in with your Ethereum account:\n" ++
    "0xf39Fd6e51aad88F6F4ce6aB8827279cffFb92266\n\n\nURI: urn:x\nVersion: 1\nChain ID: 1\n" ++
    "Nonce: 12345678\nIssued At: 2024-05-01T12:00:00Z"

/-- The message `sampleText` reads as. -/
def sampleChallenge : Challenge where
  scheme := none
  domain := "example.com"
  address := ⟨Fin.mk 0xf39fd6e51aad88f6f4ce6ab8827279cfffb92266 (by decide)⟩
  statement := none
  uri := "urn:x"
  chainId := 1
  nonce := "12345678"
  issuedAt := ⟨"2024-05-01T12:00:00Z", ⟨1714564800, 0⟩⟩
  expirationTime := none
  notBefore := none
  requestId := none
  resources := []

theorem parse_canonical_sample :
    parse sampleText = .ok sampleChallenge ∧ sampleChallenge.render = sampleText ∧
      ∀ t', parse t' = .ok sampleChallenge → t' = sampleText :=
  have h : parse sampleText = .ok sampleChallenge := by decide +kernel
  ⟨h, parse_canonical h⟩

end Challenge
end WalletAuth
