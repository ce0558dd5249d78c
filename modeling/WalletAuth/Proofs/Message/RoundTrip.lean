import Mathlib
import WalletAuth.Proofs.Message.Codec
import WalletAuth.Proofs.Account.Checksum
import WalletAuth.Proofs.Time.Rfc3339

/-!
# WalletAuth.Proofs.Message.RoundTrip — the text of a message reads back as the message

`Challenge.render` followed by `Challenge.parse` gives back every message the builder or the
reader can produce, as long as each timestamp's text reads as its instant: the builder's check
keeps every field on one line and out of the way of the tags the reader looks for, so

* the text splits into the message's lines (`lines_render`), and
* each reader takes back the part its field printed (`readHeader_headerLine`,
  `readStatement_statementLines`, `optionalTagged_optionLines`, …), chained in
  `readMessage_textLines`.

`FieldsOk` spells the builder's check out field by field (`checkFields_eq_ok_iff`).
-/

namespace WalletAuth
namespace Text

/-! ## Prefixes, suffixes and separators, forward -/

theorem dropPrefix?_append (pre s : String) : dropPrefix? (pre ++ s) pre = some s := by
  unfold dropPrefix?
  rw [if_pos (List.isPrefixOf_iff_prefix.2 (by simp))]
  simp [← String.length_toList]

/-- A text that starts otherwise than `pre` does not start with `pre`. -/
theorem dropPrefix?_of_head?_ne {s pre : String} (h : s.toList.head? ≠ pre.toList.head?)
    (hpre : pre ≠ "") : dropPrefix? s pre = none := by
  unfold dropPrefix?
  rw [if_neg]
  intro hp
  obtain ⟨t, ht⟩ := List.isPrefixOf_iff_prefix.1 hp
  apply h
  rw [← ht]
  cases hq : pre.toList with
  | nil =>
    simp only [String.toList_eq_nil_iff] at hq
    exact absurd hq hpre
  | cons d ds => rfl

theorem dropSuffix?_append (s suf : String) : dropSuffix? (s ++ suf) suf = some s := by
  unfold dropSuffix?
  rw [if_pos (List.isSuffixOf_iff_suffix.2 (by simp))]
  simp [← String.length_toList]

/-- The first separator comes right after a text that holds no first character of it. -/
theorem splitFirst_append {sep : List Char} {d : Char} {ds : List Char} (hsep : sep = d :: ds) :
    ∀ {a : List Char} (b : List Char), d ∉ a → splitFirst sep (a ++ sep ++ b) = some (a, b)
  | [], b, _ => by
    rw [hsep]
    simp [splitFirst, List.isPrefixOf_iff_prefix]
  | c :: a, b, hd => by
    have hcd : c ≠ d := fun h => hd (h ▸ List.mem_cons_self)
    have hrest : d ∉ a := fun h => hd (List.mem_cons_of_mem c h)
    rw [List.cons_append, List.cons_append, splitFirst, if_neg, splitFirst_append hsep b hrest]
    · rfl
    · rw [hsep]
      simp [List.isPrefixOf, Ne.symm hcd]

theorem splitOnce?_append {a sep b : String} {d : Char} {ds : List Char} (hsep : sep.toList = d :: ds)
    (ha : d ∉ a.toList) : splitOnce? (a ++ sep ++ b) sep = some (a, b) := by
  unfold splitOnce?
  have hne : sep.isEmpty = false := by
    rw [Bool.eq_false_iff]
    intro h
    rw [String.isEmpty_iff.1 h] at hsep
    cases hsep
  rw [if_neg (by simp [hne]), String.toList_append, String.toList_append,
    splitFirst_append hsep _ ha]
  simp

/-- A text that lacks a character of `sep` has no occurrence of it. -/
theorem splitOnce?_eq_none {s sep : String} {d : Char} (hd : d ∈ sep.toList) (hs : d ∉ s.toList) :
    splitOnce? s sep = none := by
  cases h : splitOnce? s sep with
  | none => rfl
  | some ab =>
    exfalso
    apply hs
    rw [splitOnce?_eq_some h]
    simp [hd]

end Text

namespace Challenge

/-! ## The builder's check, field by field -/

section Check

variable {ε α : Type}

theorem bind_unit_eq_ok {x : Except ε Unit} {y : Except ε Unit} :
    (x >>= fun _ => y) = .ok () ↔ x = .ok () ∧ y = .ok () := by
  cases x with
  | error e => simp [bind, Except.bind]
  | ok u => simp [bind, Except.bind]

theorem forM_option_eq_ok {o : Option α} {f : α → Except ε Unit} :
    forM o f = .ok () ↔ ∀ a ∈ o, f a = .ok () := by
  cases o with
  | none => simp [forM, Option.forM, pure, Except.pure]
  | some a => simp [forM, Option.forM]

theorem forM_list_eq_ok {f : α → Except ε Unit} :
    ∀ {l : List α}, forM l f = .ok () ↔ ∀ a ∈ l, f a = .ok ()
  | [] => by simp [pure, Except.pure]
  | a :: l => by
    simp only [List.forM_cons, bind_unit_eq_ok, forM_list_eq_ok, List.mem_cons, forall_eq_or_imp]

end Check

theorem require_eq_ok {ok : Bool} {err : MessageError} : require ok err = .ok () ↔ ok = true := by
  cases ok <;> simp [require]

/-- The builder's check, one field at a time. -/
@[mk_iff]
structure FieldsOk (c : Challenge) : Prop where
  scheme : ∀ s ∈ c.scheme, isScheme s = true
  domain : c.domain ≠ "" ∧ Text.hasBlank c.domain = false ∧ '/' ∉ c.domain.toList
  statement : ∀ s ∈ c.statement, ∀ ch ∈ s.toList, ch ≠ '\n' ∧ ch ≠ '\r'
  uri : validateUri "uri" c.uri = .ok ()
  nonce : minNonceLength ≤ c.nonce.utf8ByteSize ∧ ∀ ch ∈ c.nonce.toList, ch.isAlphanum = true
  window : ∀ e ∈ c.expirationTime, ¬e.at_ ≤ c.issuedAt.at_
  requestId : ∀ r ∈ c.requestId, Text.hasBlank r = false
  resources : ∀ r ∈ c.resources, validateUri "resource" r = .ok ()

/-- The builder's check passes exactly when every field passes its own. -/
theorem checkFields_eq_ok_iff {c : Challenge} : c.checkFields = .ok () ↔ c.FieldsOk := by
  rw [fieldsOk_iff]
  unfold checkFields
  simp [bind_unit_eq_ok, forM_option_eq_ok, forM_list_eq_ok, require_eq_ok, and_assoc]

/-- Each timestamp's text reads as its instant. -/
structure TimesRead (c : Challenge) : Prop where
  issuedAt : Rfc3339.parse c.issuedAt.text = .ok c.issuedAt.at_
  expirationTime : ∀ t ∈ c.expirationTime, Rfc3339.parse t.text = .ok t.at_
  notBefore : ∀ t ∈ c.notBefore, Rfc3339.parse t.text = .ok t.at_

/-! ## Every field stays on its line -/

theorem lf_not_mem_of_hasBlank {s : String} (h : Text.hasBlank s = false) : '\n' ∉ s.toList := by
  intro hm
  have hblank : Text.hasBlank s = true := List.any_eq_true.2 ⟨'\n', hm, by decide⟩
  rw [h] at hblank
  cases hblank

/-- A URI that passes its check is not empty and has no blank. -/
theorem validateUri_ok {field value : String} (h : validateUri field value = .ok ()) :
    value ≠ "" ∧ Text.hasBlank value = false := by
  unfold validateUri at h
  split at h
  · cases h
  · rename_i hv
    simpa using hv

/-- A scheme has neither a line feed nor a colon. -/
theorem isScheme_chars {s : String} (h : isScheme s = true) :
    ∀ ch ∈ s.toList, ch ≠ '\n' ∧ ch ≠ ':' := by
  unfold isScheme at h
  split at h
  · rename_i c rest hs
    simp only [Bool.and_eq_true, List.all_eq_true] at h
    rw [hs]
    intro ch hch
    rcases List.mem_cons.1 hch with rfl | hch
    · -- the first character is a letter
      constructor <;> (rintro rfl; exact absurd h.1 (by decide))
    · have hrest := h.2 ch hch
      constructor <;> (rintro rfl; exact absurd hrest (by decide))
  · cases h

theorem lf_not_mem_toString (n : Nat) : '\n' ∉ (toString n).toList := by
  rw [Nat.toString_eq_repr, Nat.toList_repr]
  intro hm
  exact absurd (Nat.isDigit_of_mem_toDigits (by decide) (by decide) hm) (by decide)

theorem lf_not_mem_headerLine {scheme : Option String} {domain : String}
    (hs : ∀ s ∈ scheme, isScheme s = true) (hd : Text.hasBlank domain = false) :
    '\n' ∉ (headerLine scheme domain).toList := by
  have hpre : '\n' ∉ preamble.toList := by decide
  cases scheme with
  | none => simp [headerLine, lf_not_mem_of_hasBlank hd, hpre]
  | some s =>
    have hs' : '\n' ∉ s.toList := fun hm => (isScheme_chars (hs s rfl) _ hm).1 rfl
    simp [headerLine, lf_not_mem_of_hasBlank hd, hpre, hs']

theorem lf_not_mem_optionalLineList {c : Challenge} (hc : c.FieldsOk) (ht : c.TimesRead) :
    ∀ l ∈ c.optionalLineList, '\n' ∉ l.toList := by
  intro l hl
  simp only [optionalLineList, optionLines, resourceLines, List.mem_append, Option.mem_toList,
    Option.map_map, Option.map_eq_some_iff, Function.comp_apply] at hl
  rcases hl with ((⟨t, ht', rfl⟩ | ⟨t, ht', rfl⟩) | ⟨r, hr, rfl⟩) | hl
  · simp [Rfc3339.lf_not_mem_of_parse (ht.expirationTime t ht')]
  · simp [Rfc3339.lf_not_mem_of_parse (ht.notBefore t ht')]
  · simp [lf_not_mem_of_hasBlank (hc.requestId r hr)]
  · split at hl
    · cases hl
    · rcases List.mem_cons.1 hl with rfl | hl
      · decide
      · obtain ⟨r, hr, rfl⟩ := List.mem_map.1 hl
        simp [lf_not_mem_of_hasBlank (validateUri_ok (hc.resources r hr)).2]

/-- No line of a message that passes the builder's check holds a line feed. -/
theorem lf_not_mem_textLines {c : Challenge} (hc : c.FieldsOk) (ht : c.TimesRead) :
    ∀ l ∈ c.textLines, '\n' ∉ l.toList := by
  have huri := lf_not_mem_of_hasBlank (validateUri_ok hc.uri).2
  have hnonce : '\n' ∉ c.nonce.toList := fun hm => absurd (hc.nonce.2 _ hm) (by decide)
  have hissued := Rfc3339.lf_not_mem_of_parse ht.issuedAt
  intro l hl
  simp only [textLines, List.mem_cons, List.mem_append, statementLines] at hl
  rcases hl with rfl | rfl | rfl | hl
  · exact lf_not_mem_headerLine hc.scheme hc.domain.2.1
  · exact Address.lf_not_mem_checksummed c.address
  · simp
  rcases hl with (hl | hl) | hl
  · cases hs : c.statement with
    | none =>
      rw [hs] at hl
      simp only [List.mem_cons, List.not_mem_nil, or_false] at hl
      rcases hl with rfl | rfl <;> simp [huri]
    | some s =>
      rw [hs] at hl
      simp only [List.mem_cons, List.not_mem_nil, or_false] at hl
      rcases hl with rfl | rfl | rfl
      · exact fun hm => (hc.statement _ hs _ hm).1 rfl
      · simp
      · simp [huri]
  · simp only [List.not_mem_nil, or_false] at hl
    rcases hl with rfl | rfl | rfl | rfl
    · decide
    · simpa using lf_not_mem_toString c.chainId
    · simp [hnonce]
    · simp [hissued]
  · exact lf_not_mem_optionalLineList hc ht l hl

/-- The text of such a message splits back into its lines. -/
theorem lines_render {c : Challenge} (h : ∀ l ∈ c.textLines, '\n' ∉ l.toList) :
    Text.lines c.render = c.textLines := by
  unfold Text.lines
  rw [toList_render, List.splitOn_intercalate]
  · simp [List.map_map, Function.comp_def]
  · intro l hl
    obtain ⟨l', hl', rfl⟩ := List.mem_map.1 hl
    exact h l' hl'
  · simp [textLines]

/-! ## Each reader takes back its part -/

section Readers

variable {α β : Type} {ls rest : Lines}

theorem bind_of_ok {x : LineReader α} {f : α → LineReader β} {a : α} {mid : Lines}
    (hx : x ls = .ok (a, mid)) : (x >>= f) ls = f a mid := by
  change (x ls >>= fun p => f p.1 p.2) = _
  rw [hx]
  rfl

theorem bind_lift_of_ok {e : Except MessageError α} {f : α → LineReader β} {a : α}
    (he : e = .ok a) : (liftM e >>= f) ls = f a ls := by
  subst he
  rfl

theorem lift_of_ok {e : Except MessageError α} {a : α} (he : e = .ok a) :
    (liftM e : LineReader α) ls = .ok (a, ls) := by
  subst he
  rfl

theorem nextLine_cons (field l : String) : nextLine field (l :: rest) = .ok (l, rest) := rfl

theorem tagged_append (tag field v : String) : tagged (tag ++ v) tag field = .ok v := by
  simp [tagged, Text.dropPrefix?_append]

theorem readTagged_cons (tag field v : String) :
    readTagged tag field ((tag ++ v) :: rest) = .ok (v, rest) := by
  rw [readTagged, bind_of_ok (nextLine_cons field _), lift_of_ok (tagged_append tag field v)]

theorem readHeader_headerLine {scheme : Option String} {domain : String}
    (hs : ∀ s ∈ scheme, ':' ∉ s.toList) (hd : '/' ∉ domain.toList) :
    readHeader (headerLine scheme domain :: rest) = .ok ((scheme, domain), rest) := by
  cases scheme with
  | none =>
    rw [readHeader, bind_of_ok (nextLine_cons "domain" _)]
    dsimp only [headerLine]
    rw [String.empty_append, Text.dropSuffix?_append]
    dsimp only
    -- without a scheme the origin holds no `://`, since the domain has no `/`
    rw [Text.splitOnce?_eq_none (by decide : '/' ∈ "://".toList) hd]
    rfl
  | some s =>
    rw [readHeader, bind_of_ok (nextLine_cons "domain" _)]
    dsimp only [headerLine]
    rw [Text.dropSuffix?_append]
    dsimp only
    -- a scheme has no `:`, so the first `://` is the one after it
    rw [Text.splitOnce?_append (by decide : "://".toList = ':' :: "//".toList) (hs s rfl)]
    rfl

theorem readAddress_checksummed (a : Address) :
    readAddress (a.checksummed :: rest) = .ok (a, rest) := by
  rw [readAddress, bind_of_ok (nextLine_cons "address" _), Address.parseChecksummed_checksummed]
  rfl

theorem readBlank_empty : readBlank ("" :: rest) = .ok ((), rest) := rfl

theorem readStatement_statementLines {statement : Option String} {uriLine : String}
    (hu : uriLine ≠ "") :
    readStatement (statementLines statement uriLine ++ rest) = .ok ((statement, uriLine), rest) := by
  cases statement with
  | none =>
    -- a blank line, then the URI line, which is not blank
    have hu' : uriLine.isEmpty = false := by simpa using hu
    rw [statementLines, List.cons_append, List.cons_append, List.nil_append, readStatement,
      bind_of_ok (nextLine_cons "uri" _)]
    rw [bind_of_ok (nextLine_cons "uri" _)]
    simp only [hu', Bool.false_eq_true, if_false]
    rfl
  | some st =>
    rw [statementLines, List.cons_append, List.cons_append, List.cons_append, List.nil_append,
      readStatement, bind_of_ok (nextLine_cons "uri" _), bind_of_ok (nextLine_cons "uri" _)]
    rfl

theorem optionalTagged_optionLines {tag : String} {value : Option String}
    (hnext : value = none → ∀ l ∈ rest.head?, Text.dropPrefix? l tag = none) :
    optionalTagged tag (optionLines tag value ++ rest) = .ok (value, rest) := by
  cases value with
  | some v => simp [optionLines, optionalTagged, Text.dropPrefix?_append]
  | none =>
    cases rest with
    | nil => rfl
    | cons l rest => simp [optionLines, optionalTagged, hnext rfl l rfl]

theorem timestampParse_of_read {t : Timestamp} (h : Rfc3339.parse t.text = .ok t.at_) :
    Timestamp.parse t.text = .ok t := by
  rw [Timestamp.parse, h]

theorem optionalTimestamp_optionLines {tag : String} {value : Option Timestamp}
    (hread : ∀ t ∈ value, Rfc3339.parse t.text = .ok t.at_)
    (hnext : value = none → ∀ l ∈ rest.head?, Text.dropPrefix? l tag = none) :
    optionalTimestamp tag (optionLines tag (value.map (·.text)) ++ rest) = .ok (value, rest) := by
  have hnext' : value.map (·.text) = none → ∀ l ∈ rest.head?, Text.dropPrefix? l tag = none := by
    intro hv
    exact hnext (Option.map_eq_none_iff.1 hv)
  rw [optionalTimestamp, bind_of_ok (optionalTagged_optionLines hnext')]
  cases value with
  | none => rfl
  | some t =>
    change (some <$> (liftM (Timestamp.parse t.text) : LineReader Timestamp)) rest = _
    rw [timestampParse_of_read (hread t rfl)]
    rfl

theorem resourceItems_map : ∀ items : List String, resourceItems (items.map ("- " ++ ·)) = (items, [])
  | [] => rfl
  | r :: items => by
    simp [resourceItems, Text.dropPrefix?_append, resourceItems_map items]

theorem readResources_resourceLines (resources : List String) :
    readResources (resourceLines resources) = .ok (resources, []) := by
  unfold resourceLines
  by_cases h : resources.isEmpty
  · rw [if_pos h, List.isEmpty_iff.1 h]
    rfl
  · rw [if_neg h]
    simp [readResources, resourceItems_map, h]

theorem readEnd_nil : readEnd [] = .ok ((), []) := rfl

theorem readTagged_version : readTagged "Version: " "version" ("Version: 1" :: rest) = .ok ("1", rest) :=
  rfl

end Readers

/-! ## The whole message -/

/-- An absent optional line leaves the next line to the next reader: the lines that can follow
start with another tag. -/
theorem untagged_after_expirationTime (c : Challenge) :
    ∀ l ∈ (optionLines "Not Before: " (c.notBefore.map (·.text)) ++
      (optionLines "Request ID: " c.requestId ++ resourceLines c.resources)).head?,
      Text.dropPrefix? l "Expiration Time: " = none := by
  intro l hl
  rcases hn : c.notBefore with _ | t <;> rcases hr : c.requestId with _ | r <;>
    by_cases hres : c.resources.isEmpty <;>
    simp [hn, hr, hres, optionLines, resourceLines] at hl <;> subst hl <;>
    exact Text.dropPrefix?_of_head?_ne (by simp) (by simp)

theorem untagged_after_notBefore (c : Challenge) :
    ∀ l ∈ (optionLines "Request ID: " c.requestId ++ resourceLines c.resources).head?,
      Text.dropPrefix? l "Not Before: " = none := by
  intro l hl
  rcases hr : c.requestId with _ | r <;> by_cases hres : c.resources.isEmpty <;>
    simp [hr, hres, optionLines, resourceLines] at hl <;> subst hl <;>
    exact Text.dropPrefix?_of_head?_ne (by simp) (by simp)

theorem untagged_after_requestId (c : Challenge) :
    ∀ l ∈ (resourceLines c.resources).head?, Text.dropPrefix? l "Request ID: " = none := by
  intro l hl
  by_cases hres : c.resources.isEmpty <;> simp [hres, resourceLines] at hl
  subst hl
  rfl

/-- The reader takes a message that passes the builder's check back from its lines. -/
theorem readMessage_textLines {c : Challenge} (hc : c.FieldsOk) (ht : c.TimesRead)
    (hchain : c.chainId ≤ maxChainId) : readMessage c.textLines = .ok (c, []) := by
  have hscheme : ∀ s ∈ c.scheme, ':' ∉ s.toList :=
    fun s hs hm => (isScheme_chars (hc.scheme s hs) _ hm).2 rfl
  have huri : "URI: " ++ c.uri ≠ "" := by simp
  unfold readMessage textLines
  rw [bind_of_ok (readHeader_headerLine hscheme hc.domain.2.2)]
  dsimp only
  rw [bind_of_ok (readAddress_checksummed c.address), bind_of_ok readBlank_empty, List.append_assoc,
    bind_of_ok (readStatement_statementLines huri)]
  dsimp only
  rw [bind_lift_of_ok (tagged_append "URI: " "uri" c.uri), List.cons_append,
    bind_of_ok readTagged_version, bind_lift_of_ok (rfl : parseVersion "1" = .ok "1"),
    List.cons_append, bind_of_ok (readTagged_cons "Chain ID: " "chain id" _),
    bind_lift_of_ok (parseChainId_eq_ok_iff.2 ⟨rfl, hchain⟩),
    List.cons_append, bind_of_ok (readTagged_cons "Nonce: " "nonce" _),
    List.cons_append, List.nil_append, bind_of_ok (readTagged_cons "Issued At: " "issued at" _),
    bind_lift_of_ok (timestampParse_of_read ht.issuedAt)]
  -- the optional lines, each read back or left to the next reader
  rw [optionalLineList, List.append_assoc, List.append_assoc,
    bind_of_ok (optionalTimestamp_optionLines ht.expirationTime
      fun _ => untagged_after_expirationTime c),
    bind_of_ok (optionalTimestamp_optionLines ht.notBefore fun _ => untagged_after_notBefore c),
    bind_of_ok (optionalTagged_optionLines fun _ => untagged_after_requestId c),
    bind_of_ok (readResources_resourceLines c.resources), bind_of_ok readEnd_nil]
  exact lift_of_ok (validate_eq_ok_iff.2 ⟨checkFields_eq_ok_iff.2 hc, rfl⟩)

/-- A message that passes the builder's check, with a chain id that fits in 64 bits and
timestamps whose texts read as their instants, is read back from its text. -/
theorem parse_render_of_fieldsOk {c : Challenge} (hc : c.FieldsOk) (ht : c.TimesRead)
    (hchain : c.chainId ≤ maxChainId) : parse c.render = .ok c := by
  rw [parse, StateT.run, lines_render (lf_not_mem_textLines hc ht), readMessage_textLines hc ht hchain]
  rfl

/-- The messages the codec reads back: those the builder returns, with a chain id that fits in
64 bits, or the reader returns, whose timestamps' texts read as their instants. -/
structure RoundTrips (c : Challenge) : Prop where
  source : ((∃ d : Challenge, d.validate = .ok c) ∧ c.chainId ≤ maxChainId) ∨ ∃ t, parse t = .ok c
  times : c.TimesRead

/-- Reading a message back from its text gives the message; so two such messages with one
text are one message. -/
theorem parse_render {c : Challenge} (hc : c.RoundTrips) :
    parse c.render = .ok c ∧ ∀ c', c'.RoundTrips → c'.render = c.render → c' = c := by
  have hread : ∀ {c : Challenge}, c.RoundTrips → parse c.render = .ok c := by
    intro c hc
    rcases hc.source with ⟨⟨d, hd⟩, hchain⟩ | ⟨t, hparse⟩
    · obtain ⟨hfields, rfl⟩ := validate_eq_ok_iff.1 hd
      exact parse_render_of_fieldsOk (checkFields_eq_ok_iff.1 hfields) hc.times hchain
    · rw [render_of_parse hparse, hparse]
  refine ⟨hread hc, fun c' hc' hrender => ?_⟩
  have h := hread hc'
  rw [hrender, hread hc] at h
  exact (Except.ok.inj h).symm

/-- The sample message, as the builder returns it, is read back from its text. -/
theorem parse_render_sample :
    sampleChallenge.RoundTrips ∧ parse sampleChallenge.render = .ok sampleChallenge ∧
      ∀ c', c'.RoundTrips → c'.render = sampleChallenge.render → c' = sampleChallenge := by
  have hbuilt : sampleChallenge.validate = .ok sampleChallenge := by decide +kernel
  have hchain : sampleChallenge.chainId ≤ maxChainId := by decide
  have hissued : Rfc3339.parse sampleChallenge.issuedAt.text = .ok sampleChallenge.issuedAt.at_ := by
    decide +kernel
  have hsample : sampleChallenge.RoundTrips :=
    ⟨.inl ⟨⟨sampleChallenge, hbuilt⟩, hchain⟩, ⟨hissued, (fun _ h => nomatch h), (fun _ h => nomatch h)⟩⟩
  exact ⟨hsample, parse_render hsample⟩

end Challenge
end WalletAuth
