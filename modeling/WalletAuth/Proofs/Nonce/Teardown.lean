import WalletAuth.Proofs.Session.Calls

/-!
# WalletAuth.Proofs.Nonce.Teardown — what tearing a store down deletes

A store kept in the key-value server holds its records under `prefix:`. Tearing it down scans the
server for the pattern `prefix:*`, a batch of 100 keys at a time, keeps at most
`KeyValue.scanLimit` of the keys found, and deletes them one by one. The pattern is the prefix as
written, so a `*` or `?` in the prefix widens it to keys the store does not own, and so, on a
server that reads classes and escapes, do `[` and a backslash.

* `Redis.globMatch_literal_star`, `Redis.wildcardMatch_literal_star` and
  `Redis.keyMatches_prefix_star`: in either dialect, a pattern of literal bytes and a final `*`
  matches exactly the keys that begin with its literal part.
* `KeyValue.scanFrom_run`: the scan loop, from a cursor and with fuel for the keys left, returns
  the matching keys from the cursor on, in key order, cut at `scanLimit`; the server it leaves
  holds the same live entries.
* `NonceStore.deleteAll_run`: deleting keys one after another removes exactly those keys.
* `NonceStore.teardown_drops_own_keys`: for a prefix with none of `*`, `?`, `[` and a backslash,
  and at most `scanLimit` live keys of the store, teardown succeeds when `SCAN` and `DEL` are
  served; no key of the store is left, every other key is as it was, and reading any record finds
  it missing.
-/

namespace WalletAuth

namespace Text

/-- The UTF-8 bytes of two texts put together are those of the first, then those of the
second. -/
theorem toUTF8_append_toList (s t : String) :
    (s ++ t).toUTF8.data.toList = s.toUTF8.data.toList ++ t.toUTF8.data.toList := by
  rw [← Array.toList_append, ← ByteArray.data_append]
  rfl

/-- A text begins with another exactly when its UTF-8 bytes begin with the other's. -/
theorem bytes_prefix_iff (s k : String) :
    s.toUTF8.data.toList <+: k.toUTF8.data.toList ↔ s.toList <+: k.toList := by
  rw [← Bytes.toList_eq, ← Bytes.toList_eq, toUTF8_toList, toUTF8_toList]
  constructor
  · -- UTF-8 is a prefix code: bytes that begin a text's encoding encode a prefix of it
    rintro ⟨t, ht⟩
    refine List.isPrefix_of_utf8Encode_append_eq_utf8Encode t.toByteArray ?_
    rw [List.utf8Encode, List.utf8Encode, ← List.toByteArray_append, ht]
  · rintro ⟨r, hr⟩
    exact ⟨r.flatMap String.utf8EncodeChar, by rw [← hr, List.flatMap_append]⟩

end Text

namespace Redis

/-- A pattern whose bytes all stand for themselves in either dialect: none of them is `*`, `?`,
`[` or a backslash. -/
def Literal (p : List UInt8) : Prop :=
  ∀ x ∈ p, x ≠ starByte ∧ x ≠ anyByte ∧ x ≠ openByte ∧ x ≠ escapeByte

instance (p : List UInt8) : Decidable (Literal p) :=
  inferInstanceAs (Decidable (∀ x ∈ p, x ≠ starByte ∧ x ≠ anyByte ∧ x ≠ openByte ∧ x ≠ escapeByte))

theorem literal_cons {x : UInt8} {p : List UInt8} :
    Literal (x :: p) ↔ (x ≠ starByte ∧ x ≠ anyByte ∧ x ≠ openByte ∧ x ≠ escapeByte) ∧ Literal p :=
  List.forall_mem_cons

/-- Literal bytes followed by `*` match, in the stand-in's dialect, exactly the texts that begin
with those bytes. -/
theorem wildcardMatch_literal_star : ∀ {p : List UInt8}, Literal p → ∀ s,
    wildcardMatch (p ++ [starByte]) s = true ↔ p <+: s
  | [], _, s => by
    -- the star takes the whole text
    simp only [List.nil_append, wildcardMatch, beq_self_eq_true, if_true, List.any_eq_true,
      List.mem_range, List.nil_prefix, iff_true]
    exact ⟨s.length, Nat.lt_succ_self _, by simp⟩
  | x :: p, hp, s => by
    obtain ⟨⟨hs, ha, -, -⟩, hrest⟩ := literal_cons.1 hp
    have hx : (x == starByte) = false := beq_eq_false_iff_ne.2 hs
    have hx' : (x == anyByte) = false := beq_eq_false_iff_ne.2 ha
    cases s with
    | nil => simp [wildcardMatch, hx]
    | cons c s =>
      rw [List.cons_append, wildcardMatch, if_neg (by simp [hx])]
      rw [hx', Bool.false_or, Bool.and_eq_true, wildcardMatch_literal_star hrest s, beq_iff_eq,
        List.cons_prefix_cons]

/-- Literal bytes followed by `*` match, once a byte of the text was taken, exactly the texts that
begin with those bytes: each literal byte takes one byte of the text, and the star the rest. -/
theorem matchRest_literal_star : ∀ {p : List UInt8}, Literal p → ∀ s,
    matchRest (p ++ [starByte]) s = true ↔ p <+: s
  | [], _, [] => by simp [matchRest]
  | [], _, c :: s => by simp [matchRest]
  | x :: p, hp, [] => by
    have hs := (literal_cons.1 hp).1.1
    simp [matchRest, hs]
  | x :: p, hp, c :: s => by
    obtain ⟨⟨hs, ha, ho, he⟩, hrest⟩ := literal_cons.1 hp
    simp only [List.cons_append, matchRest, beq_eq_false_iff_ne.2 hs, beq_eq_false_iff_ne.2 ha,
      beq_eq_false_iff_ne.2 ho, beq_eq_false_iff_ne.2 he, Bool.false_eq_true, if_false,
      Bool.and_eq_true, beq_iff_eq, List.cons_prefix_cons]
    rw [matchRest_literal_star hrest s]

/-- Literal bytes, at least one, followed by `*` match as a Redis glob exactly the texts that
begin with those bytes. -/
theorem globMatch_literal_star {p : List UInt8} (hp : Literal p) (hne : p ≠ []) :
    ∀ s, globMatch (p ++ [starByte]) s = true ↔ p <+: s
  | [] => by simp [globMatch, hne]
  | c :: s => matchRest_literal_star hp (c :: s)

/-- The pattern `prefix:*`, for a prefix with none of `*`, `?`, `[` and a backslash, matches in
either dialect exactly the keys that begin with `prefix:`. -/
theorem keyMatches_prefix_star (d : GlobDialect) {pfx : String}
    (hp : Literal pfx.toUTF8.data.toList) (k : String) :
    keyMatches d (pfx ++ ":*") k = k.startsWith (pfx ++ ":") := by
  have hbytes : (pfx ++ ":*").toUTF8.data.toList = (pfx ++ ":").toUTF8.data.toList ++ [starByte] := by
    rw [Text.toUTF8_append_toList, Text.toUTF8_append_toList, List.append_assoc]
    rfl
  have hcolon : (pfx ++ ":").toUTF8.data.toList = pfx.toUTF8.data.toList ++ [58] := by
    rw [Text.toUTF8_append_toList]
    rfl
  have hlit : Literal (pfx ++ ":").toUTF8.data.toList := by
    rw [hcolon]
    exact List.forall_mem_append.2 ⟨hp, by simp [starByte, anyByte, openByte, escapeByte]⟩
  have hne : (pfx ++ ":").toUTF8.data.toList ≠ [] := by
    rw [hcolon]
    exact List.append_ne_nil_of_right_ne_nil _ (List.cons_ne_nil _ _)
  rw [Bool.eq_iff_iff, String.startsWith_string_iff, ← Text.bytes_prefix_iff]
  cases d with
  | redis => rw [keyMatches, hbytes, globMatch_literal_star hlit hne]
  | wildcards => rw [keyMatches, hbytes, wildcardMatch_literal_star hlit]

/-- A cursor within 64 bits, written in decimal, reads back. -/
theorem parseUInt64?_toString {c : Nat} (hc : c ≤ maxUInt64) : parseUInt64? (toString c) = some c := by
  have hs : (toString c).toList = Nat.toDigits 10 c := Nat.toList_repr
  have hall : ∀ d ∈ Nat.toDigits 10 c, d.isDigit = true :=
    fun d hd => Nat.isDigit_of_mem_toDigits (by decide) (by decide) hd
  obtain ⟨x, xs, hx⟩ := List.exists_cons_of_ne_nil (Nat.toDigits_ne_nil (n := c) (b := 10))
  have hplus : x ≠ '+' := by
    rintro rfl
    exact absurd (hall '+' (by rw [hx]; exact List.mem_cons_self)) (by decide)
  unfold parseUInt64?
  rw [hs, hx]
  dsimp only
  split
  · rename_i h
    exact absurd (List.cons.inj h).1 hplus
  · -- the digits fold back to the number, `Nat.ofDigitChars` being the same fold
    have hval : (x :: xs).foldl (fun n d => 10 * n + (d.toNat - 48)) 0 = c := by
      rw [← hx]
      exact Nat.ofDigitChars_ten_toDigits
    have hdig : (x :: xs).all Char.isDigit = true := List.all_eq_true.2 (hx ▸ hall)
    simp [hdig, hval, hc]

/-- A natural number written in decimal reads back. -/
theorem toNat?_toString (n : Nat) : (toString n).toNat? = some n := by
  have hs : (toString n).toList = Nat.toDigits 10 n := Nat.toList_repr
  have hall : ∀ d ∈ (toString n).toList, d.isDigit = true := fun d hd =>
    Nat.isDigit_of_mem_toDigits (by decide) (by decide) (hs ▸ hd)
  have hne : toString n ≠ "" := fun h => Nat.toDigits_ne_nil (by rw [← hs, h]; rfl)
  rw [String.toNat?_eq_some_ofDigitChars (String.isNat_of_isDigit hne hall)]
  congr 1
  have hkeep : (toString n).toList.filter (· != '_') = (toString n).toList :=
    List.filter_eq_self.2 fun d hd => by
      have hne' : d ≠ '_' := by
        rintro rfl
        exact absurd (hall '_' hd) (by decide)
      simpa using hne'
  rw [hkeep, hs]
  exact Nat.ofDigitChars_ten_toDigits

/-- The options a scan of the store sends. -/
theorem scanOptions_match_count (p : String) :
    scanOptions ["MATCH", p, "COUNT", "100"] none scanDefaultCount = .ok (some p, 100) := by
  have hm : "MATCH".toUpper = "MATCH" := by cbv
  have hc : "COUNT".toUpper = "COUNT" := by cbv
  have h100 : parseUInt64? "100" = some 100 := parseUInt64?_toString (c := 100) (by decide)
  simp only [scanOptions, hm, hc, h100, Option.getD_some]
  rfl

/-- A scan step of 100 keys from a cursor that leaves room in 64 bits: the keys from the cursor
on, 100 of them, those that match, and the cursor after them, or `0` at the end. -/
theorem scanStep_hundred (d : GlobDialect) (keys : List String) {c : Nat} (hc : c + 100 ≤ maxUInt64)
    (p : String) :
    scanStep d keys c 100 (some p) =
      (if c + 100 < keys.length then c + 100 else 0,
        ((keys.drop c).take 100).filter (keyMatches d p)) := by
  have hstop : (c + 100) % Nat.pow 2 64 = c + 100 := by
    apply Nat.mod_eq_of_lt
    have h : maxUInt64 = Nat.pow 2 64 - 1 := rfl
    have hp : 0 < Nat.pow 2 64 := Nat.two_pow_pos 64
    omega
  simp only [scanStep, hstop, Nat.add_sub_cancel_left]

namespace Server

variable {srv : Server} {now : Instant}

/-- A second purge at the same instant keeps the keys of the first. -/
theorem keys_purge_purge : ((srv.purge now).purge now).keys = (srv.purge now).keys := by
  simp only [keys, purge, ← Std.TreeMap.map_fst_toList_eq_keys, Std.TreeMap.toList_filter,
    List.filter_filter, Bool.and_self]

theorem length_keys_purge_le : (srv.purge now).keys.length ≤ srv.size := by
  simp only [keys, purge, size, Std.TreeMap.length_keys]
  exact Std.TreeMap.size_filter_le_size

theorem mem_keys_iff {k : String} : k ∈ srv.keys ↔ (srv.find? k).isSome := by
  rw [keys, find?, Std.TreeMap.mem_keys, Std.TreeMap.mem_iff_isSome_getElem?,
    Std.TreeMap.get?_eq_getElem?]

/-- A served `SCAN` with a cursor, a pattern and a count of 100 answers one scan step over the
live keys, and leaves the server purged. -/
theorem exec_scan {c : Nat} (hc : c ≤ maxUInt64) (hf : srv.failing.contains "SCAN" = false)
    (p : String) :
    srv.exec now ["SCAN", toString c, "MATCH", p, "COUNT", "100"] =
      (.array [.bulk (toString (scanStep srv.glob (srv.purge now).keys c 100 (some p)).1),
        .array ((scanStep srv.glob (srv.purge now).keys c 100 (some p)).2.map .bulk)],
        srv.purge now) := by
  have hup : "SCAN".toUpper = "SCAN" := by cbv
  simp only [exec, hup, failing_purge, hf, parseUInt64?_toString hc, scanOptions_match_count]
  rfl

/-- Two servers with the same live keys, entries and failing commands at an instant. -/
structure SameLive (now : Instant) (s t : Server) : Prop where
  keys : (s.purge now).keys = (t.purge now).keys
  find? : ∀ k, (s.purge now).find? k = (t.purge now).find? k
  failing : s.failing = t.failing

theorem SameLive.refl (s : Server) : SameLive now s s := ⟨rfl, fun _ => rfl, rfl⟩

theorem SameLive.trans {s t u : Server} (h : SameLive now s t) (h' : SameLive now t u) :
    SameLive now s u :=
  ⟨h.keys.trans h'.keys, fun k => (h.find? k).trans (h'.find? k), h.failing.trans h'.failing⟩

theorem sameLive_purge (srv : Server) (now : Instant) : SameLive now (srv.purge now) srv :=
  ⟨keys_purge_purge, find?_purge_purge srv now, rfl⟩

end Server
end Redis

namespace KeyValue

variable {b : Backend}

theorem reply_check_array (xs : List Redis.Reply) : (Redis.Reply.array xs).check = .ok (.array xs) :=
  rfl

/-- A served scan step reads the server's answer back as the next cursor and the keys found. -/
theorem scanStep_run {c : Nat} (hc : c ≤ Redis.maxUInt64) (hf : b.kv.failing.contains "SCAN" = false)
    (p : String) :
    (scanStep c p).run.run b =
      (.ok (Redis.scanStep b.kv.glob (b.kv.purge b.clock.now).keys c 100 (some p)),
        { b with kv := b.kv.purge b.clock.now }) := by
  unfold scanStep
  rw [Backend.run_bind_of_ok (by rw [command_run, Redis.Server.exec_scan hc hf, reply_check_array])]
  dsimp only
  rw [Redis.toNat?_toString, Redis.strings_array_bulk]
  rfl

/-- The scan loop from cursor `c`, with fuel enough for the keys left: it returns the keys that
match from the cursor on, after those gathered before, cut at `scanLimit`. The loop is on the
fuel; each step takes the next 100 keys, and the keys left shrink by 100 while the fuel shrinks
by one. -/
theorem scanFrom_run {K : List String} {d : Redis.GlobDialect}
    (hf : b.kv.failing.contains "SCAN" = false) (hd : b.kv.glob = d)
    (hK : (b.kv.purge b.clock.now).keys = K) (hlen : K.length + 100 ≤ Redis.maxUInt64)
    (p : String) (fuel c : Nat) (acc : List String) (hfuel : 0 < fuel) (hc : c ≤ K.length)
    (henough : K.length ≤ c + 100 * fuel) :
    ∃ s, (scanFrom fuel c p acc).run.run b =
        (.ok ((acc ++ (K.drop c).filter (Redis.keyMatches d p)).take scanLimit), { b with kv := s }) ∧
      Redis.Server.SameLive b.clock.now s b.kv := by
  induction fuel generalizing b c acc with
  | zero => omega
  | succ fuel ih =>
    -- the batch at the cursor, and the keys after it
    have hsplit : (K.drop c).filter (Redis.keyMatches d p) =
        ((K.drop c).take 100).filter (Redis.keyMatches d p) ++
          (K.drop (c + 100)).filter (Redis.keyMatches d p) := by
      rw [← List.filter_append, ← List.drop_drop, List.take_append_drop]
    have hstep := scanStep_run (b := b) (by omega : c ≤ Redis.maxUInt64) hf p
    rw [hK, hd, Redis.scanStep_hundred d K (by omega) p] at hstep
    unfold scanFrom
    rw [Backend.run_bind_of_ok hstep]
    dsimp only
    set acc' := acc ++ ((K.drop c).take 100).filter (Redis.keyMatches d p) with hacc'
    have hwhole : acc ++ (K.drop c).filter (Redis.keyMatches d p) =
        acc' ++ (K.drop (c + 100)).filter (Redis.keyMatches d p) := by
      rw [hsplit, hacc', List.append_assoc]
    by_cases hfull : acc'.length ≥ scanLimit
    · -- the batch fills the scan: the keys after it are cut off anyway
      rw [if_pos hfull, hwhole, List.take_append_of_le_length hfull]
      exact ⟨_, rfl, Redis.Server.sameLive_purge _ _⟩
    · rw [if_neg hfull]
      by_cases hlast : c + 100 < K.length
      · rw [if_pos hlast, if_neg (by omega)]
        have hb' : ({ b with kv := b.kv.purge b.clock.now } : Backend).kv.failing.contains "SCAN" =
            false := hf
        obtain ⟨s, hrun, hsame⟩ := ih (b := { b with kv := b.kv.purge b.clock.now }) hb' hd
          (Redis.Server.keys_purge_purge.trans hK) (c + 100) acc' (by omega) (by omega) (by omega)
        refine ⟨s, ?_, hsame.trans (Redis.Server.sameLive_purge _ _)⟩
        rw [hrun, hwhole]
      · -- the batch reaches the end of the keys: the cursor comes back to zero
        rw [if_neg hlast, if_pos rfl, hwhole, List.drop_of_length_le (by omega), List.filter_nil,
          List.append_nil, List.take_of_length_le (by omega)]
        exact ⟨_, rfl, Redis.Server.sameLive_purge _ _⟩

/-- Scanning for a pattern on a served server whose key count fits in 64 bits returns the live
keys that match, in key order, at most `scanLimit` of them. -/
theorem scanKeys_run (hf : b.kv.failing.contains "SCAN" = false)
    (hsize : (b.kv.size : Int) ≤ Redis.maxInt64) (p : String) :
    ∃ s, (scanKeys p).run.run b =
        (.ok (((b.kv.purge b.clock.now).keys.filter (Redis.keyMatches b.kv.glob p)).take scanLimit),
          { b with kv := s }) ∧
      Redis.Server.SameLive b.clock.now s b.kv := by
  have hle : (b.kv.purge b.clock.now).keys.length ≤ b.kv.size := Redis.Server.length_keys_purge_le
  have hbound : (b.kv.purge b.clock.now).keys.length + 100 ≤ Redis.maxUInt64 := by
    have h63 : Redis.maxInt64 = 9223372036854775807 := rfl
    have h64 : Redis.maxUInt64 = 18446744073709551615 := rfl
    omega
  obtain ⟨s, hrun, hsame⟩ := scanFrom_run hf rfl rfl hbound p (b.kv.size + 2) 0 [] (by omega) (by omega)
    (by omega)
  exact ⟨s, hrun, hsame⟩

end KeyValue

namespace NonceStore

variable {b : Backend}

/-- Deleting keys one after another, `DEL` being served, removes exactly those keys. -/
theorem deleteAll_run (ks : List String) (b : Backend) (hf : b.kv.failing.contains "DEL" = false) :
    ∃ s, (deleteAll ks).run.run b = (.ok (), { b with kv := s }) ∧ s.failing = b.kv.failing ∧
      ∀ k, (s.purge b.clock.now).find? k =
        if k ∈ ks then none else (b.kv.purge b.clock.now).find? k := by
  induction ks generalizing b with
  | nil => exact ⟨b.kv, rfl, rfl, fun k => by simp⟩
  | cons k ks ih =>
    obtain ⟨⟨i, hreply⟩, hfail, -, hfind⟩ := Redis.Server.exec_del_find? b.kv b.clock.now (k := k) hf
    have hdel : (KeyValue.command ["DEL", k]).run.run b =
        (.ok (.int i), { b with kv := (b.kv.exec b.clock.now ["DEL", k]).2 }) := by
      rw [KeyValue.command_run, hreply]
      rfl
    obtain ⟨s, hrun, hsf, hs⟩ := ih (b := { b with kv := (b.kv.exec b.clock.now ["DEL", k]).2 })
      (by rw [← hf]; exact congrArg (·.contains "DEL") hfail)
    refine ⟨s, ?_, hsf.trans hfail, fun k' => ?_⟩
    · unfold deleteAll
      rw [Backend.run_bind_of_ok hdel]
      exact hrun
    · rw [hs k']
      dsimp only
      rw [Redis.Server.find?_purge, hfind k']
      by_cases hk : k = k'
      · subst hk
        simp
      · have hmem : (k' ∈ k :: ks) ↔ k' ∈ ks := by simp [Ne.symm hk]
        rw [if_neg hk, ← Redis.Server.find?_purge, Redis.Server.find?_purge_purge]
        simp only [hmem]

/-- A record key of the store begins with `prefix:`. -/
theorem recordKey_startsWith (pfx : String) (a : Address) (n : String) :
    (recordKey pfx a n).startsWith (pfx ++ ":") = true := by
  rw [String.startsWith_string_iff]
  exact ⟨(a.lowerHex ++ ":" ++ n).toList, by simp [recordKey, String.toList_append]⟩

/-- Tearing down a store kept under a prefix with none of `*`, `?`, `[` and a backslash, on a
server of either glob dialect that serves `SCAN` and `DEL`, whose key count fits in 64 bits and
that holds at most `scanLimit` live keys of the store: teardown succeeds, no live key that begins with `prefix:` is left, every other key is
as it was, and, `GET` being served, reading any record of the store finds it missing. -/
theorem teardown_drops_own_keys {pfx : String} (hb : b.nonces = .keyValue pfx true)
    (hlit : Redis.Literal pfx.toUTF8.data.toList) (hsize : (b.kv.size : Int) ≤ Redis.maxInt64)
    (hfew : ((b.kv.purge b.clock.now).keys.filter fun k => k.startsWith (pfx ++ ":")).length ≤
      KeyValue.scanLimit)
    (hscan : b.kv.failing.contains "SCAN" = false) (hdel : b.kv.failing.contains "DEL" = false) :
    ∃ kv', teardown.run.run b = (.ok (), { b with kv := kv' }) ∧
      (∀ k, k.startsWith (pfx ++ ":") = true → (kv'.purge b.clock.now).find? k = none) ∧
      (∀ k, k.startsWith (pfx ++ ":") = false →
        (kv'.purge b.clock.now).find? k = (b.kv.purge b.clock.now).find? k) ∧
      (b.kv.failing.contains "GET" = false →
        ∀ a n, ((get a n).run.run { b with kv := kv' }).1 = .ok .missing) := by
  -- the scan returns the live keys of the store, all of them
  obtain ⟨s, hscanRun, hsame⟩ := KeyValue.scanKeys_run hscan hsize (pfx ++ ":*")
  have howned : ((b.kv.purge b.clock.now).keys.filter
      (Redis.keyMatches b.kv.glob (pfx ++ ":*"))).take
      KeyValue.scanLimit = (b.kv.purge b.clock.now).keys.filter fun k => k.startsWith (pfx ++ ":") := by
    rw [List.filter_congr fun k _ => Redis.keyMatches_prefix_star b.kv.glob hlit k, List.take_of_length_le hfew]
  rw [howned] at hscanRun
  obtain ⟨kv', hdelRun, hfail', hfind'⟩ := deleteAll_run
    ((b.kv.purge b.clock.now).keys.filter fun k => k.startsWith (pfx ++ ":"))
    { b with kv := s } (by rw [← hdel]; exact congrArg (·.contains "DEL") hsame.failing)
  have hgone : ∀ k, k.startsWith (pfx ++ ":") = true → (kv'.purge b.clock.now).find? k = none := by
    intro k hk
    rw [hfind' k]
    split
    · rfl
    · -- a key of the store the scan did not return was not live
      rename_i hmem
      rw [hsame.find? k]
      cases hlive : (b.kv.purge b.clock.now).find? k with
      | none => rfl
      | some e =>
        exact absurd (List.mem_filter.2 ⟨Redis.Server.mem_keys_iff.2 (by simp [hlive]), hk⟩) hmem
  refine ⟨kv', ?_, hgone, fun k hk => ?_, fun hget a n => ?_⟩
  · obtain ⟨clock, entropy, nonces, kv, tokens⟩ := b
    cases hb
    unfold teardown
    rw [run_get_bind]
    dsimp only
    rw [client_connect_true, Backend.run_bind_of_ok hscanRun, hdelRun]
    rfl
  · rw [hfind' k, if_neg (fun hmem => by simp [(List.mem_filter.1 hmem).2] at hk), hsame.find? k]
  · -- the record's key is gone, so `GET` answers nil
    obtain ⟨clock, entropy, nonces, kv, tokens⟩ := b
    cases hb
    unfold get
    rw [run_get_bind]
    dsimp only
    rw [Backend.run_run_bind, client_connect_true, KeyValue.optString_run,
      Redis.Server.exec_get_none _ _
        (by rw [← hget]; exact congrArg (·.contains "GET") (hfail'.trans hsame.failing))
        (hgone _ (recordKey_startsWith pfx a n))]
    rfl

/-- A server at noon holding one record of the store `nonce` and one key of another owner. -/
def sharedServer : Redis.Server :=
  (({} : Redis.Server).put ⟨"nonce:f39fd6e51aad88f6f4ce6ab8827279cfffb92266:n1", .str "r", none⟩).put
    ⟨"account:abc", .str "1", none⟩

/-- A backend keeping its nonces under `nonce` in `sharedServer`. -/
def sharedBackend : Backend where
  clock := { now := ⟨1714564800, 0⟩ }
  entropy := {}
  nonces := .keyValue "nonce" true
  kv := sharedServer

theorem teardown_drops_own_keys_sample :
    sharedBackend.nonces = .keyValue "nonce" true ∧ Redis.Literal "nonce".toUTF8.data.toList ∧
      (sharedBackend.kv.size : Int) ≤ Redis.maxInt64 ∧
      ((sharedBackend.kv.purge sharedBackend.clock.now).keys.filter
        fun k => k.startsWith ("nonce" ++ ":")).length ≤ KeyValue.scanLimit ∧
      sharedBackend.kv.failing.contains "SCAN" = false ∧
      sharedBackend.kv.failing.contains "DEL" = false ∧
      ∃ kv', teardown.run.run sharedBackend = (.ok (), { sharedBackend with kv := kv' }) ∧
        (∀ k, k.startsWith ("nonce" ++ ":") = true →
          (kv'.purge sharedBackend.clock.now).find? k = none) ∧
        (∀ k, k.startsWith ("nonce" ++ ":") = false →
          (kv'.purge sharedBackend.clock.now).find? k =
            (sharedBackend.kv.purge sharedBackend.clock.now).find? k) ∧
        (sharedBackend.kv.failing.contains "GET" = false →
          ∀ a n, ((get a n).run.run { sharedBackend with kv := kv' }).1 = .ok .missing) := by
  have hlit : Redis.Literal "nonce".toUTF8.data.toList := by decide +kernel
  have hsize : (sharedBackend.kv.size : Int) ≤ Redis.maxInt64 := by decide
  have hfew : ((sharedBackend.kv.purge sharedBackend.clock.now).keys.filter
      fun k => k.startsWith ("nonce" ++ ":")).length ≤ KeyValue.scanLimit :=
    (List.length_filter_le _ _).trans (Redis.Server.length_keys_purge_le.trans (by decide))
  exact ⟨rfl, hlit, hsize, hfew, rfl, rfl,
    teardown_drops_own_keys rfl hlit hsize hfew rfl rfl⟩

end NonceStore

end WalletAuth
