import WalletAuth.Proofs.Nonce.Pending
import WalletAuth.Proofs.Redis.Commands
import WalletAuth.Proofs.Message.Codec
import WalletAuth.Proofs.Time.Spans

/-!
# WalletAuth.Proofs.Nonce.OnServer — the store methods on a key-value server

On a backend whose nonce store is a reachable key-value server that fails no command, each
store method has a closed form in terms of the server purged at the clock's instant: what
`GET`, `SET … NX EX`, `DEL` and the claim script find there and leave behind.

* `get_run_kv_none`, `get_run_kv_str`: a read answers missing, or decodes the kept text;
* `claim_run_kv`: the claim is the script on the purged server, loaded first when it was not;
* `insert_run_kv_absent`, `insert_run_kv_present`: an insert sets a free key, refuses a taken one;
* `remove_run_kv`: a removal deletes the key.

The kept texts read back: a record's text is a JSON object, never marked `used:`
(`NonceRecord.toText_not_used`), and a consumed one is that text after the mark
(`decodeKept_used`). A record issued outside a leap second for `k` whole seconds is kept
`2 * k` seconds (`expirySeconds_of_issue`), a count that the server reads back
(`Redis.parseInt64?_of_nonneg`).
-/

namespace WalletAuth

/-! ## Kept texts -/

/-- A kept record is a JSON object: its text opens with a brace, never with the mark of a
consumed record. -/
theorem NonceRecord.toText_not_used (r : NonceRecord) : r.toText.startsWith "used:" = false := by
  rw [String.startsWith_string_eq_false_iff]
  have hr : r.toText = ("\x7b" ++ Json.compactMembers [("address", .str r.address.lowerPrefixed),
      ("nonce", .str r.nonce), ("issued_at", .str (Rfc3339.formatAuto r.issuedAt)),
      ("expires_at", .str (Rfc3339.formatAuto r.expiresAt))]) ++ "\x7d" := rfl
  rw [hr, String.toList_append, String.toList_append]
  rintro ⟨t, ht⟩
  have hhead := congrArg List.head? ht
  simp at hhead

theorem NonceStore.usedMark_length : NonceStore.usedMark.length = 5 := by decide

theorem NonceStore.decodeKept_used (t : String) :
    NonceStore.decodeKept (NonceStore.usedMark ++ t) = (NonceRecord.ofText t).map .consumed := by
  have hs : (NonceStore.usedMark ++ t).startsWith NonceStore.usedMark = true := by
    rw [String.startsWith_string_iff, String.toList_append]
    exact List.prefix_append _ _
  have hd : String.ofList ((NonceStore.usedMark ++ t).toList.drop NonceStore.usedMark.length) = t := by
    rw [usedMark_length, String.toList_append]
    show String.ofList (List.drop 5 (['u', 's', 'e', 'd', ':'] ++ t.toList)) = t
    simp
  simp only [NonceStore.decodeKept, hs, if_true, hd]

theorem NonceStore.decodeKept_record (r : NonceRecord) :
    NonceStore.decodeKept r.toText = (NonceRecord.ofText r.toText).map .pending := by
  have hs : r.toText.startsWith NonceStore.usedMark = false := r.toText_not_used
  simp only [NonceStore.decodeKept, hs, Bool.false_eq_true, if_false]

namespace NonceStore

/-- The used text of a kept record starts with the mark the claim script looks for, and the
script reads the record back after it. -/
theorem usedMark_startsWith (t : String) : (usedMark ++ t).startsWith "used:" = true := by
  rw [String.startsWith_string_iff, String.toList_append]
  exact List.prefix_append _ _

theorem drop_usedMark (t : String) : String.ofList ((usedMark ++ t).toList.drop 5) = t := by
  rw [String.toList_append]
  show String.ofList (List.drop 5 (['u', 's', 'e', 'd', ':'] ++ t.toList)) = t
  simp

end NonceStore

/-! ## Expiry counts -/

namespace Redis

/-- Folding digits into an integer is folding them into a natural number, cast. -/
theorem foldl_digits_cast (cs : List Char) (hcs : ∀ d ∈ cs, d.isDigit = true) (acc : Nat) :
    cs.foldl (fun (n : Int) d => 10 * n + ((d.toNat : Int) - 48)) (acc : Int) =
      ((cs.foldl (fun n d => n * 10 + (d.toNat - 48)) acc : Nat) : Int) := by
  induction cs generalizing acc with
  | nil => rfl
  | cons d ds ih =>
    have hd := Challenge.isDigit_iff.1 (hcs d List.mem_cons_self)
    simp only [List.foldl_cons]
    rw [← ih (fun c hc => hcs c (List.mem_cons_of_mem d hc))]
    congr 1
    push_cast [hd.1]
    ring

/-- A count written in decimal reads back as a 64-bit number exactly when it is one. -/
theorem parseInt64?_natCast (m : Nat) :
    parseInt64? (toString (m : Int)) = if (m : Int) ≤ maxInt64 then some (m : Int) else none := by
  have hs : (toString (m : Int)).toList = Nat.toDigits 10 m := Nat.toList_repr
  have hall : ∀ c ∈ Nat.toDigits 10 m, c.isDigit = true :=
    fun c hc => Nat.isDigit_of_mem_toDigits (by decide) (by decide) hc
  obtain ⟨x, xs, hx⟩ := List.exists_cons_of_ne_nil (Nat.toDigits_ne_nil (n := m) (b := 10))
  have hxd : x.isDigit = true := hall x (by rw [hx]; exact List.mem_cons_self)
  have hval : (x :: xs).foldl (fun (n : Int) d => 10 * n + ((d.toNat : Int) - 48)) 0 = m := by
    rw [← hx]
    have h := foldl_digits_cast (Nat.toDigits 10 m) hall 0
    exact h.trans (congrArg _ (Challenge.digitsValue_toDigits m))
  unfold parseInt64?
  rw [hs, hx]
  -- a digit is no sign, so the text is unsigned
  have hminus : x ≠ '-' := by
    rintro rfl
    exact absurd hxd (by decide)
  have hplus : x ≠ '+' := by
    rintro rfl
    exact absurd hxd (by decide)
  have hdig : (x :: xs).all Char.isDigit = true := List.all_eq_true.2 (hx ▸ hall)
  dsimp only
  split
  · rename_i h
    exact absurd (List.cons.inj h).1 hminus
  · rename_i h
    exact absurd (List.cons.inj h).1 hplus
  · have hlo : minInt64 ≤ (m : Int) := by
      have hp : (0 : Int) ≤ Int.pow 2 63 := by decide
      simp only [minInt64]
      omega
    simp [hdig, hval, hlo]

theorem parseInt64?_toString {m : Nat} (hm : (m : Int) ≤ maxInt64) :
    parseInt64? (toString (m : Int)) = some (m : Int) := by
  rw [parseInt64?_natCast, if_pos hm]

/-- A count that fits in 64 bits, written in decimal, reads back. -/
theorem parseInt64?_of_nonneg {x : Int} (h0 : 0 ≤ x) (hx : x ≤ maxInt64) :
    parseInt64? (toString x) = some x := by
  obtain ⟨k, rfl⟩ := Int.eq_ofNat_of_zero_le h0
  exact parseInt64?_toString hx

end Redis

namespace NonceStore

variable {k : Int} {t : Instant}

/-- A record issued outside a leap second for a whole number `k` of seconds is retained twice
that long: the server keeps it `2 * k` seconds. -/
theorem expirySeconds_of_issue (hk : 0 < k) (ht : t.nanos < nanosPerSecond) {r : NonceRecord}
    (hi : r.issuedAt = t) (he : r.expiresAt = t.add (.ofSeconds k)) :
    expirySeconds r (r.expiresAt.add (.ofSeconds k)) = 2 * k := by
  unfold expirySeconds Span.wholeSeconds
  rw [he, hi, Instant.add_add_of_lt ht, Instant.since_add ht]
  have hw : ((Span.ofSeconds k).nanos + (Span.ofSeconds k).nanos).tdiv nanosPerSecond = 2 * k := by
    simp only [Span.ofSeconds]
    rw [show k * (nanosPerSecond : Int) + k * nanosPerSecond = 2 * k * nanosPerSecond by ring]
    exact Int.mul_tdiv_cancel _ (by decide)
  dsimp only
  rw [hw]
  omega

/-- The server's expiry for that count is the record's retention. -/
theorem add_twice_of_lt (ht : t.nanos < nanosPerSecond) (k : Int) :
    t.add (.ofSeconds (2 * k)) = (t.add (.ofSeconds k)).add (.ofSeconds k) := by
  rw [Instant.add_add_of_lt ht]
  congr 1
  simp only [Span.ofSeconds]
  congr 1
  ring

end NonceStore

/-! ## Store methods on a serving server -/

namespace Backend

theorem run_run_map {ε α β : Type} (f : α → β) (x : ExceptT ε BackendM α) (b : Backend) :
    (f <$> x).run.run b = match x.run.run b with
      | (.ok v, b') => (.ok (f v), b')
      | (.error e, b') => (.error e, b') := by
  simp only [ExceptT.run_map, StateT.run_map]
  rcases x.run.run b with ⟨_ | v, b'⟩ <;> rfl

end Backend

namespace NonceStore

open Redis

variable {b : Backend} {pfx : String}

/-- A server that fails no command answers every command it is sent. -/
theorem contains_of_serving {srv : Redis.Server} (hf : srv.failing = []) (c : String) :
    srv.failing.contains c = false := by
  rw [hf]
  rfl

theorem get_run_kv_none (hb : b.nonces = .keyValue pfx true) (hf : b.kv.failing = [])
    {a : Address} {n : String} (he : (b.kv.purge b.clock.now).find? (recordKey pfx a n) = none) :
    (get a n).run.run b = (.ok .missing, { b with kv := b.kv.purge b.clock.now }) := by
  obtain ⟨clock, entropy, nonces, kv, tokens⟩ := b
  cases hb
  unfold get
  rw [run_get_bind]
  dsimp only
  rw [Backend.run_run_bind, client_connect_true, KeyValue.optString_run,
    Server.exec_get_none _ _ (contains_of_serving hf _) he]
  rfl

theorem get_run_kv_str (hb : b.nonces = .keyValue pfx true) (hf : b.kv.failing = [])
    {a : Address} {n : String} {k v : String} {x : Option Instant}
    (he : (b.kv.purge b.clock.now).find? (recordKey pfx a n) = some ⟨k, .str v, x⟩) :
    (get a n).run.run b = (decodeKept v, { b with kv := b.kv.purge b.clock.now }) := by
  obtain ⟨clock, entropy, nonces, kv, tokens⟩ := b
  cases hb
  unfold get
  rw [run_get_bind]
  dsimp only
  rw [Backend.run_run_bind, client_connect_true, KeyValue.optString_run,
    Server.exec_get_str _ _ (contains_of_serving hf _) he]
  have hread : (Redis.Reply.bulk v).check.bind Redis.Reply.optString = .ok (some v) := rfl
  rw [hread]
  dsimp only [Except.mapError]
  cases decodeKept v <;> rfl

/-- The claim script fails only on a key holding a set, and never as an unknown script. -/
theorem claim_check_noScript {srv : Redis.Server} {k : String} {f : Redis.Failure}
    (h : (Redis.claim srv k).1.check = .error f) : f.isNoScript = false := by
  unfold Redis.claim at h
  split at h
  · cases h
  · cases h
    decide
  · split at h <;> cases h

/-- The server's answer to a script it does not know. -/
theorem noScript_isNoScript :
    (Redis.Failure.ofErrorLine "NOSCRIPT No matching script. Please use EVAL.").isNoScript = true := by
  decide

/-- On a server that fails no command, the claim script by digest is the claim on the server
purged at the clock's instant, loaded first when it was not. -/
theorem evalScript_run_serving (hf : b.kv.failing = []) (k : String) :
    ∃ srv : Redis.Server, (∀ k', srv.find? k' = (b.kv.purge b.clock.now).find? k') ∧
      srv.failing = [] ∧
      (KeyValue.evalScript claimScript [k]).run.run b =
        ((Redis.claim srv k).1.check, { b with kv := (Redis.claim srv k).2 }) := by
  have hcall : ["EVALSHA", KeyValue.scriptDigest claimScript, toString [k].length] ++ [k] =
      ["EVALSHA", KeyValue.scriptDigest claimScript, "1", k] := by
    have h1 : toString [k].length = "1" := show toString 1 = "1" by rfl
    rw [h1]
    rfl
  unfold KeyValue.evalScript
  rw [hcall, Backend.run_run_bind, Backend.run_run_kvExec]
  cases hl : b.kv.scriptLoaded with
  | true =>
    rw [Server.exec_evalsha_loaded _ _ _ _ (contains_of_serving hf _) hl]
    refine ⟨b.kv.purge b.clock.now, fun _ => rfl, hf, ?_⟩
    dsimp only
    cases hc : (Redis.claim (b.kv.purge b.clock.now) k).1.check with
    | ok r => rfl
    | error f =>
      dsimp only
      rw [claim_check_noScript hc]
      rfl
  | false =>
    rw [Server.exec_evalsha_unloaded _ _ _ _ (contains_of_serving hf _) hl]
    dsimp only
    rw [show (Redis.Reply.error "NOSCRIPT No matching script. Please use EVAL.").check =
      .error (Redis.Failure.ofErrorLine "NOSCRIPT No matching script. Please use EVAL.") from rfl]
    dsimp only
    rw [noScript_isNoScript, if_pos rfl, Backend.run_run_bind, KeyValue.command_run]
    dsimp only
    rw [Server.exec_scriptLoad_ok _ _ _ (by rw [Server.failing_purge]; exact contains_of_serving hf _)]
    have hck : (Redis.Reply.bulk Redis.scriptName).check = .ok (.bulk Redis.scriptName) := rfl
    rw [hck]
    dsimp only
    rw [KeyValue.command_run]
    dsimp only
    -- loaded now: the script runs on the server purged once more at the same instant
    have hloaded : ({ (b.kv.purge b.clock.now).purge b.clock.now with scriptLoaded := true } :
        Redis.Server).scriptLoaded = true := rfl
    rw [Server.exec_evalsha_loaded { (b.kv.purge b.clock.now).purge b.clock.now with
      scriptLoaded := true } b.clock.now _ k (contains_of_serving hf _) hloaded]
    refine ⟨({ (b.kv.purge b.clock.now).purge b.clock.now with scriptLoaded := true } :
        Redis.Server).purge b.clock.now, fun k' => ?_, hf, rfl⟩
    show ((((b.kv.purge b.clock.now).purge b.clock.now).purge b.clock.now)).find? k' = _
    rw [Server.find?_purge_purge, Server.find?_purge_purge]

/-- The claim script answers without a failure on a key that is absent or holds a text. -/
theorem claim_check {srv : Redis.Server} {k : String}
    (h : ∀ e, srv.find? k = some e → ∃ v, e.value = .str v) :
    (Redis.claim srv k).1.check = .ok (Redis.claim srv k).1 := by
  unfold Redis.claim
  split
  · rfl
  · rename_i hk
    obtain ⟨v, hv⟩ := h _ hk
    cases hv
  · split <;> rfl

theorem claim_run_kv (hb : b.nonces = .keyValue pfx true) (hf : b.kv.failing = [])
    {a : Address} {n : String}
    (hstr : ∀ e, (b.kv.purge b.clock.now).find? (recordKey pfx a n) = some e →
      ∃ v, e.value = .str v) :
    ∃ srv : Redis.Server, (∀ k', srv.find? k' = (b.kv.purge b.clock.now).find? k') ∧
      srv.failing = [] ∧
      (claim a n).run.run b = ((claimAnswer (Redis.claim srv (recordKey pfx a n)).1).run.run
        { b with kv := (Redis.claim srv (recordKey pfx a n)).2 }) := by
  obtain ⟨srv, hsrv, hfs, hrun⟩ := evalScript_run_serving hf (recordKey pfx a n)
  refine ⟨srv, hsrv, hfs, ?_⟩
  have hck : (Redis.claim srv (recordKey pfx a n)).1.check = .ok (Redis.claim srv (recordKey pfx a n)).1 :=
    claim_check fun e he => hstr e (by rw [← hsrv]; exact he)
  obtain ⟨clock, entropy, nonces, kv, tokens⟩ := b
  cases hb
  unfold claim
  rw [run_get_bind]
  dsimp only
  rw [Backend.run_run_bind, client_connect_true, hrun, hck]
  rfl

theorem insert_run_kv_absent (hb : b.nonces = .keyValue pfx true) (hf : b.kv.failing = [])
    {r : NonceRecord} {t : Instant} {secs : Int} (hsecs : expirySeconds r t = secs)
    (hparse : Redis.parseInt64? (toString secs) = some secs) (hpos : 0 < secs)
    (hfits : Redis.setExpiryFits b.clock.now (secs * 1000))
    (habs : (b.kv.purge b.clock.now).find? (recordKey pfx r.address r.nonce) = none) :
    (insert r t).run.run b = (.ok (), { b with kv := ((b.kv.purge b.clock.now).put
      ⟨recordKey pfx r.address r.nonce, .str r.toText, some (b.clock.now.add (.ofSeconds secs))⟩) }) := by
  obtain ⟨clock, entropy, nonces, kv, tokens⟩ := b
  cases hb
  unfold insert
  rw [run_get_bind]
  dsimp only
  rw [Backend.run_run_bind, client_connect_true, KeyValue.optString_run, hsecs,
    Server.exec_setNx_absent _ _ (contains_of_serving hf _) hparse hpos hfits habs]
  rfl

theorem insert_run_kv_present (hb : b.nonces = .keyValue pfx true) (hf : b.kv.failing = [])
    {r : NonceRecord} {t : Instant} {secs : Int} (hsecs : expirySeconds r t = secs)
    (hparse : Redis.parseInt64? (toString secs) = some secs) (hpos : 0 < secs)
    (hfits : Redis.setExpiryFits b.clock.now (secs * 1000)) {e : Redis.Entry}
    (hpre : (b.kv.purge b.clock.now).find? (recordKey pfx r.address r.nonce) = some e) :
    (insert r t).run.run b = (.error .duplicate, { b with kv := b.kv.purge b.clock.now }) := by
  obtain ⟨clock, entropy, nonces, kv, tokens⟩ := b
  cases hb
  unfold insert
  rw [run_get_bind]
  dsimp only
  rw [Backend.run_run_bind, client_connect_true, KeyValue.optString_run, hsecs,
    Server.exec_setNx_present _ _ (contains_of_serving hf _) hparse hpos hfits hpre]
  rfl

theorem remove_run_kv (hb : b.nonces = .keyValue pfx true) (hf : b.kv.failing = [])
    (a : Address) (n : String) :
    ∃ srv : Redis.Server, (∀ k', srv.find? k' =
        if recordKey pfx a n = k' then none else (b.kv.purge b.clock.now).find? k') ∧
      srv.failing = [] ∧ (remove a n).run.run b = (.ok (), { b with kv := srv }) := by
  obtain ⟨⟨i, hi⟩, hfail, -, hfind⟩ :=
    Server.exec_del_find? b.kv b.clock.now (k := recordKey pfx a n) (contains_of_serving hf _)
  refine ⟨_, hfind, hfail.trans hf, ?_⟩
  obtain ⟨clock, entropy, nonces, kv, tokens⟩ := b
  cases hb
  unfold remove
  rw [run_get_bind]
  dsimp only
  rw [client_connect_true, Backend.run_run_bind, KeyValue.command_run]
  dsimp only at hi ⊢
  rw [hi]
  rfl

theorem claimAnswer_zero (b : Backend) :
    (claimAnswer (.array [.int 0, .bulk ""])).run.run b = (.ok .missing, b) := rfl

theorem claimAnswer_one {t : String} {r : NonceRecord} (hr : NonceRecord.ofText t = .ok r)
    (b : Backend) : (claimAnswer (.array [.int 1, .bulk t])).run.run b = (.ok (.pending r), b) := by
  simp [claimAnswer, Redis.Reply.integer, hr]
  rfl

theorem claimAnswer_two {t : String} {r : NonceRecord} (hr : NonceRecord.ofText t = .ok r)
    (b : Backend) : (claimAnswer (.array [.int 2, .bulk t])).run.run b = (.ok (.consumed r), b) := by
  simp [claimAnswer, Redis.Reply.integer, hr]
  rfl

end NonceStore
end WalletAuth
