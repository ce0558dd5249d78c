import WalletAuth.Proofs.Nonce.OnServer
import WalletAuth.Proofs.Nonce.Lifecycle

/-!
# WalletAuth.Proofs.Nonce.Claiming — a claim right after a get

A nonce is spent in two calls on the store: a `get` that finds its record pending, then a
`claim`. Whatever the store, when the get answered `pending r` and the claim made right after it
answered pending as well, the claim found that same record and left it consumed: asked again,
the store answers `consumed r` (`NonceStore.claim_after_get`). Neither call moves the clock
(`get_run_clock`, `claim_run_clock`).

* In process, a claim marks every slot of its key, the first of which is the slot the get read
  (`MemoryStore.get_claim_self`); a method among the faults fails before it reads anything.
* In the key-value server, the get leaves the server purged at the clock's instant, and the
  claim script runs on that server, loaded first if need be, so it finds the text the get read,
  marks it `used:` and keeps its expiry (`KeyValue.evalScript_claim`). A command the server is
  told to fail answers an error (`Redis.Server.exec_failing`).
* A losing store's claim never answers pending, and a broken store answers nothing.

With the clock at rest, a lookup and a consume that answer a record are exactly such a get and
such a claim (`Registry.Steps.lookup_ok`, `Registry.Steps.consume_ok`).
-/

namespace WalletAuth

/-! ## The server's answers, failures included -/

namespace Redis

theorem Reply.eq_of_check_ok {r r' : Reply} (h : r.check = .ok r') : r = r' := by
  unfold Reply.check at h
  split at h
  · cases h
  · cases h
    rfl

namespace Server

variable (srv : Server) (now : Instant)

/-- A command the server is told to fail answers an error, and leaves the server purged. -/
theorem exec_failing {cmd : String} (rest : List String)
    (hf : srv.failing.contains cmd.toUpper = true) :
    srv.exec now (cmd :: rest) = (.error "ERR injected failure", srv.purge now) := by
  simp only [exec, failing_purge, hf, if_true]

theorem exec_get_set {k k' : String} {xs : List String} {x : Option Instant}
    (hf : srv.failing.contains "GET" = false)
    (he : (srv.purge now).find? k = some ⟨k', .set xs, x⟩) :
    srv.exec now ["GET", k] = (.error wrongType, srv.purge now) := by
  have h : "GET".toUpper = "GET" := by with_unfolding_all rfl
  simp only [exec, h, failing_purge, hf, he]
  rfl

theorem exec_scriptLoad_failing (code : String) :
    (srv.exec now ["SCRIPT", "LOAD", code]).2.failing = srv.failing := by
  have h : "SCRIPT".toUpper = "SCRIPT" := by cbv
  simp only [exec, h]
  split
  · rfl
  · split <;> rfl

/-- A claim that answers an error leaves the server as it was. -/
theorem claim_snd_of_check_error {k : String} {f : Failure} (h : (claim srv k).1.check = .error f) :
    (claim srv k).2 = srv := by
  rcases hk : srv.find? k with _ | ⟨k', v | xs, x⟩
  · rw [claim_none hk]
  · cases hv : v.startsWith "used:"
    · rw [claim_pending hk hv] at h
      cases h
    · rw [claim_used hk hv]
  · simp [claim, hk]

/-- The claim script by digest answering without an error: the claim, on the server purged. -/
theorem exec_evalsha_ok {d k : String} {r : Reply}
    (h : (srv.exec now ["EVALSHA", d, "1", k]).1.check = .ok r) :
    r = (claim (srv.purge now) k).1 ∧
      (srv.exec now ["EVALSHA", d, "1", k]).2 = (claim (srv.purge now) k).2 := by
  rcases exec_evalsha srv now d k with ⟨line, he⟩ | he <;> rw [he] at h ⊢
  · cases h
  · exact ⟨(Reply.eq_of_check_ok h).symm, rfl⟩

/-- The claim script by digest answering an error leaves the server purged. -/
theorem exec_evalsha_error {d k : String} {f : Failure}
    (h : (srv.exec now ["EVALSHA", d, "1", k]).1.check = .error f) :
    (srv.exec now ["EVALSHA", d, "1", k]).2 = srv.purge now := by
  rcases exec_evalsha srv now d k with ⟨line, he⟩ | he
  · rw [he]
  · rw [he] at h ⊢
    exact claim_snd_of_check_error _ h

end Server

/-- The claim script answering status `1` and a text: the key held that text unmarked, and the
script marked it, keeping its expiry. -/
theorem claim_of_one {srv : Server} {k : String} {st : Reply} {t : String}
    (h : (claim srv k).1 = .array [st, .bulk t]) (hst : st.integer = .ok 1) :
    ∃ k' x, srv.find? k = some ⟨k', .str t, x⟩ ∧ t.startsWith "used:" = false ∧
      (claim srv k).2 = srv.put ⟨k, .str ("used:" ++ t), x⟩ := by
  rcases hk : srv.find? k with _ | ⟨k', v | xs, x⟩
  · rw [claim_none hk] at h
    simp only [Reply.array.injEq, List.cons.injEq] at h
    rw [← h.1] at hst
    simp [Reply.integer] at hst
  · cases hv : v.startsWith "used:"
    · rw [claim_pending hk hv] at h ⊢
      simp only [Reply.array.injEq, List.cons.injEq, Reply.bulk.injEq] at h
      obtain ⟨-, rfl, -⟩ := h
      exact ⟨k', x, rfl, hv, rfl⟩
    · rw [claim_used hk hv] at h
      simp only [Reply.array.injEq, List.cons.injEq] at h
      rw [← h.1] at hst
      simp [Reply.integer] at hst
  · simp [claim, hk] at h

end Redis

namespace KeyValue

/-- The claim script by digest, loaded first when the server lacks it, answering without a
failure: its answer and the server it leaves are the claim's, on a server with the entries of
the one before purged at the clock's instant, failing the same commands. -/
theorem evalScript_claim (code k : String) {b b' : Backend} {reply : Redis.Reply}
    (h : (evalScript code [k]).run.run b = (.ok reply, b')) :
    ∃ s : Redis.Server, (∀ k', s.find? k' = (b.kv.purge b.clock.now).find? k') ∧
      s.failing = b.kv.failing ∧ reply = (Redis.claim s k).1 ∧
      b' = { b with kv := (Redis.claim s k).2 } := by
  have hcall : ["EVALSHA", scriptDigest code, toString [k].length] ++ [k] =
      ["EVALSHA", scriptDigest code, "1", k] := by
    have h1 : toString [k].length = "1" := show toString 1 = "1" by rfl
    rw [h1]
    rfl
  unfold evalScript at h
  rw [hcall, Backend.run_run_bind, Backend.run_run_kvExec] at h
  dsimp only at h
  cases hc : (b.kv.exec b.clock.now ["EVALSHA", scriptDigest code, "1", k]).1.check with
  | ok r =>
    -- the script was there: it ran on the server purged once
    rw [hc] at h
    obtain ⟨hr, hs⟩ := Redis.Server.exec_evalsha_ok _ _ hc
    obtain ⟨hrr, rfl⟩ := Prod.mk.inj h
    cases hrr
    exact ⟨b.kv.purge b.clock.now, fun _ => rfl, rfl, hr, by rw [hs]⟩
  | error f =>
    rw [hc] at h
    dsimp only at h
    rw [Redis.Server.exec_evalsha_error _ _ hc] at h
    split at h
    · -- loaded, then run again on the server the load left
      rw [Backend.run_run_bind, command_run] at h
      dsimp only at h
      generalize hkv : ((b.kv.purge b.clock.now).exec b.clock.now ["SCRIPT", "LOAD", code]) = p at h
      rcases p with ⟨r₂, kv₂⟩
      dsimp only at h
      cases hc₂ : r₂.check with
      | error f₂ =>
        rw [hc₂] at h
        cases h
      | ok r₂' =>
        rw [hc₂] at h
        dsimp only at h
        rw [command_run] at h
        obtain ⟨hc₃, rfl⟩ := Prod.mk.inj h
        obtain ⟨hr, hs⟩ := Redis.Server.exec_evalsha_ok _ _ hc₃
        have hentries : kv₂.entries = ((b.kv.purge b.clock.now).purge b.clock.now).entries := by
          rw [← Redis.Server.exec_scriptLoad, hkv]
        have hfail : kv₂.failing = b.kv.failing := by
          rw [show kv₂ = ((b.kv.purge b.clock.now).exec b.clock.now ["SCRIPT", "LOAD", code]).2 by
            rw [hkv], Redis.Server.exec_scriptLoad_failing, Redis.Server.failing_purge]
        refine ⟨kv₂.purge b.clock.now, fun k' => ?_, hfail, hr, by rw [hs]⟩
        -- the load keeps the entries, and a purge at the same instant keeps what the first kept
        have hfind : kv₂.find? k' = (b.kv.purge b.clock.now).find? k' := by
          show kv₂.entries.get? k' = _
          rw [hentries]
          exact Redis.Server.find?_purge_purge b.kv b.clock.now k'
        rw [Redis.Server.find?_purge, hfind, ← Redis.Server.find?_purge,
          Redis.Server.find?_purge_purge]
    · cases h

end KeyValue

/-! ## In process -/

namespace MemoryStore

/-- A claim marks the slot a get reads: a record found pending is found consumed after. -/
theorem get_claim_self {m : MemoryStore} {a : Address} {n : String} {r : NonceRecord}
    (h : m.get a n = .pending r) : (m.claim a n).2.get a n = .consumed r := by
  rw [get_eq_head] at h ⊢
  rw [slotsOf_claim, if_pos ⟨rfl, rfl⟩, List.head?_map]
  cases hs : (m.slotsOf a n).head? with
  | none =>
    rw [hs] at h
    cases h
  | some s =>
    rw [hs] at h
    -- the first slot held `r` pending; marked, it holds it consumed
    have hr : s.record = r := by
      simp only [Slot.state] at h
      split at h <;> simp_all
    simp [Slot.state, hr]

end MemoryStore

/-! ## The store's get and claim -/

namespace NonceStore

variable {b b₁ b₂ : Backend} {a : Address} {n : String} {r r' : NonceRecord}

theorem get_run_faulty {m : MemoryStore} {faults : List StoreMethod}
    (hb : b.nonces = .memory m faults) :
    (get a n).run.run b =
      (if faults.contains .get then .error .unreadable else .ok (m.get a n), b) := by
  unfold get
  rw [run_get_bind, hb]
  dsimp only
  cases hf : faults.contains .get
  · rw [Backend.run_bind_of_ok (guard_run_of_not hf b)]
    rfl
  · rw [Backend.run_bind_of_error (guard_run_of_mem hf b)]
    rfl

theorem claim_run_faulty {m : MemoryStore} {faults : List StoreMethod}
    (hb : b.nonces = .memory m faults) :
    (claim a n).run.run b = if faults.contains .claim then (.error .unreadable, b)
      else (.ok (m.get a n), { b with nonces := .memory (m.claim a n).2 faults }) := by
  unfold claim
  rw [run_get_bind, hb]
  dsimp only
  cases hf : faults.contains .claim
  · rw [Backend.run_bind_of_ok (guard_run_of_not hf b)]
    rfl
  · rw [Backend.run_bind_of_error (guard_run_of_mem hf b)]
    rfl

theorem get_run_losing {rs : List NonceRecord} (hb : b.nonces = .losing rs) :
    (get a n).run.run b = (.ok (match losingFind rs a n with
      | some r => .pending r
      | none => .missing), b) := by
  unfold get
  rw [run_get_bind, hb]
  dsimp only
  cases losingFind rs a n <;> rfl

theorem claim_run_losing {rs : List NonceRecord} (hb : b.nonces = .losing rs) :
    (claim a n).run.run b = (.ok (match losingFind rs a n with
      | some r => .consumed r
      | none => .missing), b) := by
  unfold claim
  rw [run_get_bind, hb]
  dsimp only
  cases losingFind rs a n <;> rfl

theorem get_run_broken (hb : b.nonces = .broken) :
    (get a n).run.run b = (.error .unreadable, b) := by
  unfold get
  rw [run_get_bind, hb]
  rfl

theorem claim_run_broken (hb : b.nonces = .broken) :
    (claim a n).run.run b = (.error .unreadable, b) := by
  unfold claim
  rw [run_get_bind, hb]
  rfl

/-! ## Neither moves the clock -/

theorem get_run_clock (a : Address) (n : String) (b : Backend) :
    ((get a n).run.run b).2.clock = b.clock := by
  cases hb : b.nonces with
  | memory m faults => rw [get_run_faulty hb]
  | keyValue pfx reachable =>
    unfold get
    rw [run_get_bind, hb]
    dsimp only
    rw [Backend.snd_bind_of_keeps, client_optString_snd]
    · split <;> rfl
    · -- reading the kept text back changes nothing
      intro text c
      rcases text with _ | t
      · rfl
      · dsimp only
        split <;> rfl
  | losing rs => rw [get_run_losing hb]
  | broken => rw [get_run_broken hb]

theorem claim_run_clock (a : Address) (n : String) (b : Backend) :
    ((claim a n).run.run b).2.clock = b.clock := by
  cases hb : b.nonces with
  | memory m faults =>
    rw [claim_run_faulty hb]
    split <;> rfl
  | keyValue pfx reachable =>
    unfold claim
    rw [run_get_bind, hb]
    dsimp only
    rw [Backend.snd_bind_of_keeps claimAnswer_keeps, client_connect_snd]
    split
    · rcases hs : (KeyValue.evalScript claimScript [recordKey pfx a n]).run.run b with ⟨r, b'⟩
      obtain ⟨hb', -, -⟩ := KeyValue.evalScript_below _ _ hs
      rw [hb']
    · rfl
  | losing rs => rw [claim_run_losing hb]
  | broken => rw [claim_run_broken hb]

/-! ## A claim after a get, store by store -/

theorem claim_after_get_memory {m : MemoryStore} {faults : List StoreMethod}
    (hb : b.nonces = .memory m faults) (hget : (get a n).run.run b = (.ok (.pending r), b₁))
    (hclaim : (claim a n).run.run b₁ = (.ok (.pending r'), b₂)) :
    r' = r ∧ ((get a n).run.run b₂).1 = .ok (.consumed r) := by
  rw [get_run_faulty hb] at hget
  cases hg : faults.contains .get
  · -- the get read the slots and left the backend as it was
    rw [hg] at hget
    obtain ⟨hm, rfl⟩ := Prod.mk.inj hget
    have hm : m.get a n = .pending r := Except.ok.inj hm
    rw [claim_run_faulty hb] at hclaim
    cases hc : faults.contains .claim
    · rw [hc] at hclaim
      obtain ⟨hr, rfl⟩ := Prod.mk.inj hclaim
      rw [hm] at hr
      cases hr
      refine ⟨rfl, ?_⟩
      rw [get_run_faulty (b := { b with nonces := .memory (m.claim a n).2 faults }) rfl, hg]
      exact congrArg Except.ok (MemoryStore.get_claim_self hm)
    · rw [hc] at hclaim
      cases hclaim
  · rw [hg] at hget
    cases hget

/-- On the key-value server, a get through a `GET` the server does not fail reads the text kept
under the record's key, on the server purged at the clock's instant. -/
theorem get_run_kv_text {pfx : String} (hb : b.nonces = .keyValue pfx true)
    (hf : b.kv.failing.contains "GET" = false) {k v : String} {x : Option Instant}
    (he : (b.kv.purge b.clock.now).find? (recordKey pfx a n) = some ⟨k, .str v, x⟩) :
    (get a n).run.run b = (decodeKept v, { b with kv := b.kv.purge b.clock.now }) := by
  obtain ⟨clock, entropy, nonces, kv, tokens⟩ := b
  cases hb
  unfold get
  rw [run_get_bind]
  dsimp only
  rw [Backend.run_run_bind, client_connect_true, KeyValue.optString_run,
    Redis.Server.exec_get_str _ _ hf he]
  have hread : (Redis.Reply.bulk v).check.bind Redis.Reply.optString = .ok (some v) := rfl
  rw [hread]
  dsimp only [Except.mapError]
  cases decodeKept v <;> rfl

/-- On the key-value server, a get that answers `pending r` read an unmarked text under the
record's key, through a `GET` the server does not fail, and left the server purged. -/
theorem get_run_kv_pending {pfx : String} {reachable : Bool}
    (hb : b.nonces = .keyValue pfx reachable) (h : (get a n).run.run b = (.ok (.pending r), b₁)) :
    reachable = true ∧ b₁ = { b with kv := b.kv.purge b.clock.now } ∧
      b.kv.failing.contains "GET" = false ∧
      ∃ k t x, (b.kv.purge b.clock.now).find? (recordKey pfx a n) = some ⟨k, .str t, x⟩ ∧
        decodeKept t = .ok (.pending r) := by
  obtain ⟨clock, entropy, nonces, kv, tokens⟩ := b
  cases hb
  unfold get at h
  rw [run_get_bind] at h
  dsimp only at h
  cases reachable with
  | false =>
    rw [Backend.run_bind_of_error (client_connect_false _ _)] at h
    cases h
  | true =>
    rw [Backend.run_run_bind, client_connect_true, KeyValue.optString_run] at h
    have hget : "GET".toUpper = "GET" := by with_unfolding_all rfl
    cases hf : kv.failing.contains "GET" with
    | true =>
      rw [Redis.Server.exec_failing _ _ _ (by rw [hget]; exact hf)] at h
      cases h
    | false =>
      cases he : (kv.purge clock.now).find? (recordKey pfx a n) with
      | none =>
        rw [Redis.Server.exec_get_none _ _ hf he] at h
        cases h
      | some e =>
        rcases e with ⟨k, t | xs, x⟩
        · rw [Redis.Server.exec_get_str _ _ hf he] at h
          have hread : (Redis.Reply.bulk t).check.bind Redis.Reply.optString = .ok (some t) := rfl
          rw [hread] at h
          dsimp only [Except.mapError] at h
          cases hd : decodeKept t with
          | error e =>
            rw [hd] at h
            cases h
          | ok s =>
            rw [hd] at h
            obtain ⟨hs, rfl⟩ := Prod.mk.inj h
            cases hs
            exact ⟨rfl, rfl, rfl, k, t, x, rfl, hd⟩
        · rw [Redis.Server.exec_get_set _ _ hf he] at h
          cases h

/-- On the key-value server, a claim that answers `pending r` ran the script on a server with
the entries purged at the clock's instant: it found an unmarked text of `r` under the key and
marked it, keeping its expiry. -/
theorem claim_run_kv_pending {pfx : String} {reachable : Bool}
    (hb : b.nonces = .keyValue pfx reachable) (h : (claim a n).run.run b = (.ok (.pending r), b₁)) :
    ∃ s : Redis.Server, (∀ k', s.find? k' = (b.kv.purge b.clock.now).find? k') ∧
      s.failing = b.kv.failing ∧ ∃ k t x, s.find? (recordKey pfx a n) = some ⟨k, .str t, x⟩ ∧
        t.startsWith "used:" = false ∧ NonceRecord.ofText t = .ok r ∧
        b₁ = { b with kv := s.put ⟨recordKey pfx a n, .str ("used:" ++ t), x⟩ } := by
  obtain ⟨clock, entropy, nonces, kv, tokens⟩ := b
  cases hb
  unfold claim at h
  rw [run_get_bind] at h
  dsimp only at h
  cases reachable with
  | false =>
    rw [Backend.run_bind_of_error (client_connect_false _ _)] at h
    cases h
  | true =>
    rcases hs : (KeyValue.evalScript claimScript [recordKey pfx a n]).run.run
      ⟨clock, entropy, .keyValue pfx true, kv, tokens⟩ with ⟨_ | reply, b'⟩
    · rw [Backend.run_bind_of_error (by rw [client_connect_true, hs]; rfl)] at h
      cases h
    · rw [Backend.run_bind_of_ok (by rw [client_connect_true, hs]; rfl)] at h
      obtain ⟨s, hfind, hfail, hreply, hb'⟩ := KeyValue.evalScript_claim _ _ hs
      -- reading the answer keeps the backend; a pending answer has status `1` and the record
      have hkeep : b₁ = b' := by rw [← claimAnswer_keeps reply b', h]
      obtain ⟨st, t, rfl, hst⟩ := claimAnswer_pending h
      have hr : NonceRecord.ofText t = .ok r := by
        cases ht : NonceRecord.ofText t with
        | error e =>
          simp [claimAnswer, hst, ht] at h
          cases h
        | ok r₀ =>
          simp [claimAnswer, hst, ht] at h
          cases h
          rfl
      obtain ⟨k, x, hk, hused, hput⟩ := Redis.claim_of_one hreply.symm hst
      refine ⟨s, hfind, hfail, k, t, x, hk, hused, hr, ?_⟩
      rw [hkeep, hb', hput]

theorem claim_after_get_kv {pfx : String} {reachable : Bool}
    (hb : b.nonces = .keyValue pfx reachable) (hget : (get a n).run.run b = (.ok (.pending r), b₁))
    (hclaim : (claim a n).run.run b₁ = (.ok (.pending r'), b₂)) :
    r' = r ∧ ((get a n).run.run b₂).1 = .ok (.consumed r) := by
  obtain ⟨rfl, rfl, hf, k, t, x, he, hd⟩ := get_run_kv_pending hb hget
  obtain ⟨s, hfind, hfail, k', t', x', hk, hused, hr, rfl⟩ :=
    claim_run_kv_pending (b := { b with kv := b.kv.purge b.clock.now }) hb hclaim
  -- the script runs on the server the get left: it finds the text the get read
  have hsame : s.find? (recordKey pfx a n) = some ⟨k, .str t, x⟩ := by
    rw [hfind]
    exact (Redis.Server.find?_purge_purge b.kv b.clock.now _).trans he
  rw [hk] at hsame
  cases hsame
  -- the get read that text unmarked: the claim's record is the get's
  have hmark : usedMark = "used:" := rfl
  unfold decodeKept at hd
  rw [hmark, hused, if_neg Bool.false_ne_true, hr] at hd
  cases hd
  refine ⟨rfl, ?_⟩
  -- the marked text is still live at the same instant, and a `GET` reads it back consumed
  let marked : Redis.Entry := ⟨recordKey pfx a n, .str ("used:" ++ t), x⟩
  have hlive : Redis.Server.isLive b.clock.now marked = true := by
    have hkept := Redis.Server.isLive_of_find?_purge _ _ he
    exact hkept
  have hfind' : ((s.put marked).purge b.clock.now).find? (recordKey pfx a n) = some marked := by
    rw [Redis.Server.find?_purge, Redis.Server.find?_put, if_pos rfl]
    simp [hlive]
  have hf' : (s.put marked).failing.contains "GET" = false := by
    rw [Redis.Server.failing_put, hfail, Redis.Server.failing_purge]
    exact hf
  rw [get_run_kv_text (b := { b with kv := s.put marked }) hb hf' hfind', ← hmark,
    decodeKept_used, hr]
  rfl

/-- A get that answered `pending r`, followed at once by a claim that answered pending: the
claim found that very record and left it consumed. -/
theorem claim_after_get (hget : (get a n).run.run b = (.ok (.pending r), b₁))
    (hclaim : (claim a n).run.run b₁ = (.ok (.pending r'), b₂)) :
    r' = r ∧ ((get a n).run.run b₂).1 = .ok (.consumed r) := by
  cases hb : b.nonces with
  | memory m faults => exact claim_after_get_memory hb hget hclaim
  | keyValue pfx reachable => exact claim_after_get_kv hb hget hclaim
  | losing rs =>
    -- a losing store answers a claim consumed or missing, never pending
    rw [get_run_losing hb] at hget
    obtain ⟨-, rfl⟩ := Prod.mk.inj hget
    rw [claim_run_losing hb] at hclaim
    split at hclaim <;> cases hclaim
  | broken =>
    rw [get_run_broken hb] at hget
    cases hget

end NonceStore

/-! ## Lookups and consumes that answer a record -/

namespace Registry.Steps

variable {b b₁ : Backend} {a : Address} {n : String} {r : NonceRecord}

/-- A lookup that answers a record, the clock at rest: the get found it pending, and it had not
expired at the clock's instant. -/
theorem lookup_ok (hrest : b.clock.step = ⟨0⟩) (h : (lookup a n).run.run.run b = (.ok r, b₁)) :
    (NonceStore.get a n).run.run b = (.ok (.pending r), b₁) ∧ b.clock.now < r.expiresAt := by
  rw [lookup_run, Prog.run_step_run] at h
  have hclock : ((Action.get a n).exec.run b).2.clock = b.clock := NonceStore.get_run_clock a n b
  rcases hg : (Action.get a n).exec.run b with ⟨v, b'⟩
  rw [hg] at h hclock
  rcases v with e | ⟨r' | r' | _⟩
  · cases h
  · -- the clock, still at rest, is read once more
    have hrest' : b'.clock.step = ⟨0⟩ := by rw [hclock]; exact hrest
    rw [Prog.run_now_step, Backend.now_run_of_rest hrest'] at h
    dsimp only at h
    rw [hclock] at h
    by_cases hle : r'.expiresAt ≤ b.clock.now
    · rw [if_pos hle, Prog.run_step_run] at h
      split at h <;> cases h
    · rw [if_neg hle] at h
      cases h
      exact ⟨hg, Instant.lt_of_not_le hle⟩
  · cases h
  · cases h

/-- A consume that answers a record, the clock at rest: the claim answered it pending, and it
had not expired at the clock's instant. -/
theorem consume_ok (hrest : b.clock.step = ⟨0⟩) (h : (consume a n).run.run.run b = (.ok r, b₁)) :
    (NonceStore.claim a n).run.run b = (.ok (.pending r), b₁) ∧ b.clock.now < r.expiresAt := by
  rw [consume_run, Prog.run_step_run] at h
  have hclock : ((Action.claim a n).exec.run b).2.clock = b.clock :=
    NonceStore.claim_run_clock a n b
  rcases hc : (Action.claim a n).exec.run b with ⟨v, b'⟩
  rw [hc] at h hclock
  rcases v with e | ⟨r' | r' | _⟩
  · cases h
  · have hrest' : b'.clock.step = ⟨0⟩ := by rw [hclock]; exact hrest
    rw [Prog.run_now_step, Backend.now_run_of_rest hrest'] at h
    dsimp only at h
    rw [hclock] at h
    by_cases hle : r'.expiresAt ≤ b.clock.now
    · rw [if_pos hle] at h
      cases h
    · rw [if_neg hle] at h
      cases h
      exact ⟨hc, Instant.lt_of_not_le hle⟩
  · cases h
  · cases h

end Registry.Steps

end WalletAuth
