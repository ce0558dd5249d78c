import WalletAuth.Proofs.Backend.KeyValue
import WalletAuth.Proofs.Backend.Ensures
import WalletAuth.Proofs.Encoding.Hex

/-!
# WalletAuth.Proofs.Nonce.Pending — what one step does to the records still to be claimed

`Backend.pending b a n` counts the records of the account `a` and the nonce `n` that the nonce
store holds and that a claim would still find pending: the unconsumed slots of `(a, n)` in
process, the key of `(a, n)` in the key-value server while its text is not marked `used:`, and
none in a losing or a broken store.

`Action.exec_pending` is the step lemma of the replay argument: one atomic step raises this
count by no more than it lowers the advance (claims of `(a, n)` won minus records of `(a, n)`
inserted). A won claim spends a pending record, and only an insert that the store kept adds one;
a get, a remove, a purge, a clock reading and a draw only lower the count.

In the key-value server this rests on two facts: the claim script runs as one step, and a key
names one account and nonce (`recordKey_injective`, from the fixed length of an account's hex).
-/

namespace WalletAuth

/-! ## Records still to be claimed -/

namespace MemoryStore

variable (m : MemoryStore) (a : Address) (n : String)

/-- The slots of `(a, n)` kept and not consumed. -/
def pendingCount : Nat := m.slots.countP fun s => s.keyed a n && !s.consumed

variable {m a n}

theorem pendingCount_pos_of_get {r : NonceRecord} (h : m.get a n = .pending r) :
    0 < m.pendingCount a n := by
  unfold get at h
  split at h
  · rename_i s hs
    have hmem := List.mem_of_find?_eq_some hs
    have hkeyed := List.find?_some hs
    have hc : s.consumed = false := by
      unfold Slot.state at h
      split at h <;> simp_all
    exact List.countP_pos_iff.2 ⟨s, hmem, by simp [hkeyed, hc]⟩
  · contradiction

theorem pendingCount_claim_self : (m.claim a n).2.pendingCount a n = 0 := by
  simp only [claim, pendingCount, List.countP_map]
  apply List.countP_eq_zero.2
  intro s _
  by_cases hs : s.keyed a n <;> simp [hs]

theorem pendingCount_claim_of_ne {a' : Address} {n' : String} (h : ¬(a' = a ∧ n' = n)) :
    (m.claim a' n').2.pendingCount a n = m.pendingCount a n := by
  simp only [claim, pendingCount, List.countP_map]
  apply List.countP_congr
  intro s _
  by_cases hs : s.keyed a' n'
  · have hk : s.keyed a n = false := by
      simp only [Slot.keyed, Bool.and_eq_true, beq_iff_eq] at hs ⊢
      obtain ⟨rfl, rfl⟩ := hs
      simpa using h
    simp [hs, hk]
  · simp [hs]

theorem pendingCount_insert {r : NonceRecord} {t : Instant} {m' : MemoryStore}
    (h : m.insert r t = .ok m') :
    m'.pendingCount a n = m.pendingCount a n + (if r.address = a ∧ r.nonce = n then 1 else 0) := by
  unfold insert at h
  split at h
  · contradiction
  · cases h
    simp only [pendingCount, List.countP_append, List.countP_singleton, Slot.keyed]
    by_cases ha : r.address = a <;> by_cases hn : r.nonce = n <;> simp [ha, hn]

theorem pendingCount_remove_le (a' : Address) (n' : String) :
    (m.remove a' n').pendingCount a n ≤ m.pendingCount a n :=
  List.filter_sublist.countP_le

theorem pendingCount_purge_le (t : Instant) : (m.purge t).2.pendingCount a n ≤ m.pendingCount a n :=
  List.filter_sublist.countP_le

end MemoryStore

namespace NonceStore

/-- Keys of the key-value server name one account and nonce under one prefix. -/
theorem recordKey_injective {pfx : String} {a a' : Address} {n n' : String}
    (h : recordKey pfx a n = recordKey pfx a' n') : a = a' ∧ n = n' := by
  have hl := congrArg String.toList h
  simp only [recordKey, String.toList_append, List.append_assoc, List.append_cancel_left_eq] at hl
  -- the account's digits have a fixed length, so the split after them is the same on both sides
  have hlen : a.lowerHex.toList.length = a'.lowerHex.toList.length := by
    rw [String.length_toList, String.length_toList, Address.lowerHex_length,
      Address.lowerHex_length]
  obtain ⟨hhex, hrest⟩ := List.append_inj hl hlen
  refine ⟨Address.lowerHex_injective (String.toList_inj.1 hhex), String.toList_inj.1 ?_⟩
  simpa using hrest

theorem run_get_bind {α : Type} (f : Backend → StoreM α) (b : Backend) :
    (MonadState.get >>= f).run.run b = (f b).run.run b := rfl

theorem guard_run (faults : List StoreMethod) (m : StoreMethod) (b : Backend) :
    (guard faults m).run.run b =
      (if faults.contains m then .error StoreError.unreadable else .ok (), b) := by
  unfold guard
  split <;> rfl

theorem guard_run_of_mem {faults : List StoreMethod} {m : StoreMethod}
    (h : faults.contains m = true) (b : Backend) :
    (guard faults m).run.run b = (.error StoreError.unreadable, b) := by
  rw [guard_run, if_pos h]

theorem guard_run_of_not {faults : List StoreMethod} {m : StoreMethod}
    (h : faults.contains m = false) (b : Backend) : (guard faults m).run.run b = (.ok (), b) := by
  rw [guard_run, h]
  rfl

theorem client_run {α : Type} (m : KeyValue.ClientM α) (b : Backend) :
    (client m).run.run b = ((m.run.run b).1.mapError StoreError.server, (m.run.run b).2) := rfl

end NonceStore

namespace Backend

/-- The records of `(a, n)` that the nonce store holds and that a claim would still find
pending. -/
def pending (b : Backend) (a : Address) (n : String) : Nat :=
  match b.nonces with
  | .memory m _ => m.pendingCount a n
  | .keyValue pfx _ => (b.kv.holdsPending (NonceStore.recordKey pfx a n)).toNat
  | .losing _ | .broken => 0

variable {a : Address} {n : String}

/-- A backend whose key-value server holds `(a, n)` pending only if the one before did, all
else kept, holds no more records of `(a, n)` pending. -/
theorem pending_kv_le_of {b b' : Backend} {pfx : String} {reachable : Bool}
    (hb : b.nonces = .keyValue pfx reachable) (hb' : b' = { b with kv := b'.kv })
    (hkv : b'.kv.holdsPending (NonceStore.recordKey pfx a n) = true →
      b.kv.holdsPending (NonceStore.recordKey pfx a n) = true) :
    b'.pending a n ≤ b.pending a n := by
  rw [hb']
  simp only [pending, hb]
  cases h : b'.kv.holdsPending (NonceStore.recordKey pfx a n)
  · simp
  · simp [hkv h]

theorem pending_kv_le {b b' : Backend} {pfx : String} {reachable : Bool}
    (hb : b.nonces = .keyValue pfx reachable) (hb' : b' = { b with kv := b'.kv })
    (hkv : b'.kv.Below b.kv) : b'.pending a n ≤ b.pending a n :=
  pending_kv_le_of hb hb' (hkv _)

end Backend

/-! ## The store's methods, one at a time -/

namespace NonceStore

variable {a : Address} {n : String}

theorem client_connect_false {α : Type} (m : KeyValue.ClientM α) (b : Backend) :
    (client (KeyValue.connect false >>= fun _ => m)).run.run b =
      (.error (.server .missingSocket), b) := rfl

theorem client_connect_true {α : Type} (m : KeyValue.ClientM α) (b : Backend) :
    (client (KeyValue.connect true >>= fun _ => m)).run.run b =
      ((m.run.run b).1.mapError StoreError.server, (m.run.run b).2) := by
  rw [client_run, Backend.run_bind_of_ok (KeyValue.connect_run true b)]

/-- A client call leaves the backend as its commands do, once connected. -/
theorem client_connect_snd {α : Type} (reachable : Bool) (m : KeyValue.ClientM α) (b : Backend) :
    ((client (KeyValue.connect reachable >>= fun _ => m)).run.run b).2 =
      if reachable then (m.run.run b).2 else b := by
  cases reachable
  · rw [client_connect_false]
    rfl
  · rw [client_connect_true]
    rfl

/-- A client call that connects, then sends one command whose reply is read as an optional
string, leaves the server as the command does. -/
theorem client_optString_snd (reachable : Bool) (args : List String) (b : Backend) :
    ((client (do KeyValue.connect reachable; KeyValue.optString args)).run.run b).2 =
      if reachable then { b with kv := (b.kv.exec b.clock.now args).2 } else b := by
  rw [client_connect_snd, KeyValue.optString_run]

theorem get_pending (a' : Address) (n' : String) (b : Backend) :
    ((get a' n').run.run b).2.pending a n ≤ b.pending a n := by
  unfold get
  rw [run_get_bind]
  cases hb : b.nonces with
  | memory m faults =>
    dsimp only
    rw [Backend.snd_bind_of_keeps (fun _ => Backend.keeps_pure _), guard_run]
  | keyValue pfx reachable =>
    dsimp only
    rw [Backend.snd_bind_of_keeps, client_optString_snd]
    · split
      · exact Backend.pending_kv_le hb rfl (Redis.Server.exec_get_below _ _ _)
      · exact Nat.le_refl _
    · -- reading the kept text back changes nothing
      intro text c
      rcases text with _ | t
      · rfl
      · dsimp only
        split <;> rfl
  | losing rs =>
    dsimp only
    split <;> exact Nat.le_refl _
  | broken => exact Nat.le_refl _

theorem remove_pending (a' : Address) (n' : String) (b : Backend) :
    ((remove a' n').run.run b).2.pending a n ≤ b.pending a n := by
  unfold remove
  rw [run_get_bind]
  cases hb : b.nonces with
  | memory m faults =>
    dsimp only
    cases hf : faults.contains .remove
    · rw [Backend.run_bind_of_ok (guard_run_of_not hf b)]
      show (m.remove a' n').pendingCount a n ≤ b.pending a n
      rw [Backend.pending, hb]
      exact MemoryStore.pendingCount_remove_le a' n'
    · rw [Backend.run_bind_of_error (guard_run_of_mem hf b)]
  | keyValue pfx reachable =>
    dsimp only
    rw [client_connect_snd]
    split
    · rw [Backend.snd_bind_of_keeps (fun _ => Backend.keeps_pure _), KeyValue.command_run]
      exact Backend.pending_kv_le hb rfl (Redis.Server.exec_del_below _ _ _)
    · exact Nat.le_refl _
  | losing rs => exact Nat.le_refl _
  | broken => exact Nat.le_refl _

theorem purgeExpired_pending (t : Instant) (b : Backend) :
    ((purgeExpired t).run.run b).2.pending a n ≤ b.pending a n := by
  unfold purgeExpired
  rw [run_get_bind]
  cases hb : b.nonces with
  | memory m faults =>
    dsimp only
    cases hf : faults.contains .purgeExpired
    · rw [Backend.run_bind_of_ok (guard_run_of_not hf b)]
      show (m.purge t).2.pendingCount a n ≤ b.pending a n
      rw [Backend.pending, hb]
      exact MemoryStore.pendingCount_purge_le t
    · rw [Backend.run_bind_of_error (guard_run_of_mem hf b)]
  | keyValue pfx reachable => exact Nat.le_refl _
  | losing rs => exact Nat.le_refl _
  | broken => exact Nat.le_refl _

/-- Reading the claim script's answer changes nothing. -/
theorem claimAnswer_keeps (reply : Redis.Reply) : Backend.Keeps (claimAnswer reply) := by
  intro b
  unfold claimAnswer
  split
  · split
    · rfl
    · rfl
    · split <;> rfl
    · split <;> rfl
  · rfl

/-- The claim script's answer reads as pending only when its status is `1`. -/
theorem claimAnswer_pending {reply : Redis.Reply} {b b' : Backend} {r : NonceRecord}
    (h : (claimAnswer reply).run.run b = (.ok (.pending r), b')) :
    ∃ s t, reply = .array [s, .bulk t] ∧ s.integer = .ok 1 := by
  unfold claimAnswer at h
  split at h
  · rename_i s t
    split at h
    · cases h
    · cases h
    · exact ⟨s, t, rfl, by assumption⟩
    · split at h <;> cases h
  · cases h

theorem claim_pending (a' : Address) (n' : String) (b : Backend) :
    ((claim a' n').run.run b).2.pending a n +
      (Taken.won a n ⟨.claim a' n', ((claim a' n').run.run b).1⟩).toNat ≤ b.pending a n := by
  unfold claim
  rw [run_get_bind]
  cases hb : b.nonces with
  | memory m faults =>
    dsimp only
    cases hf : faults.contains .claim
    · rw [Backend.run_bind_of_ok (guard_run_of_not hf b)]
      show (m.claim a' n').2.pendingCount a n +
        (Taken.won a n ⟨.claim a' n', .ok (m.get a' n')⟩).toNat ≤ b.pending a n
      rw [Backend.pending, hb]
      dsimp only
      by_cases hk : a' = a ∧ n' = n
      · obtain ⟨rfl, rfl⟩ := hk
        rw [MemoryStore.pendingCount_claim_self]
        cases hg : m.get a' n' with
        | pending r =>
          have hpos := MemoryStore.pendingCount_pos_of_get hg
          simp only [Taken.won, beq_self_eq_true, Bool.and_self, Bool.toNat_true]
          omega
        | consumed r => simp [Taken.won]
        | missing => simp [Taken.won]
      · rw [MemoryStore.pendingCount_claim_of_ne hk]
        cases hw : Taken.won a n ⟨.claim a' n', .ok (m.get a' n')⟩
        · simp
        · exact absurd ⟨(Taken.won_claim hw).1, (Taken.won_claim hw).2.1⟩ hk
    · rw [Backend.run_bind_of_error (guard_run_of_mem hf b)]
      simp [Taken.won]
  | keyValue pfx reachable =>
    dsimp only
    cases reachable with
    | false =>
      rw [Backend.run_bind_of_error (client_connect_false _ b)]
      simp [Taken.won]
    | true =>
      rcases hs : (KeyValue.evalScript claimScript [recordKey pfx a' n']).run.run b with ⟨r, b'⟩
      obtain ⟨hb', hbelow, hclaim⟩ := KeyValue.evalScript_below _ _ hs
      cases r with
      | error f =>
        rw [Backend.run_bind_of_error (by rw [client_connect_true, hs]; rfl)]
        simpa [Taken.won] using Backend.pending_kv_le hb hb' hbelow
      | ok reply =>
        rw [Backend.run_bind_of_ok (by rw [client_connect_true, hs]; rfl)]
        rcases hc : (claimAnswer reply).run.run b' with ⟨v, b''⟩
        have hkeep : b'' = b' := by rw [← claimAnswer_keeps reply b', hc]
        subst hkeep
        dsimp only
        cases hw : Taken.won a n ⟨.claim a' n', v⟩
        · simpa using Backend.pending_kv_le hb hb' hbelow
        · -- a won claim: the script found the key pending and left it consumed
          obtain ⟨rfl, rfl, r, rfl⟩ := Taken.won_claim hw
          obtain ⟨s, t, rfl, hs1⟩ := claimAnswer_pending hc
          obtain ⟨srv, hsrv, hcl⟩ := hclaim _ rfl
          have hheld : srv.holdsPending (recordKey pfx a' n') = true :=
            Redis.holdsPending_of_claim_one (congrArg Prod.fst hcl).symm hs1
          have hgone : b''.kv.holdsPending (recordKey pfx a' n') = false := by
            have hkv : b''.kv = (Redis.claim srv (recordKey pfx a' n')).2 := congrArg Prod.snd hcl
            rw [hkv]
            exact Redis.holdsPending_claim_self srv _
          rw [hb']
          simp [Backend.pending, hb, hgone, hsrv _ hheld]
  | losing rs =>
    dsimp only
    -- a losing store answers without a change, and never pending
    split <;> exact Nat.le_of_eq (Nat.add_zero _)
  | broken => exact Nat.le_of_eq (Nat.add_zero _)

/-- The command that keeps a record in the key-value server: set only if absent, expiring
with the record's retention. -/
theorem insert_run_snd_kv {r : NonceRecord} {t : Instant} {b : Backend} {pfx : String}
    (hb : b.nonces = .keyValue pfx true) :
    ((insert r t).run.run b).2 = { b with kv := (b.kv.exec b.clock.now ["SET",
      recordKey pfx r.address r.nonce, r.toText, "NX", "EX", toString (expirySeconds r t)]).2 } := by
  unfold insert
  rw [run_get_bind, hb]
  dsimp only
  rw [Backend.snd_bind_of_keeps, client_optString_snd, if_pos rfl, hb]
  -- refusing a taken key changes nothing more
  intro set
  split
  · exact Backend.keeps_throw _
  · exact Backend.keeps_pure _

/-- A set the server acknowledged is an insert that succeeded. -/
theorem insert_run_fst_kv {r : NonceRecord} {t : Instant} {b : Backend} {pfx : String}
    {kv : Redis.Server} (hb : b.nonces = .keyValue pfx true)
    (hset : b.kv.exec b.clock.now ["SET", recordKey pfx r.address r.nonce, r.toText, "NX", "EX",
      toString (expirySeconds r t)] = (.status "OK", kv)) :
    ((insert r t).run.run b).1 = .ok () := by
  unfold insert
  rw [run_get_bind, hb]
  dsimp only
  rw [Backend.run_run_bind, client_connect_true, KeyValue.optString_run, hset]
  rfl

theorem insert_pending (r : NonceRecord) (t : Instant) (b : Backend) :
    ((insert r t).run.run b).2.pending a n ≤
      b.pending a n + (Taken.inserted a n ⟨.insert r t, ((insert r t).run.run b).1⟩).toNat := by
  cases hb : b.nonces with
  | memory m faults =>
    unfold insert
    rw [run_get_bind, hb]
    dsimp only
    cases hf : faults.contains .insert
    · rw [Backend.run_bind_of_ok (guard_run_of_not hf b)]
      cases hi : m.insert r t with
      | error e => exact Nat.le_add_right _ _
      | ok m' =>
        show m'.pendingCount a n ≤ b.pending a n + (Taken.inserted a n ⟨.insert r t, .ok ()⟩).toNat
        rw [Backend.pending, hb, MemoryStore.pendingCount_insert hi]
        by_cases hk : r.address = a ∧ r.nonce = n
        · simp [Taken.inserted, hk]
        · simp only [if_neg hk, Nat.add_zero]
          exact Nat.le_add_right _ _
    · rw [Backend.run_bind_of_error (guard_run_of_mem hf b)]
      exact Nat.le_add_right _ _
  | keyValue pfx reachable =>
    cases reachable with
    | false =>
      unfold insert
      rw [run_get_bind, hb]
      dsimp only
      rw [Backend.run_bind_of_error (client_connect_false _ b)]
      exact Nat.le_add_right _ _
    | true =>
      rw [insert_run_snd_kv hb]
      rcases Redis.Server.exec_set_below b.kv b.clock.now (recordKey pfx r.address r.nonce)
        r.toText ["NX", "EX", toString (expirySeconds r t)] with hbelow | ⟨exp, hset⟩
      · exact Nat.le_add_right_of_le (Backend.pending_kv_le hb rfl hbelow)
      · -- the server kept the record: only its own key gained a pending record
        rw [insert_run_fst_kv hb hset, hset]
        by_cases hk : recordKey pfx r.address r.nonce = recordKey pfx a n
        · obtain ⟨rfl, rfl⟩ := recordKey_injective hk
          simp only [Backend.pending, hb, Taken.inserted, beq_self_eq_true, Bool.and_self,
            Bool.toNat_true]
          exact (Bool.toNat_le _).trans (Nat.le_add_left 1 _)
        · refine Nat.le_add_right_of_le (Backend.pending_kv_le_of hb rfl fun h => ?_)
          exact Redis.Server.holdsPending_purge (by rwa [Redis.Server.holdsPending_put_of_ne hk] at h)
  | losing rs =>
    unfold insert
    rw [run_get_bind, hb]
    exact Nat.zero_le _
  | broken =>
    unfold insert
    rw [run_get_bind, hb]
    exact Nat.le_add_right _ _

end NonceStore

/-! ## One step -/

namespace Action

variable {a : Address} {n : String}

/-- A step raises the records of `(a, n)` pending by no more than it lowers the advance: a won
claim spends a pending record, and only an insert that was kept adds one. -/
theorem exec_pending (x : Action) (b : Backend) :
    ((x.exec.run b).2.pending a n : Int) + Taken.gain a n ⟨x, (x.exec.run b).1⟩ ≤
      b.pending a n := by
  cases x with
  | now | freshNonce =>
    -- a clock reading and a draw leave the nonce store and the server alone
    rw [Taken.gain_eq_zero (by simp) (by simp), Int.add_zero]
    exact Int.le_refl _
  | get a' n' =>
    rw [Taken.gain_eq_zero (by simp) (by simp), Int.add_zero]
    exact Int.ofNat_le.2 (NonceStore.get_pending a' n' b)
  | remove a' n' =>
    rw [Taken.gain_eq_zero (by simp) (by simp), Int.add_zero]
    exact Int.ofNat_le.2 (NonceStore.remove_pending a' n' b)
  | purge t =>
    rw [Taken.gain_eq_zero (by simp) (by simp), Int.add_zero]
    exact Int.ofNat_le.2 (NonceStore.purgeExpired_pending t b)
  | claim a' n' =>
    have h := NonceStore.claim_pending (a := a) (n := n) a' n' b
    show (((NonceStore.claim a' n').run.run b).2.pending a n : Int) +
      Taken.gain a n ⟨.claim a' n', ((NonceStore.claim a' n').run.run b).1⟩ ≤ b.pending a n
    simp only [Taken.gain, Taken.inserted, Bool.toNat_false, Int.natCast_zero, Int.sub_zero]
    omega
  | insert r t =>
    have h := NonceStore.insert_pending (a := a) (n := n) r t b
    show (((NonceStore.insert r t).run.run b).2.pending a n : Int) +
      Taken.gain a n ⟨.insert r t, ((NonceStore.insert r t).run.run b).1⟩ ≤ b.pending a n
    simp only [Taken.gain, Taken.won, Bool.toNat_false, Int.natCast_zero, Int.zero_sub]
    omega

end Action
end WalletAuth
