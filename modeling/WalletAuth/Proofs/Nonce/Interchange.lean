import WalletAuth.Proofs.Nonce.OnServer
import WalletAuth.Proofs.Nonce.Lifecycle

/-!
# WalletAuth.Proofs.Nonce.Interchange — the two nonce stores answer alike

A registry keeps its nonces in process or on a key-value server, and the two keep a record
differently: a slot with a consumed flag and an absolute retention, against a text marked
`used:` once consumed, which the server expires a whole number of seconds after it is set.
Purged before each call, the in-process store answers every call of a registry as the server
does.

The server *mirrors* the store (`Mirrors`): under the key of each account and nonce it keeps
the entry of the store's one slot there, or nothing. Purging both at one instant keeps the
mirror (`Mirrors.purge`), and each call answers alike on both and keeps it
(`Mirrors.call_run`). So over any calls and clock moves from two empty stores (`Paired`), the
next call answers alike (`Paired.stores_interchangeable`), when the time to live is a positive
whole number of seconds, no record is issued inside a leap second, and records read back from
their text.

With a time to live of zero the server keeps a record for its one-second minimum, while the
purged store drops it at once (`zero_ttl_outlives_purge`).
-/

namespace WalletAuth

/-! ## The entry of a slot -/

namespace Slot

/-- The entry a key-value server keeps for a slot: the record's text, marked `used:` once
consumed, expiring with the slot's retention. -/
def entry (pfx : String) (s : Slot) : Redis.Entry :=
  ⟨NonceStore.recordKey pfx s.record.address s.record.nonce,
    .str (if s.consumed then NonceStore.usedMark ++ s.record.toText else s.record.toText),
    some s.retainUntil⟩

theorem isLive_entry (pfx : String) (s : Slot) (t : Instant) :
    Redis.Server.isLive t (s.entry pfx) = decide (t < s.retainUntil) := rfl

/-- Read back, the text of a slot's entry is the slot's state, when its record reads back. -/
theorem decodeKept_entry {s : Slot} (hs : NonceRecord.ofText s.record.toText = .ok s.record) :
    NonceStore.decodeKept
        (if s.consumed then NonceStore.usedMark ++ s.record.toText else s.record.toText) =
      .ok s.state := by
  cases hc : s.consumed
  · simp only [Bool.false_eq_true, if_false, NonceStore.decodeKept_record, hs, state, hc]
    rfl
  · simp only [if_true, NonceStore.decodeKept_used, hs, state, hc]
    rfl

/-- Keeping a slot while retained and taking its entry is taking its entry while live. -/
theorem map_entry_filter (pfx : String) (t : Instant) (o : Option Slot) :
    (o.filter fun s => decide (t < s.retainUntil)).map (entry pfx) =
      (o.map (entry pfx)).filter (Redis.Server.isLive t) := by
  cases o with
  | none => rfl
  | some s => by_cases hlt : t < s.retainUntil <;> simp [Option.filter_some, isLive_entry, hlt]

/-- A slot is kept under its own record's account and nonce. -/
theorem keyed_self (s : Slot) : s.keyed s.record.address s.record.nonce = true := by
  simp [keyed]

/-- A claim leaves a consumed slot as it is. -/
theorem spend_of_consumed {s : Slot} (h : s.consumed = true) : { s with consumed := true } = s := by
  cases s
  cases h
  rfl

end Slot

namespace MemoryStore

variable {m : MemoryStore} {t : Instant} {a : Address} {n : String} {s : Slot}

theorem mem_of_mem_slotsOf (h : s ∈ m.slotsOf a n) : s ∈ m.slots :=
  (List.mem_filter.1 h).1

theorem mem_slotsOf_self (h : s ∈ m.slots) : s ∈ m.slotsOf s.record.address s.record.nonce :=
  List.mem_filter.2 ⟨h, s.keyed_self⟩

theorem mem_slots_purge (h : s ∈ (m.purge t).2.slots) : s ∈ m.slots :=
  (List.mem_filter.1 h).1

/-- Under a key with at most one slot, a purge keeps that slot or drops it. -/
theorem head?_slotsOf_purge (h : (m.slotsOf a n).length ≤ 1) :
    ((m.purge t).2.slotsOf a n).head? =
      (m.slotsOf a n).head?.filter fun s => decide (t < s.retainUntil) := by
  rw [slotsOf_purge]
  match m.slotsOf a n, h with
  | [], _ => rfl
  | [s], _ => by_cases hlt : t < s.retainUntil <;> simp [hlt, Option.filter_some]

end MemoryStore

/-! ## The mirror -/

namespace NonceStore

/-- A key-value server mirrors an in-process store under `pfx`: under the key of each account
and nonce it keeps the entry of the one slot there, or nothing; every kept record reads back
from its text; and the server fails no command. -/
structure Mirrors (pfx : String) (m : MemoryStore) (srv : Redis.Server) : Prop where
  entries : ∀ a n, srv.find? (recordKey pfx a n) = (m.slotsOf a n).head?.map (Slot.entry pfx)
  single : ∀ a n, (m.slotsOf a n).length ≤ 1
  readable : ∀ s ∈ m.slots, NonceRecord.ofText s.record.toText = .ok s.record
  serving : srv.failing = []

namespace Mirrors

variable {pfx : String} {m : MemoryStore} {srv : Redis.Server}

/-- Purging both sides at one instant keeps the mirror: both drop a record at its retention. -/
theorem purge (h : Mirrors pfx m srv) (t : Instant) : Mirrors pfx (m.purge t).2 (srv.purge t) where
  entries a n := by
    rw [Redis.Server.find?_purge, h.entries, MemoryStore.head?_slotsOf_purge (h.single a n),
      Slot.map_entry_filter]
  single a n := by
    rw [MemoryStore.slotsOf_purge]
    exact (List.length_filter_le _ _).trans (h.single a n)
  readable s hs := h.readable s (MemoryStore.mem_slots_purge hs)
  serving := h.serving

/-- A server that finds what a mirror finds is a mirror. -/
theorem congr {srv' : Redis.Server} (h : Mirrors pfx m srv) (hfind : ∀ k, srv'.find? k = srv.find? k)
    (hf : srv'.failing = []) : Mirrors pfx m srv' where
  entries a n := (hfind _).trans (h.entries a n)
  single := h.single
  readable := h.readable
  serving := hf

/-- The mirror after a call that touches one key: elsewhere both sides are as they were, and
under that key the server keeps the entry of the one readable slot, or nothing. -/
theorem of_key (h : Mirrors pfx m srv) {a : Address} {n : String} {m₁ : MemoryStore}
    {srv₁ : Redis.Server}
    (hother : ∀ a' n', ¬(a' = a ∧ n' = n) → m₁.slotsOf a' n' = m.slotsOf a' n' ∧
      srv₁.find? (recordKey pfx a' n') = srv.find? (recordKey pfx a' n'))
    (hkey : srv₁.find? (recordKey pfx a n) = (m₁.slotsOf a n).head?.map (Slot.entry pfx))
    (hsingle : (m₁.slotsOf a n).length ≤ 1)
    (hread : ∀ s ∈ m₁.slotsOf a n, NonceRecord.ofText s.record.toText = .ok s.record)
    (hf : srv₁.failing = []) : Mirrors pfx m₁ srv₁ := by
  -- every key is either the one touched or one left as it was
  have hall : ∀ a' n', (∀ s ∈ m₁.slotsOf a' n', NonceRecord.ofText s.record.toText = .ok s.record) ∧
      (m₁.slotsOf a' n').length ≤ 1 ∧
      srv₁.find? (recordKey pfx a' n') = (m₁.slotsOf a' n').head?.map (Slot.entry pfx) := by
    intro a' n'
    by_cases hk : a' = a ∧ n' = n
    · obtain ⟨rfl, rfl⟩ := hk
      exact ⟨hread, hsingle, hkey⟩
    · obtain ⟨hslots, hfind⟩ := hother a' n' hk
      rw [hslots, hfind]
      exact ⟨fun s hs => h.readable s (MemoryStore.mem_of_mem_slotsOf hs), h.single a' n',
        h.entries a' n'⟩
  exact ⟨fun a' n' => (hall a' n').2.2, fun a' n' => (hall a' n').2.1,
    fun s hs => (hall _ _).1 s (MemoryStore.mem_slotsOf_self hs), hf⟩

/-! ## One store method on each side -/

variable {b : Backend}

/-- Two accounts and nonces that differ have different keys. -/
theorem recordKey_ne {a a' : Address} {n n' : String} (hk : ¬(a' = a ∧ n' = n)) :
    recordKey pfx a n ≠ recordKey pfx a' n' := fun he =>
  hk (let ⟨h₁, h₂⟩ := recordKey_injective he; ⟨h₁.symm, h₂.symm⟩)

/-- A read answers what the purged in-process store keeps, and leaves the server purged. -/
theorem get_run (h : Mirrors pfx m b.kv) (hb : b.nonces = .keyValue pfx true)
    (a : Address) (n : String) :
    (get a n).run.run b = (.ok ((m.purge b.clock.now).2.get a n),
      { b with kv := b.kv.purge b.clock.now }) := by
  have hp := h.purge b.clock.now
  have hfind := hp.entries a n
  rw [MemoryStore.get_eq_head]
  cases hs : ((m.purge b.clock.now).2.slotsOf a n).head? with
  | none =>
    rw [hs] at hfind
    exact get_run_kv_none hb h.serving hfind
  | some s =>
    rw [hs] at hfind
    have hread := hp.readable s (MemoryStore.mem_of_mem_slotsOf (List.mem_of_head? hs))
    rw [get_run_kv_str hb h.serving hfind, Slot.decodeKept_entry hread]

/-- A removal forgets the key on both sides. -/
theorem remove_run (h : Mirrors pfx m b.kv) (hb : b.nonces = .keyValue pfx true)
    (a : Address) (n : String) :
    ∃ srv, (remove a n).run.run b = (.ok (), { b with kv := srv }) ∧
      Mirrors pfx ((m.purge b.clock.now).2.remove a n) srv := by
  obtain ⟨srv, hfind, hf, hrun⟩ := remove_run_kv hb h.serving a n
  have hgone : ((m.purge b.clock.now).2.remove a n).slotsOf a n = [] := by
    rw [MemoryStore.slotsOf_remove, if_pos ⟨rfl, rfl⟩]
  refine ⟨srv, hrun, (h.purge b.clock.now).of_key (a := a) (n := n)
    (fun a' n' hk => ⟨?_, ?_⟩) ?_ ?_ ?_ hf⟩
  · rw [MemoryStore.slotsOf_remove, if_neg fun h' => hk ⟨h'.1.symm, h'.2.symm⟩]
  · rw [hfind, if_neg (recordKey_ne hk)]
  · rw [hgone, hfind, if_pos rfl]
    rfl
  · rw [hgone]
    exact Nat.zero_le _
  · rw [hgone]
    exact fun _ hs => nomatch hs

/-- A claim answers what the purged in-process store kept, and marks it consumed on both
sides: the server by the claim script, which keeps the expiry. -/
theorem claim_run (h : Mirrors pfx m b.kv) (hb : b.nonces = .keyValue pfx true)
    (a : Address) (n : String) :
    ∃ srv, (claim a n).run.run b = (.ok ((m.purge b.clock.now).2.get a n), { b with kv := srv }) ∧
      Mirrors pfx ((m.purge b.clock.now).2.claim a n).2 srv := by
  have hp := h.purge b.clock.now
  have hstr : ∀ e, (b.kv.purge b.clock.now).find? (recordKey pfx a n) = some e →
      ∃ v, e.value = .str v := by
    intro e he
    rw [hp.entries] at he
    obtain ⟨s, -, rfl⟩ := Option.map_eq_some_iff.1 he
    exact ⟨_, rfl⟩
  obtain ⟨srv₁, hsrv₁, hf₁, hrun⟩ := claim_run_kv hb h.serving hstr
  have h₁ := hp.congr hsrv₁ hf₁
  rw [hrun, MemoryStore.get_eq_head]
  -- away from the key the claim changes no slot, and the script no entry
  have hother : ∀ srv₂ : Redis.Server, (∀ k, recordKey pfx a n ≠ k → srv₂.find? k = srv₁.find? k) →
      ∀ a' n', ¬(a' = a ∧ n' = n) →
        ((m.purge b.clock.now).2.claim a n).2.slotsOf a' n' = (m.purge b.clock.now).2.slotsOf a' n' ∧
        srv₂.find? (recordKey pfx a' n') = srv₁.find? (recordKey pfx a' n') := by
    intro srv₂ hsrv₂ a' n' hk
    refine ⟨?_, hsrv₂ _ (recordKey_ne hk)⟩
    rw [MemoryStore.slotsOf_claim, if_neg fun h' => hk ⟨h'.1.symm, h'.2.symm⟩]
  have hclaimed : ((m.purge b.clock.now).2.claim a n).2.slotsOf a n =
      ((m.purge b.clock.now).2.slotsOf a n).map fun s => { s with consumed := true } := by
    rw [MemoryStore.slotsOf_claim, if_pos ⟨rfl, rfl⟩]
  have hfind := h₁.entries a n
  match hl : (m.purge b.clock.now).2.slotsOf a n, hp.single a n with
  | [], _ =>
    -- nothing kept: the script answers missing and writes nothing
    rw [hl] at hfind hclaimed
    rw [Redis.claim_none hfind, claimAnswer_zero]
    refine ⟨srv₁, rfl, h₁.of_key (hother srv₁ fun _ _ => rfl) ?_ ?_ ?_ hf₁⟩
    · rw [hclaimed, hfind]
      rfl
    · rw [hclaimed]
      exact Nat.zero_le _
    · rw [hclaimed]
      exact fun _ hs => nomatch hs
  | [s], _ =>
    rw [hl] at hfind hclaimed
    have hs : s ∈ (m.purge b.clock.now).2.slotsOf a n := by
      rw [hl]
      exact List.mem_singleton_self s
    have hread := hp.readable s (MemoryStore.mem_of_mem_slotsOf hs)
    obtain ⟨ha, hn⟩ := MemoryStore.keyed_iff.1 (List.mem_filter.1 hs).2
    have hkey : recordKey pfx s.record.address s.record.nonce = recordKey pfx a n := by rw [ha, hn]
    -- after the claim the slot is consumed, and its entry is the used text with the expiry kept
    have hspent : Slot.entry pfx { s with consumed := true } =
        ⟨recordKey pfx a n, .str (usedMark ++ s.record.toText), some s.retainUntil⟩ := by
      simp only [Slot.entry, hkey, if_true]
    have hkept : ∀ srv₂ : Redis.Server,
        srv₂.find? (recordKey pfx a n) = some (Slot.entry pfx { s with consumed := true }) →
        srv₂.find? (recordKey pfx a n) =
          (((m.purge b.clock.now).2.claim a n).2.slotsOf a n).head?.map (Slot.entry pfx) := by
      intro srv₂ hsrv₂
      rw [hsrv₂, hclaimed]
      rfl
    have hone : (((m.purge b.clock.now).2.claim a n).2.slotsOf a n).length ≤ 1 := by
      rw [hclaimed]
      exact Nat.le_refl _
    have hslot : ∀ s' ∈ ((m.purge b.clock.now).2.claim a n).2.slotsOf a n,
        NonceRecord.ofText s'.record.toText = .ok s'.record := by
      rw [hclaimed]
      intro s' hs'
      rw [List.mem_singleton.1 hs']
      exact hread
    cases hc : s.consumed with
    | false =>
      -- pending: the script answers the record and marks it used
      have hentry : srv₁.find? (recordKey pfx a n) =
          some ⟨recordKey pfx a n, .str s.record.toText, some s.retainUntil⟩ := by
        rw [hfind]
        simp only [Option.map_some, List.head?_cons, Slot.entry, hkey, hc]
        rfl
      rw [Redis.claim_pending hentry s.record.toText_not_used, claimAnswer_one hread]
      refine ⟨srv₁.put ⟨recordKey pfx a n, .str ("used:" ++ s.record.toText), some s.retainUntil⟩,
        by simp [Slot.state, hc], h₁.of_key (hother _ fun k hk => ?_) (hkept _ ?_) hone hslot hf₁⟩
      · rw [Redis.Server.find?_put, if_neg hk]
      · rw [Redis.Server.find?_put, if_pos rfl, hspent]
        rfl
    | true =>
      -- consumed already: the script answers the record and writes nothing
      have hentry : srv₁.find? (recordKey pfx a n) =
          some ⟨recordKey pfx a n, .str (usedMark ++ s.record.toText), some s.retainUntil⟩ := by
        rw [hfind]
        simp only [Option.map_some, List.head?_cons, Slot.entry, hkey, hc]
        rfl
      rw [Redis.claim_used hentry (usedMark_startsWith _), drop_usedMark, claimAnswer_two hread]
      refine ⟨srv₁, by simp [Slot.state, hc], h₁.of_key (hother _ fun _ _ => rfl) (hkept _ ?_) hone
        hslot hf₁⟩
      rw [Slot.spend_of_consumed hc, hfind]
      rfl

end Mirrors

/-- A record the registry issues at `now` for `ttl`: stamped with the reading, expiring one
`ttl` later, and read back from its text. The reading lies outside a leap second. -/
structure Issued (ttl : Span) (now : Instant) (r : NonceRecord) : Prop where
  issuedAt : r.issuedAt = now
  expiresAt : r.expiresAt = now.add ttl
  steady : now.nanos < nanosPerSecond
  readable : NonceRecord.ofText r.toText = .ok r
  /-- The server takes the record's lifetime: its deadline, in milliseconds since the epoch, fits
  in 64 bits. -/
  fits : Redis.setExpiryFits now (expirySeconds r (r.expiresAt.add ttl) * 1000)

namespace Mirrors

variable {pfx : String} {m : MemoryStore} {b : Backend} {k : Int} {r : NonceRecord}

/-- The server's expiry for a record issued for `k` seconds: `2 * k`, a positive count it reads
and takes as a time to live. -/
theorem expiry_fits (hk : 0 < k) (hmax : 2 * k ≤ Redis.maxInt64)
    (hr : Issued (.ofSeconds k) b.clock.now r) :
    expirySeconds r (r.expiresAt.add (.ofSeconds k)) = 2 * k ∧
      Redis.parseInt64? (toString (2 * k)) = some (2 * k) ∧ 0 < 2 * k ∧
      Redis.setExpiryFits b.clock.now (2 * k * 1000) := by
  have hsecs := expirySeconds_of_issue hk hr.steady hr.issuedAt hr.expiresAt
  refine ⟨hsecs, Redis.parseInt64?_of_nonneg (by omega) hmax, by omega, ?_⟩
  rw [← hsecs]
  exact hr.fits

/-- An insert the purged in-process store takes, the server takes too, and it expires the
record at the slot's retention. -/
theorem insert_run_ok (h : Mirrors pfx m b.kv) (hb : b.nonces = .keyValue pfx true)
    (hk : 0 < k) (hmax : 2 * k ≤ Redis.maxInt64) (hr : Issued (.ofSeconds k) b.clock.now r)
    {m₁ : MemoryStore}
    (hins : (m.purge b.clock.now).2.insert r (r.expiresAt.add (.ofSeconds k)) = .ok m₁) :
    ∃ srv, (insert r (r.expiresAt.add (.ofSeconds k))).run.run b = (.ok (), { b with kv := srv }) ∧
      Mirrors pfx m₁ srv := by
  have hp := h.purge b.clock.now
  obtain ⟨hsecs, hparse, hpos, hfits⟩ := expiry_fits hk hmax hr
  have hfree := MemoryStore.slotsOf_eq_nil_of_insert hins
  have habs : (b.kv.purge b.clock.now).find? (recordKey pfx r.address r.nonce) = none := by
    rw [hp.entries, hfree]
    rfl
  rw [insert_run_kv_absent hb h.serving hsecs hparse hpos hfits habs]
  -- the server's expiry, counted from the reading, is the slot's retention
  have hretain : r.expiresAt.add (.ofSeconds k) = b.clock.now.add (.ofSeconds (2 * k)) := by
    rw [hr.expiresAt, add_twice_of_lt hr.steady]
  have hnew : m₁.slotsOf r.address r.nonce = [⟨r, false, r.expiresAt.add (.ofSeconds k)⟩] := by
    rw [MemoryStore.slotsOf_insert hins, if_pos ⟨rfl, rfl⟩, hfree, List.nil_append]
  refine ⟨_, rfl, hp.of_key (a := r.address) (n := r.nonce) (fun a' n' hk' => ⟨?_, ?_⟩) ?_ ?_ ?_
    h.serving⟩
  · rw [MemoryStore.slotsOf_insert hins, if_neg fun h' => hk' ⟨h'.1.symm, h'.2.symm⟩,
      List.append_nil]
  · rw [Redis.Server.find?_put, if_neg (recordKey_ne hk')]
  · rw [hnew, Redis.Server.find?_put, if_pos rfl, hretain]
    rfl
  · rw [hnew]
    exact Nat.le_refl _
  · rw [hnew]
    intro s hs
    rw [List.mem_singleton.1 hs]
    exact hr.readable

/-- An insert the purged in-process store refuses as taken, the server refuses too. -/
theorem insert_run_error (h : Mirrors pfx m b.kv) (hb : b.nonces = .keyValue pfx true)
    (hk : 0 < k) (hmax : 2 * k ≤ Redis.maxInt64) (hr : Issued (.ofSeconds k) b.clock.now r)
    {e : StoreError}
    (hins : (m.purge b.clock.now).2.insert r (r.expiresAt.add (.ofSeconds k)) = .error e) :
    (insert r (r.expiresAt.add (.ofSeconds k))).run.run b =
      (.error e, { b with kv := b.kv.purge b.clock.now }) := by
  obtain ⟨hsecs, hparse, hpos, hfits⟩ := expiry_fits hk hmax hr
  unfold MemoryStore.insert at hins
  split at hins
  · rename_i hany
    cases hins
    -- the key is taken by a slot, whose entry the purged server keeps
    obtain ⟨s, hs, hkeyed⟩ := List.any_eq_true.1 hany
    cases hl : ((m.purge b.clock.now).2.slotsOf r.address r.nonce).head? with
    | none =>
      rw [List.head?_eq_none_iff] at hl
      exact absurd (List.mem_filter.2 ⟨hs, hkeyed⟩) (hl ▸ List.not_mem_nil)
    | some s' =>
      have hpre := (h.purge b.clock.now).entries r.address r.nonce
      rw [hl] at hpre
      exact insert_run_kv_present hb h.serving hsecs hparse hpos hfits hpre
  · cases hins

end Mirrors

/-! ## Calls -/

/-- A call a registry makes of its nonce store. -/
inductive Call where
  | insert (r : NonceRecord)
  | get (a : Address) (n : String)
  | claim (a : Address) (n : String)
  | remove (a : Address) (n : String)

namespace Call

/-- The call as the registry makes it, a new record retained one `ttl` past its expiry; a
read answers the state it finds. -/
def run (ttl : Span) : Call → StoreM (Option NonceState)
  | .insert r => do NonceStore.insert r (r.expiresAt.add ttl); pure none
  | .get a n => some <$> NonceStore.get a n
  | .claim a n => some <$> NonceStore.claim a n
  | .remove a n => do NonceStore.remove a n; pure none

/-- The call on a store purged first at the clock's instant. -/
def runPurged (ttl : Span) (c : Call) : StoreM (Option NonceState) := do
  let _ ← purgeExpired (← MonadState.get).clock.now
  c.run ttl

/-- The calls a registry makes at `now`: it inserts only the records it issues then. -/
def Allowed (ttl : Span) (now : Instant) : Call → Prop
  | .insert r => Issued ttl now r
  | _ => True

variable {ttl : Span} {b : Backend} {m : MemoryStore}

theorem runPurged_memory (c : Call) (hb : b.nonces = .memory m []) :
    (c.runPurged ttl).run.run b =
      (c.run ttl).run.run { b with nonces := .memory (m.purge b.clock.now).2 [] } := by
  unfold runPurged
  rw [Backend.run_run_bind]
  show ((do let _ ← purgeExpired b.clock.now; c.run ttl) : StoreM _).run.run b = _
  rw [Backend.run_run_bind, purgeExpired_run_memory hb]

end Call

namespace Mirrors

variable {pfx : String} {m : MemoryStore} {bm bk : Backend} {k : Int}

/-- One call on both stores, the in-process one purged first: the same answer, and the server
mirrors the store after it. -/
theorem call_run (h : Mirrors pfx m bk.kv) (hm : bm.nonces = .memory m [])
    (hkv : bk.nonces = .keyValue pfx true) (hnow : bm.clock.now = bk.clock.now)
    (hk : 0 < k) (hmax : 2 * k ≤ Redis.maxInt64) (c : Call)
    (hc : c.Allowed (.ofSeconds k) bk.clock.now) :
    ∃ ans m' srv, (c.runPurged (.ofSeconds k)).run.run bm =
        (ans, { bm with nonces := .memory m' [] }) ∧
      (c.run (.ofSeconds k)).run.run bk = (ans, { bk with kv := srv }) ∧ Mirrors pfx m' srv := by
  rw [Call.runPurged_memory c hm, hnow]
  cases c with
  | insert r =>
    have hins := insert_run_memory (r := r) (t := r.expiresAt.add (.ofSeconds k))
      (b := { bm with nonces := .memory (m.purge bk.clock.now).2 [] }) rfl
    simp only [Call.run, Backend.run_run_bind, hins]
    cases hi : (m.purge bk.clock.now).2.insert r (r.expiresAt.add (.ofSeconds k)) with
    | ok m₁ =>
      obtain ⟨srv, hrun, hmir⟩ := h.insert_run_ok hkv hk hmax hc hi
      exact ⟨.ok none, m₁, srv, rfl, by rw [hrun]; rfl, hmir⟩
    | error e =>
      refine ⟨.error e, (m.purge bk.clock.now).2, bk.kv.purge bk.clock.now, rfl, ?_,
        h.purge bk.clock.now⟩
      rw [h.insert_run_error hkv hk hmax hc hi]
  | get a n =>
    have hget := get_run_memory (a := a) (n := n)
      (b := { bm with nonces := .memory (m.purge bk.clock.now).2 [] }) rfl
    simp only [Call.run, Backend.run_run_map, hget, h.get_run hkv]
    exact ⟨_, _, _, rfl, rfl, h.purge bk.clock.now⟩
  | claim a n =>
    obtain ⟨srv, hrun, hmir⟩ := h.claim_run hkv a n
    have hclaim := claim_run_memory (a := a) (n := n)
      (b := { bm with nonces := .memory (m.purge bk.clock.now).2 [] }) rfl
    simp only [Call.run, Backend.run_run_map, hclaim, hrun]
    exact ⟨_, _, _, rfl, rfl, hmir⟩
  | remove a n =>
    obtain ⟨srv, hrun, hmir⟩ := h.remove_run hkv a n
    have hremove := remove_run_memory (a := a) (n := n)
      (b := { bm with nonces := .memory (m.purge bk.clock.now).2 [] }) rfl
    simp only [Call.run, Backend.run_run_bind, hremove, hrun]
    exact ⟨_, _, _, rfl, rfl, hmir⟩

end Mirrors

/-! ## Whole runs -/

/-- Two backends that have seen the same store calls and clock moves since their stores were
empty. One keeps nonces in process and is purged before each call; the other keeps them under
`pfx` on a reachable key-value server that fails no command. Each call is made at the clock's
instant, which may be set anywhere between calls. -/
inductive Paired (ttl : Span) (pfx : String) : Backend → Backend → Prop where
  | start {bm bk : Backend} : bm.nonces = .memory {} [] → bk.nonces = .keyValue pfx true →
      (∀ a n, bk.kv.find? (recordKey pfx a n) = none) → bk.kv.failing = [] →
      bm.clock.now = bk.clock.now → Paired ttl pfx bm bk
  | call {bm bk : Backend} (c : Call) : Paired ttl pfx bm bk → c.Allowed ttl bk.clock.now →
      Paired ttl pfx ((c.runPurged ttl).run.run bm).2 ((c.run ttl).run.run bk).2
  | wait {bm bk : Backend} (t : Instant) : Paired ttl pfx bm bk →
      Paired ttl pfx { bm with clock := bm.clock.set t } { bk with clock := bk.clock.set t }

/-- What holds at every point of a pairing: one clock reading, and a server that mirrors the
in-process store. -/
structure Paired.Inv (pfx : String) (bm bk : Backend) : Prop where
  now : bm.clock.now = bk.clock.now
  keyValue : bk.nonces = .keyValue pfx true
  memory : ∃ m, bm.nonces = .memory m [] ∧ Mirrors pfx m bk.kv

section

variable {k : Int} {pfx : String} {bm bk : Backend}

theorem Paired.inv (hk : 0 < k) (hmax : 2 * k ≤ Redis.maxInt64)
    (hp : Paired (.ofSeconds k) pfx bm bk) : Paired.Inv pfx bm bk := by
  induction hp with
  | start hm hkv hempty hf hnow =>
    refine ⟨hnow, hkv, {}, hm, ⟨fun a n => ?_, fun _ _ => Nat.zero_le _,
      fun _ hs => (nomatch hs), hf⟩⟩
    rw [hempty]
    rfl
  | call c _ hc ih =>
    obtain ⟨hnow, hkv, m, hm, hmir⟩ := ih
    obtain ⟨ans, m', srv, hrm, hrk, hmir'⟩ := hmir.call_run hm hkv hnow hk hmax c hc
    rw [hrm, hrk]
    exact ⟨hnow, hkv, m', rfl, hmir'⟩
  | wait t _ ih =>
    obtain ⟨-, hkv, m, hm, hmir⟩ := ih
    exact ⟨rfl, hkv, m, hm, hmir⟩

/-- The two stores are interchangeable: after any calls and clock moves from two empty stores,
with a time to live of a positive whole number `k` of seconds, the next call a registry makes
answers the same on the server as on the in-process store purged first, be it a state read or
a refused insert. -/
theorem Paired.stores_interchangeable (hk : 0 < k) (hmax : 2 * k ≤ Redis.maxInt64)
    (hp : Paired (.ofSeconds k) pfx bm bk) (c : Call) (hc : c.Allowed (.ofSeconds k) bk.clock.now) :
    ((c.runPurged (.ofSeconds k)).run.run bm).1 = ((c.run (.ofSeconds k)).run.run bk).1 := by
  obtain ⟨hnow, hkv, m, hm, hmir⟩ := hp.inv hk hmax
  obtain ⟨ans, m', srv, hrm, hrk, -⟩ := hmir.call_run hm hkv hnow hk hmax c hc
  rw [hrm, hrk]

end

/-! ## Two runs from noon -/

/-- An empty in-process store at noon on 1 May 2024. -/
def inProcessAtNoon : Backend where
  clock := { now := ⟨1714564800, 0⟩ }
  entropy := {}
  nonces := .memory {} []
  kv := {}

/-- An empty key-value server at the same instant, its records under `nonce`. -/
def onServerAtNoon : Backend where
  clock := { now := ⟨1714564800, 0⟩ }
  entropy := {}
  nonces := .keyValue "nonce" true
  kv := {}

/-- The record of the codec's account issued at noon for five minutes. -/
def fiveMinuteRecord : NonceRecord :=
  ⟨Registry.replayAccount, Registry.replayNonce, ⟨1714564800, 0⟩, ⟨1714565100, 0⟩⟩

theorem paired_fiveMinuteRecord : Paired (.ofSeconds 300) "nonce"
    (((Call.insert fiveMinuteRecord).runPurged (.ofSeconds 300)).run.run inProcessAtNoon).2
    (((Call.insert fiveMinuteRecord).run (.ofSeconds 300)).run.run onServerAtNoon).2 :=
  .call (.insert fiveMinuteRecord) (.start rfl rfl (fun _ _ => rfl) rfl rfl)
    ⟨rfl, by decide +kernel, by decide, by decide +kernel, by decide +kernel⟩

theorem stores_interchangeable_sample :
    (0 : Int) < 300 ∧ 2 * 300 ≤ Redis.maxInt64 ∧
      Paired (.ofSeconds 300) "nonce"
        (((Call.insert fiveMinuteRecord).runPurged (.ofSeconds 300)).run.run inProcessAtNoon).2
        (((Call.insert fiveMinuteRecord).run (.ofSeconds 300)).run.run onServerAtNoon).2 ∧
      (((Call.claim Registry.replayAccount Registry.replayNonce).runPurged (.ofSeconds 300)).run.run
        (((Call.insert fiveMinuteRecord).runPurged (.ofSeconds 300)).run.run inProcessAtNoon).2).1 =
      (((Call.claim Registry.replayAccount Registry.replayNonce).run (.ofSeconds 300)).run.run
        (((Call.insert fiveMinuteRecord).run (.ofSeconds 300)).run.run onServerAtNoon).2).1 :=
  ⟨by decide, by decide, paired_fiveMinuteRecord,
    Paired.stores_interchangeable (by decide) (by decide) paired_fiveMinuteRecord _ trivial⟩

/-- The same record issued for no time at all. -/
def zeroTtlRecord : NonceRecord :=
  ⟨Registry.replayAccount, Registry.replayNonce, ⟨1714564800, 0⟩, ⟨1714564800, 0⟩⟩

/-- With a time to live of zero the stores part at once: the purged in-process store has
dropped the record, while the server keeps it for its one-second minimum. -/
theorem zero_ttl_outlives_purge :
    Paired ⟨0⟩ "nonce"
        (((Call.insert zeroTtlRecord).runPurged ⟨0⟩).run.run inProcessAtNoon).2
        (((Call.insert zeroTtlRecord).run ⟨0⟩).run.run onServerAtNoon).2 ∧
      (((Call.get Registry.replayAccount Registry.replayNonce).runPurged ⟨0⟩).run.run
        (((Call.insert zeroTtlRecord).runPurged ⟨0⟩).run.run inProcessAtNoon).2).1 =
        .ok (some .missing) ∧
      (((Call.get Registry.replayAccount Registry.replayNonce).run ⟨0⟩).run.run
        (((Call.insert zeroTtlRecord).run ⟨0⟩).run.run onServerAtNoon).2).1 =
        .ok (some (.pending zeroTtlRecord)) :=
  ⟨.call (.insert zeroTtlRecord) (.start rfl rfl (fun _ _ => rfl) rfl rfl)
      ⟨rfl, by decide +kernel, by decide, by decide +kernel, by decide +kernel⟩,
    by decide +kernel, by decide +kernel⟩

end NonceStore
end WalletAuth
