import WalletAuth.Proofs.Nonce.InProcess
import WalletAuth.Proofs.Handshake.Phases
import WalletAuth.Proofs.Message.Codec

/-!
# WalletAuth.Proofs.Nonce.Lifecycle — what the registry reports over a whole session

A session makes registry calls one after another on an in-process store, the clock moving
forward only between calls. Each answered call is an `Event`; the answers alone tell where the
nonce of an account is in its life (`Lifecycle`): absent, pending, or spent by a claim. The
store follows that life exactly (`Tracks`): for every account and nonce it keeps the one slot
the life calls for, retained one time to live past the record's expiry.

From this, over every session:

* lookup and consume answer `AlreadyUsed` exactly while the life of the nonce is spent;
* a record a consume answered Ok for stays spent until its retention is over;
* neither answers Ok for a record expired at the reading.

A consume claims the record before it judges the expiry, so a consume that answers `Expired`
spends the record too: replays of it then read `AlreadyUsed` (`expired_claim_reads_as_replay`).
-/

namespace WalletAuth

/-! ## The store seen one key at a time -/

namespace MemoryStore

variable {m m' : MemoryStore} {a a' : Address} {n n' : String} {r : NonceRecord} {t : Instant}

/-- The slots kept under an account and nonce. -/
def slotsOf (m : MemoryStore) (a : Address) (n : String) : List Slot := m.slots.filter (·.keyed a n)

theorem keyed_iff {s : Slot} : s.keyed a n = true ↔ s.record.address = a ∧ s.record.nonce = n := by
  simp [Slot.keyed]

/-- What is kept under an account and nonce is told by its first slot. -/
theorem get_eq_head (m : MemoryStore) (a : Address) (n : String) :
    m.get a n = match (m.slotsOf a n).head? with
      | some s => s.state
      | none => .missing := by
  rw [slotsOf, List.head?_filter]
  rfl

theorem slotsOf_insert (h : m.insert r t = .ok m') :
    m'.slotsOf a n = m.slotsOf a n ++
      (if r.address = a ∧ r.nonce = n then [⟨r, false, t⟩] else []) := by
  unfold insert at h
  split at h
  · cases h
  · cases h
    by_cases hk : r.address = a ∧ r.nonce = n
    · simp [slotsOf, List.filter_append, Slot.keyed, hk]
    · have hnk : (Slot.mk r false t).keyed a n = false := by
        cases h : (Slot.mk r false t).keyed a n
        · rfl
        · exact absurd (keyed_iff.1 h) hk
      simp [slotsOf, List.filter_append, hk, hnk]

/-- An insert that succeeds found its key free. -/
theorem slotsOf_eq_nil_of_insert (h : m.insert r t = .ok m') : m.slotsOf r.address r.nonce = [] := by
  unfold insert at h
  split at h
  · cases h
  · rename_i hany
    simpa [slotsOf, List.filter_eq_nil_iff] using hany

/-- Two keys that differ select disjoint slots. -/
theorem keyed_eq_false_of_ne {s : Slot} (hs : s.keyed a n = true) (hk : ¬(a' = a ∧ n' = n)) :
    s.keyed a' n' = false := by
  rw [keyed_iff] at hs
  cases h : s.keyed a' n'
  · rfl
  · rw [keyed_iff] at h
    exact absurd ⟨h.1.symm.trans hs.1, h.2.symm.trans hs.2⟩ hk

theorem slotsOf_claim :
    (m.claim a' n').2.slotsOf a n = if a' = a ∧ n' = n then
      (m.slotsOf a n).map fun s => { s with consumed := true } else m.slotsOf a n := by
  simp only [claim, slotsOf, List.filter_map]
  -- claiming changes no slot's key
  have hkey : ((fun s : Slot => s.keyed a n) ∘
      fun (s : Slot) => if s.keyed a' n' then { s with consumed := true } else s) =
      fun s => s.keyed a n := by
    funext s
    show (if s.keyed a' n' then { s with consumed := true } else s).keyed a n = s.keyed a n
    split <;> rfl
  rw [hkey]
  split
  · rename_i hk
    obtain ⟨rfl, rfl⟩ := hk
    refine List.map_congr_left fun s hs => ?_
    simp [(List.mem_filter.1 hs).2]
  · rename_i hk
    refine (List.map_congr_left fun s hs => ?_).trans (List.map_id _)
    simp [keyed_eq_false_of_ne (List.mem_filter.1 hs).2 hk]

theorem slotsOf_remove :
    (m.remove a' n').slotsOf a n = if a' = a ∧ n' = n then [] else m.slotsOf a n := by
  simp only [remove, slotsOf, List.filter_filter]
  split
  · rename_i hk
    obtain ⟨rfl, rfl⟩ := hk
    simp
  · rename_i hk
    congr 1
    funext s
    by_cases h : s.keyed a n
    · simp [h, keyed_eq_false_of_ne h hk]
    · simp [h]

theorem slotsOf_purge :
    (m.purge t).2.slotsOf a n = (m.slotsOf a n).filter fun s => t < s.retainUntil := by
  simp only [purge, slotsOf, List.filter_filter]
  congr 1
  funext s
  exact Bool.and_comm _ _

end MemoryStore

namespace Registry

/-! ## Calls and their answers -/

/-- A call on the registry. -/
inductive Call where
  | issue (a : Address)
  | lookup (a : Address) (n : String)
  | consume (a : Address) (n : String)
  | sweep
  | release (r : NonceRecord)
  deriving DecidableEq, Repr

/-- What a call answered: a record, a count of records removed, or nothing. -/
inductive Answer where
  | record (r : Except NonceError NonceRecord)
  | count (r : Except NonceError Nat)
  | done (r : Except NonceError Unit)
  deriving DecidableEq, Repr

namespace Call

/-- The call made alone on the backend; issued nonces live for `ttl`. -/
def run (ttl : Span) : Call → BackendM Answer
  | .issue a => Answer.record <$> (Registry.issue ttl a).run
  | .lookup a n => Answer.record <$> (Registry.lookup a n).run
  | .consume a n => Answer.record <$> (Registry.consume a n).run
  | .sweep => Answer.count <$> Registry.sweep.run
  | .release r => Answer.done <$> (Registry.release r).run

/-- What the call answers on the backend. -/
def answer (ttl : Span) (c : Call) (b : Backend) : Answer := ((c.run ttl).run b).1

/-- The backend the call leaves. -/
def after (ttl : Span) (c : Call) (b : Backend) : Backend := ((c.run ttl).run b).2

end Call

/-- A call, the clock's reading while it was made, and what it answered. -/
structure Event where
  call : Call
  at_ : Instant
  answer : Answer
  deriving DecidableEq, Repr

/-! ## The life of a nonce, as the answers tell it -/

/-- Where the nonce of an account is in its life. -/
inductive Lifecycle where
  | absent
  | pending (r : NonceRecord)
  | spent (r : NonceRecord)
  deriving DecidableEq, Repr

namespace Lifecycle

/-- An issue begins a life where none is. -/
def begin (r : NonceRecord) : Lifecycle → Lifecycle
  | absent => pending r
  | l => l

/-- A lookup that finds a pending record expired drops it. -/
def drop : Lifecycle → Lifecycle
  | pending _ => absent
  | l => l

/-- A claim spends a pending record. -/
def spend : Lifecycle → Lifecycle
  | pending r => spent r
  | l => l

/-- A sweep at `t` forgets a record whose retention, one time to live past its expiry, is
over at `t`. -/
def sweep (ttl : Span) (t : Instant) : Lifecycle → Lifecycle
  | pending r => if r.expiresAt.add ttl ≤ t then absent else pending r
  | spent r => if r.expiresAt.add ttl ≤ t then absent else spent r
  | absent => absent

/-- The slots an in-process store keeps for a nonce in this state. -/
def slots (ttl : Span) : Lifecycle → List Slot
  | absent => []
  | pending r => [⟨r, false, r.expiresAt.add ttl⟩]
  | spent r => [⟨r, true, r.expiresAt.add ttl⟩]

/-- What a store answers for a nonce in this state. -/
def state : Lifecycle → NonceState
  | absent => .missing
  | pending r => .pending r
  | spent r => .consumed r

/-- What a lookup or a consume answers at `t` for a nonce in this state. -/
def answer (t : Instant) : Lifecycle → Except NonceError NonceRecord
  | absent => .error .notFound
  | pending r => if r.expiresAt ≤ t then .error .expired else .ok r
  | spent _ => .error .alreadyUsed

/-- What one answered call does to the life of the nonce `n` of `a`. -/
def step (ttl : Span) (a : Address) (n : String) (l : Lifecycle) : Event → Lifecycle
  | ⟨.issue _, _, .record (.ok r)⟩ => if r.address = a ∧ r.nonce = n then l.begin r else l
  | ⟨.lookup a' n', _, .record (.error .expired)⟩ => if a' = a ∧ n' = n then l.drop else l
  | ⟨.consume a' n', _, .record (.ok _)⟩ => if a' = a ∧ n' = n then l.spend else l
  | ⟨.consume a' n', _, .record (.error .expired)⟩ => if a' = a ∧ n' = n then l.spend else l
  | ⟨.sweep, t, .count (.ok _)⟩ => l.sweep ttl t
  | ⟨.release r, _, .done (.ok ())⟩ => if r.address = a ∧ r.nonce = n then absent else l
  | _ => l

variable {l : Lifecycle} {t : Instant} {r : NonceRecord}

theorem answer_eq_alreadyUsed_iff : l.answer t = .error .alreadyUsed ↔ ∃ r, l = spent r := by
  cases l with
  | absent => simp [answer]
  | pending r => by_cases h : r.expiresAt ≤ t <;> simp [answer, h]
  | spent r => simp [answer]

theorem answer_eq_ok_iff : l.answer t = .ok r ↔ l = pending r ∧ ¬r.expiresAt ≤ t := by
  cases l with
  | absent => simp [answer]
  | pending r' =>
    by_cases h : r'.expiresAt ≤ t
    · simp only [answer, if_pos h, reduceCtorEq, false_iff, not_and, Classical.not_not]
      intro he
      cases he
      exact h
    · simp only [answer, if_neg h, Except.ok.injEq, pending.injEq]
      constructor
      · rintro rfl
        exact ⟨rfl, h⟩
      · rintro ⟨rfl, -⟩
        rfl
  | spent r => simp [answer]

/-- A spent record leaves its life only by a sweep past its retention or by a release. -/
theorem step_spent (ttl : Span) (a : Address) (n : String) (r : NonceRecord) (e : Event) :
    (spent r).step ttl a n e = spent r ∨
      (e.call = .sweep ∧ r.expiresAt.add ttl ≤ e.at_) ∨
      ∃ r', e.call = .release r' ∧ r'.address = a ∧ r'.nonce = n := by
  unfold step
  split
  · exact .inl (by split <;> rfl)
  · exact .inl (by split <;> rfl)
  · exact .inl (by split <;> rfl)
  · exact .inl (by split <;> rfl)
  · rename_i t _
    unfold sweep
    by_cases hle : r.expiresAt.add ttl ≤ t
    · exact .inr (.inl ⟨rfl, hle⟩)
    · exact .inl (if_neg hle)
  · rename_i r' _
    by_cases hk : r'.address = a ∧ r'.nonce = n
    · exact .inr (.inr ⟨r', rfl, hk⟩)
    · exact .inl (if_neg hk)
  · exact .inl rfl

end Lifecycle

/-- The life of the nonce `n` of `a` after a history of answered calls, from before its issue. -/
def lifecycle (ttl : Span) (h : List Event) (a : Address) (n : String) : Lifecycle :=
  h.foldl (Lifecycle.step ttl a n) .absent

theorem lifecycle_append (ttl : Span) (h : List Event) (e : Event) (a : Address) (n : String) :
    lifecycle ttl (h ++ [e]) a n = (lifecycle ttl h a n).step ttl a n e := by
  simp [lifecycle, List.foldl_append]

/-- The in-process store `m` keeps, for every account and nonce, the slot its life calls for. -/
def Tracks (ttl : Span) (m : MemoryStore) (h : List Event) : Prop :=
  ∀ a n, m.slotsOf a n = (lifecycle ttl h a n).slots ttl

theorem tracks_nil (ttl : Span) : Tracks ttl {} [] := fun _ _ => rfl

theorem Tracks.get {ttl : Span} {m : MemoryStore} {h : List Event} (ht : Tracks ttl m h)
    (a : Address) (n : String) : m.get a n = (lifecycle ttl h a n).state := by
  rw [MemoryStore.get_eq_head, ht a n]
  cases lifecycle ttl h a n <;> rfl

/-! ## One call at a time -/

section Calls

variable {ttl : Span} {m : MemoryStore} {h : List Event} {b : Backend}

/-- After the call, the backend's store is in process and tracks the history grown by the
call's event, and the clock is as it was. -/
def TracksAfter (ttl : Span) (b : Backend) (h : List Event) (c : Call) : Prop :=
  ∃ m', (c.after ttl b).nonces = .memory m' [] ∧ (c.after ttl b).clock = b.clock ∧
    Tracks ttl m' (h ++ [⟨c, b.clock.now, c.answer ttl b⟩])

theorem lookup_answer (ht : Tracks ttl m h) (hb : b.nonces = .memory m [])
    (hrest : b.clock.step = ⟨0⟩) (a : Address) (n : String) :
    (Call.lookup a n).answer ttl b = .record ((lifecycle ttl h a n).answer b.clock.now) := by
  have hres := Steps.lookup_alone (a := a) (n := n) hb
  rw [Backend.now_run_of_rest hrest, ht.get a n] at hres
  show Answer.record ((Steps.lookup a n).run.run.run b).1 = _
  rw [hres]
  cases lifecycle ttl h a n with
  | absent => rfl
  | spent r => rfl
  | pending r =>
    by_cases hle : r.expiresAt ≤ b.clock.now <;> simp [Lifecycle.state, Lifecycle.answer, hle]

theorem consume_answer (ht : Tracks ttl m h) (hb : b.nonces = .memory m []) (a : Address)
    (n : String) :
    (Call.consume a n).answer ttl b = .record ((lifecycle ttl h a n).answer b.clock.now) := by
  have hres := Steps.consume_alone (a := a) (n := n) hb
  dsimp only at hres
  rw [ht.get a n] at hres
  show Answer.record ((Steps.consume a n).run.run.run b).1 = _
  rw [hres]
  cases lifecycle ttl h a n with
  | absent => rfl
  | spent r => rfl
  | pending r =>
    by_cases hle : r.expiresAt ≤ b.clock.now <;> simp [Lifecycle.state, Lifecycle.answer, hle]

theorem tracks_issue (ht : Tracks ttl m h) (hb : b.nonces = .memory m [])
    (hrest : b.clock.step = ⟨0⟩) (a : Address) : TracksAfter ttl b h (.issue a) := by
  have hrun : ((Call.issue a).run ttl).run b =
      (.record ((Steps.issue ttl a).run.run.run b).1, ((Steps.issue ttl a).run.run.run b).2) :=
    rfl
  have hres : (Steps.issue ttl a).run.run.run b = _ := Steps.issue_alone hb
  dsimp only at hres
  rw [Backend.now_run_of_rest hrest] at hres
  unfold TracksAfter Call.after Call.answer
  rw [hrun, hres]
  -- the draw moves only the entropy
  have hdrawn : (Backend.freshNonce.run b).2 = { b with entropy := b.entropy.draw.2 } := rfl
  rw [hdrawn]
  generalize (Backend.freshNonce.run b).1 = nonce
  cases hins : m.insert ⟨a, nonce, b.clock.now, b.clock.now.add ttl⟩
      ((b.clock.now.add ttl).add ttl) with
  | error e => exact ⟨m, hb, rfl, fun x y => by rw [lifecycle_append, ht x y]; rfl⟩
  | ok m' =>
    refine ⟨m', rfl, rfl, fun x y => ?_⟩
    rw [lifecycle_append, MemoryStore.slotsOf_insert hins, ht x y]
    by_cases hk : a = x ∧ nonce = y
    · -- the key was free, so its life had not begun or was over
      obtain ⟨rfl, rfl⟩ := hk
      have hfree : (lifecycle ttl h a nonce).slots ttl = [] := by
        rw [← ht]
        exact MemoryStore.slotsOf_eq_nil_of_insert hins
      have habsent : lifecycle ttl h a nonce = .absent := by
        cases hl : lifecycle ttl h a nonce with
        | absent => rfl
        | pending r => rw [hl] at hfree; cases hfree
        | spent r => rw [hl] at hfree; cases hfree
      rw [hfree, habsent]
      simp [Lifecycle.step, Lifecycle.begin, Lifecycle.slots]
    · simp [Lifecycle.step, hk]

theorem tracks_lookup (ht : Tracks ttl m h) (hb : b.nonces = .memory m [])
    (hrest : b.clock.step = ⟨0⟩) (a : Address) (n : String) :
    TracksAfter ttl b h (.lookup a n) := by
  have hrun : ((Call.lookup a n).run ttl).run b =
      (.record ((Steps.lookup a n).run.run.run b).1, ((Steps.lookup a n).run.run.run b).2) := rfl
  have hres := Steps.lookup_alone (a := a) (n := n) hb
  rw [Backend.now_run_of_rest hrest, ht.get a n] at hres
  unfold TracksAfter Call.after Call.answer
  rw [hrun, hres]
  cases hl : lifecycle ttl h a n with
  | absent => exact ⟨m, hb, rfl, fun x y => by rw [lifecycle_append, ht x y]; rfl⟩
  | spent r => exact ⟨m, hb, rfl, fun x y => by rw [lifecycle_append, ht x y]; rfl⟩
  | pending r =>
    dsimp only [Lifecycle.state]
    by_cases hle : r.expiresAt ≤ b.clock.now
    · -- the expired record is removed, and its life ends
      rw [if_pos hle]
      refine ⟨m.remove a n, rfl, rfl, fun x y => ?_⟩
      rw [lifecycle_append, MemoryStore.slotsOf_remove]
      by_cases hk : a = x ∧ n = y
      · obtain ⟨rfl, rfl⟩ := hk
        simp [Lifecycle.step, Lifecycle.drop, Lifecycle.slots, hl]
      · simp [Lifecycle.step, hk, ht x y]
    · rw [if_neg hle]
      exact ⟨m, hb, rfl, fun x y => by rw [lifecycle_append, ht x y]; rfl⟩

theorem tracks_consume (ht : Tracks ttl m h) (hb : b.nonces = .memory m [])
    (hrest : b.clock.step = ⟨0⟩) (a : Address) (n : String) :
    TracksAfter ttl b h (.consume a n) := by
  have hrun : ((Call.consume a n).run ttl).run b =
      (.record ((Steps.consume a n).run.run.run b).1, ((Steps.consume a n).run.run.run b).2) :=
    rfl
  have hres := Steps.consume_alone (a := a) (n := n) hb
  dsimp only at hres
  rw [Backend.now_run_of_rest (b := { b with nonces := .memory (m.claim a n).2 [] }) hrest,
    ht.get a n] at hres
  unfold TracksAfter Call.after Call.answer
  rw [hrun, hres]
  -- the claim is written whatever it finds; only a pending record changes by it
  have hother : ∀ x y, ¬(a = x ∧ n = y) →
      (m.claim a n).2.slotsOf x y = (lifecycle ttl h x y).slots ttl := fun x y hk => by
    rw [MemoryStore.slotsOf_claim, if_neg hk, ht x y]
  have hself : (m.claim a n).2.slotsOf a n = (lifecycle ttl h a n).spend.slots ttl := by
    rw [MemoryStore.slotsOf_claim, if_pos ⟨rfl, rfl⟩, ht a n]
    cases lifecycle ttl h a n <;> rfl
  cases hl : lifecycle ttl h a n with
  | absent =>
    refine ⟨(m.claim a n).2, rfl, rfl, fun x y => ?_⟩
    rw [lifecycle_append]
    by_cases hk : a = x ∧ n = y
    · obtain ⟨rfl, rfl⟩ := hk
      rw [hself, hl]
      rfl
    · rw [hother x y hk]
      rfl
  | spent r =>
    refine ⟨(m.claim a n).2, rfl, rfl, fun x y => ?_⟩
    rw [lifecycle_append]
    by_cases hk : a = x ∧ n = y
    · obtain ⟨rfl, rfl⟩ := hk
      rw [hself, hl]
      rfl
    · rw [hother x y hk]
      rfl
  | pending r =>
    dsimp only [Lifecycle.state]
    -- expired or not, the pending record is now spent
    have hspent : ∀ x y, (m.claim a n).2.slotsOf x y =
        (if a = x ∧ n = y then (lifecycle ttl h x y).spend else lifecycle ttl h x y).slots ttl :=
      fun x y => by
        by_cases hk : a = x ∧ n = y
        · obtain ⟨rfl, rfl⟩ := hk
          rw [if_pos ⟨rfl, rfl⟩, hself]
        · rw [if_neg hk, hother x y hk]
    by_cases hle : r.expiresAt ≤ b.clock.now
    · rw [if_pos hle]
      exact ⟨(m.claim a n).2, rfl, rfl, fun x y => by rw [lifecycle_append, hspent x y]; rfl⟩
    · rw [if_neg hle]
      exact ⟨(m.claim a n).2, rfl, rfl, fun x y => by rw [lifecycle_append, hspent x y]; rfl⟩

theorem tracks_sweep (ht : Tracks ttl m h) (hb : b.nonces = .memory m [])
    (hrest : b.clock.step = ⟨0⟩) : TracksAfter ttl b h .sweep := by
  have hrun : (Call.sweep.run ttl).run b =
      (.count (Steps.sweep.run.run.run b).1, (Steps.sweep.run.run.run b).2) := rfl
  unfold TracksAfter Call.after Call.answer
  rw [hrun, Steps.sweep_alone hb, Backend.now_run_of_rest hrest]
  refine ⟨(m.purge b.clock.now).2, rfl, rfl, fun x y => ?_⟩
  rw [lifecycle_append, MemoryStore.slotsOf_purge, ht x y]
  -- a slot stays exactly while the clock is before its retention
  cases lifecycle ttl h x y with
  | absent => rfl
  | pending r =>
    by_cases hle : r.expiresAt.add ttl ≤ b.clock.now
    · simp [Lifecycle.step, Lifecycle.sweep, Lifecycle.slots, hle, Instant.le_iff_not_lt.1 hle]
    · simp [Lifecycle.step, Lifecycle.sweep, Lifecycle.slots, hle, Instant.lt_of_not_le hle]
  | spent r =>
    by_cases hle : r.expiresAt.add ttl ≤ b.clock.now
    · simp [Lifecycle.step, Lifecycle.sweep, Lifecycle.slots, hle, Instant.le_iff_not_lt.1 hle]
    · simp [Lifecycle.step, Lifecycle.sweep, Lifecycle.slots, hle, Instant.lt_of_not_le hle]

theorem tracks_release (ht : Tracks ttl m h) (hb : b.nonces = .memory m []) (r : NonceRecord) :
    TracksAfter ttl b h (.release r) := by
  have hrun : ((Call.release r).run ttl).run b =
      (.done ((Steps.release r).run.run.run b).1, ((Steps.release r).run.run.run b).2) := rfl
  unfold TracksAfter Call.after Call.answer
  rw [hrun, Steps.release_alone r hb]
  refine ⟨m.remove r.address r.nonce, rfl, rfl, fun x y => ?_⟩
  rw [lifecycle_append, MemoryStore.slotsOf_remove]
  by_cases hk : r.address = x ∧ r.nonce = y
  · simp [Lifecycle.step, Lifecycle.slots, hk]
  · simp [Lifecycle.step, hk, ht x y]

/-- Every call keeps the store tracking the history. -/
theorem tracks_call (ht : Tracks ttl m h) (hb : b.nonces = .memory m [])
    (hrest : b.clock.step = ⟨0⟩) : ∀ c, TracksAfter ttl b h c
  | .issue a => tracks_issue ht hb hrest a
  | .lookup a n => tracks_lookup ht hb hrest a n
  | .consume a n => tracks_consume ht hb hrest a n
  | .sweep => tracks_sweep ht hb hrest
  | .release r => tracks_release ht hb r

end Calls

/-! ## Sessions -/

/-- The calls a session may make: a record is released only while no claim has touched it. -/
def Call.Allowed (ttl : Span) (h : List Event) : Call → Prop
  | .release r => ∀ s, lifecycle ttl h r.address r.nonce ≠ .spent s
  | _ => True

/-- The backends and histories of a session on an in-process store that starts empty: calls
are made on a clock at rest, which moves forward only between them. -/
inductive Session (ttl : Span) : Backend → List Event → Prop where
  | start {b : Backend} : b.nonces = .memory {} [] → b.clock.step = ⟨0⟩ → Session ttl b []
  | call {b : Backend} {h : List Event} (c : Call) : Session ttl b h → c.Allowed ttl h →
      Session ttl (c.after ttl b) (h ++ [⟨c, b.clock.now, c.answer ttl b⟩])
  | wait {b : Backend} {h : List Event} (t : Instant) : Session ttl b h → b.clock.now ≤ t →
      Session ttl { b with clock := b.clock.set t } h

/-- What holds at every point of a session: the clock is at rest, the store tracks the
history, and a record a consume answered Ok for is spent until its retention is over. -/
structure Session.Inv (ttl : Span) (b : Backend) (h : List Event) : Prop where
  rest : b.clock.step = ⟨0⟩
  store : ∃ m, b.nonces = .memory m [] ∧ Tracks ttl m h
  kept : ∀ a n t r, ⟨.consume a n, t, .record (.ok r)⟩ ∈ h →
    lifecycle ttl h a n = .spent r ∨ r.expiresAt.add ttl ≤ b.clock.now

namespace Session.Inv

variable {ttl : Span} {b : Backend} {h : List Event}

theorem call (hi : Inv ttl b h) {c : Call} (hc : c.Allowed ttl h) :
    Inv ttl (c.after ttl b) (h ++ [⟨c, b.clock.now, c.answer ttl b⟩]) := by
  obtain ⟨m, hb, ht⟩ := hi.store
  obtain ⟨m', hb', hclock, ht'⟩ := tracks_call ht hb hi.rest c
  refine ⟨by rw [hclock]; exact hi.rest, ⟨m', hb', ht'⟩, fun a n t r he => ?_⟩
  rw [hclock, lifecycle_append]
  rcases List.mem_append.1 he with he | he
  · -- an earlier claim: its record stays spent until a sweep past its retention
    rcases hi.kept a n t r he with hsp | hret
    · rw [hsp]
      rcases Lifecycle.step_spent ttl a n r ⟨c, b.clock.now, c.answer ttl b⟩ with
        hsame | ⟨-, hle⟩ | ⟨r', hrel, hk⟩
      · exact .inl hsame
      · exact .inr hle
      · -- a release of a spent record is not a call of a session
        dsimp only at hrel
        subst hrel
        obtain ⟨rfl, rfl⟩ := hk
        exact absurd hsp (hc r)
    · exact .inr hret
  · -- the call itself is the claim: it found the record pending
    simp only [List.mem_singleton, Event.mk.injEq] at he
    obtain ⟨rfl, -, hans⟩ := he
    have hok := hans.trans (consume_answer ht hb a n)
    rw [Answer.record.injEq] at hok
    obtain ⟨hpending, -⟩ := Lifecycle.answer_eq_ok_iff.1 hok.symm
    left
    rw [← hans, hpending]
    simp [Lifecycle.step, Lifecycle.spend]

theorem wait (hi : Inv ttl b h) {t : Instant} (hle : b.clock.now ≤ t) :
    Inv ttl { b with clock := b.clock.set t } h :=
  ⟨hi.rest, hi.store, fun a n u r he =>
    (hi.kept a n u r he).imp_right fun hret => Instant.le_trans hret hle⟩

end Session.Inv

/-- The invariant holds at every point of every session. -/
theorem Session.inv {ttl : Span} {b : Backend} {h : List Event} (hs : Session ttl b h) :
    Session.Inv ttl b h := by
  induction hs with
  | start hb hrest => exact ⟨hrest, ⟨{}, hb, tracks_nil ttl⟩, fun _ _ _ _ he => nomatch he⟩
  | call c _ hc ih => exact ih.call hc
  | wait t _ hle ih => exact ih.wait hle

/-- Over every session, for every account and nonce, a lookup and a consume report a replay
(`AlreadyUsed`) exactly while the life of the nonce is spent; a record a consume answered Ok
for is reported so until its retention is over; and neither answers Ok for a record expired
at the reading. -/
theorem Session.replays_reported {ttl : Span} {b : Backend} {h : List Event}
    (hs : Session ttl b h) (a : Address) (n : String) :
    ∀ c ∈ [Call.lookup a n, Call.consume a n],
      (c.answer ttl b = .record (.error .alreadyUsed) ↔ ∃ r, lifecycle ttl h a n = .spent r) ∧
      (∀ t r, ⟨.consume a n, t, .record (.ok r)⟩ ∈ h → b.clock.now < r.expiresAt.add ttl →
        c.answer ttl b = .record (.error .alreadyUsed)) ∧
      (∀ r, c.answer ttl b = .record (.ok r) → b.clock.now < r.expiresAt) := by
  obtain ⟨hrest, ⟨m, hb, ht⟩, hkept⟩ := hs.inv
  intro c hc
  -- both calls answer what the life of the nonce tells
  have hans : c.answer ttl b = .record ((lifecycle ttl h a n).answer b.clock.now) := by
    simp only [List.mem_cons, List.not_mem_nil, or_false] at hc
    rcases hc with rfl | rfl
    · exact lookup_answer ht hb hrest a n
    · exact consume_answer ht hb a n
  rw [hans, Answer.record.injEq]
  refine ⟨Lifecycle.answer_eq_alreadyUsed_iff, fun t r he hlt => ?_, fun r hr => ?_⟩
  · -- before its retention is over, the claimed record is still spent
    have hsp := (hkept a n t r he).resolve_right fun hle => Instant.le_iff_not_lt.1 hle hlt
    rw [hsp]
    rfl
  · rw [Answer.record.injEq] at hr
    exact Instant.lt_of_not_le (Lifecycle.answer_eq_ok_iff.1 hr).2

/-! ## A replay after an expired claim -/

/-- Nonces valid for five minutes. -/
def fiveMinutes : Span := Span.ofSeconds 300

/-- The account of the codec's sample. -/
def replayAccount : Address := Challenge.sampleChallenge.address

/-- The first nonce drawn. -/
def replayNonce : String := "00000000000000000000000000000000"

/-- An empty in-process store at noon on 1 May 2024, its clock at rest. -/
def replayStart : Backend where
  clock := { now := ⟨1714564800, 0⟩ }
  entropy := {}
  nonces := .memory {} []
  kv := {}

/-- The nonce issued there, then the backend five minutes later, as it expires. -/
def replayIssued : Backend :=
  let issued := (Call.issue replayAccount).after fiveMinutes replayStart
  { issued with clock := issued.clock.set ⟨1714565100, 0⟩ }

/-- The backend after a consume at expiry. -/
def replayed : Backend := (Call.consume replayAccount replayNonce).after fiveMinutes replayIssued

/-- The issue and the consume, as answered. -/
def replayHistory : List Event :=
  [⟨.issue replayAccount, ⟨1714564800, 0⟩,
      (Call.issue replayAccount).answer fiveMinutes replayStart⟩,
    ⟨.consume replayAccount replayNonce, ⟨1714565100, 0⟩,
      (Call.consume replayAccount replayNonce).answer fiveMinutes replayIssued⟩]

theorem replayed_session : Session fiveMinutes replayed replayHistory :=
  .call (.consume replayAccount replayNonce)
    (.wait _ (.call (.issue replayAccount) (.start rfl rfl) trivial) (by decide +kernel)) trivial

/-- A consume at the instant of expiry answers `Expired` but spends the record: a replay then
reads `AlreadyUsed` though no consume answered Ok. -/
theorem expired_claim_reads_as_replay :
    Session fiveMinutes replayed replayHistory ∧
      replayHistory.map Event.answer =
        [.record (.ok ⟨replayAccount, replayNonce, ⟨1714564800, 0⟩, ⟨1714565100, 0⟩⟩),
          .record (.error .expired)] ∧
      (Call.lookup replayAccount replayNonce).answer fiveMinutes replayed =
        .record (.error .alreadyUsed) :=
  ⟨replayed_session, by decide +kernel, by decide +kernel⟩

theorem replays_reported_sample :
    Session fiveMinutes replayed replayHistory ∧
      ((Call.lookup replayAccount replayNonce).answer fiveMinutes replayed =
          .record (.error .alreadyUsed) ↔
        ∃ r, lifecycle fiveMinutes replayHistory replayAccount replayNonce = .spent r) :=
  ⟨replayed_session,
    (Session.replays_reported replayed_session replayAccount replayNonce _
      List.mem_cons_self).1⟩

end Registry
end WalletAuth
