import WalletAuth.Proofs.Session.Calls
import WalletAuth.Proofs.Session.Logins
import WalletAuth.Proofs.Json.Quote

/-!
# WalletAuth.Proofs.Session.Revocation — every session can be revoked, between calls

An account's sessions are revoked all at once through the set of their tokens kept beside them.
`Tracked` says that this works for the live entries at an instant: every live session's token is
in the set of the account its text names, and the set outlasts the session.

Calls of the session store made one after another (`SessionStep`, `runSteps`), on a server that
fails no command, with one lifetime for every session and a clock that only moves forward outside
leap seconds, keep `Tracked`: a kept session is added to its account's set, which is renewed to
expire with the newest session (`Tracked.store`); a forgotten one leaves the set's other members
in it (`Tracked.srem`); a set is dropped only after the sessions of all its members
(`Tracked.dropSet`); and a session still live after the clock moves on was tracked by a set that
is still live (`Tracked.later`). So forgetting an account's sessions leaves none that names the
account (`Revocable.deleteAll_spares_none`), and `sessions_revocable_between_calls` states both
for every run.

Each hypothesis is needed. Calls that overlap lose a session: one kept between the read of the
set and its deletion by `deleteAccountSessions` is in no set afterwards
(`store_between_read_and_drop_escapes`, and `overlapping_store_outlives_logoutAll` for two
sign-ins at noon). And inside a leap second
the clock moves by whole seconds from the start of the next second, so a session kept there
renews its account's set to expire before a session kept just before the leap second.
-/

namespace WalletAuth

namespace Instant

/-- Outside a leap second, moving by a span keeps the order of instants. -/
theorem add_le_add_of_le {t t' : Instant} (h : t ≤ t') (ht : t.nanos < nanosPerSecond)
    (ht' : t'.nanos < nanosPerSecond) (d : Span) : t.add d ≤ t'.add d := by
  rw [add_of_lt ht, add_of_lt ht']
  rw [le_def] at h ⊢
  simp only [ofNanos, nanosPerSecond] at *
  omega

theorem nanos_add_lt {t : Instant} (ht : t.nanos < nanosPerSecond) (d : Span) :
    (t.add d).nanos < nanosPerSecond := by
  rw [add_of_lt ht]
  exact ofNanos_nanos_lt _

end Instant

namespace Redis

theorem mem_insertMember_of_mem {y : String} (m : String) {xs : List String} (h : y ∈ xs) :
    y ∈ insertMember m xs := by
  induction xs with
  | nil => cases h
  | cons x xs ih =>
    unfold insertMember
    split
    · exact h
    · split
      · exact List.mem_cons_of_mem m h
      · rcases List.mem_cons.mp h with rfl | h
        · exact List.mem_cons_self
        · exact List.mem_cons_of_mem x (ih h)

namespace Server

variable {srv : Server} {now now' : Instant} {k : String} {e : Entry}

theorem isLive_of_le (hle : now ≤ now') (h : isLive now' e = true) : isLive now e = true := by
  unfold isLive at h ⊢
  split at h
  · exact decide_eq_true (Instant.lt_of_le_of_lt hle (of_decide_eq_true h))
  · rfl

/-- An entry live at an instant was live, the same, at every instant before. -/
theorem live_of_live_later (hle : now ≤ now') (h : srv.live now' k = some e) :
    srv.live now k = some e ∧ isLive now' e = true := by
  unfold live at h ⊢
  rw [find?_purge, Option.filter_eq_some_iff] at h
  rw [find?_purge, Option.filter_eq_some_iff]
  exact ⟨⟨h.1, isLive_of_le hle h.2⟩, h.2⟩

theorem live_empty (now : Instant) : ({} : Server).live now = fun _ => none := by
  funext k
  rw [live, find?_purge]
  simp [find?]

/-- An entry live at an instant stays live, the same, at a later one before its expiry. -/
theorem live_later_of_live (h : srv.live now k = some e) (hl : isLive now' e = true) :
    srv.live now' k = some e := by
  unfold live at h ⊢
  rw [find?_purge, Option.filter_eq_some_iff] at h ⊢
  exact ⟨h.1, hl⟩

end Server
end Redis

namespace SessionStore

/-- The set `se` outlasts a session that expires at `x`: it never expires, or not before. -/
def Outlasts (se : Redis.Entry) (x : Instant) : Prop := ∀ y, se.expiry = some y → x ≤ y

/-- The sessions live in `v` can all be revoked, sessions being kept `ttl` seconds and the clock
reading `now`: an account's key holds a set or nothing; every session expires, no later than
`ttl` seconds on; and the token of every session is in the set of the account its text names,
which outlasts it. -/
structure Tracked (ttl : Nat) (now : Instant) (v : String → Option Redis.Entry) : Prop where
  sets : ∀ a e, v (accountSessionsKey a) = some e → ∃ xs, e.value = .set xs
  expires : ∀ t e, v (sessionKey t) = some e →
    ∃ x, e.expiry = some x ∧ x ≤ now.add (.ofSeconds ttl)
  tracked : ∀ t e (s : StoredSession) x, v (sessionKey t) = some e → e.value = .str s.toText →
    e.expiry = some x →
    ∃ se xs, v (accountSessionsKey s.address) = some se ∧ se.value = .set xs ∧ t ∈ xs ∧
      Outlasts se x

/-- The three writes of a kept session, read at each key: the session under its key, and the
account's set with its token added, expiring with the session. -/
theorem written_sessionWrites (now : Instant) (ttl : Nat) (s : StoredSession)
    (v : String → Option Redis.Entry) :
    Redis.written v (sessionWrites now ttl s v) =
      Function.update
        (Function.update v (sessionKey s.token)
          (some ⟨sessionKey s.token, .str s.toText, some (now.add (.ofSeconds ttl))⟩))
        (accountSessionsKey s.address)
        (some { Redis.withMember (v (accountSessionsKey s.address)) (accountSessionsKey s.address)
            s.token with expiry := some (now.add (.ofSeconds ttl)) }) := by
  simp [sessionWrites, Redis.withMember_key]

section Steps

variable {ttl : Nat} {now : Instant} {v : String → Option Redis.Entry}

/-- Keeping a session keeps every session tracked: the new one is added to its account's set,
which is renewed to expire with it, and so no earlier than any other session it holds. -/
theorem Tracked.store (h : Tracked ttl now v) (s : StoredSession) :
    Tracked ttl now (Redis.written v (sessionWrites now ttl s v)) := by
  rw [written_sessionWrites]
  set K := accountSessionsKey s.address
  set x₀ := now.add (.ofSeconds ttl)
  refine ⟨fun a e he => ?_, fun t e he => ?_, fun t e s' x he hv hx => ?_⟩
  · -- an account's key holds a set: the renewed one, or one held before
    by_cases ha : accountSessionsKey a = K
    · rw [ha, Function.update_self] at he
      cases he
      obtain ⟨ys, hys, -⟩ := Redis.withMember_value (v K) K s.token
      exact ⟨ys, hys⟩
    · rw [Function.update_of_ne ha,
        Function.update_of_ne (sessionKey_ne_accountSessionsKey _ _).symm] at he
      exact h.sets a e he
  · rw [Function.update_of_ne (sessionKey_ne_accountSessionsKey _ _)] at he
    by_cases ht : t = s.token
    · subst ht
      rw [Function.update_self] at he
      cases he
      exact ⟨x₀, rfl, Instant.le_refl _⟩
    · rw [Function.update_of_ne (mt sessionKey_inj ht)] at he
      exact h.expires t e he
  · rw [Function.update_of_ne (sessionKey_ne_accountSessionsKey _ _)] at he
    by_cases ht : t = s.token
    · -- the session just kept names the account whose set it was added to
      subst ht
      rw [Function.update_self] at he
      cases he
      cases hx
      have haddress : s'.address = s.address :=
        (StoredSession.token_address_of_toText_eq (Redis.Value.str.inj hv).symm).2
      obtain ⟨ys, hys, hmem⟩ := Redis.withMember_value (v K) K s.token
      refine ⟨{ Redis.withMember (v K) K s.token with expiry := some x₀ }, ys,
        by rw [haddress, Function.update_self], hys, hmem, fun y hy => ?_⟩
      cases hy
      exact Instant.le_refl _
    · rw [Function.update_of_ne (mt sessionKey_inj ht)] at he
      obtain ⟨se, xs, hse, hxs, hmem, hout⟩ := h.tracked t e s' x he hv hx
      by_cases hk : accountSessionsKey s'.address = K
      · -- another session of the same account: its set gains a token and now expires with
        -- the newest session, no earlier than this one
        obtain ⟨x', hx', hle⟩ := h.expires t e he
        rw [hx] at hx'
        cases hx'
        obtain ⟨k', val, y⟩ := se
        cases hxs
        rw [hk] at hse ⊢
        refine ⟨_, Redis.insertMember s.token xs, Function.update_self .., ?_,
          Redis.mem_insertMember_of_mem s.token hmem, fun y' hy' => ?_⟩
        · rw [hse]
          rfl
        · cases hy'
          exact hle
      · rw [Function.update_of_ne hk,
          Function.update_of_ne (sessionKey_ne_accountSessionsKey _ _).symm]
        exact ⟨se, xs, hse, hxs, hmem, hout⟩

/-- Forgetting a session keeps the others tracked. -/
theorem Tracked.dropSession (h : Tracked ttl now v) (t : String) :
    Tracked ttl now (Function.update v (sessionKey t) none) := by
  refine ⟨fun a e he => ?_, fun t' e he => ?_, fun t' e s x he hv hx => ?_⟩
  · rw [Function.update_of_ne (sessionKey_ne_accountSessionsKey _ _).symm] at he
    exact h.sets a e he
  · by_cases ht : t' = t
    · subst ht
      rw [Function.update_self] at he
      cases he
    · rw [Function.update_of_ne (mt sessionKey_inj ht)] at he
      exact h.expires t' e he
  · by_cases ht : t' = t
    · subst ht
      rw [Function.update_self] at he
      cases he
    · rw [Function.update_of_ne (mt sessionKey_inj ht)] at he
      rw [Function.update_of_ne (sessionKey_ne_accountSessionsKey _ _).symm]
      exact h.tracked t' e s x he hv hx

theorem Tracked.dropSessions (h : Tracked ttl now v) (ts : List String) :
    Tracked ttl now (dropSessions ts v) := by
  induction ts generalizing v with
  | nil => exact h
  | cons t ts ih => exact ih (h.dropSession t)

/-- Writing an account's key keeps every session tracked when what is written is a set or nothing
and holds, outlasting it, every live session that names the account. -/
theorem Tracked.updateSet (h : Tracked ttl now v) (a : String) (o : Option Redis.Entry)
    (hset : ∀ e, o = some e → ∃ xs, e.value = .set xs)
    (hkeep : ∀ t e (s : StoredSession) x, v (sessionKey t) = some e → e.value = .str s.toText →
      e.expiry = some x → accountSessionsKey s.address = accountSessionsKey a →
      ∃ se xs, o = some se ∧ se.value = .set xs ∧ t ∈ xs ∧ Outlasts se x) :
    Tracked ttl now (Function.update v (accountSessionsKey a) o) := by
  refine ⟨fun a' e he => ?_, fun t e he => ?_, fun t e s x he hv hx => ?_⟩
  · by_cases ha : accountSessionsKey a' = accountSessionsKey a
    · rw [ha, Function.update_self] at he
      exact hset e he
    · rw [Function.update_of_ne ha] at he
      exact h.sets a' e he
  · rw [Function.update_of_ne (sessionKey_ne_accountSessionsKey _ _)] at he
    exact h.expires t e he
  · rw [Function.update_of_ne (sessionKey_ne_accountSessionsKey _ _)] at he
    by_cases hk : accountSessionsKey s.address = accountSessionsKey a
    · rw [hk, Function.update_self]
      exact hkeep t e s x he hv hx hk
    · rw [Function.update_of_ne hk]
      exact h.tracked t e s x he hv hx

/-- Taking out of an account's set the token of a session that is gone keeps every session
tracked: the other members stay, and the set keeps its expiry. -/
theorem Tracked.srem (h : Tracked ttl now v) {m : String} (hm : v (sessionKey m) = none)
    (a : String) :
    Tracked ttl now (Function.update v (accountSessionsKey a)
      (Redis.sremEntry (accountSessionsKey a) m (v (accountSessionsKey a)))) := by
  refine h.updateSet a _ (fun e he => ?_) fun t e s x he hv hx hk => ?_
  · -- what is left under the key is the set less one member, or nothing
    rcases hK : v (accountSessionsKey a) with _ | ⟨k', _ | xs, y⟩ <;> rw [hK] at he
    · cases he
    · obtain ⟨xs, hxs⟩ := h.sets a _ hK
      cases hxs
    · simp only [Redis.sremEntry] at he
      split at he
      · cases he
      · cases he
        exact ⟨_, rfl⟩
  · -- the set keeps this session's token, so it is not emptied, and keeps its expiry
    have htm : t ≠ m := by
      rintro rfl
      rw [hm] at he
      cases he
    obtain ⟨⟨k', val, y⟩, xs, hse, hxs, hmem, hout⟩ := h.tracked t e s x he hv hx
    cases hxs
    rw [hk] at hse
    rw [hse]
    have hkept : t ∈ xs.filter fun z => !([m].contains z) := by
      simp [hmem, htm]
    have hne : (xs.filter fun z => !([m].contains z)).isEmpty = false :=
      List.isEmpty_eq_false_iff_exists_mem.mpr ⟨t, hkept⟩
    simp only [Redis.sremEntry, hne, Bool.false_eq_true, if_false]
    exact ⟨_, _, rfl, rfl, hkept, hout⟩

/-- Dropping an account's set once the sessions of all its members are gone keeps every session
tracked: none of the sessions left was in it. -/
theorem Tracked.dropSet (h : Tracked ttl now v) (a : String)
    (hgone : ∀ k' x ts, v (accountSessionsKey a) = some ⟨k', .set ts, x⟩ →
      ∀ t ∈ ts, v (sessionKey t) = none) :
    Tracked ttl now (Function.update v (accountSessionsKey a) none) := by
  refine h.updateSet a none nofun fun t e s x he hv hx hk => ?_
  -- a live session in the dropped set would have been deleted
  obtain ⟨⟨k', val, y⟩, xs, hse, hxs, hmem, -⟩ := h.tracked t e s x he hv hx
  cases hxs
  rw [hk] at hse
  rw [hgone k' y xs hse t hmem] at he
  cases he

end Steps

/-- As the clock moves on, outside leap seconds, sessions stay tracked: a session still live
was live before, and its set, which outlasts it, is live too. -/
theorem Tracked.later {ttl : Nat} {now now' : Instant} {srv : Redis.Server}
    (h : Tracked ttl now (srv.live now)) (hle : now ≤ now') (hn : now.nanos < nanosPerSecond)
    (hn' : now'.nanos < nanosPerSecond) : Tracked ttl now' (srv.live now') := by
  refine ⟨fun a e he => ?_, fun t e he => ?_, fun t e s x he hv hx => ?_⟩
  · exact h.sets a e (Redis.Server.live_of_live_later hle he).1
  · obtain ⟨x, hx, hle'⟩ := h.expires t e (Redis.Server.live_of_live_later hle he).1
    exact ⟨x, hx, Instant.le_trans hle' (Instant.add_le_add_of_le hle hn hn' _)⟩
  · obtain ⟨hbefore, hlive⟩ := Redis.Server.live_of_live_later hle he
    obtain ⟨se, xs, hse, hxs, hmem, hout⟩ := h.tracked t e s x hbefore hv hx
    refine ⟨se, xs, Redis.Server.live_later_of_live hse ?_, hxs, hmem, hout⟩
    -- the session is live at the later instant, so it expires after it, and the set no earlier
    have hlt : now' < x := by
      unfold Redis.Server.isLive at hlive
      rw [hx] at hlive
      exact of_decide_eq_true hlive
    unfold Redis.Server.isLive
    split
    · rename_i y hy
      exact decide_eq_true (Instant.lt_of_lt_of_le hlt (hout y hy))
    · rfl

/-! ## Calls one after another -/

/-- What happens to the sessions, one thing at a time: a call of the store runs to its end, or
the clock moves on. -/
inductive SessionStep where
  /-- `storeSession` of a session -/
  | store (s : StoredSession)
  /-- `deleteSession` of a token and the address it was kept under -/
  | delete (token address : String)
  /-- `deleteAccountSessions` of an address -/
  | deleteAll (address : String)
  /-- the clock moves on by a span -/
  | wait (d : Span)
  deriving DecidableEq, Repr

/-- The backend after a step, sessions being kept `ttl` seconds. -/
def SessionStep.run (ttl : Nat) (b : Backend) : SessionStep → Backend
  | .store s => ((storeSession s ttl).run.run b).2
  | .delete token address => ((deleteSession token address).run.run b).2
  | .deleteAll address => ((deleteAccountSessions address).run.run b).2
  | .wait d => { b with clock := b.clock.advance d }

/-- The steps in order. -/
def runSteps (ttl : Nat) (b : Backend) (steps : List SessionStep) : Backend :=
  steps.foldl (SessionStep.run ttl) b

/-- A backend whose sessions can all be revoked: its server fails no command, its clock reads
outside a leap second, and every live session is tracked. -/
structure Revocable (ttl : Nat) (b : Backend) : Prop where
  clean : b.kv.failing = []
  clock : b.clock.now.nanos < nanosPerSecond
  tracked : Tracked ttl b.clock.now (b.kv.live b.clock.now)

section Run

variable {ttl : Nat} {b : Backend}

/-- A call that changes only the server, leaving one that fails nothing and tracks every session
at the same instant, keeps the sessions revocable. -/
theorem Revocable.withKv (h : Revocable ttl b) {kv' : Redis.Server} (hf : kv'.failing = [])
    (ht : Tracked ttl b.clock.now (kv'.live b.clock.now)) : Revocable ttl { b with kv := kv' } :=
  ⟨hf, h.clock, ht⟩

/-- Every step keeps the sessions revocable, the clock moving forward only. -/
theorem Revocable.step (h : Revocable ttl b) (st : SessionStep)
    (hwait : ∀ d, st = .wait d → 0 ≤ d.nanos) : Revocable ttl (st.run ttl b) := by
  cases st with
  | store s =>
    obtain ⟨kv', hb, hf, hlive⟩ := storeSession_clean s ttl h.clean (h.tracked.sets s.address)
    show Revocable ttl ((storeSession s ttl).run.run b).2
    rw [hb]
    refine h.withKv hf ?_
    rw [hlive]
    split
    · exact h.tracked.store s
    · exact h.tracked
  | delete token address =>
    obtain ⟨kv', hb, hf, hlive⟩ := deleteSession_clean token address h.clean
    show Revocable ttl ((deleteSession token address).run.run b).2
    rw [hb]
    refine h.withKv hf ?_
    rw [hlive]
    exact (h.tracked.dropSession token).srem (Function.update_self ..) address
  | deleteAll address =>
    obtain ⟨kv', ts, hb, hf, hmembers, hlive⟩ :=
      deleteAccountSessions_clean address h.clean (h.tracked.sets address)
    show Revocable ttl ((deleteAccountSessions address).run.run b).2
    rw [hb]
    refine h.withKv hf ?_
    rw [hlive]
    -- the set read is the set dropped, and every member's session went before it
    refine (h.tracked.dropSessions ts).dropSet address fun k' x ts' hset t ht => ?_
    rw [dropSessions_of_forall_ne (fun _ _ => (sessionKey_ne_accountSessionsKey _ _).symm)] at hset
    rcases hmembers with ⟨hnone, -⟩ | ⟨k'', x', hsome⟩
    · rw [hnone] at hset
      cases hset
    · rw [hsome] at hset
      cases hset
      exact dropSessions_of_mem ht _
  | wait d =>
    have hnext := Instant.nanos_add_lt h.clock d
    exact ⟨h.clean, hnext,
      h.tracked.later (Instant.le_add_of_nonneg (by have := h.clock; omega) (hwait d rfl))
        h.clock hnext⟩

/-- Forgetting an account's sessions leaves none that names the account, by any spelling of its
address: each one was in the account's set, and the set is gone. -/
theorem Revocable.deleteAll_spares_none (h : Revocable ttl b) (address t : String)
    (e : Redis.Entry) (s : StoredSession)
    (he : ((deleteAccountSessions address).run.run b).2.kv.live b.clock.now (sessionKey t) = some e)
    (hv : e.value = .str s.toText) :
    accountSessionsKey s.address ≠ accountSessionsKey address := by
  obtain ⟨kv', ts, hb, -, -, hlive⟩ :=
    deleteAccountSessions_clean address h.clean (h.tracked.sets address)
  have hafter := (h.step (.deleteAll address) nofun).tracked
  change Tracked ttl ((deleteAccountSessions address).run.run b).2.clock.now
    (((deleteAccountSessions address).run.run b).2.kv.live
      ((deleteAccountSessions address).run.run b).2.clock.now) at hafter
  rw [hb] at hafter he
  intro hkey
  obtain ⟨x, hx, -⟩ := hafter.expires t e he
  obtain ⟨se, xs, hse, -⟩ := hafter.tracked t e s x he hv hx
  rw [hkey, hlive, Function.update_self] at hse
  cases hse

theorem Revocable.runSteps (h : Revocable ttl b) (steps : List SessionStep)
    (hwait : ∀ d, SessionStep.wait d ∈ steps → 0 ≤ d.nanos) :
    Revocable ttl (runSteps ttl b steps) := by
  induction steps generalizing b with
  | nil => exact h
  | cons st steps ih =>
    exact ih (h.step st fun d hd => hwait d (hd ▸ List.mem_cons_self))
      fun d hd => hwait d (List.mem_cons_of_mem st hd)

end Run

/-- Calls of the session store made one after another, none overlapping another, on a server
that fails no command, sessions being kept one lifetime `ttl` and the clock moving forward
outside leap seconds: from a start where every session is tracked, after any run every live
session's token is in the set of the account its text names, a set that outlasts it, and
forgetting an account's sessions then leaves no live session that names the account. -/
theorem sessions_revocable_between_calls (ttl : Nat) (b : Backend) (steps : List SessionStep)
    (hclean : b.kv.failing = []) (hclock : b.clock.now.nanos < nanosPerSecond)
    (hwait : ∀ d, SessionStep.wait d ∈ steps → 0 ≤ d.nanos)
    (hstart : Tracked ttl b.clock.now (b.kv.live b.clock.now)) :
    let b' := runSteps ttl b steps
    Tracked ttl b'.clock.now (b'.kv.live b'.clock.now) ∧
      ∀ address t e (s : StoredSession),
        ((deleteAccountSessions address).run.run b').2.kv.live b'.clock.now (sessionKey t) =
          some e → e.value = .str s.toText →
        accountSessionsKey s.address ≠ accountSessionsKey address := by
  intro b'
  have h : Revocable ttl b' := Revocable.runSteps ⟨hclean, hclock, hstart⟩ steps hwait
  exact ⟨h.tracked, h.deleteAll_spares_none⟩

/-- A server that holds nothing tracks every session it holds. -/
theorem Tracked.empty (ttl : Nat) (now : Instant) :
    Tracked ttl now (({} : Redis.Server).live now) := by
  rw [Redis.Server.live_empty]
  exact ⟨nofun, nofun, nofun⟩

/-- Two sessions of one account kept a second apart, from a server holding nothing at noon. -/
theorem sessions_revocable_sample :
    let steps := [SessionStep.store ⟨"tokenA", "0xf39Fd6e51aad88F6F4ce6aB8827279cffFb92266", 1,
        1714564800⟩, .wait (.ofSeconds 1),
      .store ⟨"tokenB", "0xf39Fd6e51aad88F6F4ce6aB8827279cffFb92266", 1, 1714564801⟩]
    emptyAtNoon.kv.failing = [] ∧ emptyAtNoon.clock.now.nanos < nanosPerSecond ∧
      (∀ d, SessionStep.wait d ∈ steps → 0 ≤ d.nanos) ∧
      Tracked 900 emptyAtNoon.clock.now (emptyAtNoon.kv.live emptyAtNoon.clock.now) ∧
      let b' := runSteps 900 emptyAtNoon steps
      Tracked 900 b'.clock.now (b'.kv.live b'.clock.now) ∧
        ∀ address t e (s : StoredSession),
          ((deleteAccountSessions address).run.run b').2.kv.live b'.clock.now (sessionKey t) =
            some e → e.value = .str s.toText →
          accountSessionsKey s.address ≠ accountSessionsKey address := by
  intro steps
  have hwait : ∀ d, SessionStep.wait d ∈ steps → 0 ≤ d.nanos := by
    intro d hd
    simp only [steps, List.mem_cons, List.mem_nil_iff, or_false, reduceCtorEq, false_or,
      SessionStep.wait.injEq] at hd
    subst hd
    decide
  have hstart : Tracked 900 emptyAtNoon.clock.now (emptyAtNoon.kv.live emptyAtNoon.clock.now) :=
    Tracked.empty 900 _
  exact ⟨rfl, by decide, hwait, hstart,
    sessions_revocable_between_calls 900 emptyAtNoon steps rfl (by decide) hwait hstart⟩

/-- A session kept after `deleteAccountSessions` has read its account's set and before the call
deletes it escapes: the call deletes the sessions it read and then the set holding the new token,
so the new session is live in no set, and a later call to forget the account's sessions leaves
it. The steps are one session kept, the read of the set, a second session of the account kept,
and the rest of the call. -/
theorem store_between_read_and_drop_escapes (ttl : Nat) (b : Backend) (s₁ s₂ : StoredSession)
    (hf : b.kv.failing = [])
    (httl : 0 < ttl ∧ Redis.setExpiryFits b.clock.now (ttl * 1000))
    (hsame : s₂.address = s₁.address) (htoken : s₂.token ≠ s₁.token)
    (hnone : b.kv.live b.clock.now (accountSessionsKey s₁.address) = none) :
    let now := b.clock.now
    let k := accountSessionsKey s₁.address
    let b₁ := SessionStep.run ttl b (.store s₁)
    let read := b₁.kv.exec now ["SMEMBERS", k]
    let b₂ := SessionStep.run ttl { b₁ with kv := read.2 } (.store s₂)
    let b₃ := { b₂ with
      kv := ((b₂.kv.exec now ["DEL", sessionKey s₁.token]).2.exec now ["DEL", k]).2 }
    let b₄ := SessionStep.run ttl b₃ (.deleteAll s₁.address)
    read.1.strings = .ok [s₁.token] ∧ b₄.kv.live now k = none ∧
      b₄.kv.live now (sessionKey s₂.token) =
        some ⟨sessionKey s₂.token, .str s₂.toText, some (now.add (.ofSeconds ttl))⟩ := by
  intro now k b₁ read b₂ b₃ b₄
  -- the first session is kept, and its token starts the account's set
  obtain ⟨kv₁, hb₁, hf₁, hlive₁⟩ :=
    storeSession_clean s₁ ttl hf (fun e he => by rw [hnone] at he; cases he)
  rw [if_pos httl, written_sessionWrites, hnone] at hlive₁
  have e₁ : b₁ = { b with kv := kv₁ } := hb₁
  have hk₁ : kv₁.live now k = some ⟨k, .set [s₁.token], some (now.add (.ofSeconds ttl))⟩ := by
    rw [hlive₁, Function.update_self]
    rfl
  -- the read finds that token alone, and changes nothing
  obtain ⟨hpurge, hreply⟩ := Redis.Server.live_exec_smembers kv₁ now (k := k) (by simp [hf₁])
  have hread : read = kv₁.exec now ["SMEMBERS", k] := by
    rw [show read = b₁.kv.exec now _ from rfl, e₁]
  -- the second session is kept, and its token joins the set
  have e₁' : { b₁ with kv := read.2 } = { b with kv := kv₁.purge now } := by
    rw [hread, hpurge, e₁]
  obtain ⟨kv₂, hb₂, hf₂, hlive₂⟩ :=
    storeSession_clean (b := { b with kv := kv₁.purge now }) s₂ ttl hf₁ (fun e he => by
      rw [Redis.Server.live_purge, hsame, hk₁] at he
      cases he
      exact ⟨_, rfl⟩)
  rw [if_pos httl, Redis.Server.live_purge] at hlive₂
  have e₂ : b₂ = { b with kv := kv₂ } := by
    show SessionStep.run ttl { b₁ with kv := read.2 } (.store s₂) = _
    rw [e₁']
    exact hb₂
  -- the rest of the call deletes the first session and the set
  have e₃ : b₃ = { b₂ with
      kv := ((b₂.kv.exec now ["DEL", sessionKey s₁.token]).2.exec now ["DEL", k]).2 } := rfl
  rw [e₂] at e₃
  obtain ⟨-, hf₂', hdel₁⟩ := Redis.Server.exec_del_clean kv₂ now (k := sessionKey s₁.token) hf₂
  obtain ⟨-, hf₃', hdel₂⟩ := Redis.Server.exec_del_clean _ now (k := k) hf₂'
  have hlive₃ : b₃.kv.live now = Function.update
      (Function.update (kv₂.live now) (sessionKey s₁.token) none) k none := by
    rw [e₃, hdel₂, hdel₁]
  -- a later call finds no set, and deletes no session
  have hf₃ : b₃.kv.failing = [] := by
    rw [e₃, hf₃']
  have hk₃ : b₃.kv.live now k = none := by
    rw [hlive₃, Function.update_self]
  have hclock₃ : b₃.clock.now = now := by
    rw [e₃]
  obtain ⟨kv₄, ts, hb₄, -, hmembers, hlive₄⟩ :=
    deleteAccountSessions_clean (b := b₃) s₁.address hf₃ (fun e he => by
      rw [hclock₃, hk₃] at he
      cases he)
  rw [hclock₃] at hmembers hlive₄
  have hts : ts = [] := by
    rcases hmembers with ⟨-, hts⟩ | ⟨k', x, h⟩
    · exact hts
    · rw [hk₃] at h
      cases h
  have e₄ : b₄ = { b₃ with kv := kv₄ } := hb₄
  refine ⟨?_, ?_, ?_⟩
  · rw [hread]
    rcases hreply with ⟨-, h⟩ | ⟨k', xs, x, hr, h⟩ | ⟨line, k', v, x, -, h⟩ <;> rw [hk₁] at h
    · cases h
    · cases h
      rw [hr]
      exact Redis.strings_array_bulk _
    · cases h
  · rw [e₄, hlive₄, Function.update_self]
  · -- the second session's key was written last by its own store
    have hne₁ : sessionKey s₂.token ≠ sessionKey s₁.token := mt sessionKey_inj htoken
    have hne : ∀ a, sessionKey s₂.token ≠ accountSessionsKey a := sessionKey_ne_accountSessionsKey _
    rw [e₄, hlive₄, hts, Function.update_of_ne (hne _), dropSessions, List.foldl_nil, hlive₃,
      Function.update_of_ne (hne _), Function.update_of_ne hne₁, hlive₂, written_sessionWrites,
      Function.update_of_ne (hne _), Function.update_self]

/-- Two sign-ins of one account at noon, the second between the read of the account's set and
its deletion by a logout of every session: the second session outlives that logout and a later
one. -/
theorem overlapping_store_outlives_logoutAll :
    let address := "0xf39Fd6e51aad88F6F4ce6aB8827279cffFb92266"
    let s₁ : StoredSession := ⟨"tokenA", address, 1, 1714564800⟩
    let s₂ : StoredSession := ⟨"tokenB", address, 1, 1714564800⟩
    let now := emptyAtNoon.clock.now
    let k := accountSessionsKey s₁.address
    let b₁ := SessionStep.run 900 emptyAtNoon (.store s₁)
    let read := b₁.kv.exec now ["SMEMBERS", k]
    let b₂ := SessionStep.run 900 { b₁ with kv := read.2 } (.store s₂)
    let b₃ := { b₂ with
      kv := ((b₂.kv.exec now ["DEL", sessionKey s₁.token]).2.exec now ["DEL", k]).2 }
    let b₄ := SessionStep.run 900 b₃ (.deleteAll s₁.address)
    read.1.strings = .ok [s₁.token] ∧ b₄.kv.live now k = none ∧
      b₄.kv.live now (sessionKey s₂.token) =
        some ⟨sessionKey s₂.token, .str s₂.toText, some (now.add (.ofSeconds 900))⟩ :=
  store_between_read_and_drop_escapes 900 emptyAtNoon _ _ rfl (by decide) rfl (by decide)
    (by rw [show emptyAtNoon.kv = {} from rfl, Redis.Server.live_empty])

end SessionStore
end WalletAuth
