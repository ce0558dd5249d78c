import WalletAuth.Proofs.Session.Writes

/-!
# WalletAuth.Proofs.Session.Calls — the session store's calls on a server that fails nothing

On a server told to fail no command, each call of the session store is read off its commands
exactly, through the live entries at the call's instant:

* `DEL` empties its key (`exec_del_clean` on a server that fails nothing), `SREM` takes a member out of a set and drops the set once it is empty
  (`sremEntry`), and `SMEMBERS` changes nothing (`live_exec_del`, `live_exec_srem`,
  `live_exec_smembers`); `SADD` adds to a set or starts one (`exec_sadd_ok`);
* `storeSession_clean`: a session is kept with all three of its writes, or, its lifetime out of
  range, with none;
* `deleteSession_clean`: the session's key is emptied, then its token taken out of the set of the
  address given;
* `deleteAccountSessions_clean`: the sessions of the set's members are emptied one by one
  (`dropSessions`), then the set.
-/

namespace WalletAuth
namespace Redis

theorem strings_array_bulk (xs : List String) : (Reply.array (xs.map .bulk)).strings = .ok xs := by
  induction xs with
  | nil => rfl
  | cons x xs ih =>
    simp only [Reply.strings, List.map_cons, List.mapM_cons] at ih ⊢
    rw [ih]
    rfl

/-- What `SREM k m` leaves under `k`, from the entry found there: a set without `m`, or nothing
once it is empty. -/
def sremEntry (k m : String) : Option Entry → Option Entry
  | some ⟨_, .set xs, x⟩ =>
    let kept := xs.filter fun y => !([m].contains y)
    if kept.isEmpty then none else some ⟨k, .set kept, x⟩
  | some ⟨k', .str v, x⟩ => some ⟨k', .str v, x⟩
  | none => none

namespace Server

variable {srv : Server} {now : Instant}

variable (srv now) in
theorem live_exec_del {k : String} (hf : srv.failing.contains "DEL" = false) :
    (srv.exec now ["DEL", k]).2.live now = Function.update (srv.live now) k none := by
  obtain ⟨-, -, -, hfind⟩ := exec_del_find? srv now (k := k) hf
  funext k'
  show ((srv.exec now ["DEL", k]).2.purge now).find? k' = _
  rw [find?_purge, hfind]
  by_cases hk : k' = k
  · subst hk
    simp
  · rw [Function.update_of_ne hk, if_neg (Ne.symm hk), ← find?_purge, find?_purge_purge]
    rfl

variable (srv now) in
/-- `DEL` on a server that fails no command answers a count, leaves a server that fails none
either, and empties its key. -/
theorem exec_del_clean {k : String} (hf : srv.failing = []) :
    (∃ i, (srv.exec now ["DEL", k]).1 = .int i) ∧ (srv.exec now ["DEL", k]).2.failing = [] ∧
      (srv.exec now ["DEL", k]).2.live now = Function.update (srv.live now) k none := by
  have hnf : srv.failing.contains "DEL" = false := by simp [hf]
  obtain ⟨hi, hfail, -, -⟩ := exec_del_find? srv now (k := k) hnf
  exact ⟨hi, hfail.trans hf, live_exec_del srv now hnf⟩

theorem live_erase (k : String) :
    (srv.erase k).live now = Function.update (srv.live now) k none := by
  funext k'
  by_cases hk : k' = k
  · subst hk
    simp [live, find?_purge, find?_erase]
  · rw [Function.update_of_ne hk, live_erase_of_ne hk]

variable (srv now) in
theorem live_exec_srem {k m : String} (hf : srv.failing.contains "SREM" = false) :
    (srv.exec now ["SREM", k, m]).2.failing = srv.failing ∧
      (srv.exec now ["SREM", k, m]).2.live now =
        Function.update (srv.live now) k (sremEntry k m (srv.live now k)) := by
  have hup : "SREM".toUpper = "SREM" := by cbv
  have hlive : srv.live now k = (srv.purge now).find? k := rfl
  simp only [exec, hup, failing_purge, hf, Bool.false_eq_true, if_false]
  rcases hfind : (srv.purge now).find? k with _ | ⟨k', _ | xs, x⟩
  · -- nothing under the key: nothing changes
    refine ⟨rfl, ?_⟩
    rw [live_purge, hlive, hfind, sremEntry, Function.update_eq_self_iff.mpr hfind.symm]
  · refine ⟨rfl, ?_⟩
    rw [live_purge, hlive, hfind, sremEntry, Function.update_eq_self_iff.mpr hfind.symm]
  · -- the set loses the member, and the key goes when the set is empty
    have hx : isLive now ⟨k', .set xs, x⟩ = true := isLive_of_find?_purge srv now hfind
    rw [hlive, hfind]
    simp only [sremEntry]
    split
    · exact ⟨rfl, by rw [live_erase, live_purge]⟩
    · exact ⟨rfl, by rw [live_put (by exact hx), live_purge]⟩

variable (srv now) in
theorem live_exec_smembers {k : String} (hf : srv.failing.contains "SMEMBERS" = false) :
    (srv.exec now ["SMEMBERS", k]).2 = srv.purge now ∧
      ((srv.exec now ["SMEMBERS", k]).1 = .array [] ∧ srv.live now k = none ∨
        (∃ k' xs x, (srv.exec now ["SMEMBERS", k]).1 = .array (xs.map .bulk) ∧
          srv.live now k = some ⟨k', .set xs, x⟩) ∨
        ∃ line k' v x, (srv.exec now ["SMEMBERS", k]).1 = .error line ∧
          srv.live now k = some ⟨k', .str v, x⟩) := by
  have hup : "SMEMBERS".toUpper = "SMEMBERS" := by cbv
  have hlive : srv.live now k = (srv.purge now).find? k := rfl
  simp only [exec, hup, failing_purge, hf, Bool.false_eq_true, if_false]
  rcases hfind : (srv.purge now).find? k with _ | ⟨k', _ | xs, x⟩
  · exact ⟨rfl, .inl ⟨rfl, hlive.trans hfind⟩⟩
  · exact ⟨rfl, .inr (.inr ⟨_, _, _, _, rfl, hlive.trans hfind⟩)⟩
  · exact ⟨rfl, .inr (.inl ⟨k', xs, x, rfl, hlive.trans hfind⟩)⟩

variable (srv now) in
/-- `SADD` of one member to a key holding a set or nothing adds it. -/
theorem exec_sadd_ok {k m : String} (hf : srv.failing.contains "SADD" = false)
    (hset : ∀ e, srv.live now k = some e → ∃ xs, e.value = .set xs) :
    ∃ n, srv.exec now ["SADD", k, m] =
      (.int n, (srv.purge now).put (withMember ((srv.purge now).find? k) k m)) := by
  have hup : "SADD".toUpper = "SADD" := by cbv
  simp only [exec, hup, failing_purge, hf, Bool.false_eq_true, if_false]
  rcases hfind : (srv.purge now).find? k with _ | ⟨k', _ | xs, x⟩
  · exact ⟨_, rfl⟩
  · obtain ⟨xs, hxs⟩ := hset _ hfind
    cases hxs
  · exact ⟨_, rfl⟩

end Server
end Redis

theorem KeyValue.strings_run (args : List String) (b : Backend) :
    (KeyValue.strings args).run.run b =
      ((b.kv.exec b.clock.now args).1.check.bind Redis.Reply.strings,
        { b with kv := (b.kv.exec b.clock.now args).2 }) := by
  unfold KeyValue.strings
  rw [Backend.run_run_bind, KeyValue.command_run]
  cases (b.kv.exec b.clock.now args).1.check with
  | error f => rfl
  | ok r =>
    dsimp only
    cases h : r.strings <;> simp [Except.bind, h] <;> rfl

namespace SessionStore

/-- The live entries `v` with the sessions of the tokens `ts` gone. -/
def dropSessions (ts : List String) (v : String → Option Redis.Entry) :
    String → Option Redis.Entry :=
  ts.foldl (fun v t => Function.update v (sessionKey t) none) v

theorem sessionKey_inj {t t' : String} (h : sessionKey t = sessionKey t') : t = t' :=
  (String.append_right_inj _).mp h

theorem dropSessions_of_forall_ne {k : String} {ts : List String} (h : ∀ t ∈ ts, k ≠ sessionKey t)
    (v : String → Option Redis.Entry) : dropSessions ts v k = v k := by
  induction ts generalizing v with
  | nil => rfl
  | cons t ts ih =>
    rw [dropSessions, List.foldl_cons, ← dropSessions,
      ih (fun t' ht' => h t' (List.mem_cons_of_mem t ht')),
      Function.update_of_ne (h t List.mem_cons_self)]

theorem dropSessions_of_mem {t : String} {ts : List String} (h : t ∈ ts)
    (v : String → Option Redis.Entry) : dropSessions ts v (sessionKey t) = none := by
  induction ts generalizing v with
  | nil => cases h
  | cons t' ts ih =>
    rw [dropSessions, List.foldl_cons, ← dropSessions]
    by_cases ht : t ∈ ts
    · exact ih ht _
    · -- the last drop of the key is the first one
      obtain rfl : t = t' := (List.mem_cons.mp h).resolve_right ht
      rw [dropSessions_of_forall_ne (fun t'' ht'' heq => ht (by rwa [sessionKey_inj heq])),
        Function.update_self]

section Clean

variable {b : Backend}

/-- On a server that fails no command, with the account's key holding a set or nothing, a
session is kept with all three writes, or, its lifetime out of range, not at all. -/
theorem storeSession_clean (s : StoredSession) (ttl : Nat) (hf : b.kv.failing = [])
    (hset : ∀ e, b.kv.live b.clock.now (accountSessionsKey s.address) = some e →
      ∃ xs, e.value = .set xs) :
    ∃ kv', ((storeSession s ttl).run.run b).2 = { b with kv := kv' } ∧ kv'.failing = [] ∧
      kv'.live b.clock.now = if 0 < ttl ∧ Redis.setExpiryFits b.clock.now (ttl * 1000) then
          Redis.written (b.kv.live b.clock.now)
            (sessionWrites b.clock.now ttl s (b.kv.live b.clock.now))
        else b.kv.live b.clock.now := by
  unfold storeSession
  rw [client_run]
  have hnf : ∀ c, b.kv.failing.contains c = false := fun c => by simp [hf]
  by_cases httl : 0 < ttl ∧ Redis.setExpiryFits b.clock.now (ttl * 1000)
  swap
  · -- the lifetime is refused, and nothing is written
    rw [if_neg httl]
    rcases Redis.Server.exec_setex_cases b.kv b.clock.now (sessionKey s.token) s.toText ttl with
      ⟨line, hl⟩ | ⟨hpos, hfits, -⟩
    · rw [Backend.run_bind_of_error (command_run_of_error hl)]
      have hsrv := Redis.Server.exec_error (Prod.ext hl rfl)
      exact ⟨_, rfl, (congrArg Redis.Server.failing hsrv).trans hf, Redis.Server.live_exec_error hl⟩
    · exact absurd ⟨hpos, hfits⟩ httl
  rw [if_pos httl]
  obtain ⟨hpos, hfits⟩ := httl
  have hexp := Redis.Server.expiryFits_of_setExpiryFits hfits
  set t := b.clock.now
  -- the session is kept under its key
  set e₁ : Redis.Entry := ⟨sessionKey s.token, .str s.toText, some (t.add (.ofSeconds ttl))⟩
  have hlive₁ : Redis.Server.isLive t e₁ = true := by
    simp [Redis.Server.isLive, e₁, Instant.lt_add_ofSeconds t (show (0 : Int) < ttl by omega)]
  set srv₁ := (b.kv.purge t).put e₁
  have hv₁ : srv₁.live t = Redis.written (b.kv.live t) [e₁] := by
    rw [Redis.Server.live_put hlive₁, Redis.Server.live_purge]
    rfl
  set k := accountSessionsKey s.address
  have hk₁ : srv₁.live t k = b.kv.live t k := by
    rw [hv₁, Redis.written_cons, Redis.written_nil,
      Function.update_of_ne (sessionKey_ne_accountSessionsKey _ _).symm]
  rw [Backend.run_bind_of_ok (command_run_of_reply (Redis.Server.exec_setex_ok (hnf _) hpos hfits) rfl)]
  -- the token is added to the set found under the account's key
  obtain ⟨n, hex₂⟩ := Redis.Server.exec_sadd_ok srv₁ t (m := s.token)
    (by simp [srv₁, hf]) (fun e he => hset e (hk₁ ▸ he))
  set e₂ := Redis.withMember (b.kv.live t k) k s.token
  have he₂ : Redis.withMember ((srv₁.purge t).find? k) k s.token = e₂ := by
    show Redis.withMember (srv₁.live t k) k s.token = e₂
    rw [hk₁]
  rw [he₂] at hex₂
  have hlive₂ : Redis.Server.isLive t e₂ = true := by
    rw [← he₂]
    exact Redis.Server.isLive_withMember k s.token
  set srv₂ := (srv₁.purge t).put e₂
  have hv₂ : srv₂.live t = Redis.written (b.kv.live t) [e₁, e₂] := by
    rw [Redis.Server.live_put hlive₂, Redis.Server.live_purge, hv₁]
    rfl
  rw [Backend.run_bind_of_ok (command_run_of_reply (b := { b with kv := srv₁ }) hex₂ rfl),
    signedSeconds_of_le (Redis.Server.le_maxInt64_of_expiryFits hexp)]
  -- the set is renewed to expire with the session
  have hfind₂ : (srv₂.purge t).find? k = some e₂ := by
    rw [Redis.Server.find?_purge, Redis.Server.find?_put, if_pos (Redis.withMember_key _ k s.token)]
    simp [hlive₂]
  set e₃ : Redis.Entry := { e₂ with expiry := some (t.add (.ofSeconds ttl)) }
  have hex₃ : srv₂.exec t ["EXPIRE", k, toString (ttl : Int)] = (.int 1, (srv₂.purge t).put e₃) :=
    (Redis.Server.exec_expire (by simp [srv₂, srv₁, hf]) hexp hfind₂).trans (by rw [if_neg (by omega)])
  have hlive₃ : Redis.Server.isLive t e₃ = true := by
    simp [Redis.Server.isLive, e₃, Instant.lt_add_ofSeconds t (show (0 : Int) < ttl by omega)]
  rw [Backend.run_bind_of_ok (command_run_of_reply (b := { b with kv := srv₂ }) hex₃ rfl)]
  refine ⟨_, rfl, by simp [srv₂, srv₁, hf], ?_⟩
  rw [Redis.Server.live_put hlive₃, Redis.Server.live_purge, hv₂]
  rfl

/-- On a server that fails no command, forgetting a session deletes its key and then takes its
token out of the set under the address given. -/
theorem deleteSession_clean (token address : String) (hf : b.kv.failing = []) :
    ∃ kv', ((deleteSession token address).run.run b).2 = { b with kv := kv' } ∧ kv'.failing = [] ∧
      kv'.live b.clock.now =
        let v := Function.update (b.kv.live b.clock.now) (sessionKey token) none
        Function.update v (accountSessionsKey address)
          (Redis.sremEntry (accountSessionsKey address) token (v (accountSessionsKey address))) := by
  unfold deleteSession
  rw [client_run, Backend.run_run_bind, KeyValue.integer_run]
  obtain ⟨⟨i, hi⟩, hfail₁, hlive₁⟩ :=
    Redis.Server.exec_del_clean b.kv b.clock.now (k := sessionKey token) hf
  rw [hi]
  dsimp only [Redis.Reply.check, Except.bind, Redis.Reply.integer]
  -- the session's key is gone; what `SREM` answers does not matter, only what it leaves
  set srv₁ := (b.kv.exec b.clock.now ["DEL", sessionKey token]).2
  obtain ⟨hfail₂, hlive₂⟩ := Redis.Server.live_exec_srem srv₁ b.clock.now
    (k := accountSessionsKey address) (m := token) (by simp [hfail₁])
  rw [Backend.run_run_bind, KeyValue.command_run]
  refine ⟨(srv₁.exec b.clock.now ["SREM", accountSessionsKey address, token]).2, ?_,
    hfail₂.trans hfail₁, hlive₂.trans (by rw [hlive₁])⟩
  cases (srv₁.exec b.clock.now ["SREM", accountSessionsKey address, token]).1.check <;> rfl

/-- On a server that fails no command, the `DEL` of each token's session succeeds in turn. -/
theorem forM_del_clean (ts : List String) (hf : b.kv.failing = []) :
    ∃ kv', ((ts.forM fun t => do
        let _ ← KeyValue.command ["DEL", sessionKey t]
        pure ()) : KeyValue.ClientM Unit).run.run b = (.ok (), { b with kv := kv' }) ∧
      kv'.failing = [] ∧ kv'.live b.clock.now = dropSessions ts (b.kv.live b.clock.now) := by
  induction ts generalizing b with
  | nil => exact ⟨b.kv, rfl, hf, rfl⟩
  | cons t ts ih =>
    obtain ⟨⟨i, hi⟩, hfail₁, hlive₁⟩ :=
      Redis.Server.exec_del_clean b.kv b.clock.now (k := sessionKey t) hf
    obtain ⟨kv', hrun, hfail, hlive⟩ :=
      ih (b := { b with kv := (b.kv.exec b.clock.now ["DEL", sessionKey t]).2 }) hfail₁
    refine ⟨kv', ?_, hfail, ?_⟩
    · rw [List.forM.eq_2, Backend.run_run_bind, Backend.run_run_bind, KeyValue.command_run, hi]
      exact hrun
    · rw [hlive]
      exact congrArg (dropSessions ts) hlive₁

/-- On a server that fails no command, with the account's key holding a set or nothing,
forgetting the account's sessions deletes the session of every token in the set, then the set. -/
theorem deleteAccountSessions_clean (address : String) (hf : b.kv.failing = [])
    (hset : ∀ e, b.kv.live b.clock.now (accountSessionsKey address) = some e →
      ∃ xs, e.value = .set xs) :
    ∃ kv' ts, ((deleteAccountSessions address).run.run b).2 = { b with kv := kv' } ∧
      kv'.failing = [] ∧
      (b.kv.live b.clock.now (accountSessionsKey address) = none ∧ ts = [] ∨
        ∃ k' x, b.kv.live b.clock.now (accountSessionsKey address) = some ⟨k', .set ts, x⟩) ∧
      kv'.live b.clock.now = Function.update (dropSessions ts (b.kv.live b.clock.now))
        (accountSessionsKey address) none := by
  set k := accountSessionsKey address
  obtain ⟨hsrv, hreply⟩ := Redis.Server.live_exec_smembers b.kv b.clock.now (k := k)
    (by simp [hf])
  -- the members are read as they are; a key holding text is ruled out
  obtain ⟨ts, hts, hmembers⟩ : ∃ ts, (b.kv.exec b.clock.now ["SMEMBERS", k]).1.check.bind
      Redis.Reply.strings = .ok ts ∧
      (b.kv.live b.clock.now k = none ∧ ts = [] ∨
        ∃ k' x, b.kv.live b.clock.now k = some ⟨k', .set ts, x⟩) := by
    rcases hreply with ⟨hr, hnone⟩ | ⟨k', xs, x, hr, hsome⟩ | ⟨line, k', v, x, -, hstr⟩
    · exact ⟨[], by rw [hr]; rfl, .inl ⟨hnone, rfl⟩⟩
    · exact ⟨xs, by rw [hr]; exact Redis.strings_array_bulk xs, .inr ⟨k', x, hsome⟩⟩
    · obtain ⟨xs, hxs⟩ := hset _ hstr
      cases hxs
  have hread : (KeyValue.strings ["SMEMBERS", k]).run.run b =
      (.ok ts, { b with kv := b.kv.purge b.clock.now }) := by
    rw [KeyValue.strings_run, hts, hsrv]
  -- the sessions of the members go one by one
  obtain ⟨kv₁, hrun₁, hfail₁, hlive₁⟩ := forM_del_clean (b := { b with kv := b.kv.purge b.clock.now })
    ts (by simp [hf])
  -- and then the set
  obtain ⟨⟨i, hi⟩, hfail₂, hlive₂⟩ := Redis.Server.exec_del_clean kv₁ b.clock.now (k := k) hfail₁
  unfold deleteAccountSessions
  rw [client_run, Backend.run_bind_of_ok hread, Backend.run_bind_of_ok hrun₁,
    Backend.run_bind_of_ok (command_run_of_reply (b := { b with kv := kv₁ }) (Prod.ext hi rfl) rfl)]
  refine ⟨_, ts, rfl, hfail₂, hmembers, ?_⟩
  rw [hlive₂]
  congr 1
  rw [hlive₁, Redis.Server.live_purge]

end Clean

end SessionStore
end WalletAuth
