import WalletAuth.Proofs.Server.RateLimit

/-!
# WalletAuth.Proofs.Session.Writes — what the session store leaves on the server

Read at one instant, a server is the map from each key to the entry live there
(`Redis.Server.live`). Every command first drops the keys whose expiry has come, so run at that
instant it changes the map only where it writes:

* a command answered with an error writes nothing (`live_exec_error`);
* `SET`, `SETEX` and `SADD` put their key or fail, and so does `EXPIRE` on an entry just put
  (`exec_set_cases`, `exec_setex_cases`, `exec_sadd_cases`, `exec_expire_put_cases`); `SETEX`
  fails only on a count that is not positive or whose deadline does not fit (`exec_setex_ok`);
* `INCRBY` puts its key or fails, and `EXPIRE` leaves every other key alone.

Entries put one after another give `Redis.written`. The session store's functions are read off
their commands: `storeSession_run` makes the first `j` of its three writes (`sessionWrites`) and
succeeds exactly when it made all three; `recordLogin_run` writes back the account it read
(`ReadsAs`), renewed, or writes nothing; and the limiter touches its counter only
(`checkRateLimit_frame`).
-/

namespace WalletAuth
namespace Redis

/-! ## A server read at an instant -/

namespace Server

/-- The entries a server holds live at `now`, key by key. -/
def live (srv : Server) (now : Instant) (k : String) : Option Entry := (srv.purge now).find? k

variable {srv : Server} {now : Instant}

@[simp] theorem live_purge (srv : Server) (now : Instant) :
    (srv.purge now).live now = srv.live now :=
  funext (find?_purge_purge srv now)

theorem live_put {e : Entry} (he : isLive now e = true) :
    (srv.put e).live now = Function.update (srv.live now) e.key (some e) := by
  funext k
  by_cases hk : k = e.key
  · subst hk
    simp [live, find?_purge, find?_put, he]
  · simp [live, find?_purge, find?_put, Function.update_of_ne hk, Ne.symm hk]

theorem live_put_of_ne {e : Entry} {k : String} (hk : k ≠ e.key) :
    (srv.put e).live now k = srv.live now k := by
  simp [live, find?_purge, find?_put, Ne.symm hk]

theorem live_erase_of_ne {k' k : String} (hk : k ≠ k') :
    (srv.erase k').live now k = srv.live now k := by
  simp [live, find?_purge, find?_erase, Ne.symm hk]

end Server

/-! ## One command each -/

theorem incrBy_error {srv : Server} {k : String} {d : Int} {line : String} {srv' : Server}
    (h : Server.exec.incrBy srv k d = (.error line, srv')) : srv' = srv := by
  unfold Server.exec.incrBy at h
  dsimp only at h
  repeat' split at h
  all_goals first
    | exact (Prod.mk.inj h).2.symm
    | cases (Prod.mk.inj h).1

theorem claim_error {srv : Server} {k : String} {line : String} {srv' : Server}
    (h : claim srv k = (.error line, srv')) : srv' = srv := by
  unfold claim at h
  repeat' split at h
  all_goals first
    | exact (Prod.mk.inj h).2.symm
    | cases (Prod.mk.inj h).1

namespace Server

variable {srv : Server} {now : Instant}

/-- A command answered with an error changes nothing but the purge of the expired keys. -/
theorem exec_error {args : List String} {line : String} {srv' : Server}
    (h : srv.exec now args = (.error line, srv')) : srv' = srv.purge now := by
  unfold Server.exec at h
  dsimp only at h
  repeat' split at h
  all_goals first
    | exact (Prod.mk.inj h).2.symm
    | cases (Prod.mk.inj h).1
    | exact incrBy_error h
    | exact claim_error h

theorem live_exec_error {args : List String} {line : String}
    (h : (srv.exec now args).1 = .error line) : (srv.exec now args).2.live now = srv.live now := by
  have h' : srv.exec now args = (.error line, (srv.exec now args).2) := Prod.ext h rfl
  rw [exec_error h', live_purge]

/-- A command the server is told to fail, named as it is spelled, answers an error. -/
theorem exec_error_of_failing {cmd : String} (rest : List String) (hup : cmd.toUpper = cmd)
    (hf : srv.failing.contains cmd = true) : ∃ line, (srv.exec now (cmd :: rest)).1 = .error line :=
  ⟨_, by rw [exec_failing srv now rest (by rw [hup]; exact hf)]⟩

variable (srv now) in
/-- `INCRBY`: an error, or the count put under its key. -/
theorem exec_incrBy_cases (key d : String) :
    (∃ line, (srv.exec now ["INCRBY", key, d]).1 = .error line) ∨
      ∃ r e, e.key = key ∧ srv.exec now ["INCRBY", key, d] = (.int r, (srv.purge now).put e) := by
  have hup : "INCRBY".toUpper = "INCRBY" := by cbv
  simp only [exec, hup, failing_purge]
  split
  · exact .inl ⟨_, rfl⟩
  · split
    · exact .inl ⟨_, rfl⟩
    · unfold exec.incrBy
      dsimp only
      repeat' split
      all_goals first
        | exact .inl ⟨_, rfl⟩
        | exact .inr ⟨_, _, rfl, rfl⟩

/-- `EXPIRE` changes no key but its own, when the entry it finds there is kept under it. -/
theorem live_exec_expire_of_ne {key k x : String} (hk : k ≠ key)
    (hkeyed : ∀ e, (srv.purge now).find? key = some e → e.key = key) :
    (srv.exec now ["EXPIRE", key, x]).2.live now k = srv.live now k := by
  have hup : "EXPIRE".toUpper = "EXPIRE" := by cbv
  simp only [exec, hup, failing_purge]
  split
  · exact congrFun (live_purge srv now) k
  · split
    · exact congrFun (live_purge srv now) k
    · split
      · exact congrFun (live_purge srv now) k
      · -- a time to live that is taken, on the entry found under the key
        split
        · exact congrFun (live_purge srv now) k
        · rename_i e he
          split
          · rw [live_erase_of_ne hk]
            exact congrFun (live_purge srv now) k
          · rw [live_put_of_ne (by rw [hkeyed e he]; exact hk)]
            exact congrFun (live_purge srv now) k

variable (srv now) in
theorem exec_set_cases (k v : String) :
    (∃ line, (srv.exec now ["SET", k, v]).1 = .error line) ∨
      srv.exec now ["SET", k, v] = (.status "OK", (srv.purge now).put ⟨k, .str v, none⟩) := by
  have hup : "SET".toUpper = "SET" := by cbv
  cases hf : srv.failing.contains "SET"
  · right
    simp only [exec, hup, failing_purge, hf]
    rfl
  · exact .inl (exec_error_of_failing _ hup hf)

/-- `SETEX` with a positive count of seconds whose deadline fits keeps the text that long. -/
theorem exec_setex_ok {k v : String} {n : Nat} (hf : srv.failing.contains "SETEX" = false)
    (hpos : 0 < n) (hfits : setExpiryFits now (n * 1000)) :
    srv.exec now ["SETEX", k, toString n, v] =
      (.status "OK", (srv.purge now).put ⟨k, .str v, some (now.add (Span.ofSeconds n))⟩) := by
  have hup : "SETEX".toUpper = "SETEX" := by cbv
  -- the count is read back as itself
  have hparse : parseInt64? (toString n) = some (n : Int) :=
    parseInt64?_toString (le_maxInt64_of_expiryFits (expiryFits_of_setExpiryFits hfits))
  simp only [exec, hup, failing_purge, hf, hparse, hfits, Bool.not_true, Bool.false_eq_true,
    or_false, if_false, if_neg (show ¬((n : Int) ≤ 0) by omega)]

variable (srv now) in
/-- `SETEX` with a count of seconds: an error, or the text kept expiring that many seconds on,
when the count is positive and its deadline fits in Redis's milliseconds. -/
theorem exec_setex_cases (k v : String) (n : Nat) :
    (∃ line, (srv.exec now ["SETEX", k, toString n, v]).1 = .error line) ∨
      0 < n ∧ setExpiryFits now (n * 1000) ∧ srv.exec now ["SETEX", k, toString n, v] =
        (.status "OK", (srv.purge now).put ⟨k, .str v, some (now.add (Span.ofSeconds n))⟩) := by
  have hup : "SETEX".toUpper = "SETEX" := by cbv
  cases hf : srv.failing.contains "SETEX"
  · by_cases hok : 0 < n ∧ setExpiryFits now (n * 1000) = true
    · exact .inr ⟨hok.1, hok.2, exec_setex_ok hf hok.1 hok.2⟩
    · left
      have hbad : (n : Int) ≤ 0 ∨ (!setExpiryFits now (n * 1000)) = true := by
        by_cases hn : n = 0
        · exact .inl (by omega)
        · exact .inr (by simpa [Nat.pos_of_ne_zero hn] using hok)
      have hparse : parseInt64? (toString n) =
          if (n : Int) ≤ maxInt64 then some (n : Int) else none :=
        parseInt64?_natCast n
      simp only [exec, hup, failing_purge, hf, hparse, Bool.false_eq_true, if_false]
      by_cases hmax : (n : Int) ≤ maxInt64
      · rw [if_pos hmax]
        dsimp only
        rw [if_pos hbad]
        exact ⟨_, rfl⟩
      · rw [if_neg hmax]
        exact ⟨_, rfl⟩
  · exact .inl (exec_error_of_failing _ hup hf)

end Server

/-- The set under `k` with `m` added, from the entry `old` found there: a set keeps its members
and its expiry, and a key holding nothing starts a set that never expires. -/
def withMember (old : Option Entry) (k m : String) : Entry :=
  match old with
  | some ⟨_, .set xs, x⟩ => ⟨k, .set (insertMember m xs), x⟩
  | _ => ⟨k, .set [m], none⟩

theorem withMember_key (old : Option Entry) (k m : String) : (withMember old k m).key = k := by
  unfold withMember
  split <;> rfl

theorem mem_insertMember (m : String) (xs : List String) : m ∈ insertMember m xs := by
  induction xs with
  | nil => exact List.mem_singleton_self m
  | cons x xs ih =>
    unfold insertMember
    split
    · rename_i hx
      rw [beq_iff_eq] at hx
      exact hx ▸ List.mem_cons_self
    · split
      · exact List.mem_cons_self
      · exact List.mem_cons_of_mem x ih

/-- The set built by adding a member holds it. -/
theorem withMember_value (old : Option Entry) (k m : String) :
    ∃ xs, (withMember old k m).value = .set xs ∧ m ∈ xs := by
  unfold withMember
  split
  · exact ⟨_, rfl, mem_insertMember _ _⟩
  · exact ⟨_, rfl, List.mem_singleton_self m⟩

namespace Server

variable {srv : Server} {now : Instant}

theorem isLive_withMember (k m : String) :
    isLive now (withMember ((srv.purge now).find? k) k m) = true := by
  rcases hfind : (srv.purge now).find? k with _ | ⟨k', _ | xs, x⟩
  · rfl
  · rfl
  · -- the set keeps the expiry of a live entry
    have h := isLive_of_find?_purge srv now hfind
    exact h

variable (srv now) in
/-- `SADD` of one member: an error, or the set with the member added. -/
theorem exec_sadd_cases (k m : String) :
    (∃ line, (srv.exec now ["SADD", k, m]).1 = .error line) ∨
      ∃ n, srv.exec now ["SADD", k, m] =
        (.int n, (srv.purge now).put (withMember ((srv.purge now).find? k) k m)) := by
  have hup : "SADD".toUpper = "SADD" := by cbv
  cases hf : srv.failing.contains "SADD"
  · simp only [exec, hup, failing_purge, hf, Bool.false_eq_true, if_false]
    rcases hfind : (srv.purge now).find? k with _ | ⟨k', _ | xs, x⟩
    · exact .inr ⟨_, rfl⟩
    · exact .inl ⟨_, rfl⟩
    · exact .inr ⟨_, rfl⟩
  · exact .inl (exec_error_of_failing _ hup hf)

variable (srv now) in
/-- `EXPIRE` with a positive count of seconds on an entry just put, still live: an error, or
the entry kept expiring that many seconds on. -/
theorem exec_expire_put_cases {e : Entry} {k : String} {w : Nat} (hk : e.key = k) (hw0 : 0 < w)
    (hfits : expiryFits now (w * 1000)) (hlive : isLive now e = true) :
    (∃ line, ((srv.put e).exec now ["EXPIRE", k, toString (w : Int)]).1 = .error line) ∨
      (srv.put e).exec now ["EXPIRE", k, toString (w : Int)] =
        (.int 1, ((srv.put e).purge now).put { e with expiry := some (now.add (Span.ofSeconds w)) }) := by
  obtain ⟨k, v, x⟩ := e
  cases hk
  cases hf : srv.failing.contains "EXPIRE"
  · have hs : ((srv.put ⟨k, v, x⟩).purge now).find? k = some ⟨k, v, x⟩ := by
      rw [find?_purge, find?_put, if_pos rfl]
      simp [hlive]
    -- the count is sent as the text of an integer, which is the text of the natural number
    refine .inr ((exec_expire (by simpa using hf) hfits hs).trans ?_)
    rw [if_neg (by omega)]
  · have hup : "EXPIRE".toUpper = "EXPIRE" := by cbv
    exact .inl (exec_error_of_failing _ hup (by rw [failing_put]; exact hf))

variable (srv now) in
/-- What a `GET` read: nothing for a key holding nothing live, the text a key holds. -/
theorem exec_get_reads (k : String) {text : Option String}
    (h : (srv.exec now ["GET", k]).1.check.bind Reply.optString = .ok text) :
    (text = none ∧ srv.live now k = none) ∨
      ∃ k' x v, text = some v ∧ srv.live now k = some ⟨k', .str v, x⟩ := by
  have hup : "GET".toUpper = "GET" := by cbv
  cases hf : srv.failing.contains "GET"
  · simp only [exec, hup, failing_purge, hf, Bool.false_eq_true, if_false] at h
    unfold live
    rcases hfind : (srv.purge now).find? k with _ | ⟨k', _ | xs, x⟩
    · rw [hfind] at h
      cases h
      exact .inl ⟨rfl, rfl⟩
    · rw [hfind] at h
      cases h
      exact .inr ⟨_, _, _, rfl, rfl⟩
    · rw [hfind] at h
      cases h
  · simp only [exec, hup, failing_purge, hf] at h
    cases h

end Server

/-! ## Entries written in order -/

/-- The live entries `v` with the entries `es` put in order, each under its own key. -/
def written (v : String → Option Entry) (es : List Entry) : String → Option Entry :=
  es.foldl (fun v e => Function.update v e.key (some e)) v

@[simp] theorem written_nil (v : String → Option Entry) : written v [] = v := rfl

@[simp] theorem written_cons (v : String → Option Entry) (e : Entry) (es : List Entry) :
    written v (e :: es) = written (Function.update v e.key (some e)) es := rfl

theorem written_append (v : String → Option Entry) (es es' : List Entry) :
    written v (es ++ es') = written (written v es) es' :=
  List.foldl_append

/-- Writes made over live entries that agree off one key agree off it too. -/
theorem written_congr {v v' : String → Option Entry} {c : String}
    (h : ∀ k, k ≠ c → v k = v' k) (es : List Entry) :
    ∀ k, k ≠ c → written v es k = written v' es k := by
  induction es generalizing v v' with
  | nil => exact h
  | cons e es ih =>
    refine ih fun k hk => ?_
    by_cases hke : k = e.key
    · subst hke
      simp
    · simp [Function.update_of_ne hke, h k hk]

/-- Writes under other keys leave a key as it was. -/
theorem written_of_ne {k : String} {es : List Entry} (h : ∀ e ∈ es, e.key ≠ k)
    (v : String → Option Entry) : written v es k = v k := by
  induction es generalizing v with
  | nil => rfl
  | cons e es ih =>
    rw [written_cons, ih (fun e' he' => h e' (List.mem_cons_of_mem e he')),
      Function.update_of_ne (h e List.mem_cons_self).symm]

end Redis

/-! ## The session store -/

namespace SessionStore

theorem client_run {α : Type} (m : KeyValue.ClientM α) (b : Backend) :
    (client m).run.run b = ((m.run.run b).1.mapError StoreError.server, (m.run.run b).2) := rfl

/-- Texts that begin with prefixes differing in their first `n` characters differ. -/
theorem append_ne_append {p q x y : String} (n : Nat) (hp : n ≤ p.toList.length)
    (hq : n ≤ q.toList.length) (h : p.toList.take n ≠ q.toList.take n) : p ++ x ≠ q ++ y := by
  intro hpq
  have := congrArg (fun s => s.toList.take n) hpq
  simp only [String.toList_append, List.take_append_of_le_length hp,
    List.take_append_of_le_length hq] at this
  exact h this

theorem sessionKey_ne_accountSessionsKey (t a : String) : sessionKey t ≠ accountSessionsKey a :=
  append_ne_append 1 (by decide) (by decide) (by decide)

theorem accountKey_ne_accountSessionsKey (a a' : String) : accountKey a ≠ accountSessionsKey a' :=
  append_ne_append 8 (by decide) (by decide) (by decide)

/-- The writes that keep the session `s` for `ttl` seconds at `now`, in the order they are sent,
over the live entries `v`: the session under its key, its token added to its account's set, and
the set renewed to expire with the session. -/
def sessionWrites (now : Instant) (ttl : Nat) (s : StoredSession)
    (v : String → Option Redis.Entry) : List Redis.Entry :=
  let tracked := Redis.withMember (v (accountSessionsKey s.address)) (accountSessionsKey s.address)
    s.token
  [⟨sessionKey s.token, .str s.toText, some (now.add (.ofSeconds ttl))⟩, tracked,
    { tracked with expiry := some (now.add (.ofSeconds ttl)) }]

/-- The session's writes read the live entries only at its account's set. -/
theorem sessionWrites_congr {now : Instant} {ttl : Nat} {s : StoredSession}
    {v v' : String → Option Redis.Entry}
    (h : v (accountSessionsKey s.address) = v' (accountSessionsKey s.address)) :
    sessionWrites now ttl s v = sessionWrites now ttl s v' := by
  unfold sessionWrites
  rw [h]

section Run

variable {b : Backend}

theorem command_run_of_error {args : List String} {line : String}
    (h : (b.kv.exec b.clock.now args).1 = .error line) :
    (KeyValue.command args).run.run b =
      (.error (Redis.Failure.ofErrorLine line), { b with kv := (b.kv.exec b.clock.now args).2 }) := by
  rw [KeyValue.command_run, h]
  rfl

theorem command_run_of_reply {args : List String} {r : Redis.Reply} {srv : Redis.Server}
    (h : b.kv.exec b.clock.now args = (r, srv)) (hr : r.check = .ok r) :
    (KeyValue.command args).run.run b = (.ok r, { b with kv := srv }) := by
  rw [KeyValue.command_run, h]
  dsimp only
  rw [hr]

theorem storeSession_run (s : StoredSession) (ttl : Nat) (b : Backend) :
    ∃ j kv', j ≤ 3 ∧ ((storeSession s ttl).run.run b).2 = { b with kv := kv' } ∧
      kv'.live b.clock.now = Redis.written (b.kv.live b.clock.now)
        ((sessionWrites b.clock.now ttl s (b.kv.live b.clock.now)).take j) ∧
      (((storeSession s ttl).run.run b).1 = .ok () ↔ j = 3) ∧
      (0 < j → 0 < ttl ∧ Redis.setExpiryFits b.clock.now (ttl * 1000)) := by
  unfold storeSession
  rw [client_run]
  rcases Redis.Server.exec_setex_cases b.kv b.clock.now (sessionKey s.token) s.toText ttl with
    ⟨line, hl⟩ | ⟨hpos, hfits, hex⟩
  · -- the session is refused: nothing is written
    rw [Backend.run_bind_of_error (command_run_of_error hl)]
    exact ⟨0, _, by omega, rfl, Redis.Server.live_exec_error hl, by simp [Except.mapError],
      by omega⟩
  -- the session is kept: from here on the clock reads as before and the session's key is live
  set t := b.clock.now
  set e₁ : Redis.Entry := ⟨sessionKey s.token, .str s.toText, some (t.add (.ofSeconds ttl))⟩
  set k := accountSessionsKey s.address
  have hlive₁ : Redis.Server.isLive t e₁ = true := by
    simp [Redis.Server.isLive, e₁, Instant.lt_add_ofSeconds t (show (0 : Int) < ttl by omega)]
  set srv₁ := (b.kv.purge t).put e₁
  have hv₁ : srv₁.live t = Redis.written (b.kv.live t) [e₁] := by
    rw [Redis.Server.live_put hlive₁, Redis.Server.live_purge]
    rfl
  have hk₁ : srv₁.live t k = b.kv.live t k := by
    rw [hv₁, Redis.written_cons, Redis.written_nil,
      Function.update_of_ne (sessionKey_ne_accountSessionsKey _ _).symm]
  rw [Backend.run_bind_of_ok (command_run_of_reply hex rfl)]
  rcases Redis.Server.exec_sadd_cases srv₁ t k s.token with ⟨line, hl⟩ | ⟨n, hex₂⟩
  · -- the token is not added: the session alone is written
    rw [Backend.run_bind_of_error (command_run_of_error (b := { b with kv := srv₁ }) hl)]
    refine ⟨1, _, by omega, rfl, ?_, by simp [Except.mapError], fun _ => ⟨by omega, hfits⟩⟩
    rw [Redis.Server.live_exec_error hl, hv₁]
    rfl
  -- the token is added to the set found live under the account's key
  set e₂ := Redis.withMember (b.kv.live t k) k s.token
  have he₂ : Redis.withMember ((srv₁.purge t).find? k) k s.token = e₂ := by
    show Redis.withMember (srv₁.live t k) k s.token = e₂
    rw [hk₁]
  rw [he₂] at hex₂
  have hlive₂ : Redis.Server.isLive t e₂ = true := by
    rw [← he₂]
    exact Redis.Server.isLive_withMember k s.token
  set srv₂ := (srv₁.purge t).put e₂
  have hv₂ : srv₂.live t = Redis.written (b.kv.live t) [e₁, e₂] := by
    rw [Redis.Server.live_put hlive₂, Redis.Server.live_purge, hv₁]
    rfl
  rw [Backend.run_bind_of_ok (command_run_of_reply (b := { b with kv := srv₁ }) hex₂ rfl),
    signedSeconds_of_le (Redis.Server.le_maxInt64_of_expiryFits
      (Redis.Server.expiryFits_of_setExpiryFits hfits))]
  rcases Redis.Server.exec_expire_put_cases (srv₁.purge t) t (Redis.withMember_key _ k s.token)
      hpos (Redis.Server.expiryFits_of_setExpiryFits hfits) hlive₂ with ⟨line, hl⟩ | hex₃
  · -- the set's lifetime is not renewed
    rw [Backend.run_bind_of_error (command_run_of_error (b := { b with kv := srv₂ }) hl)]
    refine ⟨2, _, by omega, rfl, ?_, by simp [Except.mapError], fun _ => ⟨hpos, hfits⟩⟩
    rw [Redis.Server.live_exec_error hl, hv₂]
    rfl
  · -- all three are written
    set e₃ : Redis.Entry := { e₂ with expiry := some (t.add (.ofSeconds ttl)) }
    have hlive₃ : Redis.Server.isLive t e₃ = true := by
      simp [Redis.Server.isLive, e₃, Instant.lt_add_ofSeconds t (show (0 : Int) < ttl by omega)]
    rw [Backend.run_bind_of_ok (command_run_of_reply (b := { b with kv := srv₂ }) hex₃ rfl)]
    refine ⟨3, _, le_refl 3, rfl, ?_, iff_of_true rfl rfl, fun _ => ⟨hpos, hfits⟩⟩
    rw [Redis.Server.live_put hlive₃, Redis.Server.live_purge, hv₂]
    rfl

/-- The account a live entry is read as: no entry as no account, a kept text as the account it
reads back as. -/
def ReadsAs : Option Redis.Entry → Option StoredAccount → Prop
  | none, old => old = none
  | some ⟨_, .str text, _⟩, old => ∃ a, StoredAccount.ofText text = .ok a ∧ old = some a
  | some ⟨_, .set _, _⟩, _ => False

theorem readBack_keeps {α : Type} (read : String → Except Json.ReadError α) (text : Option String) :
    Backend.Keeps (readBack read text) := by
  unfold readBack
  split
  · exact Backend.keeps_pure _
  · split
    · exact Backend.keeps_pure _
    · exact Backend.keeps_throw _

theorem getAccount_run_snd (address : String) (b : Backend) :
    ((getAccount address).run.run b).2 = { b with kv := b.kv.purge b.clock.now } := by
  unfold getAccount
  rw [Backend.snd_bind_of_keeps (readBack_keeps _) b, client_run, KeyValue.optString_run]
  dsimp only
  rw [Redis.Server.exec_get]

/-- An account read is the account kept live under its key. -/
theorem getAccount_reads (address : String) (b : Backend) {old : Option StoredAccount}
    (h : ((getAccount address).run.run b).1 = .ok old) :
    ReadsAs (b.kv.live b.clock.now (accountKey address)) old := by
  unfold getAccount at h
  rw [Backend.run_run_bind, client_run, KeyValue.optString_run] at h
  dsimp only at h
  cases hg : (b.kv.exec b.clock.now ["GET", accountKey address]).1.check.bind Redis.Reply.optString with
  | error f =>
    rw [hg] at h
    cases h
  | ok text =>
    rw [hg] at h
    simp only [Except.mapError, readBack] at h
    rcases Redis.Server.exec_get_reads b.kv b.clock.now (accountKey address) hg with
      ⟨rfl, hnone⟩ | ⟨k', x, v, rfl, hsome⟩
    · rw [hnone]
      cases h
      rfl
    · rw [hsome]
      cases hv : StoredAccount.ofText v with
      | error e =>
        simp only [hv] at h
        cases h
      | ok a =>
        simp only [hv] at h
        cases h
        exact ⟨a, hv, rfl⟩

/-- A sign-in recorded on the account: the read fails and nothing is written, or the account
read is renewed and written back, or the write fails. -/
theorem recordLogin_run (address : String) (chainId now : Nat) (b : Backend) :
    ∃ kv', ((recordLogin address chainId now).run.run b).2 = { b with kv := kv' } ∧
      ((∃ e, ((recordLogin address chainId now).run.run b).1 = .error e) ∧
          kv'.live b.clock.now = b.kv.live b.clock.now ∨
        ∃ old, ReadsAs (b.kv.live b.clock.now (accountKey address)) old ∧
          ((recordLogin address chainId now).run.run b).1 =
            .ok (StoredAccount.afterLogin old address chainId now) ∧
          kv'.live b.clock.now = Redis.written (b.kv.live b.clock.now)
            [⟨accountKey address, .str (StoredAccount.afterLogin old address chainId now).toText,
              none⟩]) := by
  unfold recordLogin
  rw [Backend.run_run_bind]
  have hsnd := getAccount_run_snd address b
  rcases hget : (getAccount address).run.run b with ⟨_ | old, b₁⟩
  · -- the read failed
    rw [hget] at hsnd
    dsimp only at hsnd ⊢
    subst hsnd
    exact ⟨_, rfl, .inl ⟨⟨_, rfl⟩, Redis.Server.live_purge _ _⟩⟩
  · have hreads := getAccount_reads address b (by rw [hget])
    rw [hget] at hsnd
    dsimp only at hsnd ⊢
    subst hsnd
    -- the account read is renewed and sent back with `SET`
    set acct := StoredAccount.afterLogin old address chainId now
    set srv := b.kv.purge b.clock.now
    rw [Backend.run_run_bind, client_run]
    rcases Redis.Server.exec_set_cases srv b.clock.now (accountKey address) acct.toText with
      ⟨line, hl⟩ | hex
    · rw [command_run_of_error (b := { b with kv := srv }) hl]
      refine ⟨_, rfl, .inl ⟨⟨_, rfl⟩, ?_⟩⟩
      rw [Redis.Server.live_exec_error hl, Redis.Server.live_purge]
    · rw [command_run_of_reply (b := { b with kv := srv }) hex rfl]
      refine ⟨_, rfl, .inr ⟨old, hreads, rfl, ?_⟩⟩
      rw [Redis.Server.live_put rfl, Redis.Server.live_purge, Redis.Server.live_purge]
      rfl

end Run

end SessionStore

/-! ## The limiter -/

/-- The limiter changes no key but its counter. -/
theorem checkRateLimit_frame (key : String) (max window : Nat) (b : Backend) :
    ∃ kv', ((checkRateLimit key max window).run.run b).2 = { b with kv := kv' } ∧
      ∀ k, k ≠ key → kv'.live b.clock.now k = b.kv.live b.clock.now k := by
  unfold checkRateLimit
  rw [Backend.run_run_bind, KeyValue.integer_run]
  rcases Redis.Server.exec_incrBy_cases b.kv b.clock.now key "1" with ⟨line, hl⟩ | ⟨r, e, hkey, hex⟩
  · rw [hl]
    exact ⟨_, rfl, fun k _ => by rw [Redis.Server.live_exec_error hl]⟩
  · -- the count is kept under the counter's key; `EXPIRE` follows only when it reads as one
    rw [hex]
    simp only [Redis.Reply.check, Except.bind, Redis.Reply.integer]
    have hkeyed : ∀ e', (((b.kv.purge b.clock.now).put e).purge b.clock.now).find? key = some e' →
        e'.key = key := by
      intro e' he'
      rw [Redis.Server.find?_purge, Redis.Server.find?_put, if_pos hkey] at he'
      obtain ⟨h1, -⟩ := Option.filter_eq_some_iff.1 he'
      cases h1
      exact hkey
    have hput : ∀ k, k ≠ key →
        ((b.kv.purge b.clock.now).put e).live b.clock.now k = b.kv.live b.clock.now k := by
      intro k hk
      rw [Redis.Server.live_put_of_ne (hkey ▸ hk)]
      exact congrFun (Redis.Server.live_purge b.kv b.clock.now) k
    split
    · rw [Backend.snd_bind_of_keeps (fun _ => Backend.keeps_pure _)]
      show ∃ kv', ((Functor.map _ (KeyValue.command _)).run.run _).2 = _ ∧ _
      rw [ExceptT.run_map, StateT.run_map, KeyValue.command_run]
      refine ⟨_, rfl, fun k hk => ?_⟩
      rw [Redis.Server.live_exec_expire_of_ne hk hkeyed, hput k hk]
    · exact ⟨_, rfl, hput⟩

end WalletAuth
