import WalletAuth.Proofs.Session.Writes
import WalletAuth.Proofs.Handshake.Soundness

/-!
# WalletAuth.Proofs.Server.SignIn — what a sign-in request leaves behind

`POST /api/auth/verify` counts the request, checks the signed answer and spends its nonce, and
then writes in turn the account's record, the session, the session's token into its account's
set, and the set's lifetime. Nothing undoes a write when a later one fails, so a request is not
all or nothing. `verify_outcome` says what it is instead, for every request and every failing
command, with the nonces kept in process and the clock at rest (`SignInOutcome`):

* refused before the handshake accepted the answer: the nonces are spared (`Spared`), and no key
  but the request counter changed;
* accepted, then failed: the nonce is spent, and exactly the first `j < 4` of the writes
  (`signInWrites`) were made;
* accepted and answered with a token: all four writes were made, so the session is live for the
  session lifetime, and its token is in its account's set, which expires with it.

The handshake touches only the nonces (`Prog.run_noncesOnly`); the writes are those of
`WalletAuth.Proofs.Session.Writes`.
-/

namespace WalletAuth

/-! ## The handshake touches only the nonces -/

namespace Backend

/-- The backend `b'` is `b` with at most its nonce store, still in process, and its entropy
changed. -/
structure NoncesOnly (b b' : Backend) : Prop where
  clock : b'.clock = b.clock
  kv : b'.kv = b.kv
  tokens : b'.tokens = b.tokens
  inProcess : ∃ m, b'.nonces = .memory m []

theorem NoncesOnly.trans {b₁ b₂ b₃ : Backend} (h₁ : NoncesOnly b₁ b₂) (h₂ : NoncesOnly b₂ b₃) :
    NoncesOnly b₁ b₃ :=
  ⟨h₂.clock.trans h₁.clock, h₂.kv.trans h₁.kv, h₂.tokens.trans h₁.tokens, h₂.inProcess⟩

end Backend

section InProcess

variable {b : Backend} {m : MemoryStore}

/-- A step on an in-process store, the clock at rest, changes only the store and the entropy. -/
theorem Action.exec_noncesOnly (x : Action) (hb : b.nonces = .memory m [])
    (hrest : b.clock.step = ⟨0⟩) : Backend.NoncesOnly b (x.exec.run b).2 := by
  cases x with
  | now =>
    show Backend.NoncesOnly b (Backend.now.run b).2
    rw [Backend.now_run_of_rest hrest]
    exact ⟨rfl, rfl, rfl, m, hb⟩
  | freshNonce => exact ⟨rfl, rfl, rfl, m, hb⟩
  | insert r t =>
    show Backend.NoncesOnly b ((NonceStore.insert r t).run.run b).2
    rw [NonceStore.insert_run_memory hb]
    split
    · exact ⟨rfl, rfl, rfl, _, rfl⟩
    · exact ⟨rfl, rfl, rfl, m, hb⟩
  | get a n =>
    show Backend.NoncesOnly b ((NonceStore.get a n).run.run b).2
    rw [NonceStore.get_run_memory hb]
    exact ⟨rfl, rfl, rfl, m, hb⟩
  | claim a n =>
    show Backend.NoncesOnly b ((NonceStore.claim a n).run.run b).2
    rw [NonceStore.claim_run_memory hb]
    exact ⟨rfl, rfl, rfl, _, rfl⟩
  | remove a n =>
    show Backend.NoncesOnly b ((NonceStore.remove a n).run.run b).2
    rw [NonceStore.remove_run_memory hb]
    exact ⟨rfl, rfl, rfl, _, rfl⟩
  | purge t =>
    show Backend.NoncesOnly b ((NonceStore.purgeExpired t).run.run b).2
    rw [NonceStore.purgeExpired_run_memory hb]
    exact ⟨rfl, rfl, rfl, _, rfl⟩

/-- A computation of nonce steps alone on an in-process store, the clock at rest, changes only the
store and the entropy. -/
theorem Prog.run_noncesOnly {α : Type} (p : Prog α) (hb : b.nonces = .memory m [])
    (hrest : b.clock.step = ⟨0⟩) : Backend.NoncesOnly b (p.run.run b).2 := by
  induction p generalizing b m with
  | pure a => exact ⟨rfl, rfl, rfl, m, hb⟩
  | step x k ih =>
    -- each step keeps the store in process and the clock at rest, so the rest runs alike
    rw [Prog.run_step_run]
    have h₁ := x.exec_noncesOnly hb hrest
    obtain ⟨m₁, hm₁⟩ := h₁.inProcess
    exact h₁.trans (ih _ hm₁ (h₁.clock ▸ hrest))


end InProcess

namespace Handshake

/-- On in-process stores, what a verification accepted is seen alike from any backends holding
the same nonces. -/
theorem Accepted.of_nonces {p : ChallengePolicy} {signed : SignedResponse} {now : Instant}
    {b₁ b₂ b b' : Backend} {c : Challenge} {id : Identity} {m m₂ : MemoryStore}
    (h : Accepted p signed now b₁ b₂ c id) (hm : b.nonces = .memory m [])
    (hm₁ : b₁.nonces = .memory m []) (hm₂ : b₂.nonces = .memory m₂ [])
    (hm' : b'.nonces = .memory m₂ []) : Accepted p signed now b b' c id := by
  obtain ⟨r, hlt, hbefore, hafter⟩ := h.spent
  rw [NonceStore.get_run_memory hm₁] at hbefore
  rw [NonceStore.get_run_memory hm₂] at hafter
  exact { h with spent := ⟨r, hlt, by rw [NonceStore.get_run_memory hm]; exact hbefore,
    by rw [NonceStore.get_run_memory hm']; exact hafter⟩ }

end Handshake

/-! ## The request, step by step -/

namespace App

theorem connect_run (app : App) (b : Backend) :
    app.connect.run.run b = (if app.kvReachable then .ok () else
      .error (.internal ("Redis connection error: " ++ Redis.Failure.missingSocket.message)), b) := by
  unfold connect
  split <;> rfl

theorem refuse_run {α : Type} (r : Except AuthError α) (b : Backend) :
    (refuse r).run.run b = (r.mapError ApiError.ofAuth, b) := by
  cases r <;> rfl

theorem storage_run {α : Type} (m : SessionStore.StorageM α) (b : Backend) :
    (storage m).run.run b =
      ((m.run.run b).1.mapError (fun e => ApiError.ofStore e.message), (m.run.run b).2) := rfl

theorem lift_run {α : Type} (x : BackendM α) (b : Backend) :
    (monadLift x : AppM α).run.run b = (.ok (x.run b).1, (x.run b).2) := rfl

/-- The limiter of a request changes no key but its counter. -/
theorem enforceRateLimit_run (app : App) (peer : Net.SocketAddress) (b : Backend) :
    ∃ kv', ((app.enforceRateLimit peer).run.run b).2 = { b with kv := kv' } ∧
      ∀ k, k ≠ "ratelimit:auth:" ++ peer.hostText →
        kv'.live b.clock.now k = b.kv.live b.clock.now k := by
  obtain ⟨kv', hrun, hkept⟩ := checkRateLimit_frame ("ratelimit:auth:" ++ peer.hostText)
    app.config.rateLimitAuthPerMin 60 b
  refine ⟨kv', ?_, hkept⟩
  unfold enforceRateLimit
  rw [Backend.snd_bind_of_keeps (fun allowed => ?_)]
  · exact hrun
  · cases allowed
    · exact Backend.keeps_throw _
    · exact Backend.keeps_pure _

end App

/-! ## What a sign-in writes -/

/-- The key the requests of a peer are counted under. -/
def counterKey (peer : Net.SocketAddress) : String := "ratelimit:auth:" ++ peer.hostText

/-- The session a sign-in of `id` opens under `token`. -/
def Identity.session (id : Identity) (token : String) : StoredSession :=
  ⟨token, id.address.checksummed, id.chainId, id.verifiedAt.secs.toNat⟩

/-- The writes of a sign-in of `id` at `now` under `token`, in the order they are sent, over the
live entries `v`: the account's record renewed from `old`, then the session kept `ttl` seconds
and tracked under its account. -/
def signInWrites (now : Instant) (ttl : Nat) (id : Identity) (old : Option StoredAccount)
    (token : String) (v : String → Option Redis.Entry) : List Redis.Entry :=
  let s := id.session token
  ⟨SessionStore.accountKey s.address,
    .str (StoredAccount.afterLogin old s.address s.chainId s.createdAt).toText, none⟩ ::
    SessionStore.sessionWrites now ttl s v

/-- The answer to a sign-in of `id` under `token`. -/
def signedInResponse (id : Identity) (token : String) : Http.Response :=
  .json 200 (.obj [("token", .str token), ("address", .str id.address.checksummed),
    ("chain_id", .int id.chainId), ("verified_at", .str (Rfc3339.formatAuto id.verifiedAt))])

namespace SessionStore

theorem sessionKey_ne_counterKey (t : String) (p : Net.SocketAddress) :
    sessionKey t ≠ counterKey p :=
  append_ne_append 1 (by decide) (by decide) (by decide)

theorem accountKey_ne_counterKey (a : String) (p : Net.SocketAddress) :
    accountKey a ≠ counterKey p :=
  append_ne_append 1 (by decide) (by decide) (by decide)

theorem accountSessionsKey_ne_counterKey (a : String) (p : Net.SocketAddress) :
    accountSessionsKey a ≠ counterKey p :=
  append_ne_append 1 (by decide) (by decide) (by decide)

end SessionStore

open SessionStore in
/-- After all four writes of a sign-in, the session is kept under its key, expiring `ttl` seconds
on. -/
theorem written_signInWrites_session (now : Instant) (ttl : Nat) (id : Identity)
    (old : Option StoredAccount) (token : String) (v : String → Option Redis.Entry) :
    Redis.written v (signInWrites now ttl id old token v) (sessionKey token) =
      some ⟨sessionKey token, .str (id.session token).toText, some (now.add (.ofSeconds ttl))⟩ := by
  simp [signInWrites, sessionWrites, Redis.withMember_key, Identity.session,
    (sessionKey_ne_accountSessionsKey _ _)]

open SessionStore in
/-- After all four writes of a sign-in, its token is in its account's set, which expires with the
session. -/
theorem written_signInWrites_tracked (now : Instant) (ttl : Nat) (id : Identity)
    (old : Option StoredAccount) (token : String) (v : String → Option Redis.Entry) :
    ∃ xs, Redis.written v (signInWrites now ttl id old token v)
        (accountSessionsKey id.address.checksummed) =
      some ⟨accountSessionsKey id.address.checksummed, .set xs, some (now.add (.ofSeconds ttl))⟩ ∧
      token ∈ xs := by
  obtain ⟨xs, hxs, hmem⟩ := Redis.withMember_value
    (v (accountSessionsKey id.address.checksummed)) (accountSessionsKey id.address.checksummed) token
  refine ⟨xs, ?_, hmem⟩
  simp [signInWrites, sessionWrites, Redis.withMember_key, Identity.session, hxs]

/-! ## The outcome of a request -/

open SessionStore Handshake in
/-- What a sign-in request did, from the backend `b` whose nonces are kept in process as `m` to
the answer and the backend after it, the clock reading `b.clock.now` throughout. -/
inductive SignInOutcome (app : App) (req : Http.Request) (body : VerifyBody) (b : Backend)
    (m : MemoryStore) : Except ApiError Http.Response → Backend → Prop
  /-- Refused before the handshake accepted: the nonces are spared, and no key but the request
  counter changed. -/
  | refused {e : ApiError} {b' : Backend} (sig : ByteArray) (err : AuthError)
      (spared : Spared m b.clock.now ⟨body.message, sig⟩ err b'.nonces)
      (kept : ∀ k, k ≠ counterKey req.peer →
        b'.kv.live b.clock.now k = b.kv.live b.clock.now k) :
      SignInOutcome app req body b m (.error e) b'
  /-- Accepted, its nonce spent, then failed after the first `j` of the four writes: those were
  made, and no other key but the request counter changed. -/
  | interrupted {e : ApiError} {b' : Backend} (sig : ByteArray) (c : Challenge) (id : Identity)
      (old : Option StoredAccount) (token : String) (j : Nat) (hj : j < 4)
      (accepted : Accepted app.handshake.policy ⟨body.message, sig⟩ b.clock.now b b' c id)
      (read : 0 < j → ReadsAs (b.kv.live b.clock.now (accountKey id.address.checksummed)) old)
      (wrote : ∀ k, k ≠ counterKey req.peer → b'.kv.live b.clock.now k =
        Redis.written (b.kv.live b.clock.now) ((signInWrites b.clock.now app.config.sessionTtlSecs
          id old token (b.kv.live b.clock.now)).take j) k) :
      SignInOutcome app req body b m (.error e) b'
  /-- Accepted, its nonce spent, and all four writes made: answered with the token, whose session
  is live until `ttl` seconds on, and tracked in its account's set, which expires with it. -/
  | signedIn {b' : Backend} (sig : ByteArray) (c : Challenge) (id : Identity)
      (old : Option StoredAccount) (token : String)
      (accepted : Accepted app.handshake.policy ⟨body.message, sig⟩ b.clock.now b b' c id)
      (read : ReadsAs (b.kv.live b.clock.now (accountKey id.address.checksummed)) old)
      (wrote : ∀ k, k ≠ counterKey req.peer → b'.kv.live b.clock.now k =
        Redis.written (b.kv.live b.clock.now) (signInWrites b.clock.now app.config.sessionTtlSecs
          id old token (b.kv.live b.clock.now)) k)
      (lasting : b.clock.now < b.clock.now.add (.ofSeconds app.config.sessionTtlSecs))
      (stored : b'.kv.live b.clock.now (sessionKey token) = some ⟨sessionKey token,
        .str (id.session token).toText,
        some (b.clock.now.add (.ofSeconds app.config.sessionTtlSecs))⟩)
      (tracked : ∃ xs, b'.kv.live b.clock.now (accountSessionsKey id.address.checksummed) =
        some ⟨accountSessionsKey id.address.checksummed, .set xs,
          some (b.clock.now.add (.ofSeconds app.config.sessionTtlSecs))⟩ ∧ token ∈ xs) :
      SignInOutcome app req body b m (.ok (signedInResponse id token)) b'

open App Handshake SessionStore in
theorem verify_outcome (app : App) (req : Http.Request) (body : VerifyBody) {b : Backend}
    {m : MemoryStore} (hb : b.nonces = .memory m []) (hrest : b.clock.step = ⟨0⟩) :
    SignInOutcome app req body b m ((app.verify req body).run.run b).1
      ((app.verify req body).run.run b).2 := by
  unfold App.verify
  cases hreach : app.kvReachable
  · -- the server cannot be reached: nothing happens
    rw [Backend.run_bind_of_error (by rw [connect_run, hreach]; rfl)]
    exact .refused .empty .nonceExpired (.inl hb) (fun _ _ => rfl)
  rw [Backend.run_bind_of_ok (by rw [connect_run, hreach]; rfl)]
  -- the request is counted: no key but the counter changes
  obtain ⟨kv₁, hrl, hkept₁⟩ := enforceRateLimit_run app req.peer b
  rcases hrl' : (app.enforceRateLimit req.peer).run.run b with ⟨_ | _, b₁⟩ <;>
    rw [hrl'] at hrl <;> dsimp only at hrl <;> subst hrl
  · rw [Backend.run_bind_of_error hrl']
    exact .refused .empty .nonceExpired (.inl hb) hkept₁
  rw [Backend.run_bind_of_ok hrl']
  -- the signature is read
  cases hsig : decodeSignature body.signature with
  | error err =>
    rw [Backend.run_bind_of_error (by rw [refuse_run]; rfl)]
    exact .refused .empty .nonceExpired (.inl hb) hkept₁
  | ok sig =>
  rw [Backend.run_bind_of_ok (by rw [refuse_run]; rfl)]
  -- the handshake runs on the nonces alone: the server and the tokens are left as they are
  set b₁ : Backend := { b with kv := kv₁ }
  have hb₁ : b₁.nonces = .memory m [] := hb
  have hrest₁ : b₁.clock.step = ⟨0⟩ := hrest
  set signed : SignedResponse := ⟨body.message, sig⟩
  have hframe : Backend.NoncesOnly b₁ ((app.handshake.verifySigned signed).run b₁).2 :=
    Prog.run_noncesOnly (Steps.verifySigned app.handshake signed) hb₁ hrest₁
  obtain ⟨m₂, hm₂⟩ := hframe.inProcess
  rw [Backend.run_bind_of_ok (lift_run _ _)]
  cases hres : ((app.handshake.verifySigned signed).run b₁).1 with
  | error err =>
    rw [Backend.run_bind_of_error (by rw [refuse_run]; rfl)]
    refine .refused sig err (verifySigned_spares hb₁ hrest₁ err hres) fun k hk => ?_
    dsimp only
    rw [hframe.kv]
    exact hkept₁ k hk
  | ok id =>
  rw [Backend.run_bind_of_ok (by rw [refuse_run]; rfl)]
  obtain ⟨c, hacc⟩ := verifySigned_accepts hrest₁ id hres
  set b₂ := ((app.handshake.verifySigned signed).run b₁).2
  have ht₂ : b₂.clock.now = b.clock.now := by rw [hframe.clock]
  -- the sign-in is recorded on the account
  obtain ⟨kv₃, hrun₃, hcases₃⟩ := SessionStore.recordLogin_run id.address.checksummed id.chainId
    id.verifiedAt.secs.toNat b₂
  rw [hframe.kv, ht₂] at hcases₃
  rcases hcases₃ with ⟨⟨e, he⟩, hlive₃⟩ | ⟨old, hreads, hok₃, hlive₃⟩
  · rw [Backend.run_bind_of_error (by rw [storage_run, he, hrun₃]; rfl)]
    refine .interrupted sig c id none "" 0 (by omega) (hacc.of_nonces hb hb₁ hm₂ hm₂)
      (fun h => absurd h (Nat.lt_irrefl 0)) fun k hk => ?_
    show kv₃.live b.clock.now k = _
    rw [hlive₃]
    exact hkept₁ k hk
  rw [Backend.run_bind_of_ok (by rw [storage_run, hok₃, hrun₃]; rfl)]
  replace hreads : ReadsAs (b.kv.live b.clock.now (accountKey id.address.checksummed)) old := by
    rw [← hkept₁ _ (accountKey_ne_counterKey _ _)]
    exact hreads
  -- a token is drawn and the session kept
  rw [Backend.run_bind_of_ok (lift_run _ _)]
  set b₄ := (Backend.freshToken.run { b₂ with kv := kv₃ }).2
  set token := (Backend.freshToken.run { b₂ with kv := kv₃ }).1
  obtain ⟨j, kv₄, hj, hrun₄, hlive₄, hok₄, hpos⟩ :=
    SessionStore.storeSession_run ⟨token, id.address.checksummed, id.chainId,
      id.verifiedAt.secs.toNat⟩ app.config.sessionTtlSecs b₄
  have ht₄ : b₄.clock.now = b.clock.now := ht₂
  rw [ht₄] at hlive₄
  -- the session's writes read the account's set as it was before the request
  have hset : kv₃.live b.clock.now (accountSessionsKey id.address.checksummed) =
      b.kv.live b.clock.now (accountSessionsKey id.address.checksummed) := by
    rw [hlive₃, Redis.written_cons, Redis.written_nil,
      Function.update_of_ne (accountKey_ne_accountSessionsKey _ _).symm]
    exact hkept₁ _ (accountSessionsKey_ne_counterKey _ _)
  have hwrote : ∀ k, k ≠ counterKey req.peer → kv₄.live b.clock.now k =
      Redis.written (b.kv.live b.clock.now) ((signInWrites b.clock.now app.config.sessionTtlSecs
        id old token (b.kv.live b.clock.now)).take (j + 1)) k := by
    intro k hk
    show kv₄.live b.clock.now k = Redis.written (b.kv.live b.clock.now) (_ :: _) k
    rw [hlive₄]
    show Redis.written (kv₃.live b.clock.now) ((sessionWrites b.clock.now app.config.sessionTtlSecs
      (id.session token) (kv₃.live b.clock.now)).take j) k = _
    rw [sessionWrites_congr hset, hlive₃]
    exact Redis.written_congr (Redis.written_congr hkept₁ _) _ k hk
  by_cases hj3 : j = 3
  · -- all four writes made: answered with the token
    subst hj3
    rw [Backend.run_bind_of_ok (by rw [storage_run, hok₄.2 rfl, hrun₄]; rfl)]
    have hall : ∀ k, k ≠ counterKey req.peer → kv₄.live b.clock.now k =
        Redis.written (b.kv.live b.clock.now) (signInWrites b.clock.now app.config.sessionTtlSecs
          id old token (b.kv.live b.clock.now)) k := fun k hk => hwrote k hk
    obtain ⟨xs, hxs, hmem⟩ := written_signInWrites_tracked b.clock.now app.config.sessionTtlSecs id
      old token (b.kv.live b.clock.now)
    exact .signedIn sig c id old token (hacc.of_nonces hb hb₁ hm₂ hm₂) hreads hall
      (Instant.lt_add_ofSeconds _ (by have := (hpos (by omega)).1; omega))
      (by
        show kv₄.live _ _ = _
        rw [hall _ (sessionKey_ne_counterKey _ _)]
        exact written_signInWrites_session _ _ _ _ _ _)
      ⟨xs, by
        show kv₄.live _ _ = _
        rw [hall _ (accountSessionsKey_ne_counterKey _ _)]
        exact hxs, hmem⟩
  · -- a write failed after the first `j + 1`
    obtain ⟨e, he⟩ : ∃ e, ((storeSession ⟨token, id.address.checksummed, id.chainId,
        id.verifiedAt.secs.toNat⟩ app.config.sessionTtlSecs).run.run b₄).1 = .error e := by
      cases h : ((storeSession ⟨token, id.address.checksummed, id.chainId,
          id.verifiedAt.secs.toNat⟩ app.config.sessionTtlSecs).run.run b₄).1 with
      | ok u => exact absurd (hok₄.1 h) hj3
      | error e => exact ⟨e, rfl⟩
    rw [Backend.run_bind_of_error (by rw [storage_run, he, hrun₄]; rfl)]
    exact .interrupted sig c id old token (j + 1) (by omega) (hacc.of_nonces hb hb₁ hm₂ hm₂)
      (fun _ => hreads) hwrote

/-! ## A request that fails after its writes -/

/-- A server for one site and chain, with sessions of a quarter of an hour. -/
def signInConfig : Config where
  redisUrl := "redis://127.0.0.1:6379"
  bindAddr := .v4 [0, 0, 0, 0] 3000
  authDomain := "app.example.com"
  authScheme := some "https"
  authStatement := some "Sign in with Ethereum"
  allowedOrigins := []
  chainId := 1
  allowedChainIds := [1]
  nonceTtlSecs := 300
  nonceStore := .memory
  sweepIntervalSecs := 60
  sessionTtlSecs := 900
  rateLimitAuthPerMin := 10

/-- The backend at noon, with `noonNonce` pending and a key-value server failing `SADD`. -/
def saddFailing : Backend where
  clock := { now := mayNoon }
  entropy := {}
  nonces := .memory noonStore []
  kv := { failing := ["SADD"] }

/-- A sign-in from the loopback address. -/
def loopbackSignIn : Http.Request :=
  { method := "POST", target := {}, peer := .v4 [127, 0, 0, 1] 5000 }

/-- The message naming `noonNonce`, signed by the key of `devAddress`. -/
def noonAnswer : VerifyBody :=
  ⟨noonMessage,
    "0x189bad6edd6731a4d406bc1069c953db9991727bd029c41864915efb9b6e3b825a92a5325e3d0ff56b9693" ++
      "fdfbfbb986260652af08ae1bdb2f63d6bc5bfd99971c"⟩

theorem verify_outcome_saddFailing :
    saddFailing.nonces = .memory noonStore [] ∧ saddFailing.clock.step = ⟨0⟩ ∧
    SignInOutcome (App.ofConfig signInConfig true) loopbackSignIn noonAnswer saddFailing noonStore
      (((App.ofConfig signInConfig true).verify loopbackSignIn noonAnswer).run.run saddFailing).1
      (((App.ofConfig signInConfig true).verify loopbackSignIn noonAnswer).run.run saddFailing).2 :=
  ⟨rfl, rfl, verify_outcome _ _ _ rfl rfl⟩

end WalletAuth
