import WalletAuth.Proofs.Handshake.Rejection
import WalletAuth.Proofs.Message.RoundTrip
import WalletAuth.Proofs.Time.Spans

/-!
# WalletAuth.Proofs.Handshake.Stateless — verifying without the attempt agrees with submitting

`verifySigned` keeps no attempt between the two round trips: it makes one up from the message,
with a deadline one time to live from now, and submits to it. Main statement,
`verifySigned_agrees_with_submit`: for an attempt a handshake issued a challenge to, and a
message naming that challenge's nonce and account, answered while the clock is at rest before
the attempt's deadline and outside a leap second, verifying ends in the same result and the
same backend as submitting to the attempt.

Two facts carry it.

* The checks read the attempt once, for the nonce and account it expects (`SameResults`,
  `Blind`, `runChecks_sameResults`): started from two attempts that both expect the message's
  own, they are one program of the backend.
* Both deadlines leave time: the attempt's because it is still ahead, the made-up one because
  the time to live is positive (`ttl_pos_of_build`: a handshake with no positive time to live
  builds no challenge). Inside a leap second neither holds in general: a deadline at the next
  midnight is then a negative span away though it is later.
-/

namespace WalletAuth

namespace ChallengeBuilder

variable {p : ChallengePolicy} {ttl : Span} {o : ChallengeOptions} {now e : Instant}

/-- The window's end: the expiry asked for, which was checked to lie within one time to live,
or one time to live from now. -/
theorem checkWindow_le_add (h : checkWindow ttl o now = .ok e) : e ≤ now.add ttl := by
  revert h
  unfold checkWindow
  simp only [bind, Except.bind, pure, Except.pure, throw, throwThe, MonadExceptOf.throw]
  repeat' split
  all_goals intro h; cases h
  -- the expiry asked for was checked against the window's end; the default one is its end
  all_goals simp only [Instant.le_def, Instant.lt_def, not_or, not_and, true_and] at *
  all_goals omega

/-- A message assembled with an expiry has it after its issue instant: the check compares the
two cut to milliseconds. -/
theorem lt_of_assemble {address : Address} {uri : String} {chainId : Nat} {nonce : String}
    {issuedAt expiration : Instant} {c : Challenge}
    (h : assemble p address uri chainId o nonce issuedAt expiration = .ok c) :
    issuedAt < expiration := by
  unfold assemble at h
  dsimp only at h
  generalize hv : Challenge.validate _ = v at h
  cases v with
  | error m => cases h
  | ok c' =>
    have hfields := Challenge.checkFields_eq_ok_iff.1 (Challenge.validate_eq_ok_iff.1 hv).1
    have hwin := hfields.window _ rfl
    have hlt : issuedAt.truncMillis < expiration.truncMillis :=
      Classical.byContradiction fun hge => hwin (Instant.le_iff_not_lt.2 hge)
    exact Instant.lt_of_truncMillis_lt hlt

theorem orThrow_run {α : Type} (r : Except AuthError α) (b : Backend) :
    (orThrow r).run.run b = (r, b) := by
  cases r <;> rfl

/-- A build that succeeds found a window at its first clock reading: the expiry it checked comes
after that reading and no later than one time to live from it. -/
theorem now_lt_add_of_build {ttl : Span} {req : ChallengeRequest} {b b' : Backend}
    {v : Challenge × NonceRecord} (h : (build p ttl req).run.run b = (.ok v, b')) :
    b.clock.now < b.clock.now.add ttl := by
  unfold build at h
  rw [Backend.run_run_bind, orThrow_run] at h
  cases hreq : checkRequest p req with
  | error e => rw [hreq] at h; cases h
  | ok x =>
    rw [hreq] at h
    obtain ⟨address, uri, chainId⟩ := x
    dsimp only at h
    rw [Backend.run_run_bind, show (liftM Backend.now : ExceptT AuthError BackendM Instant).run.run b
      = (.ok b.clock.now, (Backend.now.run b).2) from rfl] at h
    dsimp only at h
    rw [Backend.run_run_bind, orThrow_run] at h
    cases hw : checkWindow ttl req.options b.clock.now with
    | error e => rw [hw] at h; cases h
    | ok e =>
      rw [hw] at h
      dsimp only at h
      rw [Backend.run_run_bind, orThrow_run] at h
      cases ha : assemble p address uri chainId req.options placeholderNonce b.clock.now e with
      | error err => rw [ha] at h; cases h
      | ok c => exact Instant.lt_of_lt_of_le (lt_of_assemble ha) (checkWindow_le_add hw)

/-- A handshake that built a challenge on a valid clock has a positive time to live. -/
theorem ttl_pos_of_build {ttl : Span} {req : ChallengeRequest} {b b' : Backend}
    {v : Challenge × NonceRecord} (h : (build p ttl req).run.run b = (.ok v, b'))
    (hvalid : b.clock.now.nanos < 2 * nanosPerSecond) : 0 < ttl.nanos := by
  have hlt := now_lt_add_of_build h
  refine Int.lt_of_not_ge fun hle => ?_
  -- a time to live of zero or less would end the window before it opened
  exact Instant.lt_irrefl _ (Instant.lt_of_lt_of_le hlt (Instant.add_le_of_nonpos hvalid hle))

end ChallengeBuilder

namespace Handshake

variable {α β : Type} {s s' : Attempt}

/-- From the attempts `s` and `s'`, `m` ends in the same results, step for step: with the
attempts forgotten, the two runs are one program of the backend. -/
def SameResults (m : AttemptP α) (s s' : Attempt) : Prop :=
  (Prod.fst <$> m.run.run s : Prog _) = Prod.fst <$> m.run.run s'

/-- `m` reads nothing of the attempt it runs on. -/
def Blind (m : AttemptP α) : Prop := ∀ s s', SameResults m s s'

theorem map_fst_run_run_bind {x : AttemptP α} {f : α → AttemptP β} (hf : ∀ v, Blind (f v))
    (s : Attempt) :
    (Prod.fst <$> (x >>= f).run.run s : Prog _) = (Prod.fst <$> x.run.run s) >>= fun r =>
      match r with
      | .ok v => Prod.fst <$> (f v).run.run {}
      | .error e => Prog.pure (.error e) := by
  rw [run_run_bind, map_bind, bind_map_left]
  congr 1
  funext ⟨r, s₁⟩
  cases r with
  | ok v => exact hf v s₁ {}
  | error e => rfl

theorem SameResults.bind {x : AttemptP α} {f : α → AttemptP β} (hx : SameResults x s s')
    (hf : ∀ v, Blind (f v)) : SameResults (x >>= f) s s' := by
  unfold SameResults
  rw [map_fst_run_run_bind hf, map_fst_run_run_bind hf, hx]

theorem Blind.bind {x : AttemptP α} {f : α → AttemptP β} (hx : Blind x) (hf : ∀ v, Blind (f v)) :
    Blind (x >>= f) := fun s s' => (hx s s').bind hf

theorem blind_pure (v : α) : Blind (pure v : AttemptP α) := fun _ _ => rfl

theorem blind_throw (e : AuthError) : Blind (throw e : AttemptP α) := fun _ _ => rfl

theorem blind_check (r : Except AuthError α) : Blind (check r) := by
  cases r with
  | error e => exact blind_throw e
  | ok v => exact blind_pure v

theorem blind_modify (g : Attempt → Attempt) : Blind (modify g : AttemptP Unit) := fun _ _ => rfl

theorem blind_lift (p : Prog α) : Blind (liftM p : AttemptP α) := by
  intro s s'
  unfold SameResults
  rw [run_run_lift, run_run_lift, map_bind, map_bind]
  rfl

theorem blind_registry (report : NonceError → AuthError) (p : Registry.RegistryP α) :
    Blind (registry report p) := by
  unfold registry
  refine Blind.bind (blind_lift _) fun r => ?_
  cases r with
  | ok v => exact blind_pure v
  | error e => exact blind_throw _

theorem blind_reject (e : AuthError) : Blind (reject e : AttemptP α) :=
  Blind.bind (blind_modify _) fun _ => blind_throw e

theorem SameResults.handled {x : AttemptP α} {handler : AuthError → AttemptP α}
    (hx : SameResults x s s') (hh : ∀ e, Blind (handler e)) :
    SameResults (tryCatch x handler) s s' := by
  have key : ∀ t, (Prod.fst <$> (tryCatch x handler).run.run t : Prog _) =
      (Prod.fst <$> x.run.run t) >>= fun r => match r with
        | .ok v => Prog.pure (.ok v)
        | .error e => Prod.fst <$> (handler e).run.run {} := by
    intro t
    simp only [ExceptT.run_tryCatch, StateT.run_bind, map_bind, bind_map_left]
    congr 1
    funext ⟨r, t₁⟩
    cases r with
    | ok v => rfl
    | error e => exact hh e t₁ {}
  unfold SameResults
  rw [key, key, hx]

variable {h : Handshake} {signed : SignedResponse} {c : Challenge}

/-- The attempt is read once, for the nonce and account it expects: two attempts that both
expect the message's own lead on to the same results. -/
theorem sameResults_expect {T : AttemptP β} (hT : Blind T) {e e' : Challenge}
    (he : issuedChallenge s = .ok e) (he' : issuedChallenge s' = .ok e')
    (hn : sameNonce e c = .ok ()) (hn' : sameNonce e' c = .ok ()) :
    SameResults (get >>= fun a => check (issuedChallenge a) >>= fun expected =>
      check (sameNonce expected c) >>= fun _ => T) s s' := by
  unfold SameResults
  show (Prod.fst <$> (check (issuedChallenge s) >>= fun expected =>
      check (sameNonce expected c) >>= fun _ => T).run.run s : Prog _) =
    Prod.fst <$> (check (issuedChallenge s') >>= fun expected =>
      check (sameNonce expected c) >>= fun _ => T).run.run s'
  rw [he, he']
  show (Prod.fst <$> (check (sameNonce e c) >>= fun _ => T).run.run s : Prog _) =
    Prod.fst <$> (check (sameNonce e' c) >>= fun _ => T).run.run s'
  rw [hn, hn']
  exact hT s s'

/-- The checks of a message read of the attempt only the nonce and account it expects. -/
theorem runChecks_sameResults (hc : Challenge.parse signed.message = .ok c) {e e' : Challenge}
    (he : issuedChallenge s = .ok e) (he' : issuedChallenge s' = .ok e')
    (hn : sameNonce e c = .ok ()) (hn' : sameNonce e' c = .ok ()) :
    SameResults (Steps.runChecks h signed) s s' := by
  have hparse : check ((Challenge.parse signed.message).mapError
      fun e => AuthError.malformedMessage e.message) = (pure c : AttemptP Challenge) := by
    rw [hc]
    rfl
  unfold Steps.runChecks
  rw [hparse, pure_bind]
  refine sameResults_expect ?_ he he' hn hn'
  -- the rest reads the clock, the message and the store, never the attempt
  refine Blind.bind (blind_lift _) fun _ => Blind.bind (blind_check _) fun _ => ?_
  refine Blind.bind (blind_check _) fun _ => Blind.bind (blind_registry _ _) fun _ => ?_
  refine Blind.bind (blind_modify _) fun _ => Blind.bind (blind_check _) fun _ => ?_
  exact Blind.bind (blind_registry _ _) fun _ => Blind.bind (blind_lift _) fun _ => blind_pure _

theorem run_map_fst {γ : Type} (p : Prog (Except AuthError γ × Attempt)) (b : Backend) :
    (Prod.fst <$> p).run.run b = ((p.run.run b).1.1, (p.run.run b).2) := by
  rw [map_eq_pure_bind, Prog.run_bind]
  rfl

/-- An attempt that was issued a challenge: the build that issued it, and what it set. -/
theorem issued_of_requestChallenge {req : ChallengeRequest} {a₀ att : Attempt} {b₀ b₁ : Backend}
    {c₀ : Challenge} (hreq : ((h.requestChallenge req).run.run a₀).run b₀ = ((.ok c₀, att), b₁)) :
    ∃ r, (ChallengeBuilder.build h.policy h.ttl req).run.run b₀ = (.ok (c₀, r), b₁) ∧
      att = { a₀ with state := .challengeIssued, challenge := some c₀,
                      deadline := some r.expiresAt } := by
  rw [requestChallenge_run] at hreq
  by_cases hidle : a₀.state = .idle
  · rw [if_pos hidle] at hreq
    rcases hb : (ChallengeBuilder.build h.policy h.ttl req).run.run b₀ with ⟨e | ⟨c, r⟩, b'⟩ <;>
      rw [hb] at hreq
    · cases hreq
    · cases hreq
      exact ⟨r, rfl, rfl⟩
  · rw [if_neg hidle] at hreq
    cases hreq

/-- With time left, a submission runs the checks; the clock at rest, reading the time left
changes nothing. -/
theorem submitSigned_run_of_left {a : Attempt} {b : Backend} {d : Instant}
    (hst : a.state = .challengeIssued) (hd : a.deadline = some d) (hrest : b.clock.step = ⟨0⟩)
    (hleft : 0 < (d.since b.clock.now).nanos) :
    ((Steps.submitSigned h signed).run.run a).run.run b =
      ((tryCatch (Steps.runChecks h signed) reject >>= fun id =>
        modify (fun a : Attempt => { a with identity := some id, state := .authenticated }) >>=
          fun _ => (pure id : AttemptP Identity)).run.run a).run.run b := by
  rw [submitSigned_run_of_issued hst, run_timeLeft_bind hd, if_neg (by omega),
    Backend.now_run_of_rest hrest]

/-- The stateless path agrees with the stateful one. An attempt was issued a challenge by a
handshake, on a valid clock; a message naming its nonce and account is answered while the clock
is at rest, before the attempt's deadline and outside a leap second. Verifying the answer
without the attempt ends in the same result and the same backend as submitting it to the
attempt. -/
theorem verifySigned_agrees_with_submit {req : ChallengeRequest} {a₀ att : Attempt}
    {b₀ b₁ : Backend} {c₀ : Challenge}
    (hreq : ((h.requestChallenge req).run.run a₀).run b₀ = ((.ok c₀, att), b₁))
    (hvalid : b₀.clock.now.nanos < 2 * nanosPerSecond)
    (hc : Challenge.parse signed.message = .ok c) (hnonce : c.nonce = c₀.nonce)
    (haddr : c.address = c₀.address) {b : Backend} {d : Instant} (hrest : b.clock.step = ⟨0⟩)
    (hd : att.deadline = some d) (hbefore : b.clock.now < d)
    (hleap : b.clock.now.nanos < nanosPerSecond) :
    (h.verifySigned signed).run b =
      Prod.map Prod.fst id (((h.submitSigned signed).run.run att).run b) := by
  obtain ⟨r, hbuild, hatt⟩ := issued_of_requestChallenge hreq
  have httl : 0 < h.ttl.nanos := ChallengeBuilder.ttl_pos_of_build hbuild hvalid
  -- the attempt verification makes up: the message's own challenge, one time to live to run
  let made : Attempt := { state := .challengeIssued, challenge := some c,
                          deadline := some (b.clock.now.add h.ttl) }
  have hsame : SameResults (tryCatch (Steps.runChecks h signed) reject >>= fun id =>
      modify (fun a : Attempt => { a with identity := some id, state := .authenticated }) >>=
        fun _ => (pure id : AttemptP Identity)) made att := by
    have hn : sameNonce c c = .ok () := by simp [sameNonce]
    have hn₀ : sameNonce c₀ c = .ok () := by simp [sameNonce, hnonce, haddr]
    have he₀ : issuedChallenge att = .ok c₀ := by rw [hatt]; rfl
    exact ((runChecks_sameResults hc rfl he₀ hn hn₀).handled blind_reject).bind fun id =>
      Blind.bind (blind_modify _) fun _ => blind_pure id
  have hverify : (h.verifySigned signed).run b =
      ((Prod.fst <$> (tryCatch (Steps.runChecks h signed) reject >>= fun id =>
        modify (fun a : Attempt => { a with identity := some id, state := .authenticated }) >>=
          fun _ => (pure id : AttemptP Identity)).run.run made).run.run b) := by
    show (Steps.verifySigned h signed).run.run b = _
    unfold Steps.verifySigned
    simp only [hc, Prog.run_bind, StateT.run_bind]
    rw [now_run_run_of_rest hrest]
    -- the made-up deadline leaves the whole time to live, which is positive
    have hleft : 0 < ((b.clock.now.add h.ttl).since b.clock.now).nanos := by
      rw [Instant.since_add hleap]
      exact httl
    rw [run_map_fst, ← submitSigned_run_of_left (a := made) rfl rfl hrest hleft]
    rfl
  have hsubmit : ((h.submitSigned signed).run.run att).run b =
      ((tryCatch (Steps.runChecks h signed) reject >>= fun id =>
        modify (fun a : Attempt => { a with identity := some id, state := .authenticated }) >>=
          fun _ => (pure id : AttemptP Identity)).run.run att).run.run b := by
    have hst : att.state = .challengeIssued := by rw [hatt]
    -- the attempt's deadline is still ahead
    exact submitSigned_run_of_left hst hd hrest (Instant.since_pos_of_lt hleap hbefore)
  rw [hverify, hsubmit, hsame, run_map_fst]
  rfl

/-! ## A sample: a challenge issued on the loopback site -/

/-- A handshake for a site served on the IPv6 loopback, with nonces valid for five minutes. -/
def loopbackHandshake : Handshake where
  policy := { domain := "[::1]", scheme := some "https", statement := none,
              allowedOrigins := [], defaultChainId := 1, allowedChainIds := [1] }
  ttl := Span.ofSeconds 300

/-- A request from the site's own origin, with no options. -/
def loopbackRequest : ChallengeRequest :=
  ⟨"0xf39fd6e51aad88f6f4ce6ab8827279cfffb92266", "https://[::1]", {}⟩

/-- The challenge issued for it at the epoch, with the first nonce drawn; the account is the
one of the codec's sample. -/
def loopbackChallenge : Challenge where
  scheme := some "https"
  domain := "[::1]"
  address := Challenge.sampleChallenge.address
  statement := none
  uri := "https://[::1]"
  chainId := 1
  nonce := "00000000000000000000000000000000"
  issuedAt := ⟨"1970-01-01T00:00:00.000Z", ⟨0, 0⟩⟩
  expirationTime := some ⟨"1970-01-01T00:05:00.000Z", ⟨300, 0⟩⟩
  notBefore := none
  requestId := none
  resources := []

/-- The attempt that was issued it. -/
def loopbackAttempt : Attempt :=
  { state := .challengeIssued, challenge := some loopbackChallenge, deadline := some ⟨300, 0⟩ }

/-- The backend one minute and forty seconds after the epoch, its clock at rest. -/
def laterBackend : Backend := { restingBackend with clock := { now := ⟨100, 0⟩ } }

theorem verifySigned_agrees_with_submit_sample :
    ((loopbackHandshake.requestChallenge loopbackRequest).run.run {}).run restingBackend =
        ((.ok loopbackChallenge, loopbackAttempt),
          (((loopbackHandshake.requestChallenge loopbackRequest).run.run {}).run
            restingBackend).2) ∧
      restingBackend.clock.now.nanos < 2 * nanosPerSecond ∧
      Challenge.parse loopbackChallenge.render = .ok loopbackChallenge ∧
      laterBackend.clock.step = ⟨0⟩ ∧ loopbackAttempt.deadline = some ⟨300, 0⟩ ∧
      laterBackend.clock.now < ⟨300, 0⟩ ∧ laterBackend.clock.now.nanos < nanosPerSecond ∧
      (loopbackHandshake.verifySigned ⟨loopbackChallenge.render, .empty⟩).run laterBackend =
        Prod.map Prod.fst id (((loopbackHandshake.submitSigned
          ⟨loopbackChallenge.render, .empty⟩).run.run loopbackAttempt).run laterBackend) := by
  -- the request is evaluated once; the message reads back through its fields' checks
  have hissued : (((loopbackHandshake.requestChallenge loopbackRequest).run.run {}).run
      restingBackend).1 = (.ok loopbackChallenge, loopbackAttempt) := by decide +kernel
  have hreq : ((loopbackHandshake.requestChallenge loopbackRequest).run.run {}).run
      restingBackend = ((.ok loopbackChallenge, loopbackAttempt),
        (((loopbackHandshake.requestChallenge loopbackRequest).run.run {}).run
          restingBackend).2) :=
    Prod.ext hissued rfl
  have hparse : Challenge.parse loopbackChallenge.render = .ok loopbackChallenge :=
    Challenge.parse_render_of_fieldsOk (Challenge.checkFields_eq_ok_iff.1 (by decide +kernel))
      ⟨by decide +kernel, fun t ht => by cases ht; decide +kernel, fun t ht => by cases ht⟩
      (by decide)
  have hsigned : Challenge.parse (⟨loopbackChallenge.render, .empty⟩ : SignedResponse).message =
      .ok loopbackChallenge := hparse
  exact ⟨hreq, by decide, hparse, rfl, rfl, by decide, by decide,
    verifySigned_agrees_with_submit hreq (by decide) hsigned rfl rfl rfl rfl (by decide)
      (by decide)⟩

end Handshake

end WalletAuth
