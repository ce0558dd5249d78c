import WalletAuth.Proofs.Handshake.Spending
import WalletAuth.Proofs.Time.Spans

/-!
# WalletAuth.Proofs.Handshake.Phases — the phases one attempt goes through

An attempt is driven by three calls: asking for a challenge, submitting a signed answer, and
expiring it. Each call here runs against any backend (any nonce store, any clock), and an
attempt is *reachable* when some sequence of calls leads to it from a fresh one.

* `Attempt.Consistent` holds of every reachable attempt: it is never left verifying, it holds
  an identity exactly when it is authenticated, once issued a challenge it keeps it with its
  deadline, and while idle it is fresh.
* `AttemptCall.run_sound`, the step lemma: a call leaves the phase as it was or makes one of
  the four moves `idle → challenge issued`, `idle → rejected`, `challenge issued →
  authenticated`, `challenge issued → rejected`; a final attempt never changes; a phase error
  leaves the attempt untouched and any other error rejects it with that error; an identity
  answered is the one the attempt keeps.
* `expire_iff_submit_expired`: away from leap seconds, expiring an attempt succeeds exactly
  when every submission at the same clock would be turned away as expired before any check.
  Inside a leap second the two disagree: the submission measures the time left by subtracting
  instants, and that subtraction does not count a leap second that ends a day.

The submission's checks are read through `PhaseOnly`: run from an attempt that has a
challenge, whatever the backend answers, they change at most the attempt's phase and never
fail with a phase error.
-/

namespace WalletAuth

namespace AuthError

/-- The refusal of a call made in the wrong phase. -/
def isPhaseError : AuthError → Bool
  | .invalidState _ => true
  | _ => false

theorem isPhaseError_of_isRequestError {e : AuthError} (h : e.isRequestError) :
    e.isPhaseError = false := by
  cases e <;> simp_all [isRequestError, isPhaseError]

end AuthError

/-! ## Every result of a step program -/

namespace Prog

variable {α β : Type}

/-- Every result `p` can end in satisfies `Q`, whatever the backend answers at each step. -/
inductive Always (Q : α → Prop) : Prog α → Prop
  | pure {a : α} : Q a → Always Q (.pure a)
  | step {x : Action} {k : x.Answer → Prog α} : (∀ v, Always Q (k v)) → Always Q (.step x k)

theorem Always.mono {Q Q' : α → Prop} {p : Prog α} (h : p.Always Q) (hQ : ∀ a, Q a → Q' a) :
    p.Always Q' := by
  induction h with
  | pure ha => exact .pure (hQ _ ha)
  | step _ ih => exact .step ih

theorem Always.bind {P : α → Prop} {Q : β → Prop} {p : Prog α} {f : α → Prog β}
    (hp : p.Always P) (hf : ∀ a, P a → (f a).Always Q) : (p >>= f).Always Q := by
  induction hp with
  | pure ha => exact hf _ ha
  | step _ ih => exact .step ih

theorem always_true : ∀ p : Prog α, p.Always fun _ => True
  | .pure _ => .pure trivial
  | .step _ k => .step fun v => always_true (k v)

/-- Run alone on any backend, a program ends in one of the results it always ends in. -/
theorem Always.run {Q : α → Prop} {p : Prog α} (h : p.Always Q) (b : Backend) :
    Q (p.run.run b).1 := by
  induction h generalizing b with
  | pure ha => exact ha
  | step _ ih => exact ih _ _

end Prog

namespace Handshake

variable {α β : Type}

/-! ## Checks that change at most the phase -/

/-- Run from any attempt that has a challenge, whatever the backend answers, `m` changes at
most the attempt's phase and fails with no phase error. -/
def PhaseOnly (m : AttemptP α) : Prop :=
  ∀ s : Attempt, s.challenge.isSome → (m.run.run s).Always fun r =>
    (∃ st, r.2 = { s with state := st }) ∧ ∀ e, r.1 = .error e → e.isPhaseError = false

theorem PhaseOnly.bind {x : AttemptP α} {f : α → AttemptP β} (hx : PhaseOnly x)
    (hf : ∀ v, PhaseOnly (f v)) : PhaseOnly (x >>= f) := by
  intro s hs
  rw [run_run_bind]
  refine (hx s hs).bind ?_
  rintro ⟨r, s'⟩ ⟨⟨st, hst⟩, hr⟩
  dsimp only at hst hr
  subst hst
  cases r with
  | error e => exact .pure ⟨⟨st, rfl⟩, fun e' h => by cases h; exact hr e rfl⟩
  | ok v =>
    dsimp only
    refine (hf v { s with state := st } hs).mono ?_
    rintro ⟨r', s''⟩ ⟨⟨st', hst'⟩, hr'⟩
    exact ⟨⟨st', hst'⟩, hr'⟩

theorem phaseOnly_pure (v : α) : PhaseOnly (pure v : AttemptP α) :=
  fun s _ => .pure ⟨⟨s.state, rfl⟩, fun _ h => by cases h⟩

theorem phaseOnly_throw {e : AuthError} (he : e.isPhaseError = false) :
    PhaseOnly (throw e : AttemptP α) :=
  fun s _ => .pure ⟨⟨s.state, rfl⟩, fun _ h => by cases h; exact he⟩

theorem phaseOnly_check {r : Except AuthError α} (hr : ∀ e, r = .error e → e.isPhaseError = false) :
    PhaseOnly (check r) := by
  cases r with
  | error e => exact phaseOnly_throw (hr e rfl)
  | ok v => exact phaseOnly_pure v

theorem phaseOnly_setPhase (st : AttemptState) :
    PhaseOnly (modify fun a => { a with state := st } : AttemptP Unit) :=
  fun s _ => .pure ⟨⟨st, rfl⟩, fun _ h => by cases h⟩

theorem phaseOnly_lift (p : Prog α) : PhaseOnly (liftM p : AttemptP α) := by
  intro s _
  rw [run_run_lift]
  exact (Prog.always_true p).bind fun _ _ => .pure ⟨⟨s.state, rfl⟩, fun _ h => by cases h⟩

theorem phaseOnly_registry {report : NonceError → AuthError}
    (hr : ∀ e, (report e).isPhaseError = false) (m : Registry.RegistryP α) :
    PhaseOnly (registry report m) := by
  intro s _
  unfold registry
  rw [run_run_bind, run_run_lift, bind_assoc]
  refine (Prog.always_true m.run).bind fun r _ => ?_
  cases r with
  | ok v => exact .pure ⟨⟨s.state, rfl⟩, fun _ h => by cases h⟩
  | error e => exact .pure ⟨⟨s.state, rfl⟩, fun _ h => by cases h; exact hr e⟩

/-- Reading the issued challenge of an attempt that has one never fails. -/
theorem phaseOnly_issued_bind {f : Challenge → AttemptP β} (hf : ∀ c, PhaseOnly (f c)) :
    PhaseOnly (do let a ← get; let c ← check (issuedChallenge a); f c) := by
  intro s hs
  obtain ⟨c, hc⟩ := Option.isSome_iff_exists.1 hs
  have hissued : issuedChallenge s = .ok c := by simp [issuedChallenge, hc]
  show ((check (issuedChallenge s) >>= f).run.run s).Always _
  rw [hissued]
  exact hf c s hs

theorem lookupError_isPhaseError (e : NonceError) : (lookupError e).isPhaseError = false := by
  cases e <;> rfl

theorem consumeError_isPhaseError (e : NonceError) : (consumeError e).isPhaseError = false := by
  cases e <;> rfl

theorem parse_check_noPhase (m : String) (e : AuthError)
    (he : (Challenge.parse m).mapError (fun e => AuthError.malformedMessage e.message) = .error e) :
    e.isPhaseError = false := by
  cases hp : Challenge.parse m with
  | ok c => rw [hp] at he; cases he
  | error err => rw [hp] at he; cases he; rfl

theorem sameNonce_noPhase {x c : Challenge} {e : AuthError} (he : sameNonce x c = .error e) :
    e.isPhaseError = false := by
  unfold sameNonce at he
  split at he
  · cases he; rfl
  · cases he

theorem inWindow_noPhase {c : Challenge} {now : Instant} {e : AuthError}
    (he : inWindow c now = .error e) : e.isPhaseError = false := by
  unfold inWindow at he
  split at he
  · cases he; rfl
  · split at he
    · cases he; rfl
    · cases he

theorem forPolicy_noPhase {p : ChallengePolicy} {c : Challenge} {e : AuthError}
    (he : forPolicy p c = .error e) : e.isPhaseError = false := by
  unfold forPolicy at he
  split at he
  · cases he; rfl
  · split at he
    · cases he; rfl
    · cases he

theorem verifySignature_noPhase {text : String} {bytes : ByteArray} {claimed : Address}
    {e : AuthError} (he : verifySignature text bytes claimed = .error e) :
    e.isPhaseError = false := by
  unfold verifySignature at he
  split at he
  · cases he; rfl
  · split at he
    · cases he; rfl
    · split at he
      · cases he
      · cases he; rfl

/-- The checks of a submission change at most the phase: the only change they make is to set
it verifying, once the nonce is found outstanding. -/
theorem runChecks_phaseOnly (h : Handshake) (signed : SignedResponse) :
    PhaseOnly (Steps.runChecks h signed) := by
  unfold Steps.runChecks
  refine .bind (phaseOnly_check (parse_check_noPhase _)) fun c => ?_
  refine phaseOnly_issued_bind fun expected => ?_
  refine .bind (phaseOnly_check fun _ => sameNonce_noPhase) fun _ => ?_
  refine .bind (phaseOnly_lift _) fun now => ?_
  refine .bind (phaseOnly_check fun _ => inWindow_noPhase) fun _ => ?_
  refine .bind (phaseOnly_check fun _ => forPolicy_noPhase) fun _ => ?_
  refine .bind (phaseOnly_registry lookupError_isPhaseError _) fun _ => ?_
  refine .bind (phaseOnly_setPhase _) fun _ => ?_
  refine .bind (phaseOnly_check fun _ => verifySignature_noPhase) fun _ => ?_
  refine .bind (phaseOnly_registry consumeError_isPhaseError _) fun _ => ?_
  exact .bind (phaseOnly_lift _) fun _ => phaseOnly_pure _

/-! ## A submission -/

/-- How a submission started on `a` can end: refused for the wrong phase with `a` untouched,
or, from a challenge issued, authenticated with the identity it answers or rejected with the
error it answers. -/
def SubmitEnds (a : Attempt) (r : Except AuthError Identity × Attempt) : Prop :=
  (a.state ≠ .challengeIssued ∧ r = (.error (.invalidState a.state.phase), a)) ∨
    a.state = .challengeIssued ∧
      ((∃ id, r = (.ok id, { a with state := .authenticated, identity := some id })) ∨
        ∃ e, e.isPhaseError = false ∧ r = (.error e, { a with state := .rejected e }))

/-- A submission in the wrong phase is refused at once. -/
theorem submitSigned_run_of_ne {h : Handshake} {signed : SignedResponse} {a : Attempt}
    (hst : a.state ≠ .challengeIssued) :
    (Steps.submitSigned h signed).run.run a =
      Prog.pure (.error (.invalidState a.state.phase), a) := by
  have haw : awaitsAnswer a = .error (.invalidState a.state.phase) := by
    simp [awaitsAnswer, hst]
  unfold Steps.submitSigned
  show ((check (awaitsAnswer a) >>= _ : AttemptP Identity).run.run a) = _
  rw [haw]
  rfl

/-- From a challenge issued, a submission reads the time left and, when none is, rejects the
attempt as expired without looking at the message; otherwise it runs the checks. -/
theorem submitSigned_run_of_issued {h : Handshake} {signed : SignedResponse} {a : Attempt}
    (hst : a.state = .challengeIssued) :
    (Steps.submitSigned h signed).run.run a = (timeLeft h a >>= fun remaining =>
      if remaining.nanos ≤ 0 then
        Prog.pure (.error .challengeExpired, { a with state := .rejected .challengeExpired })
      else (tryCatch (Steps.runChecks h signed) reject >>= fun id =>
        modify (fun a : Attempt => { a with identity := some id, state := .authenticated }) >>=
          fun _ => (pure id : AttemptP Identity)).run.run a) := by
  have haw : awaitsAnswer a = .ok () := by simp [awaitsAnswer, hst]
  unfold Steps.submitSigned
  show ((check (awaitsAnswer a) >>= _ : AttemptP Identity).run.run a) = _
  rw [haw]
  show ((liftM (timeLeft h a) >>= _ : AttemptP Identity).run.run a) = _
  rw [run_run_bind, run_run_lift, bind_assoc]
  congr 1
  funext remaining
  simp only [Prog.pure_bind']
  split
  · rfl
  · rfl

theorem submitSigned_ends (h : Handshake) (signed : SignedResponse) {a : Attempt}
    (ha : a.state = .challengeIssued → a.challenge.isSome) :
    ((Steps.submitSigned h signed).run.run a).Always (SubmitEnds a) := by
  by_cases hst : a.state = .challengeIssued
  case neg =>
    rw [submitSigned_run_of_ne hst]
    exact .pure (.inl ⟨hst, rfl⟩)
  case pos =>
    rw [submitSigned_run_of_issued hst]
    refine (Prog.always_true _).bind fun remaining _ => ?_
    split
    · exact .pure (.inr ⟨hst, .inr ⟨_, rfl, rfl⟩⟩)
    · -- the checks end with the attempt changed at most in its phase; what follows sets it
      rw [run_run_bind, ExceptT.run_tryCatch, StateT.run_bind, bind_assoc]
      refine (runChecks_phaseOnly h signed a (ha hst)).bind ?_
      rintro ⟨r, s'⟩ ⟨⟨st, hs'⟩, hr⟩
      dsimp only at hs' hr
      subst hs'
      cases r with
      | ok id => exact .pure (.inr ⟨hst, .inl ⟨id, rfl⟩⟩)
      | error e => exact .pure (.inr ⟨hst, .inr ⟨e, hr e rfl, rfl⟩⟩)

end Handshake
/-! ## Asking for a challenge -/

namespace ChallengeBuilder

theorem checkRequest_isRequestError {p : ChallengePolicy} {req : ChallengeRequest}
    {e : AuthError} (he : checkRequest p req = .error e) : e.isRequestError := by
  revert he
  unfold checkRequest
  simp only [bind, Except.bind, pure, Except.pure, throw, throwThe, MonadExceptOf.throw]
  repeat' split
  all_goals intro he; cases he <;> rfl

theorem checkWindow_isRequestError {ttl : Span} {o : ChallengeOptions} {now : Instant}
    {e : AuthError} (he : checkWindow ttl o now = .error e) : e.isRequestError := by
  revert he
  unfold checkWindow
  simp only [bind, Except.bind, pure, Except.pure, throw, throwThe, MonadExceptOf.throw]
  repeat' split
  all_goals intro he; cases he <;> rfl

theorem assemblyError_isRequestError (m : MessageError) : (assemblyError m).isRequestError := by
  unfold assemblyError
  split <;> rfl

theorem assemble_isRequestError {p : ChallengePolicy} {address : Address} {uri : String}
    {chainId : Nat} {o : ChallengeOptions} {nonce : String} {issuedAt expiration : Instant}
    {e : AuthError}
    (he : assemble p address uri chainId o nonce issuedAt expiration = .error e) :
    e.isRequestError := by
  unfold assemble at he
  dsimp only at he
  generalize Challenge.validate _ = v at he
  cases v with
  | error m =>
    cases he
    exact assemblyError_isRequestError m
  | ok c => cases he

/-- Whatever the backend holds, `m` fails only with an error satisfying `P`. -/
def FailsOnly {α : Type} (P : AuthError → Prop) (m : ExceptT AuthError BackendM α) : Prop :=
  ∀ b e, (m.run.run b).1 = .error e → P e

section

variable {α β : Type} {P : AuthError → Prop}

theorem FailsOnly.bind {x : ExceptT AuthError BackendM α} {f : α → ExceptT AuthError BackendM β}
    (hx : FailsOnly P x) (hf : ∀ v, FailsOnly P (f v)) : FailsOnly P (x >>= f) := by
  intro b e he
  simp only [ExceptT.run_bind, StateT.run_bind] at he
  revert he
  cases hr : x.run.run b with
  | mk r b' =>
    cases r with
    | ok v => exact hf v b' e
    | error e' =>
      intro he
      cases he
      exact hx b e (by rw [hr])

theorem failsOnly_pure (v : α) : FailsOnly P (pure v : ExceptT AuthError BackendM α) :=
  fun _ _ he => by cases he

theorem failsOnly_throw {e : AuthError} (he : P e) :
    FailsOnly P (throw e : ExceptT AuthError BackendM α) :=
  fun _ _ h => by cases h; exact he

theorem failsOnly_lift (m : BackendM α) : FailsOnly P (liftM m : ExceptT AuthError BackendM α) :=
  fun _ _ he => by cases he

theorem failsOnly_orThrow {r : Except AuthError α} (hr : ∀ e, r = .error e → P e) :
    FailsOnly P (orThrow r) := by
  cases r with
  | ok v => exact failsOnly_pure v
  | error e => exact failsOnly_throw (hr e rfl)

end

/-- A challenge is refused only for what the caller asked, or for a failing store. -/
theorem build_failsOnly (p : ChallengePolicy) (ttl : Span) (req : ChallengeRequest) :
    FailsOnly (fun e => e.isRequestError ∨ ∃ d, e = .store d) (build p ttl req) := by
  unfold build
  refine .bind (failsOnly_orThrow fun _ he => .inl (checkRequest_isRequestError he)) ?_
  rintro ⟨address, uri, chainId⟩
  refine .bind (failsOnly_lift _) fun now => ?_
  refine .bind (failsOnly_orThrow fun _ he => .inl (checkWindow_isRequestError he)) fun _ => ?_
  refine .bind (failsOnly_orThrow fun _ he => .inl (assemble_isRequestError he)) fun _ => ?_
  refine .bind (failsOnly_lift _) fun r => ?_
  cases r with
  | error e =>
    dsimp only
    rw [ExceptT.bind_throw]
    exact failsOnly_throw (.inr ⟨_, rfl⟩)
  | ok r =>
    -- the message assembled again with the issued nonce; a refusal releases the record
    dsimp only
    refine .bind (failsOnly_pure r) fun record => ?_
    split
    · exact failsOnly_pure _
    · rename_i e he
      exact .bind (failsOnly_lift _) fun _ => failsOnly_throw (.inl (assemble_isRequestError he))

end ChallengeBuilder

namespace Handshake

theorem run_run_liftM {α : Type} (m : BackendM α) (a : Attempt) :
    (liftM m : AttemptM α).run.run a = m >>= fun v => pure (.ok v, a) := by
  simp only [liftM, monadLift, MonadLift.monadLift, ExceptT.lift, ExceptT.mk, ExceptT.run,
    StateT.run_map, StateT.run_lift, map_bind]
  rfl

/-- Asking for a challenge needs an idle attempt; the built challenge is then issued with the
nonce's expiry as deadline, and a refused build rejects the attempt. -/
theorem requestChallenge_run (h : Handshake) (req : ChallengeRequest) (a : Attempt)
    (b : Backend) :
    ((h.requestChallenge req).run.run a).run b =
      if a.state = .idle then
        match (ChallengeBuilder.build h.policy h.ttl req).run.run b with
        | (.ok (c, r), b') =>
          ((.ok c, { a with state := .challengeIssued, challenge := some c
                            deadline := some r.expiresAt }), b')
        | (.error e, b') => ((.error e, { a with state := .rejected e }), b')
      else ((.error (.invalidState a.state.phase), a), b) := by
  unfold requestChallenge
  show ((if a.state ≠ .idle then (throw (.invalidState a.state.phase) >>= _) else _ :
    AttemptM Challenge).run.run a).run b = _
  by_cases hst : a.state = .idle
  case neg =>
    rw [if_pos hst, if_neg hst]
    rfl
  case pos =>
    rw [if_neg (fun h => h hst), if_pos hst]
    cases hb : (ChallengeBuilder.build h.policy h.ttl req).run.run b with
    | mk r b' =>
      cases r with
      | ok v =>
        simp only [orReject, bind_pure_comp, bind_assoc, ExceptT.run_bind, ExceptT.run_map,
          StateT.run_bind, run_run_liftM, bind_map_left, hb]
        rfl
      | error e =>
        simp only [orReject, reject, bind_pure_comp, bind_assoc, ExceptT.run_bind, ExceptT.run_map,
          StateT.run_bind, run_run_liftM, bind_map_left, hb]
        rfl

/-- Expiring leaves a final attempt and one without a deadline as they are; otherwise it reads
the clock and rejects the attempt when its deadline has come. -/
theorem expire_run (a : Attempt) (b : Backend) :
    (expire.run a).run b =
      if a.state.isTerminal then ((false, a), b)
      else match a.deadline with
        | some d =>
          if d ≤ b.clock.now then
            ((true, { a with state := .rejected .challengeExpired }), (Backend.now.run b).2)
          else ((false, a), (Backend.now.run b).2)
        | none => ((false, a), b) := by
  cases hT : a.state.isTerminal
  case true =>
    simp only [expire, StateT.run_bind, StateT.run_get, pure_bind, hT, if_true]
    rfl
  case false =>
    cases hd : a.deadline with
    | none =>
      simp only [expire, StateT.run_bind, StateT.run_get, pure_bind, hT, hd, Bool.false_eq_true,
        if_false]
      rfl
    | some d =>
      -- the deadline is compared with one reading of the clock
      simp only [expire, StateT.run_bind, StateT.run_get, pure_bind, hT, hd, Bool.false_eq_true,
        if_false, liftM, monadLift, MonadLift.monadLift, StateT.run_lift, bind_assoc, Backend.now,
        StateT.run_modifyGet, ManualClock.read_fst]
      by_cases hle : d ≤ b.clock.now
      · simp only [hle, ↓reduceIte]
        rfl
      · simp only [hle, ↓reduceIte]
        rfl

/-- Expiring fires exactly for an attempt that is not final and whose deadline has come. -/
theorem expire_fires_iff (a : Attempt) (b : Backend) :
    ((expire.run a).run b).1.1 = true ↔
      a.state.isTerminal = false ∧ ∃ d, a.deadline = some d ∧ d ≤ b.clock.now := by
  rw [expire_run]
  cases hT : a.state.isTerminal
  case true => simp
  case false =>
    cases hd : a.deadline with
    | none => simp
    | some d =>
      dsimp only
      by_cases hle : d ≤ b.clock.now
      · simp [hle]
      · simp [hle]

/-- Expiring rejects the attempt as expired when it fires, and otherwise leaves it. -/
theorem expire_leaves (a : Attempt) (b : Backend) :
    ((expire.run a).run b).1.2 =
      if ((expire.run a).run b).1.1 then { a with state := .rejected .challengeExpired } else a := by
  rw [expire_run]
  cases hT : a.state.isTerminal
  case true => simp
  case false =>
    cases hd : a.deadline with
    | none => simp
    | some d =>
      dsimp only
      by_cases hle : d ≤ b.clock.now
      · simp [hle]
      · simp [hle]

/-! ## Submissions at a known clock -/

theorem runChecks_of_unparsed {h : Handshake} {signed : SignedResponse} {err : MessageError}
    (hp : Challenge.parse signed.message = .error err) :
    Steps.runChecks h signed = throw (.malformedMessage err.message) := by
  have hparse : check ((Challenge.parse signed.message).mapError
      fun e => AuthError.malformedMessage e.message) =
      (throw (.malformedMessage err.message) : AttemptP Challenge) := by
    rw [hp]
    rfl
  unfold Steps.runChecks
  rw [hparse, ExceptT.bind_throw]

/-- With a deadline, the time left is read from the clock once. -/
theorem run_timeLeft_bind {γ : Type} {h : Handshake} {a : Attempt} {d : Instant}
    (hd : a.deadline = some d) (k : Span → Prog γ) (b : Backend) :
    (timeLeft h a >>= k).run.run b = (k (d.since b.clock.now)).run.run (Backend.now.run b).2 := by
  have htl : timeLeft h a = Prog.step .now fun t => Prog.pure (d.since t) := by
    simp [timeLeft, hd, Prog.now, Prog.atomic]
    rfl
  rw [htl]
  rfl

theorem submitSigned_run_eq (h : Handshake) (signed : SignedResponse) (a : Attempt)
    (b : Backend) :
    ((h.submitSigned signed).run.run a).run b =
      ((Steps.submitSigned h signed).run.run a).run.run b := rfl

/-- No time left: the submission is rejected as expired, having read only the clock. -/
theorem submitSigned_run_expired {h : Handshake} {signed : SignedResponse} {a : Attempt}
    {d : Instant} {b : Backend} (hst : a.state = .challengeIssued) (hd : a.deadline = some d)
    (hle : (d.since b.clock.now).nanos ≤ 0) :
    ((h.submitSigned signed).run.run a).run b =
      ((.error .challengeExpired, { a with state := .rejected .challengeExpired }),
        (Backend.now.run b).2) := by
  rw [submitSigned_run_eq, submitSigned_run_of_issued hst, run_timeLeft_bind hd, if_pos hle]
  rfl

/-- Time left and a message that does not parse: the submission is rejected as malformed. -/
theorem submitSigned_run_unparsed (h : Handshake) (signed : SignedResponse) {a : Attempt}
    {d : Instant} {b : Backend} {err : MessageError} (hst : a.state = .challengeIssued)
    (hd : a.deadline = some d) (hpos : 0 < (d.since b.clock.now).nanos)
    (hp : Challenge.parse signed.message = .error err) :
    (((h.submitSigned signed).run.run a).run b).1.1 = .error (.malformedMessage err.message) := by
  rw [submitSigned_run_eq, submitSigned_run_of_issued hst, run_timeLeft_bind hd,
    if_neg (by omega), runChecks_of_unparsed hp]
  rfl

/-- The empty text is no message. -/
theorem parse_empty : Challenge.parse "" = .error (.missingField "domain") := by
  rfl

/-! ## Calls on an attempt -/

/-- A call on one attempt. -/
inductive AttemptCall where
  | request (h : Handshake) (req : ChallengeRequest)
  | submit (h : Handshake) (signed : SignedResponse)
  | expire

/-- What a call on an attempt answers. -/
inductive CallAnswer where
  | challenge (r : Except AuthError Challenge)
  | identity (r : Except AuthError Identity)
  | expired (b : Bool)

/-- The error a call answered, if it answered one. -/
def CallAnswer.error? : CallAnswer → Option AuthError
  | .challenge (.error e) | .identity (.error e) => some e
  | _ => none

/-- The call run on an attempt against a backend: its answer and the attempt it leaves. -/
def AttemptCall.run (c : AttemptCall) (a : Attempt) (b : Backend) : CallAnswer × Attempt :=
  match c with
  | .request h req =>
    let x := ((h.requestChallenge req).run.run a).run b
    (.challenge x.1.1, x.1.2)
  | .submit h signed =>
    let x := ((h.submitSigned signed).run.run a).run b
    (.identity x.1.1, x.1.2)
  | .expire =>
    let x := (Handshake.expire.run a).run b
    (.expired x.1.1, x.1.2)

/-- The attempts that some sequence of calls, each against any backend, leads to from a fresh
one. -/
inductive Reachable : Attempt → Prop
  | fresh : Reachable {}
  | call {a : Attempt} (c : AttemptCall) (b : Backend) : Reachable a → Reachable (c.run a b).2

end Handshake

/-- What holds of every reachable attempt. -/
structure Attempt.Consistent (a : Attempt) : Prop where
  idle_fresh : a.state = .idle → a = {}
  not_verifying : a.state ≠ .verifying
  identity_iff : a.identity.isSome ↔ a.state = .authenticated
  issued : a.state = .challengeIssued ∨ a.state = .authenticated →
    a.challenge.isSome ∧ a.deadline.isSome

/-- The phase changes an attempt can make. -/
inductive AttemptState.Moves : AttemptState → AttemptState → Prop
  | issue : Moves .idle .challengeIssued
  | refuse (e : AuthError) : Moves .idle (.rejected e)
  | authenticate : Moves .challengeIssued .authenticated
  | reject (e : AuthError) : Moves .challengeIssued (.rejected e)

namespace Handshake

/-- What a call that answered `r` may do to the attempt `a`, leaving `a'`: keep the phase or
make one of the moves; leave a final attempt as it was; leave it untouched on a phase error and
reject it with any other error; keep the identity it answers, and answer one to authenticate. -/
structure CallSound (a : Attempt) (r : CallAnswer) (a' : Attempt) : Prop where
  moves : a'.state = a.state ∨ AttemptState.Moves a.state a'.state
  final : a.state.isTerminal → a' = a
  phaseError : ∀ e, r.error? = some e → e.isPhaseError → a' = a
  rejects : ∀ e, r.error? = some e → e.isPhaseError = false → a'.state = .rejected e
  answered : ∀ id, r = .identity (.ok id) → a'.state = .authenticated ∧ a'.identity = some id
  authenticatedBy : a.state ≠ .authenticated → a'.state = .authenticated →
    ∃ id, r = .identity (.ok id)

/-- A call that leaves the attempt as it was, answering no identity and erring only in phase. -/
theorem CallSound.unchanged {a : Attempt} {r : CallAnswer}
    (hr : ∀ e, r.error? = some e → e.isPhaseError) (hid : ∀ id, r ≠ .identity (.ok id)) :
    CallSound a r a where
  moves := .inl rfl
  final _ := rfl
  phaseError _ _ _ := rfl
  rejects e he hp := by
    have := hr e he
    simp_all
  answered id h := absurd h (hid id)
  authenticatedBy h h' := absurd h' h

end Handshake

namespace Attempt.Consistent

theorem fresh : Attempt.Consistent {} where
  idle_fresh _ := rfl
  not_verifying := by decide
  identity_iff := by decide
  issued := by decide

/-- A consistent attempt that is not final and has a deadline waits for a signed answer. -/
theorem issued_of_deadline {a : Attempt} {d : Instant} (hc : a.Consistent)
    (hT : a.state.isTerminal = false) (hd : a.deadline = some d) :
    a.state = .challengeIssued := by
  cases hs : a.state with
  | idle =>
    have := hc.idle_fresh hs
    subst this
    cases hd
  | challengeIssued => rfl
  | verifying => exact absurd hs hc.not_verifying
  | authenticated => rw [hs] at hT; cases hT
  | rejected e => rw [hs] at hT; cases hT

/-- An attempt waiting for its answer holds no identity. -/
theorem identity_of_issued {a : Attempt} (hc : a.Consistent)
    (hst : a.state = .challengeIssued) : a.identity.isSome = false := by
  cases hi : a.identity.isSome
  · rfl
  · have := hc.identity_iff.1 hi
    rw [hst] at this
    cases this

end Attempt.Consistent

/-! ## One call, and a whole run -/

namespace Handshake

theorem request_sound {a : Attempt} (hc : a.Consistent) (h : Handshake) (req : ChallengeRequest)
    (b : Backend) :
    CallSound a ((AttemptCall.request h req).run a b).1 ((AttemptCall.request h req).run a b).2 ∧
      ((AttemptCall.request h req).run a b).2.Consistent := by
  simp only [AttemptCall.run, requestChallenge_run]
  by_cases hst : a.state = .idle
  case neg =>
    rw [if_neg hst]
    exact ⟨.unchanged (fun e he => by cases he; rfl) (fun _ h => by cases h), hc⟩
  case pos =>
    rw [if_pos hst]
    -- an idle attempt is a fresh one
    have ha : a = {} := hc.idle_fresh hst
    subst ha
    have hfail := ChallengeBuilder.build_failsOnly h.policy h.ttl req b
    cases hb : (ChallengeBuilder.build h.policy h.ttl req).run.run b with
    | mk r b' =>
      rw [hb] at hfail
      cases r with
      | ok v =>
        obtain ⟨c, record⟩ := v
        exact ⟨{
          moves := .inr .issue
          final := fun h => by cases h
          phaseError := fun _ he => by cases he
          rejects := fun _ he => by cases he
          answered := fun _ h => by cases h
          authenticatedBy := fun _ h => by cases h }, {
          idle_fresh := fun h => by cases h
          not_verifying := fun h => by cases h
          identity_iff := by simp
          issued := fun _ => ⟨rfl, rfl⟩ }⟩
      | error e =>
        -- a refused build is a request error or a store failure, never a phase error
        have hnp : e.isPhaseError = false := by
          rcases hfail e rfl with hreq | ⟨d, rfl⟩
          · exact AuthError.isPhaseError_of_isRequestError hreq
          · rfl
        exact ⟨{
          moves := .inr (.refuse e)
          final := fun h => by cases h
          phaseError := fun e' he hp => by
            cases he
            rw [hnp] at hp
            cases hp
          rejects := fun e' he _ => by
            cases he
            rfl
          answered := fun _ h => by cases h
          authenticatedBy := fun _ h => by cases h }, {
          idle_fresh := fun h => by cases h
          not_verifying := fun h => by cases h
          identity_iff := by simp
          issued := fun h => by rcases h with h | h <;> cases h }⟩

/-- Rejecting an attempt that waits for its answer is one of the moves, and keeps it
consistent. -/
theorem reject_issued_sound {a : Attempt} (hc : a.Consistent) (hst : a.state = .challengeIssued)
    {r : CallAnswer} (e : AuthError) (hr : ∀ e', r.error? = some e' → e' = e)
    (hnp : e.isPhaseError = false) (hid : ∀ id, r ≠ .identity (.ok id)) :
    CallSound a r { a with state := .rejected e } ∧ Attempt.Consistent { a with state := .rejected e } :=
  ⟨{
    moves := .inr (by rw [hst]; exact .reject e)
    final := fun hT => by rw [hst] at hT; cases hT
    phaseError := fun e' he hp => by
      rw [hr e' he, hnp] at hp
      cases hp
    rejects := fun e' he _ => by rw [hr e' he]
    answered := fun id h => absurd h (hid id)
    authenticatedBy := fun _ h => by cases h }, {
    idle_fresh := fun h => by cases h
    not_verifying := fun h => by cases h
    identity_iff := by simp [hc.identity_of_issued hst]
    issued := fun h => by rcases h with h | h <;> cases h }⟩

theorem submit_sound {a : Attempt} (hc : a.Consistent) (h : Handshake) (signed : SignedResponse)
    (b : Backend) :
    CallSound a ((AttemptCall.submit h signed).run a b).1
        ((AttemptCall.submit h signed).run a b).2 ∧
      ((AttemptCall.submit h signed).run a b).2.Consistent := by
  have hends := (submitSigned_ends h signed fun hst => (hc.issued (.inl hst)).1).run b
  simp only [AttemptCall.run, submitSigned_run_eq]
  rcases hends with ⟨_, hr⟩ | ⟨hst, ⟨id, hr⟩ | ⟨e, hnp, hr⟩⟩
  · rw [hr]
    exact ⟨.unchanged (fun e he => by cases he; rfl) (fun _ h => by cases h), hc⟩
  · -- authenticated: the attempt keeps its challenge and deadline and takes the identity
    rw [hr]
    exact ⟨{
      moves := .inr (by rw [hst]; exact .authenticate)
      final := fun hT => by rw [hst] at hT; cases hT
      phaseError := fun _ he => by cases he
      rejects := fun _ he => by cases he
      answered := fun id' h => by
        cases h
        exact ⟨rfl, rfl⟩
      authenticatedBy := fun _ _ => ⟨id, rfl⟩ }, {
      idle_fresh := fun h => by cases h
      not_verifying := fun h => by cases h
      identity_iff := by simp
      issued := fun _ => hc.issued (.inl hst) }⟩
  · -- rejected with the error of a failed check
    rw [hr]
    refine reject_issued_sound hc hst e ?_ hnp ?_
    · intro e' he
      cases he
      rfl
    · intro _ h
      cases h

theorem expire_sound {a : Attempt} (hc : a.Consistent) (b : Backend) :
    CallSound a (AttemptCall.expire.run a b).1 (AttemptCall.expire.run a b).2 ∧
      (AttemptCall.expire.run a b).2.Consistent := by
  simp only [AttemptCall.run, expire_leaves a b]
  cases hfire : ((expire.run a).run b).1.1
  case false =>
    refine ⟨.unchanged ?_ ?_, hc⟩
    · intro _ he
      cases he
    · intro _ h
      cases h
  case true =>
    -- the deadline has come: an attempt waiting for its answer is rejected as expired
    obtain ⟨hT, d, hd, -⟩ := (expire_fires_iff a b).1 hfire
    refine reject_issued_sound hc (hc.issued_of_deadline hT hd) .challengeExpired ?_ rfl ?_
    · intro _ he
      cases he
    · intro _ h
      cases h

/-- The step lemma: one call on a consistent attempt is sound and leaves it consistent. -/
theorem AttemptCall.run_sound {a : Attempt} (hc : a.Consistent) (c : AttemptCall) (b : Backend) :
    CallSound a (c.run a b).1 (c.run a b).2 ∧ (c.run a b).2.Consistent := by
  cases c with
  | request h req => exact request_sound hc h req b
  | submit h signed => exact submit_sound hc h signed b
  | expire => exact expire_sound hc b

/-- The run lemma: every reachable attempt is consistent. -/
theorem Reachable.consistent {a : Attempt} (ha : Reachable a) : a.Consistent := by
  induction ha with
  | fresh => exact .fresh
  | call c b _ ih => exact (AttemptCall.run_sound ih c b).2

/-- Away from leap seconds, expiring a consistent attempt succeeds exactly when every
submission at the same clock would be rejected as expired having read only the clock, before
any check of the message. -/
theorem expire_iff_submit_expired {a : Attempt} (hc : a.Consistent) (h : Handshake)
    (b : Backend) (hnow : b.clock.now.nanos < nanosPerSecond)
    (hdl : ∀ d, a.deadline = some d → d.nanos < nanosPerSecond) :
    ((expire.run a).run b).1.1 = true ↔
      ∀ signed, ((h.submitSigned signed).run.run a).run b =
        ((.error .challengeExpired, { a with state := .rejected .challengeExpired }),
          (Backend.now.run b).2) := by
  -- a submission refused for its phase never answers `challengeExpired`
  have hphase : a.state ≠ .challengeIssued → ∀ (a' : Attempt) (b' : Backend),
      ¬∀ signed, ((h.submitSigned signed).run.run a).run b = ((.error .challengeExpired, a'), b') := by
    intro hst _ _ hall
    have h1 := hall ⟨"", .empty⟩
    rw [submitSigned_run_eq, submitSigned_run_of_ne hst] at h1
    cases h1
  rw [expire_fires_iff]
  constructor
  · -- the deadline has come, so no time is left, whatever the message
    rintro ⟨hT, d, hd, hle⟩ signed
    have hst := hc.issued_of_deadline hT hd
    have hnp : ¬0 < (d.since b.clock.now).nanos := by
      rw [Instant.since_pos_iff (hdl d hd) hnow]
      exact Instant.le_iff_not_lt.1 hle
    exact submitSigned_run_expired hst hd (by omega)
  · intro hall
    -- only an attempt waiting for its answer can be turned away as expired
    have hst : a.state = .challengeIssued := by
      apply Classical.byContradiction
      intro hst
      have h1 := hall ⟨"", .empty⟩
      rw [submitSigned_run_eq, submitSigned_run_of_ne hst] at h1
      cases h1
    obtain ⟨d, hd⟩ := Option.isSome_iff_exists.1 (hc.issued (.inl hst)).2
    have hT : a.state.isTerminal = false := by rw [hst]; rfl
    refine ⟨hT, d, hd, Instant.le_iff_not_lt.2 fun hlt => ?_⟩
    -- with time left, the empty text is refused as malformed, not as expired
    have hpos : 0 < (d.since b.clock.now).nanos := (Instant.since_pos_iff (hdl d hd) hnow).2 hlt
    have h1 := submitSigned_run_unparsed h ⟨"", .empty⟩ hst hd hpos parse_empty
    rw [hall] at h1
    cases h1

/-- The phases of an attempt. Every attempt that calls on any backends reach from a fresh one
is consistent (never verifying, an identity exactly when authenticated, a challenge and a
deadline once issued); each further call keeps the phase or makes one of the four moves, leaves
a final attempt as it was, leaves the attempt untouched on a phase error and rejects it with any
other error, and keeps the identity it answers; and, away from leap seconds, expiring succeeds
exactly when every submission at the same clock would be turned away as expired before any
check. -/
theorem attempt_phases {a : Attempt} (ha : Reachable a) :
    a.Consistent ∧
      (∀ (c : AttemptCall) (b : Backend),
        CallSound a (c.run a b).1 (c.run a b).2 ∧ (c.run a b).2.Consistent) ∧
      ∀ (h : Handshake) (b : Backend), b.clock.now.nanos < nanosPerSecond →
        (∀ d, a.deadline = some d → d.nanos < nanosPerSecond) →
        (((expire.run a).run b).1.1 = true ↔
          ∀ signed, ((h.submitSigned signed).run.run a).run b =
            ((.error .challengeExpired, { a with state := .rejected .challengeExpired }),
              (Backend.now.run b).2)) :=
  ⟨ha.consistent, fun c b => AttemptCall.run_sound ha.consistent c b,
    fun h b hnow hdl => expire_iff_submit_expired ha.consistent h b hnow hdl⟩

/-- A backend with an empty in-process store and a clock at rest at the epoch. -/
def restingBackend : Backend where
  clock := { now := ⟨0, 0⟩ }
  entropy := {}
  nonces := .memory {} []
  kv := {}

/-- A handshake for one site and chain, with nonces valid for five minutes. -/
def siteHandshake : Handshake where
  policy := { domain := "app.example.com", scheme := some "https", statement := none,
              allowedOrigins := [], defaultChainId := 1, allowedChainIds := [1] }
  ttl := Span.ofSeconds 300

/-- A request from the site's origin for a challenge to the first development account. -/
def siteRequest : ChallengeRequest :=
  ⟨"0xf39fd6e51aad88f6f4ce6ab8827279cfffb92266", "https://app.example.com", {}⟩

/-- An attempt that asked for a challenge on a clock outside a leap second. -/
theorem requested_attempt_phases :
    let a := ((AttemptCall.request siteHandshake siteRequest).run {} restingBackend).2
    restingBackend.clock.now.nanos < nanosPerSecond ∧ Reachable a ∧ a.Consistent ∧
      (∀ (c : AttemptCall) (b : Backend),
        CallSound a (c.run a b).1 (c.run a b).2 ∧ (c.run a b).2.Consistent) ∧
      ∀ (h : Handshake) (b : Backend), b.clock.now.nanos < nanosPerSecond →
        (∀ d, a.deadline = some d → d.nanos < nanosPerSecond) →
        (((expire.run a).run b).1.1 = true ↔
          ∀ signed, ((h.submitSigned signed).run.run a).run b =
            ((.error .challengeExpired, { a with state := .rejected .challengeExpired }),
              (Backend.now.run b).2)) := by
  intro a
  have ha : Reachable a := .call _ _ .fresh
  exact ⟨by decide, ha, attempt_phases ha⟩

end Handshake

end WalletAuth
