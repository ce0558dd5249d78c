import WalletAuth.Proofs.Nonce.Steps

/-!
# WalletAuth.Proofs.Handshake.Spending — a successful submission has spent its nonce

For an account `a` and a nonce `n`, `Handshake.Earns a n e m` says of an attempt computation
`m`, started on any attempt and run against any answers of the backend: it never lowers the
advance (claims of `(a, n)` won minus records of `(a, n)` inserted), and when `e` holds, each
run of it that succeeds won a claim of `(a, n)` on its way.

The rules below give `Earns` for each construct of the handshake's steps; the checks, the
clock readings and the lookup keep the advance, and the consume earns the claim of the nonce
it names. Hence:

* `runChecks_earns`: the checks of a message that parses to `c` earn the claim of
  `(c.address, c.nonce)`;
* `submitSigned_earns`, `verifySigned_earns`: so does a submission of a message naming
  `(a, n)`, and a verification of one.
-/

namespace WalletAuth
namespace Handshake

variable {α β : Type} {a : Address} {n : String}

variable (a n) in
/-- Started on any attempt, `m` never lowers the advance of `(a, n)`, and when `e` holds, each
of its successes won a claim of `(a, n)`. -/
def Earns (e : Prop) (m : AttemptP α) : Prop :=
  ∀ s, (m.run.run s).Earns a n e fun r => r.1.isOk

theorem run_run_bind (x : AttemptP α) (f : α → AttemptP β) (s : Attempt) :
    (x >>= f).run.run s = (x.run.run s) >>= fun r => match r with
      | (.ok v, s') => (f v).run.run s'
      | (.error e, s') => Prog.pure (.error e, s') := by
  simp only [ExceptT.run_bind, StateT.run_bind]
  congr 1
  funext r
  rcases r with ⟨_ | _, _⟩ <;> rfl

/-! ## Rules -/

theorem Earns.mono {e e' : Prop} {m : AttemptP α} (h : Earns a n e m) (he : e' → e) :
    Earns a n e' m := fun s => (h s).mono he

/-- A result that failed earns whatever is asked. -/
theorem earns_error {e : Prop} (err : AuthError) (s : Attempt) :
    (Prog.pure ((.error err : Except AuthError α), s)).Earns a n e (fun r => r.1.isOk) :=
  .pure_of_not (by simp [Except.isOk, Except.toBool])

theorem Earns.bind {e₁ e₂ e : Prop} {x : AttemptP α} {f : α → AttemptP β}
    (hx : Earns a n e₁ x) (hf : ∀ v, Earns a n e₂ (f v)) (he : e → e₁ ∨ e₂) :
    Earns a n e (x >>= f) := by
  intro s
  rw [run_run_bind]
  refine (hx s).bind (fun r hr => ?_) (fun r hr => ?_) he
  · rcases r with ⟨_ | v, s'⟩
    · simp [Except.isOk, Except.toBool] at hr
    · exact hf v s'
  · rcases r with ⟨err | v, s'⟩
    · exact earns_error err s'
    · simp [Except.isOk, Except.toBool] at hr

/-- A part that keeps the advance, followed by one that earns. -/
theorem Earns.bind_keep {e : Prop} {x : AttemptP α} {f : α → AttemptP β}
    (hx : Earns a n False x) (hf : ∀ v, Earns a n e (f v)) : Earns a n e (x >>= f) :=
  hx.bind hf Or.inr

/-- A part that earns, followed by one that keeps the advance. -/
theorem Earns.bind_earn {e : Prop} {x : AttemptP α} {f : α → AttemptP β}
    (hx : Earns a n e x) (hf : ∀ v, Earns a n False (f v)) : Earns a n e (x >>= f) :=
  hx.bind hf Or.inl

theorem earns_pure (v : α) : Earns a n False (pure v : AttemptP α) := fun _ => .pure _

theorem earns_throw {e : Prop} (err : AuthError) : Earns a n e (throw err : AttemptP α) :=
  fun s => earns_error err s

theorem earns_get : Earns a n False (get : AttemptP Attempt) := fun _ => .pure _

theorem earns_modify (f : Attempt → Attempt) : Earns a n False (modify f : AttemptP Unit) :=
  fun _ => .pure _

theorem earns_check (r : Except AuthError α) : Earns a n False (check r) := by
  cases r with
  | error err => exact earns_throw err
  | ok v => exact earns_pure v

theorem earns_reject {e : Prop} (err : AuthError) : Earns a n e (reject err : AttemptP α) :=
  (earns_modify _).bind_keep fun _ => earns_throw err

theorem run_run_lift (p : Prog α) (s : Attempt) :
    (liftM p : AttemptP α).run.run s = p >>= fun v => Prog.pure (.ok v, s) := by
  simp only [liftM, monadLift, MonadLift.monadLift, ExceptT.lift, ExceptT.mk, ExceptT.run,
    StateT.run_map, StateT.run_lift, map_bind]
  rfl

/-- A step program that never fails, lifted. -/
theorem earns_lift {p : Prog α} (hp : p.Earns a n False fun _ => True) :
    Earns a n False (liftM p : AttemptP α) := by
  intro s
  rw [run_run_lift]
  exact hp.bind (fun v _ => .pure _) (fun _ h => absurd trivial h) Or.inl

theorem earns_now : Earns a n False (liftM Prog.now : AttemptP Instant) :=
  earns_lift (.step_keep (by simp) fun _ => .pure _)

/-- A registry operation, its failure reported as an attempt's error, earns what it earns. -/
theorem earns_registry {e : Prop} (report : NonceError → AuthError) {m : Registry.RegistryP α}
    (hm : m.run.Earns a n e fun r => r.isOk) : Earns a n e (registry report m) := by
  intro s
  unfold registry
  rw [run_run_bind, run_run_lift, bind_assoc]
  refine hm.bind (fun r hr => ?_) (fun r hr => ?_) (fun h => (Or.inl h : e ∨ False))
  · rcases r with _ | v
    · simp [Except.isOk, Except.toBool] at hr
    · exact .pure _
  · rcases r with err | v
    · exact earns_error _ s
    · simp [Except.isOk, Except.toBool] at hr

/-- A handled failure: the handler's successes must earn on their own. -/
theorem earns_tryCatch {e : Prop} {x : AttemptP α} {handler : AuthError → AttemptP α}
    (hx : Earns a n e x) (hh : ∀ err, Earns a n True (handler err)) :
    Earns a n e (tryCatch x handler) := by
  intro s
  simp only [ExceptT.run_tryCatch, StateT.run_bind]
  refine (hx s).bind (fun r hr => ?_) (fun r hr => ?_) (fun h => (Or.inl h : e ∨ False))
  · rcases r with ⟨_ | v, s'⟩
    · simp [Except.isOk, Except.toBool] at hr
    · exact .pure _
  · rcases r with ⟨err | v, s'⟩
    · exact hh err s'
    · simp [Except.isOk, Except.toBool] at hr

theorem timeLeft_earns (h : Handshake) (s : Attempt) :
    (timeLeft h s).Earns a n False fun _ => True := by
  unfold timeLeft
  split
  · exact .step_keep (by simp) fun _ => .pure _
  · exact .pure _

/-! ## The checks and the submissions -/

/-- The checks of a message that parses to `c` earn the claim of `c`'s account and nonce: every
step before the consume keeps the advance, and the consume earns it. -/
theorem runChecks_earns_of_parse {h : Handshake} {signed : SignedResponse} {c : Challenge}
    (hc : Challenge.parse signed.message = .ok c) :
    Earns a n (c.address = a ∧ c.nonce = n) (Steps.runChecks h signed) := by
  have hparse : check ((Challenge.parse signed.message).mapError
      fun e => AuthError.malformedMessage e.message) = (pure c : AttemptP Challenge) := by
    rw [hc]
    rfl
  unfold Steps.runChecks
  rw [hparse, pure_bind]
  refine .bind_keep earns_get fun s => .bind_keep (earns_check _) fun expected => ?_
  refine .bind_keep (earns_check _) fun _ => .bind_keep earns_now fun now => ?_
  refine .bind_keep (earns_check _) fun _ => .bind_keep (earns_check _) fun _ => ?_
  refine .bind_keep (earns_registry _ (Registry.Steps.lookup_earns _ _ _)) fun _ => ?_
  refine .bind_keep (earns_modify _) fun _ => .bind_keep (earns_check _) fun _ => ?_
  refine .bind_earn (earns_registry _ (Registry.Steps.consume_earns _ _)) fun _ => ?_
  exact .bind_keep earns_now fun _ => earns_pure _

/-- The checks of a message that does not parse never succeed. -/
theorem runChecks_earns_of_error {h : Handshake} {signed : SignedResponse}
    {err : MessageError} (hc : Challenge.parse signed.message = .error err) :
    Earns a n True (Steps.runChecks h signed) := by
  have hparse : check ((Challenge.parse signed.message).mapError
      fun e => AuthError.malformedMessage e.message) =
      (throw (.malformedMessage err.message) : AttemptP Challenge) := by
    rw [hc]
    rfl
  unfold Steps.runChecks
  rw [hparse, ExceptT.bind_throw]
  exact earns_throw _

theorem runChecks_earns (h : Handshake) (signed : SignedResponse) :
    Earns a n (∃ c, Challenge.parse signed.message = .ok c ∧ c.address = a ∧ c.nonce = n)
      (Steps.runChecks h signed) := by
  cases hc : Challenge.parse signed.message with
  | error err => exact (runChecks_earns_of_error hc).mono fun _ => trivial
  | ok c =>
    refine (runChecks_earns_of_parse hc).mono ?_
    rintro ⟨c', hc', ha, hn⟩
    cases hc'
    exact ⟨ha, hn⟩

/-- A submission of a message naming `(a, n)` succeeds only after winning the claim of
`(a, n)`; the phase check, the clock and a rejection spend nothing. -/
theorem submitSigned_earns (h : Handshake) (signed : SignedResponse) :
    Earns a n (∃ c, Challenge.parse signed.message = .ok c ∧ c.address = a ∧ c.nonce = n)
      (Steps.submitSigned h signed) := by
  unfold Steps.submitSigned
  refine .bind_keep earns_get fun s => .bind_keep (earns_check _) fun _ => ?_
  refine .bind_keep (earns_lift (timeLeft_earns h s)) fun remaining => ?_
  refine .bind_earn ?_ fun _ => .bind_keep (earns_modify _) fun _ => earns_pure _
  split
  · exact earns_reject _
  · exact earns_tryCatch (runChecks_earns h signed) fun err => earns_reject err

/-- A verification of a message naming `(a, n)` succeeds only after winning the claim of
`(a, n)`. -/
theorem verifySigned_earns (h : Handshake) (signed : SignedResponse) :
    (Steps.verifySigned h signed).Earns a n
      (∃ c, Challenge.parse signed.message = .ok c ∧ c.address = a ∧ c.nonce = n)
      fun r => r.isOk := by
  unfold Steps.verifySigned
  split
  · exact .pure_of_not (by simp [Except.isOk, Except.toBool])
  · refine .step_keep (by simp) fun now => ?_
    refine (submitSigned_earns h signed _).bind (fun r _ => .pure _)
      (fun r hr => .pure_of_not hr) (fun h => (Or.inl h : _ ∨ False))

end Handshake
end WalletAuth
