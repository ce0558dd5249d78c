import WalletAuth.Proofs.Handshake.Phases
import WalletAuth.Proofs.Handshake.Spending
import WalletAuth.Proofs.Nonce.InProcess

/-!
# WalletAuth.Proofs.Handshake.Rejection — a rejected answer spends no nonce

`Ends b m Q` is a small program logic for an attempt computation run alone: from the backend
`b`, on any attempt, `m` ends in a result and a backend satisfying `Q`. It has one rule per
construct of the handshake's steps, in weakest-precondition form: `Ends.bind` asks of the first
part that each success continue into the rest and each failure satisfy `Q` at once.

Main statement, `rejected_answer_spares_nonces`: on an in-process store with the clock at rest,
a submission or a verification that fails leaves the store as it was, except that a failure as
expired may have removed the record of the message's own account and nonce, found pending and
expired. Only the lookup's removal of an expired record writes before the last check can fail:
once the lookup found the record outstanding, the spend that follows succeeds.
-/

namespace WalletAuth
namespace Handshake

variable {α β : Type} {b : Backend}

/-! ## Attempt computations run alone -/

/-- Run alone from the backend `b`, on any attempt, `m` ends in a result and a backend
satisfying `Q`. -/
def Ends (b : Backend) (m : AttemptP α) (Q : Except AuthError α → Backend → Prop) : Prop :=
  ∀ s, Q ((m.run.run s).run.run b).1.1 ((m.run.run s).run.run b).2

theorem Ends.mono {m : AttemptP α} {Q Q' : Except AuthError α → Backend → Prop}
    (h : Ends b m Q) (hQ : ∀ r b', Q r b' → Q' r b') : Ends b m Q' := fun s => hQ _ _ (h s)

/-- Sequencing: a success of `x` is continued by `f`, a failure ends the run. -/
theorem Ends.bind {x : AttemptP α} {f : α → AttemptP β} {Q : Except AuthError β → Backend → Prop}
    (h : Ends b x fun r b' => match r with
      | .ok v => Ends b' (f v) Q
      | .error e => Q (.error e) b') : Ends b (x >>= f) Q := by
  intro s
  have hx := h s
  rw [run_run_bind, Prog.run_bind]
  simp only [StateT.run_bind]
  rcases hr : (x.run.run s).run.run b with ⟨⟨e | v, s'⟩, b'⟩ <;> rw [hr] at hx
  · exact hx
  · exact hx s'

theorem ends_pure {v : α} {Q : Except AuthError α → Backend → Prop} (hQ : Q (.ok v) b) :
    Ends b (pure v : AttemptP α) Q := fun _ => hQ

theorem ends_throw {e : AuthError} {Q : Except AuthError α → Backend → Prop}
    (hQ : Q (.error e) b) : Ends b (throw e : AttemptP α) Q := fun _ => hQ

theorem ends_check {r : Except AuthError α} {Q : Except AuthError α → Backend → Prop}
    (hQ : Q r b) : Ends b (check r : AttemptP α) Q := by
  cases r with
  | error e => exact ends_throw hQ
  | ok v => exact ends_pure hQ

/-- A check, then `f` on what it passed: a failure ends the run at `b`. -/
theorem ends_check_bind {r : Except AuthError α} {f : α → AttemptP β}
    {Q : Except AuthError β → Backend → Prop} (hok : ∀ v, r = .ok v → Ends b (f v) Q)
    (herr : ∀ e, r = .error e → Q (.error e) b) : Ends b (check r >>= f) Q := by
  refine Ends.bind (ends_check ?_)
  cases r with
  | error e => exact herr e rfl
  | ok v => exact hok v rfl

theorem ends_get_bind {f : Attempt → AttemptP β} {Q : Except AuthError β → Backend → Prop}
    (h : ∀ s, Ends b (f s) Q) : Ends b (get >>= f) Q := fun s => h s s

theorem ends_modify_bind {g : Attempt → Attempt} {f : Unit → AttemptP β}
    {Q : Except AuthError β → Backend → Prop} (h : Ends b (f ()) Q) :
    Ends b (modify g >>= f) Q := fun s => h (g s)

theorem ends_lift {p : Prog α} {Q : Except AuthError α → Backend → Prop}
    (hQ : Q (.ok (p.run.run b).1) (p.run.run b).2) : Ends b (liftM p : AttemptP α) Q := by
  intro s
  rw [run_run_lift, Prog.run_bind]
  exact hQ

/-- A registry operation ends as it ends alone, its failure reported as `report` says. -/
theorem ends_registry {report : NonceError → AuthError} {p : Registry.RegistryP α}
    {Q : Except AuthError α → Backend → Prop}
    (hQ : Q ((p.run.run.run b).1.mapError report) (p.run.run.run b).2) :
    Ends b (registry report p) Q := by
  unfold registry
  refine Ends.bind (ends_lift ?_)
  rcases hr : p.run.run.run b with ⟨e | v, b'⟩ <;> rw [hr] at hQ
  · exact ends_throw hQ
  · exact ends_pure hQ

/-- A handled failure: the handler continues from where `x` failed. -/
theorem ends_tryCatch {x : AttemptP α} {handler : AuthError → AttemptP α}
    {Q : Except AuthError α → Backend → Prop}
    (h : Ends b x fun r b' => match r with
      | .ok v => Q (.ok v) b'
      | .error e => Ends b' (handler e) Q) : Ends b (tryCatch x handler) Q := by
  intro s
  have hx := h s
  simp only [ExceptT.run_tryCatch, StateT.run_bind, Prog.run_bind]
  rcases hr : (x.run.run s).run.run b with ⟨⟨e | v, s'⟩, b'⟩ <;> rw [hr] at hx
  · exact hx s'
  · exact hx

theorem ends_reject {e : AuthError} {Q : Except AuthError α → Backend → Prop}
    (hQ : Q (.error e) b) : Ends b (reject e : AttemptP α) Q :=
  ends_modify_bind (ends_throw hQ)

/-! ## What a failure leaves of an in-process store -/

variable {m : MemoryStore} {h : Handshake} {signed : SignedResponse}

/-- What a rejected answer may have done to the in-process store `m`, read at `t`: nothing, or,
when it failed as expired, removed the record of the message's own account and nonce, found
pending and expired at `t`. -/
def Spared (m : MemoryStore) (t : Instant) (signed : SignedResponse) (e : AuthError)
    (after : NonceStore) : Prop :=
  after = .memory m [] ∨
    e = .nonceExpired ∧ ∃ c r, Challenge.parse signed.message = .ok c ∧
      m.get c.address c.nonce = .pending r ∧ r.expiresAt ≤ t ∧
      after = .memory (m.remove c.address c.nonce) []

theorem now_run_run_of_rest (hrest : b.clock.step = ⟨0⟩) :
    Prog.now.run.run b = (b.clock.now, b) :=
  Backend.now_run_of_rest hrest

/-- With the clock at rest, reading the time left leaves the backend as it was. -/
theorem timeLeft_run_snd (hrest : b.clock.step = ⟨0⟩) (s : Attempt) :
    ((timeLeft h s).run.run b).2 = b := by
  cases hd : s.deadline with
  | none =>
    simp only [timeLeft, hd]
    rfl
  | some d =>
    have hrun := run_timeLeft_bind (h := h) hd Prog.pure b
    rw [Prog.bind_pure'] at hrun
    rw [hrun, Backend.now_run_of_rest hrest]
    rfl

/-- The checks fail only where `Spared` allows: every check before the lookup fails at `b`, the
lookup removes only an expired record of the message's own nonce, and once the lookup found the
record outstanding, the signature check fails at `b` and the spend succeeds. -/
theorem runChecks_spares (hb : b.nonces = .memory m []) (hrest : b.clock.step = ⟨0⟩) :
    Ends b (Steps.runChecks h signed) fun r b' =>
      ∀ e, r = .error e → Spared m b.clock.now signed e b'.nonces := by
  unfold Steps.runChecks
  refine ends_check_bind (fun c hc => ?_) (fun _ _ _ _ => .inl hb)
  have hp : Challenge.parse signed.message = .ok c := by
    cases hp : Challenge.parse signed.message <;> simp_all [Except.mapError]
  refine ends_get_bind fun s => ends_check_bind (fun expected _ => ?_) (fun _ _ _ _ => .inl hb)
  refine ends_check_bind (fun _ _ => ?_) (fun _ _ _ _ => .inl hb)
  refine Ends.bind (ends_lift ?_)
  rw [now_run_run_of_rest hrest]
  refine ends_check_bind (fun _ _ => ?_) (fun _ _ _ _ => .inl hb)
  refine ends_check_bind (fun _ _ => ?_) (fun _ _ _ _ => .inl hb)
  refine Ends.bind (ends_registry ?_)
  rw [Registry.Steps.lookup_alone hb, Backend.now_run_of_rest hrest]
  cases hs : m.get c.address c.nonce with
  | missing => exact fun _ _ => .inl hb
  | consumed r => exact fun _ _ => .inl hb
  | pending r =>
    by_cases hle : r.expiresAt ≤ b.clock.now
    · simp only [hle, if_true]
      exact fun _ he => .inr ⟨by cases he; rfl, c, r, hp, hs, hle, rfl⟩
    · -- the record is outstanding: the signature check fails at `b`, and the spend succeeds
      simp only [hle, if_false]
      refine ends_modify_bind (ends_check_bind (fun _ _ => ?_) (fun _ _ _ _ => .inl hb))
      refine Ends.bind (ends_registry ?_)
      rw [Registry.Steps.consume_alone hb, hs]
      simp only [hle, if_false]
      exact Ends.bind (ends_lift (ends_pure fun _ he => by cases he))

theorem submitSigned_spares (hb : b.nonces = .memory m []) (hrest : b.clock.step = ⟨0⟩) :
    Ends b (Steps.submitSigned h signed) fun r b' =>
      ∀ e, r = .error e → Spared m b.clock.now signed e b'.nonces := by
  unfold Steps.submitSigned
  refine ends_get_bind fun s => ends_check_bind (fun _ _ => ?_) (fun _ _ _ _ => .inl hb)
  refine Ends.bind (ends_lift ?_)
  rw [timeLeft_run_snd hrest]
  refine Ends.bind ?_
  split
  · exact ends_reject fun _ _ => .inl hb
  · refine ends_tryCatch ((runChecks_spares hb hrest).mono ?_)
    rintro (e | v) b' hQ
    · exact ends_reject hQ
    · exact ends_modify_bind (ends_pure fun _ he => by cases he)

theorem verifySigned_spares (hb : b.nonces = .memory m []) (hrest : b.clock.step = ⟨0⟩)
    (e : AuthError) (he : ((Steps.verifySigned h signed).run.run b).1 = .error e) :
    Spared m b.clock.now signed e ((Steps.verifySigned h signed).run.run b).2.nonces := by
  unfold Steps.verifySigned at he ⊢
  cases hp : Challenge.parse signed.message with
  | error err => exact .inl hb
  | ok c =>
    -- the made-up attempt is submitted to from `b` itself, the clock being at rest
    simp only [hp, Prog.run_bind, StateT.run_bind] at he ⊢
    rw [now_run_run_of_rest hrest] at he ⊢
    exact submitSigned_spares hb hrest _ e he

/-- A rejected answer spends no nonce: on an in-process store, with the clock at rest, a
submission to any attempt or a verification that fails leaves every record as it was, except
that a failure as expired may have removed the expired record of the message's own account and
nonce. -/
theorem rejected_answer_spares_nonces (h : Handshake) (signed : SignedResponse) (att : Attempt)
    {b : Backend} {m : MemoryStore} (hb : b.nonces = .memory m []) (hrest : b.clock.step = ⟨0⟩) :
    (∀ e, (((h.submitSigned signed).run.run att).run b).1.1 = .error e →
      Spared m b.clock.now signed e (((h.submitSigned signed).run.run att).run b).2.nonces) ∧
    (∀ e, ((h.verifySigned signed).run b).1 = .error e →
      Spared m b.clock.now signed e ((h.verifySigned signed).run b).2.nonces) :=
  ⟨fun e he => submitSigned_spares hb hrest att e he, verifySigned_spares hb hrest⟩

end Handshake

/-- Noon of the first of May 2024. -/
def mayNoon : Instant := ⟨1714564800, 0⟩

/-- The first development account. -/
def devAddress : Address :=
  ⟨Fin.mk 0xf39fd6e51aad88f6f4ce6ab8827279cfffb92266 (Nat.le_of_ble_eq_true rfl)⟩

/-- A nonce issued at noon to `devAddress`, valid for five minutes. -/
def noonNonce : NonceRecord :=
  ⟨devAddress, "00000000000000000000000000000000", mayNoon, mayNoon.add (.ofSeconds 300)⟩

/-- The in-process store holding `noonNonce`, still to be claimed. -/
def noonStore : MemoryStore := { slots := [⟨noonNonce, false, mayNoon.add (.ofSeconds 600)⟩] }

/-- The backend at noon with `noonNonce` pending, its clock at rest. -/
def heldBackend : Backend where
  clock := { now := mayNoon }
  entropy := {}
  nonces := .memory noonStore []
  kv := {}

/-- The message naming `noonNonce` that the account of `devAddress` signs. -/
def noonMessage : String :=
  "app.example.com wants you to sign in with your Ethereum account:\n" ++
    "0xf39Fd6e51aad88F6F4ce6aB8827279cffFb92266\n\n\nURI: urn:x\nVersion: 1\nChain ID: 1\n" ++
    "Nonce: 00000000000000000000000000000000\nIssued At: 2024-05-01T12:00:00Z"

namespace Handshake

/-- The attempt that asked at noon, on an empty store, for a challenge to `devAddress` on the
site. -/
def noonAttempt : Attempt :=
  ((AttemptCall.request siteHandshake siteRequest).run {}
    { heldBackend with nonces := .memory {} [] }).2

/-- The message naming `noonNonce` with no signature. -/
def unsignedNoonAnswer : SignedResponse := ⟨noonMessage, .empty⟩

theorem rejected_answer_spares_nonces_sample :
    heldBackend.nonces = .memory noonStore [] ∧ heldBackend.clock.step = ⟨0⟩ ∧
    (∀ e, (((siteHandshake.submitSigned unsignedNoonAnswer).run.run noonAttempt).run
        heldBackend).1.1 = .error e →
      Spared noonStore heldBackend.clock.now unsignedNoonAnswer e
        (((siteHandshake.submitSigned unsignedNoonAnswer).run.run noonAttempt).run
          heldBackend).2.nonces) ∧
    (∀ e, ((siteHandshake.verifySigned unsignedNoonAnswer).run heldBackend).1 = .error e →
      Spared noonStore heldBackend.clock.now unsignedNoonAnswer e
        ((siteHandshake.verifySigned unsignedNoonAnswer).run heldBackend).2.nonces) :=
  ⟨rfl, rfl, rejected_answer_spares_nonces siteHandshake unsignedNoonAnswer noonAttempt rfl rfl⟩

end Handshake
end WalletAuth
