import WalletAuth.Proofs.Nonce.Steps
import WalletAuth.Proofs.Nonce.Pending
import WalletAuth.Proofs.Time.Spans

/-!
# WalletAuth.Proofs.Nonce.InProcess — the registry alone on an in-process store

On a backend whose nonce store is kept in process and fails no method, each store method is a
plain function of the slots, and each registry operation run alone has a closed form: what it
answers and the backend it leaves, in terms of `MemoryStore.get`, `claim`, `insert`, `remove`
and `purge` and of the clock's readings.

* `lookup_alone`: a pending record expired at the reading is removed, and reported expired.
* `consume_alone`: the claim is written whatever it finds; expiry is judged after it.
* `issue_alone`, `release_alone`, `sweep_alone`.

A clock *at rest* (step zero) answers the same instant at every reading and stays as it is;
`Backend.now_run_of_rest` says so.
-/

namespace WalletAuth

theorem ManualClock.read_of_rest (c : ManualClock) (h : c.step = ⟨0⟩) : c.read = (c.now, c) := by
  rcases c with ⟨t, d⟩
  cases h
  simp [ManualClock.read, Instant.add_zero]

namespace Backend

theorem now_run (b : Backend) :
    now.run b = (b.clock.now, { b with clock := b.clock.read.2 }) := rfl

theorem now_run_of_rest {b : Backend} (h : b.clock.step = ⟨0⟩) : now.run b = (b.clock.now, b) := by
  rw [now_run, ManualClock.read_of_rest _ h]

end Backend

namespace Prog

variable {α : Type}

theorem run_step_run (x : Action) (k : x.Answer → Prog α) (b : Backend) :
    (Prog.step x k).run.run b = (k (x.exec.run b).1).run.run (x.exec.run b).2 := rfl

theorem run_now_step (k : Instant → Prog α) (b : Backend) :
    (Prog.step .now k).run.run b = (k b.clock.now).run.run (Backend.now.run b).2 := rfl

theorem run_freshNonce_step (k : String → Prog α) (b : Backend) :
    (Prog.step .freshNonce k).run.run b =
      (k (Backend.freshNonce.run b).1).run.run (Backend.freshNonce.run b).2 := rfl

end Prog

/-! ## Store methods on an in-process store -/

namespace NonceStore

variable {b : Backend} {m : MemoryStore} {a : Address} {n : String}

theorem get_run_memory (hb : b.nonces = .memory m []) :
    (get a n).run.run b = (.ok (m.get a n), b) := by
  unfold get
  rw [run_get_bind, hb]
  rfl

theorem claim_run_memory (hb : b.nonces = .memory m []) :
    (claim a n).run.run b =
      (.ok (m.get a n), { b with nonces := .memory (m.claim a n).2 [] }) := by
  unfold claim
  rw [run_get_bind, hb]
  rfl

theorem remove_run_memory (hb : b.nonces = .memory m []) :
    (remove a n).run.run b = (.ok (), { b with nonces := .memory (m.remove a n) [] }) := by
  unfold remove
  rw [run_get_bind, hb]
  rfl

theorem insert_run_memory {r : NonceRecord} {t : Instant} (hb : b.nonces = .memory m []) :
    (insert r t).run.run b = match m.insert r t with
      | .ok m' => (.ok (), { b with nonces := .memory m' [] })
      | .error e => (.error e, b) := by
  unfold insert
  rw [run_get_bind, hb]
  dsimp only
  -- the store's own answer decides the branch taken after the fault check, on both sides
  cases m.insert r t <;> rfl

theorem purgeExpired_run_memory {t : Instant} (hb : b.nonces = .memory m []) :
    (purgeExpired t).run.run b =
      (.ok (m.purge t).1, { b with nonces := .memory (m.purge t).2 [] }) := by
  unfold purgeExpired
  rw [run_get_bind, hb]
  rfl

end NonceStore

/-! ## Registry operations alone -/

namespace Registry.Steps

variable {b : Backend} {m : MemoryStore} {a : Address} {n : String}

theorem lookup_alone (hb : b.nonces = .memory m []) :
    (lookup a n).run.run.run b = match m.get a n with
      | .pending r =>
        if r.expiresAt ≤ b.clock.now then
          (.error .expired, { (Backend.now.run b).2 with nonces := .memory (m.remove a n) [] })
        else (.ok r, (Backend.now.run b).2)
      | .consumed _ => (.error .alreadyUsed, b)
      | .missing => (.error .notFound, b) := by
  rw [lookup_run, Prog.run_step_run]
  have hg : (Action.get a n).exec.run b = (.ok (m.get a n), b) := NonceStore.get_run_memory hb
  rw [hg]
  cases hs : m.get a n with
  | pending r =>
    rw [Prog.run_now_step]
    by_cases hle : r.expiresAt ≤ b.clock.now
    · rw [if_pos hle, Prog.run_step_run]
      have hr : (Action.remove a n).exec.run (Backend.now.run b).2 =
          (.ok (), { (Backend.now.run b).2 with nonces := .memory (m.remove a n) [] }) :=
        NonceStore.remove_run_memory hb
      rw [hr]
      simp only [hle, if_true]
      rfl
    · simp only [hle, if_false]
      rfl
  | consumed r => rfl
  | missing => rfl

theorem consume_alone (hb : b.nonces = .memory m []) :
    (consume a n).run.run.run b =
      let claimed : Backend := { b with nonces := .memory (m.claim a n).2 [] }
      match m.get a n with
      | .pending r =>
        if r.expiresAt ≤ b.clock.now then (.error .expired, (Backend.now.run claimed).2)
        else (.ok r, (Backend.now.run claimed).2)
      | .consumed _ => (.error .alreadyUsed, claimed)
      | .missing => (.error .notFound, claimed) := by
  rw [consume_run, Prog.run_step_run]
  have hc : (Action.claim a n).exec.run b =
      (.ok (m.get a n), { b with nonces := .memory (m.claim a n).2 [] }) :=
    NonceStore.claim_run_memory hb
  rw [hc]
  cases hs : m.get a n with
  | pending r =>
    rw [Prog.run_now_step]
    by_cases hle : r.expiresAt ≤ b.clock.now
    · simp only [hle, if_true]
      rfl
    · simp only [hle, if_false]
      rfl
  | consumed r => rfl
  | missing => rfl

theorem issue_alone {ttl : Span} (hb : b.nonces = .memory m []) :
    (issue ttl a).run.run.run b =
      let drawn := Backend.freshNonce.run (Backend.now.run b).2
      let r : NonceRecord := ⟨a, drawn.1, b.clock.now, b.clock.now.add ttl⟩
      match m.insert r (r.expiresAt.add ttl) with
      | .ok m' => (.ok r, { drawn.2 with nonces := .memory m' [] })
      | .error e => (.error (.store e), drawn.2) := by
  rw [issue_run, Prog.run_now_step, Prog.run_freshNonce_step, Prog.run_step_run]
  -- the clock reading and the draw leave the store as it was
  have hd : (Backend.freshNonce.run (Backend.now.run b).2).2.nonces = .memory m [] := hb
  generalize Backend.freshNonce.run (Backend.now.run b).2 = drawn at hd ⊢
  have hi : (Action.insert ⟨a, drawn.1, b.clock.now, b.clock.now.add ttl⟩
      ((b.clock.now.add ttl).add ttl)).exec.run drawn.2 = _ := NonceStore.insert_run_memory hd
  rw [hi]
  dsimp only
  cases m.insert ⟨a, drawn.1, b.clock.now, b.clock.now.add ttl⟩ ((b.clock.now.add ttl).add ttl)
  all_goals rfl

theorem release_alone (r : NonceRecord) (hb : b.nonces = .memory m []) :
    (release r).run.run.run b =
      (.ok (), { b with nonces := .memory (m.remove r.address r.nonce) [] }) := by
  show (Prog.step (.remove r.address r.nonce) _).run.run b = _
  rw [Prog.run_step_run]
  have hr : (Action.remove r.address r.nonce).exec.run b =
      (.ok (), { b with nonces := .memory (m.remove r.address r.nonce) [] }) :=
    NonceStore.remove_run_memory hb
  rw [hr]
  rfl

theorem sweep_alone (hb : b.nonces = .memory m []) :
    sweep.run.run.run b =
      (.ok (m.purge b.clock.now).1,
        { (Backend.now.run b).2 with nonces := .memory (m.purge b.clock.now).2 [] }) := by
  rw [sweep_run, Prog.run_now_step, Prog.run_step_run]
  have hp : (Action.purge b.clock.now).exec.run (Backend.now.run b).2 =
      (.ok (m.purge b.clock.now).1,
        { (Backend.now.run b).2 with nonces := .memory (m.purge b.clock.now).2 [] }) :=
    NonceStore.purgeExpired_run_memory hb
  rw [hp]
  rfl

end Registry.Steps
end WalletAuth
