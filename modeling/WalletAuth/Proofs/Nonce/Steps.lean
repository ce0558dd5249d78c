import WalletAuth.Proofs.Backend.Ensures

/-!
# WalletAuth.Proofs.Nonce.Steps — the registry operations as explicit steps

Each registry operation is a short program of atomic steps; this module writes each one out,
step by step, with what it answers for every answer of the backend:

* `lookup`: a `get`; a pending record found expired is then removed, in a separate step.
* `consume`: a `claim`, then a clock reading when the claim found the record pending.
* `issue`: a clock reading, a nonce draw, an insert.
* `sweep`: a clock reading, a purge.

Later proofs cite these forms and never unfold the operations. From them: `lookup` and `sweep`
spend nothing, and a `consume` of `(a, n)` that succeeds has won the claim of `(a, n)`.
-/

namespace WalletAuth
namespace Registry.Steps

theorem lookup_run (a : Address) (n : String) : (lookup a n).run =
    Prog.step (.get a n) fun v => match v with
      | .ok (.pending r) => Prog.step .now fun (t : Instant) =>
        if r.expiresAt ≤ t then
          Prog.step (.remove a n) fun w => match w with
            | .ok () => Prog.pure (.error .expired)
            | .error e => Prog.pure (.error (.store e))
        else Prog.pure (.ok r)
      | .ok (.consumed _) => Prog.pure (.error .alreadyUsed)
      | .ok .missing => Prog.pure (.error .notFound)
      | .error e => Prog.pure (.error (.store e)) := by
  show Prog.step _ _ = _
  congr 1
  funext v
  rcases v with e | ⟨r | r | _⟩
  · rfl
  · show Prog.step _ _ = _
    congr 1
    refine funext fun (t : Instant) => ?_
    -- the expiry test is the same on both sides; only the removal needs its answer split
    show (if r.expiresAt ≤ t then _ else _) = (if r.expiresAt ≤ t then _ else _)
    split
    · show Prog.step _ _ = _
      congr 1
      funext w
      rcases w with e | ⟨⟩ <;> rfl
    · rfl
  · rfl
  · rfl

theorem consume_run (a : Address) (n : String) : (consume a n).run =
    Prog.step (.claim a n) fun v => match v with
      | .ok (.pending r) => Prog.step .now fun (t : Instant) =>
        if r.expiresAt ≤ t then Prog.pure (.error .expired) else Prog.pure (.ok r)
      | .ok (.consumed _) => Prog.pure (.error .alreadyUsed)
      | .ok .missing => Prog.pure (.error .notFound)
      | .error e => Prog.pure (.error (.store e)) := by
  show Prog.step _ _ = _
  congr 1
  funext v
  rcases v with e | ⟨r | r | _⟩ <;> rfl

theorem issue_run (ttl : Span) (a : Address) : (issue ttl a).run =
    Prog.step .now fun (t : Instant) => Prog.step .freshNonce fun (nonce : String) =>
      Prog.step (.insert ⟨a, nonce, t, t.add ttl⟩ ((t.add ttl).add ttl)) fun w =>
        match w with
        | .ok () => Prog.pure (.ok ⟨a, nonce, t, t.add ttl⟩)
        | .error e => Prog.pure (.error (.store e)) := by
  show Prog.step _ _ = _
  congr 1
  funext t
  show Prog.step _ _ = _
  congr 1
  funext nonce
  show Prog.step _ _ = _
  congr 1
  funext w
  rcases w with e | ⟨⟩ <;> rfl

theorem sweep_run : sweep.run =
    Prog.step .now fun (t : Instant) => Prog.step (.purge t) fun w =>
      Prog.pure (w.mapError .store) := by
  show Prog.step _ _ = _
  congr 1

/-! ## What the operations spend -/

variable {α : Type} {a : Address} {n : String}

theorem lookup_earns (a' : Address) (n' : String) (ok : Except NonceError NonceRecord → Prop) :
    (lookup a' n').run.Earns a n False ok := by
  rw [lookup_run]
  refine Prog.Earns.step_keep (by simp) fun v => ?_
  rcases v with e | ⟨r | r | _⟩
  · exact .pure _
  · refine Prog.Earns.step_keep (by simp) fun (t : Instant) => ?_
    split
    · refine Prog.Earns.step_keep (by simp) fun w => ?_
      rcases w with e | ⟨⟩ <;> exact .pure _
    · exact .pure _
  · exact .pure _
  · exact .pure _

/-- A consume of `(a, n)` succeeds only after its claim of `(a, n)` found the record pending. -/
theorem consume_earns (a' : Address) (n' : String) :
    (consume a' n').run.Earns a n (a' = a ∧ n' = n) fun r => r.isOk := by
  intro d hd
  rw [consume_run]
  refine .step hd fun v => ?_
  rcases v with e | ⟨r | r | _⟩
  case ok.pending =>
    -- the claim found the record pending: it was won exactly when it names `(a, n)`
    have hg : Taken.gain a n ⟨.claim a' n', .ok (.pending r)⟩ =
        if a' = a ∧ n' = n then 1 else 0 := by
      simp only [Taken.gain, Taken.won, Taken.inserted]
      by_cases ha : a' = a <;> by_cases hn : n' = n <;> simp [ha, hn]
    refine .step (by split at hg <;> omega) fun (t : Instant) => ?_
    have hg0 : Taken.gain a n ⟨.now, t⟩ = 0 := rfl
    split
    · exact .pure ⟨by split at hg <;> omega, fun _ h => by simp [Except.isOk, Except.toBool] at h⟩
    · exact .pure ⟨by split at hg <;> omega, fun he _ => by rw [if_pos he] at hg; omega⟩
  all_goals exact .pure ⟨by simp [Taken.gain, Taken.won, Taken.inserted],
    fun _ h => by simp [Except.isOk, Except.toBool] at h⟩

theorem sweep_earns (ok : Except NonceError Nat → Prop) : sweep.run.Earns a n False ok := by
  rw [sweep_run]
  exact .step_keep (by simp) fun _ => .step_keep (by simp) fun _ => .pure _

end Registry.Steps
end WalletAuth
