import WalletAuth.Handshake.Concurrent

/-!
# WalletAuth.Proofs.Backend.Ensures — what a computation guarantees whatever the backend answers

For one account `a` and nonce `n`, a step taken may *win* a claim (the store answered that the
record was pending, and the claim spent it) or *insert* a record that the store kept. The
*advance* of a computation is the number of claims it won minus the records it inserted.

`p.Ensures a n Q d`: started at advance `d`, the computation `p` is at advance at least `0`
before each of its steps, and ends in a result `v` at an advance `d'` with `Q d' v` — for
every answer the backend may give at every step. Answers are quantified at each step, so the
guarantee holds however other calls interleave their steps with those of `p`.

* `Ensures.bind` composes guarantees along `>>=`, `Ensures.mono` weakens them.
* `Ensures.atomic` is the rule for one step.

`p.Earns a n e ok` is the guarantee of a computation that spends: it never lowers the advance,
and when `e` holds, every result `v` with `ok v` comes after a won claim, one more advance than
it started with. `Earns.bind` composes it: a failure of the first part must not be followed by
a success that did not earn its own claim.
-/

namespace WalletAuth

namespace Taken

variable (a : Address) (n : String)

/-- The step was a claim of `(a, n)` that found the record pending. -/
def won : Taken → Bool
  | ⟨.claim a' n', .ok (.pending _)⟩ => a' == a && n' == n
  | _ => false

/-- The step was an insert of a record for `(a, n)` that the store kept. -/
def inserted : Taken → Bool
  | ⟨.insert r _, .ok ()⟩ => r.address == a && r.nonce == n
  | _ => false

/-- The change of advance a step makes. -/
def gain (t : Taken) : Int := (t.won a n).toNat - (t.inserted a n).toNat

variable {a n}

theorem gain_nonneg {t : Taken} (h : t.inserted a n = false) : 0 ≤ t.gain a n := by
  simp [gain, h]

/-- Only an insert can lose advance. -/
theorem inserted_eq_false {x : Action} (hx : ∀ r t, x ≠ .insert r t) (v : x.Answer) :
    Taken.inserted a n ⟨x, v⟩ = false := by
  cases x with
  | insert r t => exact absurd rfl (hx r t)
  | _ => rfl

/-- A step that neither inserts nor claims changes no advance. -/
theorem gain_eq_zero {x : Action} (hi : ∀ r t, x ≠ .insert r t) (hc : ∀ a' n', x ≠ .claim a' n')
    (v : x.Answer) : Taken.gain a n ⟨x, v⟩ = 0 := by
  cases x with
  | insert r t => exact absurd rfl (hi r t)
  | claim a' n' => exact absurd rfl (hc a' n')
  | _ => rfl

/-- A claim wins only for its own account and nonce, and only when it found the record
pending. -/
theorem won_claim {a' : Address} {n' : String} {v : Except StoreError NonceState}
    (h : Taken.won a n ⟨.claim a' n', v⟩ = true) : a' = a ∧ n' = n ∧ ∃ r, v = .ok (.pending r) := by
  rcases v with e | ⟨r | r | _⟩ <;> simp_all [won]

end Taken

namespace Prog

variable {α β : Type} (a : Address) (n : String)

/-- From advance `d`, `p` stays at advance at least `0` before each step and ends in a result
satisfying `Q` at its final advance, whatever the backend answers. -/
inductive Ensures (Q : Int → α → Prop) : Int → Prog α → Prop
  | pure {d : Int} {v : α} : Q d v → Ensures Q d (.pure v)
  | step {d : Int} {x : Action} {k : x.Answer → Prog α} :
      0 ≤ d → (∀ v, Ensures Q (d + Taken.gain a n ⟨x, v⟩) (k v)) → Ensures Q d (.step x k)

variable {a n}

theorem Ensures.mono {Q R : Int → α → Prop} {d : Int} {p : Prog α}
    (h : p.Ensures a n Q d) (hQR : ∀ d v, Q d v → R d v) : p.Ensures a n R d := by
  induction h with
  | pure hq => exact .pure (hQR _ _ hq)
  | step hd _ ih => exact .step hd ih

/-- Guarantees compose along `>>=`: what `p` ensures is what `f` needs. -/
theorem Ensures.bind {Q : Int → α → Prop} {R : Int → β → Prop} {d : Int} {p : Prog α}
    {f : α → Prog β} (hp : p.Ensures a n Q d) (hf : ∀ d v, Q d v → (f v).Ensures a n R d) :
    (p >>= f).Ensures a n R d := by
  induction hp with
  | pure hq => exact hf _ _ hq
  | step hd _ ih => exact .step hd ih

theorem Ensures.map {Q : Int → α → Prop} {R : Int → β → Prop} {d : Int} {p : Prog α}
    {f : α → β} (hp : p.Ensures a n Q d) (hf : ∀ d v, Q d v → R d (f v)) :
    (f <$> p).Ensures a n R d := by
  rw [map_eq_pure_bind]
  exact hp.bind fun d v hq => .pure (hf d v hq)

/-- A step that neither inserts nor claims: its continuations start at the same advance. -/
theorem Ensures.step_same {Q : Int → α → Prop} {d : Int} {x : Action} {k : x.Answer → Prog α}
    (hd : 0 ≤ d) (hi : ∀ r t, x ≠ .insert r t) (hc : ∀ a' n', x ≠ .claim a' n')
    (hk : ∀ v, (k v).Ensures a n Q d) : (Prog.step x k).Ensures a n Q d := by
  refine .step hd fun v => ?_
  rw [Taken.gain_eq_zero hi hc v, Int.add_zero]
  exact hk v

/-- The rule for one atomic step. -/
theorem Ensures.atomic {x : Action} {Q : Int → x.Answer → Prop} {d : Int} (hd : 0 ≤ d)
    (hQ : ∀ v, Q (d + Taken.gain a n ⟨x, v⟩) v) : (Prog.atomic x).Ensures a n Q d :=
  .step hd fun v => .pure (hQ v)

/-! ## Spending: the advance a computation earns -/

variable (a n) in
/-- From any advance `d ≥ 0`, `p` ends at an advance `d' ≥ d`, and when `e` holds, a result `v`
with `ok v` ends at `d' ≥ d + 1`. -/
def Earns (e : Prop) (ok : α → Prop) (p : Prog α) : Prop :=
  ∀ d, 0 ≤ d → p.Ensures a n (fun d' v => d ≤ d' ∧ (e → ok v → d + 1 ≤ d')) d

theorem Earns.mono {e e' : Prop} {ok : α → Prop} {p : Prog α} (h : p.Earns a n e ok)
    (he : e' → e) : p.Earns a n e' ok := fun d hd =>
  (h d hd).mono fun _ _ ⟨hle, hwon⟩ => ⟨hle, fun h' => hwon (he h')⟩

/-- A result that is not a success earns whatever is asked. -/
theorem Earns.pure_of_not {e : Prop} {ok : α → Prop} {v : α} (hv : ¬ ok v) :
    (Prog.pure v).Earns a n e ok := fun _ _ =>
  .pure ⟨Int.le_refl _, fun _ h => absurd h hv⟩

theorem Earns.pure {ok : α → Prop} (v : α) : (Prog.pure v).Earns a n False ok := fun _ _ =>
  .pure ⟨Int.le_refl _, fun h => h.elim⟩

/-- Sequencing: the first part's successes are continued by `f` earning `e₂`, its failures by
`f` earning on its own, so that every success earned `e₁` or `e₂`. -/
theorem Earns.bind {e₁ e₂ e : Prop} {ok₁ : α → Prop} {ok : β → Prop} {p : Prog α}
    {f : α → Prog β} (hp : p.Earns a n e₁ ok₁) (hok : ∀ v, ok₁ v → (f v).Earns a n e₂ ok)
    (herr : ∀ v, ¬ ok₁ v → (f v).Earns a n True ok) (he : e → e₁ ∨ e₂) :
    (p >>= f).Earns a n e ok := by
  intro d hd
  refine (hp d hd).bind fun d' v ⟨hdd', hwon⟩ => ?_
  by_cases hv : ok₁ v
  · refine ((hok v hv) d' (by omega)).mono fun d'' w ⟨hle, hw⟩ => ⟨by omega, fun he' hw' => ?_⟩
    rcases he he' with h₁ | h₂
    · have := hwon h₁ hv
      omega
    · have := hw h₂ hw'
      omega
  · refine ((herr v hv) d' (by omega)).mono fun d'' w ⟨hle, hw⟩ => ⟨by omega, fun _ hw' => ?_⟩
    have := hw trivial hw'
    omega

/-- A step that inserts nothing keeps what its continuations earn. -/
theorem Earns.step_keep {e : Prop} {ok : α → Prop} {x : Action} {k : x.Answer → Prog α}
    (hx : ∀ r t, x ≠ .insert r t) (hk : ∀ v, (k v).Earns a n e ok) :
    (Prog.step x k).Earns a n e ok := by
  intro d hd
  refine .step hd fun v => ?_
  have hg := Taken.gain_nonneg (Taken.inserted_eq_false (a := a) (n := n) hx v)
  exact ((hk v) _ (by omega)).mono fun _ _ ⟨hle, hw⟩ =>
    ⟨by omega, fun he hv => by have := hw he hv; omega⟩

end Prog
end WalletAuth
