import WalletAuth.Proofs.Nonce.Pending
import WalletAuth.Proofs.Handshake.Spending

/-!
# WalletAuth.Proofs.Handshake.Replay — a nonce authenticates no more often than it was issued

Calls that submit or verify signed messages, issue nonces and sweep the store run at once, their
atomic steps interleaved with each other's and with moves of the clock in any order. The main
statement, `authentications_le_issued_add_pending`: for every account `a` and nonce `n`, the calls
that answered an identity for a message naming `(a, n)` are at most the calls that issued
`(a, n)`, plus the records of `(a, n)` that the store held pending at the start. From a store that
holds none, a nonce issued once authenticates at most once, whatever the other calls do.

The argument counts *advance*: claims of `(a, n)` won minus records of `(a, n)` inserted.

* Each call in flight is *sound* (`Thread.Sound`): whatever the backend answers, it is at
  advance at least zero before each of its steps, and ends with at least the *credit* of its
  outcome, one for an identity for a message naming `(a, n)` and minus one for a record issued
  for `(a, n)`. Every call starts sound (`Call.sound`, from the spending rules), and its steps
  keep it so.
* The *budget* (`World.Replay`): the advance of all calls plus the records of `(a, n)` still
  pending never exceeds what was pending at the start, since one step raises the pending records
  by no more than it lowers the advance (`Action.exec_pending`).

At the end the credits of all calls are below their advance, and so below the budget.
-/

namespace WalletAuth

variable {a : Address} {n : String}

/-! ## What a call counts for -/

namespace Outcome

/-- The call answered an identity. -/
def identified : Outcome → Bool
  | .identity (.ok _) => true
  | _ => false

variable (a n) in
/-- The call issued the nonce `n` for the account `a`. -/
def issues : Outcome → Bool
  | .record (.ok r) => r.address == a && r.nonce == n
  | _ => false

theorem identified_identity (r : Except AuthError Identity) :
    (Outcome.identity r).identified = r.isOk := by
  cases r <;> rfl

end Outcome

namespace Call

variable (a n) in
/-- What a call that ended in `o` counts for, in advance: one for an identity for a message
naming `(a, n)`, minus one for a record issued for `(a, n)`. -/
def credit (c : Call) (o : Outcome) : Int :=
  (c.names a n && o.identified).toNat - (o.issues a n).toNat

theorem names_eq_true {c : Call} {signed : SignedResponse} (hc : c.signed? = some signed) :
    c.names a n = true ↔
      ∃ m, Challenge.parse signed.message = .ok m ∧ m.address = a ∧ m.nonce = n := by
  unfold names
  rw [hc]
  dsimp only
  cases Challenge.parse signed.message with
  | error e => simp
  | ok m => simp

/-- A call answering an identity counts for no more than its spending earned: one only when
its message names `(a, n)` and it succeeded. -/
theorem credit_identity_le {c : Call} {signed : SignedResponse} (hc : c.signed? = some signed)
    {r : Except AuthError Identity} {d : Int} (hd : 0 ≤ d)
    (hwon : (∃ m, Challenge.parse signed.message = .ok m ∧ m.address = a ∧ m.nonce = n) →
      r.isOk = true → 1 ≤ d) :
    c.credit a n (.identity r) ≤ d := by
  have hi : (Outcome.identity r).issues a n = false := rfl
  unfold credit
  rw [hi, Outcome.identified_identity]
  cases hn : c.names a n <;> cases hr : r.isOk
  · simpa using hd
  · simpa using hd
  · simpa using hd
  · simpa using hwon ((names_eq_true hc).1 hn) hr

/-- An issue counts minus one exactly when it inserted the record it answers. -/
theorem issue_sound (ttl : Span) (a' : Address) :
    (Call.issue ttl a').steps.Ensures a n (fun d o => (Call.issue ttl a').credit a n o ≤ d) 0 := by
  rw [steps, Registry.Steps.issue_run]
  refine Prog.Ensures.map ?_ fun _ _ h => h
  -- the clock reading and the draw change no advance; the insert decides
  refine .step_same (Int.le_refl 0) (by simp) (by simp) fun (t : Instant) => ?_
  refine .step_same (Int.le_refl 0) (by simp) (by simp) fun (nonce : String) => ?_
  refine .step (Int.le_refl 0) fun w => ?_
  rcases w with e | ⟨⟩
  · exact .pure (by simp [credit, names, signed?, Outcome.issues, Taken.gain, Taken.won,
      Taken.inserted])
  · exact .pure (by simp [credit, names, signed?, Outcome.issues, Taken.gain, Taken.won,
      Taken.inserted])

/-- Every call starts sound: from advance zero it ends with at least the credit of its
outcome. -/
theorem sound (c : Call) : c.steps.Ensures a n (fun d o => c.credit a n o ≤ d) 0 := by
  cases c with
  | submit h signed attempt =>
    have hs := Handshake.submitSigned_earns (a := a) (n := n) h signed attempt 0 (Int.le_refl 0)
    exact hs.map fun d r ⟨hd, hwon⟩ => credit_identity_le rfl hd fun he hr => by
      simpa using hwon he hr
  | verify h signed =>
    have hs := Handshake.verifySigned_earns (a := a) (n := n) h signed 0 (Int.le_refl 0)
    exact hs.map fun d r ⟨hd, hwon⟩ => credit_identity_le rfl hd fun he hr => by
      simpa using hwon he hr
  | issue ttl a' => exact issue_sound ttl a'
  | sweep =>
    have hs := Registry.Steps.sweep_earns (a := a) (n := n) (fun _ => True) 0 (Int.le_refl 0)
    exact hs.map fun d r ⟨hd, _⟩ => by simpa [credit, names, signed?, Outcome.issues] using hd

end Call

/-! ## Calls in flight -/

namespace Thread

variable (a n) in
/-- The advance that the steps taken made. -/
def advance (t : Thread) : Int := (t.taken.map (Taken.gain a n)).sum

variable (a n) in
/-- Whatever the backend answers, the steps still to take keep the call at advance at least
zero before each step and end it with at least the credit of its outcome. -/
def Sound (t : Thread) : Prop :=
  t.rest.Ensures a n (fun d o => t.call.credit a n o ≤ d) (t.advance a n)

theorem step_of_pure {t : Thread} {o : Outcome} (h : t.rest = .pure o) (b : Backend) :
    t.step b = (t, b) := by
  unfold step
  rw [h]

theorem step_of_step {t : Thread} {x : Action} {k : x.Answer → Prog Outcome}
    (h : t.rest = .step x k) (b : Backend) :
    t.step b = (⟨t.call, k (x.exec.run b).1, t.taken ++ [⟨x, (x.exec.run b).1⟩]⟩,
      (x.exec.run b).2) := by
  unfold step
  rw [h]
  rfl

theorem advance_start (c : Call) : (start c).advance a n = 0 := rfl

theorem start_sound (c : Call) : (start c).Sound a n := Call.sound c

/-- A step keeps a call sound: the guarantee for every answer covers the one given. -/
theorem Sound.step {t : Thread} (ht : t.Sound a n) (b : Backend) : (t.step b).1.Sound a n := by
  cases h : t.rest with
  | pure o =>
    rw [step_of_pure h]
    exact ht
  | step x k =>
    rw [step_of_step h]
    unfold Sound at ht
    rw [h] at ht
    cases ht with
    | step _ hk =>
      unfold Sound advance
      simp only [List.map_append, List.sum_append, List.map_cons, List.map_nil, List.sum_cons,
        List.sum_nil, Int.add_zero]
      exact hk _

/-- One step raises the records pending by no more than it lowers the call's advance. -/
theorem step_budget (t : Thread) (b : Backend) :
    (t.step b).1.advance a n + (t.step b).2.pending a n ≤ t.advance a n + b.pending a n := by
  cases h : t.rest with
  | pure o => rw [step_of_pure h]
  | step x k =>
    rw [step_of_step h]
    have hx := Action.exec_pending (a := a) (n := n) x b
    simp only [advance, List.map_append, List.map_cons, List.map_nil, List.sum_append,
      List.sum_cons, List.sum_nil, Int.add_zero]
    omega

/-- A sound call counts for no more than its advance; one still running counts for nothing
and has advance at least zero. -/
theorem Sound.credit_le {t : Thread} (ht : t.Sound a n) :
    ((t.authenticates a n).toNat : Int) - (t.issues a n).toNat ≤ t.advance a n := by
  unfold Sound at ht
  cases h : t.rest with
  | pure o =>
    rw [h] at ht
    cases ht with
    | pure hq =>
      have ha : t.authenticates a n = (t.call.names a n && o.identified) := by
        unfold authenticates
        rw [h]
        rcases o with (_ | _) | _ | _ <;> rfl
      have hi : t.issues a n = o.issues a n := by
        unfold issues
        rw [h]
        rcases o with _ | (_ | _) | _ <;> rfl
      rw [ha, hi]
      exact hq
  | step x k =>
    rw [h] at ht
    cases ht with
    | step hd _ =>
      have ha : t.authenticates a n = false := by
        unfold authenticates
        rw [h]
        simp
      have hi : t.issues a n = false := by
        unfold issues
        rw [h]
      simpa [ha, hi] using hd

end Thread

/-! ## The budget of a world -/

namespace World

/-- Replacing one member of a list changes the sum of a measure by the difference. -/
theorem sum_map_set_of_getElem? {α : Type} {l : List α} {i : Nat} {x : α}
    (h : l[i]? = some x) (y : α) (f : α → Int) :
    ((l.set i y).map f).sum = (l.map f).sum - f x + f y := by
  obtain ⟨hi, rfl⟩ := List.getElem?_eq_some_iff.1 h
  rw [List.map_set, List.sum_set', dif_pos (by simpa using hi), List.getElem_map]
  omega

variable (a n) in
/-- The replay budget of a world whose backend started with `p` records of `(a, n)` pending:
every call is sound, and the advance of all calls plus the records still pending is at most
`p`. -/
structure Replay (p : Nat) (w : World) : Prop where
  sound : ∀ t ∈ w.threads, t.Sound a n
  budget : (w.threads.map (Thread.advance a n)).sum + w.backend.pending a n ≤ p

theorem replay_init (b : Backend) : (⟨b, []⟩ : World).Replay a n (b.pending a n) where
  sound _ h := by cases h
  budget := by simp

/-- Whatever happens next, the budget holds. -/
theorem Replay.next {p : Nat} {w : World} (hw : w.Replay a n p) (e : Event) :
    (w.next e).Replay a n p := by
  cases e with
  | start c =>
    refine ⟨fun t ht => ?_, ?_⟩
    · rcases List.mem_append.1 ht with ht | ht
      · exact hw.sound t ht
      · rw [List.mem_singleton.1 ht]
        exact Thread.start_sound c
    · have hb := hw.budget
      simp only [World.next, List.map_append, List.sum_append, List.map_cons, List.map_nil,
        List.sum_cons, List.sum_nil, Thread.advance_start, Int.add_zero]
      exact hb
  | step i =>
    rw [World.next]
    split
    · rename_i t h
      dsimp only
      refine ⟨fun t' ht' => ?_, ?_⟩
      · rcases List.mem_or_eq_of_mem_set ht' with ht' | rfl
        · exact hw.sound t' ht'
        · exact (hw.sound t (List.mem_of_getElem? h)).step w.backend
      · have hb := hw.budget
        have hstep := Thread.step_budget (a := a) (n := n) t w.backend
        dsimp only
        rw [sum_map_set_of_getElem? h]
        omega
    · exact hw
  | advance d => exact ⟨hw.sound, hw.budget⟩
  | setClock t => exact ⟨hw.sound, hw.budget⟩

/-- Along any schedule, the budget holds. -/
theorem Replay.run {p : Nat} {w : World} (hw : w.Replay a n p) (events : List Event) :
    (w.run events).Replay a n p := by
  induction events generalizing w with
  | nil => exact hw
  | cons e events ih => exact ih (hw.next e)

/-- The calls that authenticated, less those that issued, are within the budget. -/
theorem Replay.credits_le {p : Nat} {w : World} (hw : w.Replay a n p) :
    (w.authentications a n : Int) - w.issued a n ≤ p := by
  have hcount : ∀ ts : List Thread, (∀ t ∈ ts, t.Sound a n) →
      (ts.countP (·.authenticates a n) : Int) - ts.countP (·.issues a n) ≤
        (ts.map (Thread.advance a n)).sum := by
    intro ts hts
    induction ts with
    | nil => simp
    | cons t ts ih =>
      have ht := (hts t (by simp)).credit_le
      have hrest := ih fun t' ht' => hts t' (by simp [ht'])
      -- a member counts once when its flag is set
      have hflag : ∀ f : Bool, ((if f = true then 1 else 0 : Nat) : Int) = (f.toNat : Int) := by
        decide
      simp only [List.countP_cons, List.map_cons, List.sum_cons, Nat.cast_add, hflag]
      omega
  have hc := hcount w.threads hw.sound
  have hb := hw.budget
  unfold authentications issued
  omega

end World

/-- Replay protection: however calls that submit or verify signed messages, issue nonces and
sweep the store interleave their steps, with each other and with moves of the clock, the calls
that answered an identity for a message naming `(a, n)` are no more than the calls that issued
`(a, n)` and the records of `(a, n)` pending in the store at the start. -/
theorem authentications_le_issued_add_pending (b : Backend) (events : List Event) (a : Address)
    (n : String) :
    (World.run ⟨b, []⟩ events).authentications a n ≤
      (World.run ⟨b, []⟩ events).issued a n + b.pending a n := by
  have h := ((World.replay_init (a := a) (n := n) b).run events).credits_le
  omega

end WalletAuth
