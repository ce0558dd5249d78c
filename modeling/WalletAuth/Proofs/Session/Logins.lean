import WalletAuth.Proofs.Session.Writes

/-!
# WalletAuth.Proofs.Session.Logins — sign-ins recorded side by side on one account

`recordLogin` reads an account with `GET` and writes it back renewed with `SET`: two commands,
with nothing that makes them one. Here sign-ins of one account are recorded side by side
(`Logins`): a schedule names, command by command, which sign-in sends its next one, and between
any two commands the server may be told to fail any commands. Taken back to back, the two
commands of a sign-in are `recordLogin` (`Logins.send_send_of_waiting`).

Every step keeps `Logins.Inv` (`Logins.Inv.step`): the server reads as its first state with the writes made so far
put in order, and each write renews an account read from the key as it stood after some of the
writes before it. So the account ends as the last write left it (`recordLogin_last_write_wins`):
with the last writer's second and chain, and the first sign-in of the account that writer read.
A write overwrites every write its read did not see, and the latest sign-in to be written need
not be the latest second: two sign-ins one after the other, the second at an earlier second,
leave an account first seen after its latest sign-in (`recordLogin_later_at_earlier_second`).
-/

namespace WalletAuth
namespace SessionStore

/-- A sign-in to record: its chain and its Unix second. -/
structure Login where
  chainId : Nat
  now : Nat
  deriving DecidableEq, Repr

/-- How far the recording of one sign-in has gone. -/
inductive LoginPhase where
  /-- nothing sent yet -/
  | waiting
  /-- the account was read as `old` -/
  | read (old : Option StoredAccount)
  /-- the renewed account was written -/
  | wrote
  /-- a command failed, or the account read did not read back: nothing more is sent -/
  | failed
  deriving DecidableEq, Repr

/-- The entry an account is kept as. -/
def accountEntry (address : String) (acc : StoredAccount) : Redis.Entry :=
  ⟨accountKey address, .str acc.toText, none⟩

/-- The write of `recordLogin`: the account's text, under its key, with no expiry. -/
def putAccount (address : String) (acc : StoredAccount) : StorageM Redis.Reply :=
  client (KeyValue.command ["SET", accountKey address, acc.toText])

theorem recordLogin_eq (address : String) (chainId now : Nat) :
    recordLogin address chainId now = (do
      let acc := StoredAccount.afterLogin (← getAccount address) address chainId now
      let _ ← putAccount address acc
      pure acc) := rfl

@[simp] theorem afterLogin_lastLogin (known : Option StoredAccount) (address : String)
    (chainId now : Nat) : (StoredAccount.afterLogin known address chainId now).lastLogin = now := by
  cases known <;> rfl

@[simp] theorem afterLogin_lastChainId (known : Option StoredAccount) (address : String)
    (chainId now : Nat) :
    (StoredAccount.afterLogin known address chainId now).lastChainId = chainId := by
  cases known <;> rfl

@[simp] theorem afterLogin_firstSeen (known : Option StoredAccount) (address : String)
    (chainId now : Nat) : (StoredAccount.afterLogin known address chainId now).firstSeen =
      (known.map StoredAccount.firstSeen).getD now := by
  cases known <;> rfl

/-- The write of an account is refused, and nothing changes, or its entry is live after it. -/
theorem putAccount_run (address : String) (acc : StoredAccount) (b : Backend) :
    ∃ kv', ((putAccount address acc).run.run b).2 = { b with kv := kv' } ∧
      ((∃ e, ((putAccount address acc).run.run b).1 = .error e) ∧
          kv'.live b.clock.now = b.kv.live b.clock.now ∨
        (∃ r, ((putAccount address acc).run.run b).1 = .ok r) ∧
          kv'.live b.clock.now = Redis.written (b.kv.live b.clock.now) [accountEntry address acc]) := by
  unfold putAccount
  rw [client_run]
  rcases Redis.Server.exec_set_cases b.kv b.clock.now (accountKey address) acc.toText with
    ⟨line, hl⟩ | hex
  · rw [command_run_of_error hl]
    exact ⟨_, rfl, .inl ⟨⟨_, rfl⟩, Redis.Server.live_exec_error hl⟩⟩
  · rw [command_run_of_reply hex rfl]
    refine ⟨_, rfl, .inr ⟨⟨_, rfl⟩, ?_⟩⟩
    rw [Redis.Server.live_put rfl, Redis.Server.live_purge]
    rfl

/-- Sign-ins of one account being recorded side by side. -/
structure Logins where
  /-- how far each sign-in has gone -/
  phases : List LoginPhase
  /-- the backend they share -/
  backend : Backend
  /-- the accounts written so far, in order, each with the sign-in that wrote it -/
  writes : List (Nat × StoredAccount)

/-- One event of a schedule of sign-ins: the sign-in `i` sends its next command, or the
commands the server fails are replaced. -/
inductive LoginStep where
  | send (i : Nat)
  | fail (cmds : List String)
  deriving DecidableEq, Repr

namespace Logins

section Machine

variable (address : String) (ls : List Login)

/-- The read of the sign-in `i`: it has read `old`, or failed. -/
def readStep (w : Logins) (i : Nat) : Logins :=
  match (getAccount address).run.run w.backend with
  | (.ok old, b) => { w with phases := w.phases.set i (.read old), backend := b }
  | (.error _, b) => { w with phases := w.phases.set i .failed, backend := b }

/-- The write of the sign-in `i`, which is `l` and read `old`: the account renewed by `l` is
written, or the write failed. -/
def writeStep (l : Login) (old : Option StoredAccount) (w : Logins) (i : Nat) : Logins :=
  let acc := StoredAccount.afterLogin old address l.chainId l.now
  match (putAccount address acc).run.run w.backend with
  | (.ok _, b) => ⟨w.phases.set i .wrote, b, w.writes ++ [(i, acc)]⟩
  | (.error _, b) => { w with phases := w.phases.set i .failed, backend := b }

/-- The sign-in `i` sends its next command: the read if it has sent none, the write if it has
read; one that has written or failed sends nothing. -/
def send (w : Logins) (i : Nat) : Logins :=
  match ls[i]?, w.phases[i]? with
  | some _, some .waiting => readStep address w i
  | some l, some (.read old) => writeStep address l old w i
  | _, _ => w

/-- A step of a schedule: a sign-in sends its next command, or the server is told to fail the
commands `cmds` from then on. -/
def step (w : Logins) : LoginStep → Logins
  | .send i => send address ls w i
  | .fail cmds => { w with backend := { w.backend with kv := { w.backend.kv with failing := cmds } } }

/-- The steps of a schedule, in order. -/
def run (s : List LoginStep) (w : Logins) : Logins := s.foldl (step address ls) w

/-- The sign-ins `ls` before any command, on the backend `b`. -/
def start (b : Backend) : Logins := ⟨ls.map fun _ => .waiting, b, []⟩

/-- The live entries `v` with the accounts `writes` put in order. -/
def view (v : String → Option Redis.Entry) (writes : List (Nat × StoredAccount)) :
    String → Option Redis.Entry :=
  Redis.written v (writes.map fun x => accountEntry address x.2)

theorem view_append (v : String → Option Redis.Entry) (ws : List (Nat × StoredAccount))
    (i : Nat) (acc : StoredAccount) :
    view address v (ws ++ [(i, acc)]) = Redis.written (view address v ws) [accountEntry address acc] := by
  simp only [view, List.map_append, Redis.written_append]
  rfl

/-- What the sign-ins of a run have done, from the live entries `v` at the instant `t`: the
server reads as `v` with the writes put in order, and every read and every write renews an
account read from the key as it stood after some of the writes before it. -/
structure Inv (t : Instant) (v : String → Option Redis.Entry) (w : Logins) : Prop where
  clock : w.backend.clock.now = t
  live : w.backend.kv.live t = view address v w.writes
  reads : ∀ (i : Nat) (old : Option StoredAccount), w.phases[i]? = some (.read old) →
    ∃ n ≤ w.writes.length, ReadsAs (view address v (w.writes.take n) (accountKey address)) old
  writes : ∀ (p i : Nat) (acc : StoredAccount), w.writes[p]? = some (i, acc) → ∃ l old n, ls[i]? = some l ∧ n ≤ p ∧
    ReadsAs (view address v (w.writes.take n) (accountKey address)) old ∧
    acc = StoredAccount.afterLogin old address l.chainId l.now

theorem view_of_ne (v : String → Option Redis.Entry) (ws : List (Nat × StoredAccount))
    {k : String} (hk : k ≠ accountKey address) : view address v ws k = v k :=
  Redis.written_of_ne (fun e he => by
    obtain ⟨x, -, rfl⟩ := List.mem_map.mp he
    exact Ne.symm hk) v

theorem view_of_getLast? (v : String → Option Redis.Entry) {ws : List (Nat × StoredAccount)}
    {i : Nat} {acc : StoredAccount} (h : ws.getLast? = some (i, acc)) :
    view address v ws (accountKey address) = some (accountEntry address acc) := by
  obtain ⟨ys, rfl⟩ := List.getLast?_eq_some_iff.mp h
  rw [view_append, Redis.written_cons, Redis.written_nil]
  exact Function.update_self ..

/-- A sign-in's phase set to anything but a read leaves the reads of the others as they were. -/
theorem read_of_set {ps : List LoginPhase} {i j : Nat} {q : LoginPhase}
    {old : Option StoredAccount} (h : (ps.set i q)[j]? = some (.read old)) (hq : ∀ o, q ≠ .read o) :
    ps[j]? = some (.read old) := by
  by_cases hij : i = j
  · subst hij
    rw [List.getElem?_set_self'] at h
    cases hp : ps[i]? with
    | none => simp [hp] at h
    | some p =>
      simp only [hp, Option.map_eq_map, Option.map_some, Function.const_apply,
        Option.some.injEq] at h
      exact absurd h (hq old)
  · rwa [List.getElem?_set_ne hij] at h

variable {address ls} {t : Instant} {v : String → Option Redis.Entry} {w : Logins}

theorem Inv.start (b : Backend) :
    Inv address ls b.clock.now (b.kv.live b.clock.now) (start ls b) where
  clock := rfl
  live := rfl
  reads i old h := by simp [Logins.start, List.getElem?_replicate] at h
  writes p i acc h := by simp [Logins.start] at h

/-- A read keeps the invariant: what it reads is the key after every write so far. -/
theorem Inv.readStep (h : Inv address ls t v w) (i : Nat) :
    Inv address ls t v (readStep address w i) := by
  have hsnd := getAccount_run_snd address w.backend
  have hlive : (w.backend.kv.purge w.backend.clock.now).live t = view address v w.writes := by
    rw [h.clock, Redis.Server.live_purge]
    exact h.live
  unfold Logins.readStep
  rcases hget : (getAccount address).run.run w.backend with ⟨_ | old, b⟩
  · -- the read failed: the sign-in stops
    rw [hget] at hsnd
    dsimp only at hsnd ⊢
    subst hsnd
    exact ⟨h.clock, hlive, fun j o hj => h.reads j o (read_of_set hj fun _ => nofun), h.writes⟩
  · have hreads := getAccount_reads address w.backend (by rw [hget])
    rw [hget] at hsnd
    dsimp only at hsnd ⊢
    subst hsnd
    refine ⟨h.clock, hlive, fun j o hj => ?_, h.writes⟩
    by_cases hij : i = j
    · -- the read just made sees the key after all the writes so far
      subst hij
      have hi : i < w.phases.length := by
        by_contra hge
        rw [List.set_eq_of_length_le (by omega)] at hj
        simp [List.getElem?_eq_none (by omega : w.phases.length ≤ i)] at hj
      rw [List.getElem?_set_self hi, Option.some.injEq, LoginPhase.read.injEq] at hj
      subst hj
      refine ⟨w.writes.length, le_refl _, ?_⟩
      rw [List.take_length, ← h.live, ← h.clock]
      exact hreads
    · rw [List.getElem?_set_ne hij] at hj
      exact h.reads j o hj

/-- A write keeps the invariant: it puts the account its sign-in renewed from its read. -/
theorem Inv.writeStep (h : Inv address ls t v w) {i : Nat} {l : Login}
    {old : Option StoredAccount} (hl : ls[i]? = some l) (hp : w.phases[i]? = some (.read old)) :
    Inv address ls t v (writeStep address l old w i) := by
  obtain ⟨n, hn, hread⟩ := h.reads i old hp
  set acc := StoredAccount.afterLogin old address l.chainId l.now with hacc
  obtain ⟨kv', hrun, ⟨⟨e, he⟩, hlive⟩ | ⟨⟨r, hr⟩, hlive⟩⟩ := putAccount_run address acc w.backend
  · -- the write failed: nothing changed and the sign-in stops
    have hpair : (putAccount address acc).run.run w.backend = (.error e, { w.backend with kv := kv' }) :=
      Prod.ext he hrun
    unfold Logins.writeStep
    dsimp only
    rw [← hacc, hpair]
    refine ⟨h.clock, ?_, fun j o hj => h.reads j o (read_of_set hj fun _ => nofun), h.writes⟩
    show kv'.live t = _
    rw [← h.clock, hlive, h.clock]
    exact h.live
  · have hpair : (putAccount address acc).run.run w.backend = (.ok r, { w.backend with kv := kv' }) :=
      Prod.ext hr hrun
    unfold Logins.writeStep
    dsimp only
    rw [← hacc, hpair]
    refine ⟨h.clock, ?_, fun j o hj => ?_, fun p j a hj => ?_⟩
    · show kv'.live t = _
      rw [view_append, ← h.live, ← h.clock, hlive]
    · -- the other reads saw the key before this write
      obtain ⟨n', hn', hr'⟩ := h.reads j o (read_of_set hj fun _ => nofun)
      refine ⟨n', by simp only [List.length_append]; omega, ?_⟩
      rwa [List.take_append_of_le_length hn']
    · rcases Nat.lt_or_ge p w.writes.length with hlt | hge
      · -- an earlier write
        rw [List.getElem?_append_left hlt] at hj
        obtain ⟨l', o', n', hl', hn', hr', ha⟩ := h.writes p j a hj
        exact ⟨l', o', n', hl', hn', by rwa [List.take_append_of_le_length (by omega)], ha⟩
      · -- this write, renewing what its sign-in read
        rw [List.getElem?_append_right hge] at hj
        have hp0 : p - w.writes.length = 0 := by
          by_contra hne
          simp [List.getElem?_eq_none (by simp; omega : [(i, acc)].length ≤ p - w.writes.length)] at hj
        rw [hp0] at hj
        simp only [List.getElem?_cons_zero, Option.some.injEq, Prod.mk.injEq] at hj
        obtain ⟨rfl, rfl⟩ := hj
        exact ⟨l, old, n, hl, by omega, by rwa [List.take_append_of_le_length hn], rfl⟩

/-- Taken back to back, the read and the write of a sign-in are `recordLogin`: they leave the
backend it leaves, and add to the writes exactly the account it answers. -/
theorem send_send_of_waiting {i : Nat} {l : Login} (hl : ls[i]? = some l)
    (hw : w.phases[i]? = some .waiting) :
    (send address ls (send address ls w i) i).backend =
      ((recordLogin address l.chainId l.now).run.run w.backend).2 ∧
    ∀ acc, ((recordLogin address l.chainId l.now).run.run w.backend).1 = .ok acc ↔
      (send address ls (send address ls w i) i).writes = w.writes ++ [(i, acc)] := by
  have hi : i < w.phases.length := by
    by_contra hge
    rw [List.getElem?_eq_none (by omega)] at hw
    cases hw
  have h₁ : send address ls w i = readStep address w i := by
    unfold Logins.send
    rw [hl, hw]
  rw [h₁, recordLogin_eq]
  unfold Logins.readStep
  rcases hget : (getAccount address).run.run w.backend with ⟨_ | old, b₁⟩
  · -- the read fails: so does `recordLogin`, and the sign-in sends nothing more
    rw [Backend.run_bind_of_error hget]
    have h₂ : send address ls { w with phases := w.phases.set i .failed, backend := b₁ } i =
        { w with phases := w.phases.set i .failed, backend := b₁ } := by
      unfold Logins.send
      rw [hl, List.getElem?_set_self hi]
    rw [h₂]
    exact ⟨rfl, fun acc => ⟨nofun, fun h => by simp at h⟩⟩
  · -- the read answers: the write is `recordLogin`'s
    rw [Backend.run_bind_of_ok hget]
    have h₂ : send address ls { w with phases := w.phases.set i (.read old), backend := b₁ } i =
        writeStep address l old { w with phases := w.phases.set i (.read old), backend := b₁ } i := by
      unfold Logins.send
      rw [hl, List.getElem?_set_self hi]
    rw [h₂]
    unfold Logins.writeStep
    dsimp only
    rcases hput : (putAccount address (StoredAccount.afterLogin old address l.chainId l.now)).run.run
      b₁ with ⟨_ | rep, b₂⟩
    · rw [Backend.run_bind_of_error hput]
      exact ⟨rfl, fun acc => ⟨nofun, fun h => by simp at h⟩⟩
    · rw [Backend.run_bind_of_ok hput]
      refine ⟨rfl, fun acc => ⟨fun h => ?_, fun h => ?_⟩⟩
      · cases h
        rfl
      · simp only [List.append_cancel_left_eq, List.cons.injEq, Prod.mk.injEq, true_and,
          and_true] at h
        rw [← h]
        rfl

/-- Every command sent keeps the invariant. -/
theorem Inv.send (h : Inv address ls t v w) (i : Nat) : Inv address ls t v (send address ls w i) := by
  unfold Logins.send
  cases hl : ls[i]? with
  | none => exact h
  | some l =>
    cases hp : w.phases[i]? with
    | none => exact h
    | some p =>
      cases p with
      | waiting => exact h.readStep i
      | read old => exact h.writeStep hl hp
      | wrote => exact h
      | failed => exact h

/-- Every step keeps the invariant: the commands a server fails are no part of what it holds. -/
theorem Inv.step (h : Inv address ls t v w) : ∀ st, Inv address ls t v (step address ls w st)
  | .send i => h.send i
  | .fail _ => ⟨h.clock, h.live, h.reads, h.writes⟩

/-- Every run keeps the invariant. -/
theorem Inv.run (h : Inv address ls t v w) (s : List LoginStep) :
    Inv address ls t v (run address ls s w) := by
  induction s generalizing w with
  | nil => exact h
  | cons st s ih => exact ih (h.step st)

end Machine

end Logins

open Logins in
/-- Sign-ins of one account recorded side by side, their commands in any order and the commands
the server fails changing between any two of them: no key but the account's changes, and the account is as the last write left it, or as
it was if none was made. The last write is its sign-in's second and chain, over the first
sign-in of an account that sign-in read from the key as it stood after some of the writes
before, or its own second if it read none. -/
theorem recordLogin_last_write_wins (address : String) (ls : List Login) (s : List LoginStep)
    (b : Backend) :
    let w := Logins.run address ls s (Logins.start ls b)
    let v := b.kv.live b.clock.now
    (∀ k, k ≠ accountKey address → w.backend.kv.live b.clock.now k = v k) ∧
    (w.writes = [] → w.backend.kv.live b.clock.now (accountKey address) = v (accountKey address)) ∧
    ∀ i acc, w.writes.getLast? = some (i, acc) →
      w.backend.kv.live b.clock.now (accountKey address) = some (accountEntry address acc) ∧
      ∃ l old n, ls[i]? = some l ∧ n < w.writes.length ∧
        ReadsAs (view address v (w.writes.take n) (accountKey address)) old ∧
        acc.lastLogin = l.now ∧ acc.lastChainId = l.chainId ∧
        acc.firstSeen = (old.map StoredAccount.firstSeen).getD l.now := by
  intro w v
  have h : Inv address ls b.clock.now v w := (Inv.start b).run s
  refine ⟨fun k hk => ?_, fun hw => ?_, fun i acc hlast => ?_⟩
  · rw [h.live]
    exact view_of_ne address v w.writes hk
  · rw [h.live, hw]
    rfl
  · -- the last write is the one at the end of the list
    obtain ⟨ys, hys⟩ := List.getLast?_eq_some_iff.mp hlast
    have hp : w.writes[ys.length]? = some (i, acc) := by
      rw [hys]
      exact List.getElem?_concat_length
    obtain ⟨l, old, n, hl, hn, hr, hacc⟩ := h.writes _ i acc hp
    have hlen : ys.length < w.writes.length := by
      rw [hys, List.length_append, List.length_singleton]
      omega
    refine ⟨by rw [h.live]; exact view_of_getLast? address v hlast, l, old, n, hl, by omega, hr,
      ?_, ?_, ?_⟩ <;> rw [hacc] <;> simp

/-! ## A later sign-in at an earlier second -/

/-- A backend at noon of 1 May 2024 whose key-value server holds nothing. -/
def emptyAtNoon : Backend where
  clock := { now := ⟨1714564800, 0⟩ }
  entropy := {}
  nonces := .memory {} []
  kv := {}

/-- Two sign-ins of one account one after the other, the second at an earlier second than the
first: the account is left with the second's second as its latest sign-in, first seen after it. -/
theorem recordLogin_later_at_earlier_second :
    let address := "0xf39Fd6e51aad88F6F4ce6aB8827279cffFb92266"
    let b₁ := ((recordLogin address 1 1714564900).run.run emptyAtNoon).2
    let b₂ := ((recordLogin address 1 1714564850).run.run b₁).2
    ((getAccount address).run.run b₂).1.toOption =
      some (some ⟨address, 1714564900, 1714564850, 1⟩) := by
  decide +kernel

end SessionStore
end WalletAuth
