import WalletAuth.Proofs.Redis.Pending
import WalletAuth.Nonce.Store

/-!
# WalletAuth.Proofs.Backend.KeyValue — what a client call does to the key-value server

Each client call opens a connection and sends commands, at the clock's instant; these lemmas
give each call's answer and the backend it leaves, so that the nonce store's methods can be
read command by command. `evalScript_below`: a run of the claim script by digest (loading it
first when the server lacks it) only lowers the server, and an answer that is not a failure
is the claim script's, run on a server below the one before.

Computations of the backend are read one bind at a time: `run_bind_of_ok` and
`run_bind_of_error` continue after a first part whose outcome is known, and
`snd_bind_of_keeps` drops a continuation that only reads the backend (`Keeps`).
-/

namespace WalletAuth.Backend

theorem run_run_bind {ε α β : Type} (x : ExceptT ε BackendM α) (f : α → ExceptT ε BackendM β)
    (b : Backend) :
    (x >>= f).run.run b = match x.run.run b with
      | (.ok v, b') => (f v).run.run b'
      | (.error e, b') => (.error e, b') := by
  simp only [ExceptT.run_bind, StateT.run_bind]
  rcases x.run.run b with ⟨_ | v, b'⟩ <;> rfl

theorem run_run_kvExec {ε : Type} (args : List String) (b : Backend) :
    (liftM (kvExec args) : ExceptT ε BackendM Redis.Reply).run.run b =
      (.ok (b.kv.exec b.clock.now args).1, { b with kv := (b.kv.exec b.clock.now args).2 }) := rfl

/-! ## Reading computations step by step -/

section

variable {ε α β : Type}

/-- `m` reads the backend and changes nothing. -/
def Keeps (m : ExceptT ε BackendM α) : Prop := ∀ b, (m.run.run b).2 = b

theorem keeps_pure (v : α) : Keeps (pure v : ExceptT ε BackendM α) := fun _ => rfl

theorem keeps_throw (e : ε) : Keeps (throw e : ExceptT ε BackendM α) := fun _ => rfl

/-- What is left after `x >>= f` when `f` changes nothing is what `x` left. -/
theorem snd_bind_of_keeps {x : ExceptT ε BackendM α} {f : α → ExceptT ε BackendM β}
    (hf : ∀ v, Keeps (f v)) (b : Backend) :
    ((x >>= f).run.run b).2 = (x.run.run b).2 := by
  rw [run_run_bind]
  rcases x.run.run b with ⟨_ | v, b'⟩
  · rfl
  · exact hf v b'

theorem run_bind_of_ok {x : ExceptT ε BackendM α} {f : α → ExceptT ε BackendM β} {b b' : Backend}
    {v : α} (hx : x.run.run b = (.ok v, b')) : (x >>= f).run.run b = (f v).run.run b' := by
  rw [run_run_bind, hx]

theorem run_bind_of_error {x : ExceptT ε BackendM α} {f : α → ExceptT ε BackendM β}
    {b b' : Backend} {e : ε} (hx : x.run.run b = (.error e, b')) :
    (x >>= f).run.run b = (.error e, b') := by
  rw [run_run_bind, hx]

end

end WalletAuth.Backend

namespace WalletAuth.KeyValue

theorem connect_run (reachable : Bool) (b : Backend) :
    (connect reachable).run.run b =
      (if reachable then .ok () else .error Redis.Failure.missingSocket, b) := by
  cases reachable <;> rfl

theorem command_run (args : List String) (b : Backend) :
    (command args).run.run b =
      ((b.kv.exec b.clock.now args).1.check, { b with kv := (b.kv.exec b.clock.now args).2 }) := by
  unfold command
  rw [Backend.run_run_bind, Backend.run_run_kvExec]
  dsimp only
  cases (b.kv.exec b.clock.now args).1.check <;> rfl

theorem optString_run (args : List String) (b : Backend) :
    (optString args).run.run b =
      ((b.kv.exec b.clock.now args).1.check.bind Redis.Reply.optString,
        { b with kv := (b.kv.exec b.clock.now args).2 }) := by
  unfold optString
  rw [Backend.run_run_bind, command_run]
  cases (b.kv.exec b.clock.now args).1.check with
  | error f => rfl
  | ok r =>
    dsimp only
    cases h : r.optString <;> simp [Except.bind, h] <;> rfl

/-- The claim script by digest, loaded first when the server lacks it: the server only loses
pending keys, and an answer is the claim script's, run on a server below the first. -/
theorem evalScript_below (code k : String) {b b' : Backend} {r : Except Redis.Failure Redis.Reply}
    (h : (evalScript code [k]).run.run b = (r, b')) :
    b' = { b with kv := b'.kv } ∧ b'.kv.Below b.kv ∧
      ∀ reply, r = .ok reply → ∃ s, s.Below b.kv ∧ (reply, b'.kv) = Redis.claim s k := by
  have hcall : ["EVALSHA", scriptDigest code, toString [k].length] ++ [k] =
      ["EVALSHA", scriptDigest code, "1", k] := by
    have h1 : toString [k].length = "1" := show toString 1 = "1" by rfl
    rw [h1]
    rfl
  unfold evalScript at h
  rw [hcall, Backend.run_run_bind, Backend.run_run_kvExec] at h
  obtain ⟨hb₁, hr₁⟩ := Redis.Server.exec_evalsha_below b.kv b.clock.now (scriptDigest code) k
  generalize b.kv.exec b.clock.now ["EVALSHA", scriptDigest code, "1", k] = p₁ at hb₁ hr₁ h
  rcases p₁ with ⟨r₁, kv₁⟩
  dsimp only at h hb₁ hr₁
  cases hc : r₁.check with
  | ok reply =>
    -- the script was there: its answer is the claim's
    rw [hc] at h
    have h' : (Except.ok reply, { b with kv := kv₁ }) = (r, b') := h
    obtain ⟨rfl, rfl⟩ := Prod.mk.inj h'
    refine ⟨rfl, hb₁, fun reply' hr => ?_⟩
    cases hr
    exact hr₁ reply hc
  | error f =>
    rw [hc] at h
    dsimp only at h
    split at h
    · -- the script was loaded, then run again on the server the load left
      rw [Backend.run_run_bind, command_run] at h
      have hb₂ := Redis.Server.exec_scriptLoad_below kv₁ b.clock.now code
      generalize kv₁.exec b.clock.now ["SCRIPT", "LOAD", code] = p₂ at hb₂ h
      rcases p₂ with ⟨r₂, kv₂⟩
      dsimp only at h hb₂
      cases hc₂ : r₂.check with
      | error f₂ =>
        rw [hc₂] at h
        have h' : (Except.error f₂, { b with kv := kv₂ }) = (r, b') := h
        obtain ⟨rfl, rfl⟩ := Prod.mk.inj h'
        exact ⟨rfl, hb₂.trans hb₁, fun _ hr => by cases hr⟩
      | ok _ =>
        rw [hc₂] at h
        dsimp only at h
        rw [command_run] at h
        obtain ⟨hb₃, hr₃⟩ :=
          Redis.Server.exec_evalsha_below kv₂ b.clock.now (scriptDigest code) k
        have h' := Prod.mk.inj h
        dsimp only at h'
        obtain ⟨rfl, rfl⟩ := h'
        refine ⟨rfl, hb₃.trans (hb₂.trans hb₁), fun reply hr => ?_⟩
        obtain ⟨s, hs, hclaim⟩ := hr₃ reply hr
        exact ⟨s, hs.trans (hb₂.trans hb₁), hclaim⟩
    · have h' : (Except.error f, { b with kv := kv₁ }) = (r, b') := h
      obtain ⟨rfl, rfl⟩ := Prod.mk.inj h'
      exact ⟨rfl, hb₁, fun _ hr => by cases hr⟩

end WalletAuth.KeyValue
