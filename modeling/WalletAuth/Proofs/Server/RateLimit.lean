import WalletAuth.Server.App
import WalletAuth.Proofs.Nonce.Claiming
import WalletAuth.Proofs.Handshake.Rejection

/-!
# WalletAuth.Proofs.Server.RateLimit — the request counter and its window

The limiter counts the requests under one key with `INCRBY`, and gives the key its lifetime
with a separate `EXPIRE`, sent only by the request whose count reads as one. This module follows
the counter over every run of requests (`RateLimit.runLimit`), with the clock set and the failing
commands changed at will between them, in which `EXPIRE` is always served and the server takes
the window as a time to live at every reading of the clock.

* `Redis.Server.exec_incrBy_one`, `Redis.Server.exec_expire` and the `checkRateLimit_of_*`
  lemmas: what one request does, command by command; `checkRateLimit_fresh` and
  `checkRateLimit_live` say everything a request with both commands served can do.
* `RateLimit.Counts`: what a stored counter stands for, the requests since the one that started
  it, all made before it expires and answered as the counts `1, 2, …`; `RateLimit.Explained` asks
  it of every stored counter.
* `RateLimit.Limiting.request`, the step lemma, and `Limiting.run`: every run keeps every stored
  counter explained.
* `RateLimit.limiter_windows`: in every such run the counter expires one window after the request
  that started it, the requests since then were answered as the counts `1, 2, …` against the
  limit, so at most `max` were let through, and a client idle for a window is let through again.

When `EXPIRE` fails after `INCRBY` made the key, or the server refuses the window as a time to
live, the key keeps no expiry and no later request gives it one: that run is outside `Limiting`.
-/

namespace WalletAuth

/-! ## One request, command by command -/

namespace Redis
namespace Server

variable {srv : Server} {now : Instant}

theorem exec_incrBy_one (k : String) (hf : srv.failing.contains "INCRBY" = false) :
    srv.exec now ["INCRBY", k, "1"] = exec.incrBy (srv.purge now) k 1 := by
  have hup : "INCRBY".toUpper = "INCRBY" := by cbv
  have hone : parseInt64? "1" = some 1 := parseInt64?_toString (m := 1) (by decide)
  simp only [exec, hup, failing_purge, hf, hone]
  rfl

theorem incrBy_absent {k : String} (h : srv.find? k = none) :
    exec.incrBy srv k 1 = (.int 1, srv.put ⟨k, .str (toString ((1 : Nat) : Int)), none⟩) := by
  simp [exec.incrBy, h, minInt64, maxInt64]

theorem incrBy_count {k k' : String} {n : Nat} {x : Option Instant}
    (h : srv.find? k = some ⟨k', .str (toString (n : Int)), x⟩) (hn : (n : Int) ≤ maxInt64) :
    exec.incrBy srv k 1 = if (n : Int) + 1 ≤ maxInt64 then
        (.int ((n + 1 : Nat) : Int), srv.put ⟨k, .str (toString ((n + 1 : Nat) : Int)), x⟩)
      else (.error "ERR increment or decrement would overflow", srv) := by
  simp only [exec.incrBy, h, parseInt64?_toString hn]
  have hmin : ¬((n : Int) + 1 < minInt64) := by
    have hp : (0 : Int) ≤ Int.pow 2 63 := by decide
    simp only [minInt64]
    omega
  by_cases hle : (n : Int) + 1 ≤ maxInt64
  · rw [if_neg (by omega), if_pos hle]
    push_cast
    rfl
  · rw [if_pos (Or.inr (by omega)), if_neg hle]

theorem exec_expire {k : String} {w : Nat} {e : Entry} (hf : srv.failing.contains "EXPIRE" = false)
    (hfits : expiryFits now (w * 1000)) (he : (srv.purge now).find? k = some e) :
    srv.exec now ["EXPIRE", k, toString w] =
      (.int 1, if w = 0 then (srv.purge now).erase k
        else (srv.purge now).put { e with expiry := some (now.add (Span.ofSeconds w)) }) := by
  have hup : "EXPIRE".toUpper = "EXPIRE" := by cbv
  have hparse : parseInt64? (toString w) = some (w : Int) :=
    parseInt64?_toString (le_maxInt64_of_expiryFits hfits)
  simp only [exec, hup, failing_purge, hf, hparse, hfits, Bool.not_true, he, Bool.false_eq_true,
    if_false]
  by_cases hw0 : w = 0
  · subst hw0
    rfl
  · rw [if_neg (by omega), if_neg hw0]

/-- `EXPIRE` on a key just put, still live: the key keeps its value and expires `w` seconds
from now; for a window of no seconds it is gone. -/
theorem exec_expire_put {k : String} {v : Value} {x : Option Instant} {w : Nat}
    (hf : srv.failing.contains "EXPIRE" = false) (hfits : expiryFits now (w * 1000))
    (hlive : isLive now ⟨k, v, x⟩ = true) :
    ∃ srv', (srv.put ⟨k, v, x⟩).exec now ["EXPIRE", k, toString w] = (.int 1, srv') ∧
      srv'.failing = srv.failing ∧
      ∀ e, srv'.find? k = some e →
        0 < w ∧ e.value = v ∧ e.expiry = some (now.add (Span.ofSeconds w)) := by
  have hs : ((srv.put ⟨k, v, x⟩).purge now).find? k = some ⟨k, v, x⟩ := by
    rw [find?_purge, find?_put, if_pos rfl]
    simp [hlive]
  refine ⟨_, exec_expire (by simpa using hf) hfits hs, by split <;> rfl, fun e he => ?_⟩
  by_cases hw0 : w = 0
  · rw [if_pos hw0, find?_erase, if_pos rfl] at he
    cases he
  · rw [if_neg hw0, find?_put, if_pos rfl] at he
    cases he
    exact ⟨Nat.pos_of_ne_zero hw0, rfl, rfl⟩

end Server
end Redis

namespace SessionStore

/-- Counts of seconds below 2⁶³ are sent as themselves. -/
theorem signedSeconds_of_le {n : Nat} (h : (n : Int) ≤ Redis.maxInt64) : signedSeconds n = n := by
  have h63 : Redis.maxInt64 = 9223372036854775807 := by decide
  have hp : Nat.pow 2 64 = 18446744073709551616 := by decide
  have hq : Nat.pow 2 63 = 9223372036854775808 := by decide
  simp only [signedSeconds, hp, hq]
  rw [h63] at h
  rw [if_pos (by omega)]
  omega

end SessionStore

namespace KeyValue

theorem integer_run (args : List String) (b : Backend) :
    (integer args).run.run b =
      ((b.kv.exec b.clock.now args).1.check.bind Redis.Reply.integer,
        { b with kv := (b.kv.exec b.clock.now args).2 }) := by
  unfold integer
  rw [Backend.run_run_bind, command_run]
  cases (b.kv.exec b.clock.now args).1.check with
  | error f => rfl
  | ok r =>
    dsimp only
    cases h : r.integer <;> simp [Except.bind, h] <;> rfl

end KeyValue

theorem counterValue_natCast (n : Nat) : counterValue (n : Int) = n % 4294967296 := by
  have h : Int.pow 2 32 = 4294967296 := by decide
  simp only [counterValue, h]
  omega

section Request

variable {key : String} {max window : Nat} {b : Backend}

/-- A counter command answered with an error fails the request, leaving the server as the
command did. -/
theorem checkRateLimit_of_error {line : String} {s : Redis.Server}
    (h : b.kv.exec b.clock.now ["INCRBY", key, "1"] = (.error line, s)) :
    (checkRateLimit key max window).run.run b = (.error (.ofErrorLine line), { b with kv := s }) := by
  unfold checkRateLimit
  rw [Backend.run_bind_of_error (by rw [KeyValue.integer_run, h]; rfl)]

theorem checkRateLimit_of_count {m : Int} {s : Redis.Server}
    (h : b.kv.exec b.clock.now ["INCRBY", key, "1"] = (.int m, s)) (hm : counterValue m ≠ 1) :
    (checkRateLimit key max window).run.run b = (.ok (decide (counterValue m ≤ max)), { b with kv := s }) := by
  unfold checkRateLimit
  rw [Backend.run_bind_of_ok (by rw [KeyValue.integer_run, h]; rfl)]
  simp only [hm, if_false]
  rfl

theorem checkRateLimit_of_first {m i : Int} {s s' : Redis.Server}
    (h : b.kv.exec b.clock.now ["INCRBY", key, "1"] = (.int m, s)) (hm : counterValue m = 1)
    (h' : s.exec b.clock.now ["EXPIRE", key, toString (SessionStore.signedSeconds window)] =
      (.int i, s')) :
    (checkRateLimit key max window).run.run b = (.ok (decide (1 ≤ max)), { b with kv := s' }) := by
  unfold checkRateLimit
  rw [Backend.run_bind_of_ok (by rw [KeyValue.integer_run, h]; rfl)]
  simp only [hm, if_true]
  have hexpire : (discard (KeyValue.command ["EXPIRE", key,
        toString (SessionStore.signedSeconds window)]) : KeyValue.ClientM Unit).run.run
        { b with kv := s } = (.ok (), { b with kv := s' }) := by
    show (Functor.map (fun _ => ())
      (KeyValue.command ["EXPIRE", key, toString (SessionStore.signedSeconds window)])).run.run
        { b with kv := s } = _
    rw [ExceptT.run_map, StateT.run_map, KeyValue.command_run]
    dsimp only
    rw [h']
    rfl
  rw [Backend.run_bind_of_ok hexpire]
  rfl

/-- A window the server takes as a time to live is sent as itself. -/
theorem sentAsItself {now : Instant} {s : Redis.Server} {r : Redis.Reply × Redis.Server}
    (hfits : Redis.expiryFits now (window * 1000)) (h : s.exec now ["EXPIRE", key, toString window] = r) :
    s.exec now ["EXPIRE", key, toString (SessionStore.signedSeconds window)] = r := by
  rw [SessionStore.signedSeconds_of_le
    (Redis.Server.le_maxInt64_of_expiryFits hfits)]
  exact h

/-- A request that finds no live counter, with both commands served, starts one: it answers as
the count one and leaves the key counting one, expiring a window later (or erased at once, for a
window of no seconds). -/
theorem checkRateLimit_fresh (hfind : (b.kv.purge b.clock.now).find? key = none)
    (hinc : b.kv.failing.contains "INCRBY" = false) (hexp : b.kv.failing.contains "EXPIRE" = false)
    (hfits : Redis.expiryFits b.clock.now (window * 1000)) :
    ∃ srv', (checkRateLimit key max window).run.run b =
        (.ok (decide (1 ≤ max)), { b with kv := srv' }) ∧ srv'.failing = b.kv.failing ∧
      ∀ e, srv'.find? key = some e → 0 < window ∧ e.value = .str (toString ((1 : Nat) : Int)) ∧
        e.expiry = some (b.clock.now.add (Span.ofSeconds window)) := by
  have hincr := (Redis.Server.exec_incrBy_one key hinc).trans (Redis.Server.incrBy_absent hfind)
  obtain ⟨srv', hexec, hfail, hsrv'⟩ := Redis.Server.exec_expire_put
    (show (b.kv.purge b.clock.now).failing.contains "EXPIRE" = false by simpa using hexp) hfits
    (by rfl : Redis.Server.isLive b.clock.now ⟨key, .str (toString ((1 : Nat) : Int)), none⟩ = true)
  exact ⟨srv', checkRateLimit_of_first hincr (by decide) (sentAsItself hfits hexec), hfail, hsrv'⟩

/-- A request that finds a live counter holding `n`, with both commands served: the count would
pass the 64-bit range and nothing is counted, or it reads as one again and starts a new window,
or it is counted in the window the key keeps. -/
theorem checkRateLimit_live {e : Redis.Entry} {n : Nat}
    (hfind : (b.kv.purge b.clock.now).find? key = some e)
    (hval : e.value = .str (toString (n : Int))) (hn : (n : Int) ≤ Redis.maxInt64)
    (hinc : b.kv.failing.contains "INCRBY" = false) (hexp : b.kv.failing.contains "EXPIRE" = false)
    (hfits : Redis.expiryFits b.clock.now (window * 1000)) :
    (¬(n : Int) + 1 ≤ Redis.maxInt64 ∧ ∃ f, (checkRateLimit key max window).run.run b =
        (.error f, { b with kv := b.kv.purge b.clock.now })) ∨
    ((n : Int) + 1 ≤ Redis.maxInt64 ∧ (n + 1) % 4294967296 = 1 ∧
      ∃ srv', (checkRateLimit key max window).run.run b =
          (.ok (decide (1 ≤ max)), { b with kv := srv' }) ∧ srv'.failing = b.kv.failing ∧
        ∀ e', srv'.find? key = some e' → 0 < window ∧
          e'.value = .str (toString ((n + 1 : Nat) : Int)) ∧
          e'.expiry = some (b.clock.now.add (Span.ofSeconds window))) ∨
    ((n : Int) + 1 ≤ Redis.maxInt64 ∧ (n + 1) % 4294967296 ≠ 1 ∧
      (checkRateLimit key max window).run.run b =
        (.ok (decide (counterValue ((n + 1 : Nat) : Int) ≤ max)),
          { b with kv := ((b.kv.purge b.clock.now).put
            ⟨key, .str (toString ((n + 1 : Nat) : Int)), e.expiry⟩) })) := by
  obtain ⟨k', v, x⟩ := e
  cases hval
  have hincr := (Redis.Server.exec_incrBy_one key hinc).trans
    (Redis.Server.incrBy_count hfind hn)
  by_cases hover : (n : Int) + 1 ≤ Redis.maxInt64
  · rw [if_pos hover] at hincr
    by_cases hwrap : (n + 1) % 4294967296 = 1
    · -- the count reads as one: `EXPIRE` is sent again and the window starts anew
      have hlive : Redis.Server.isLive b.clock.now ⟨key, .str (toString ((n + 1 : Nat) : Int)), x⟩ =
          true := by
        -- liveness reads the expiry only, which the count keeps
        have h := Redis.Server.isLive_of_find?_purge _ _ hfind
        exact h
      obtain ⟨srv', hexec, hfail, hsrv'⟩ := Redis.Server.exec_expire_put
        (show (b.kv.purge b.clock.now).failing.contains "EXPIRE" = false by simpa using hexp) hfits
        hlive
      have hone : counterValue ((n + 1 : Nat) : Int) = 1 := by rw [counterValue_natCast, hwrap]
      refine .inr (.inl ⟨hover, hwrap, srv', ?_, hfail, hsrv'⟩)
      rw [checkRateLimit_of_first hincr hone (sentAsItself hfits hexec)]
    · have hcount : counterValue ((n + 1 : Nat) : Int) ≠ 1 := by
        rw [counterValue_natCast]
        exact hwrap
      exact .inr (.inr ⟨hover, hwrap, checkRateLimit_of_count hincr hcount⟩)
  · rw [if_neg hover] at hincr
    exact .inl ⟨hover, _, checkRateLimit_of_error hincr⟩

end Request

namespace RateLimit

/-- A request the limiter served: the instant it was made at and what it answered. -/
structure Served where
  at_ : Instant
  answer : Except Redis.Failure Bool

/-- The verdicts a run of requests gave, leaving out the failures. -/
def verdicts (rs : List Served) : List Bool := rs.filterMap fun r => r.answer.toOption

@[simp] theorem verdicts_nil : verdicts [] = [] := rfl

@[simp] theorem verdicts_append (rs rs' : List Served) :
    verdicts (rs ++ rs') = verdicts rs ++ verdicts rs' := List.filterMap_append

@[simp] theorem verdicts_cons (r : Served) (rs : List Served) :
    verdicts (r :: rs) = r.answer.toOption.toList ++ verdicts rs := by
  cases h : r.answer.toOption <;> simp [verdicts, h]

@[simp] theorem verdicts_ok (t : Instant) (v : Bool) : verdicts [⟨t, .ok v⟩] = [v] := rfl

@[simp] theorem verdicts_error (t : Instant) (f : Redis.Failure) :
    verdicts [⟨t, .error f⟩] = [] := rfl

/-- The verdicts of the counts `1, …, k` against the limit `max`, each count read by its low
32 bits. -/
def countVerdicts (max k : Nat) : List Bool :=
  (List.range k).map fun i => decide (counterValue ((i + 1 : Nat) : Int) ≤ max)

theorem countVerdicts_succ (max k : Nat) :
    countVerdicts max (k + 1) =
      countVerdicts max k ++ [decide (counterValue ((k + 1 : Nat) : Int) ≤ max)] := by
  simp [countVerdicts, List.range_succ]

/-- While fewer than 2³² requests are counted in a window, at most `max` of them are let
through. -/
theorem count_true_countVerdicts_le (max : Nat) :
    ∀ k, k < 4294967296 → (countVerdicts max k).count true ≤ max
  | 0, _ => by simp [countVerdicts]
  | k + 1, hk => by
    have ih := count_true_countVerdicts_le max k (by omega)
    have hlen : (countVerdicts max k).count true ≤ k :=
      (List.count_le_length).trans (by simp [countVerdicts])
    rw [countVerdicts_succ, List.count_append, counterValue_natCast, Nat.mod_eq_of_lt hk]
    by_cases hm : k + 1 ≤ max
    · simp [hm]
      omega
    · simp [hm]
      omega

/-! ## What a stored counter stands for -/

/-- The requests `w` that a stored counter `e` stands for: the first of them started it, and it
expires one window after that request; each of them was made before it expires; they were
answered as the counts `1, …, k` against the limit, `k` being at most 2³²; and `e` holds a count
`n` within the 64-bit range that agrees with `k` on its low 32 bits. -/
structure Counts (max window : Nat) (e : Redis.Entry) (w : List Served) (n k : Nat) : Prop where
  started : ∃ s rest, w = s :: rest ∧ e.expiry = some (s.at_.add (Span.ofSeconds window))
  before : ∀ r ∈ w, ∀ x, e.expiry = some x → r.at_ < x
  value : e.value = .str (toString (n : Int))
  inRange : (n : Int) ≤ Redis.maxInt64
  pos : 1 ≤ k
  le : k ≤ 4294967296
  low : n % 4294967296 = k % 4294967296
  answers : verdicts w = countVerdicts max k

/-- Every counter stored under `key` stands for the last requests of `log`. -/
def Explained (key : String) (max window : Nat) (srv : Redis.Server) (log : List Served) : Prop :=
  ∀ e, srv.find? key = some e → ∃ pre w n k, log = pre ++ w ∧ Counts max window e w n k

section Counting

variable {max window : Nat} {e : Redis.Entry} {w : List Served} {n k : Nat}

/-- A request that found the counter live joins the window the counter stands for. -/
theorem Counts.started_append (h : Counts max window e w n k) (r : Served) :
    ∃ s rest, w ++ [r] = s :: rest ∧ e.expiry = some (s.at_.add (Span.ofSeconds window)) := by
  obtain ⟨s, rest, hw, hx⟩ := h.started
  exact ⟨s, rest ++ [r], by rw [hw, List.cons_append], hx⟩

theorem Counts.before_append (h : Counts max window e w n k) {r : Served}
    (hlive : Redis.Server.isLive r.at_ e = true) :
    ∀ r' ∈ w ++ [r], ∀ x, e.expiry = some x → r'.at_ < x := by
  intro r' hr' x hx
  rcases List.mem_append.1 hr' with hr' | hr'
  · exact h.before r' hr' x hx
  · rw [List.mem_singleton] at hr'
    subst hr'
    unfold Redis.Server.isLive at hlive
    rw [hx] at hlive
    exact of_decide_eq_true hlive

/-- The request that starts a counter stands alone in its window, answered as the count one. -/
theorem Counts.first {t : Instant} (hw : 0 < window) (hv : e.value = .str (toString (n : Int)))
    (hn : (n : Int) ≤ Redis.maxInt64) (hlow : n % 4294967296 = 1)
    (hx : e.expiry = some (t.add (Span.ofSeconds window))) :
    Counts max window e [⟨t, .ok (decide (1 ≤ max))⟩] n 1 where
  started := ⟨_, [], rfl, hx⟩
  before := by
    intro r hr x hx'
    rw [List.mem_singleton] at hr
    subst hr
    rw [hx] at hx'
    cases hx'
    exact Instant.lt_add_ofSeconds t (Int.natCast_pos.2 hw)
  value := hv
  inRange := hn
  pos := Nat.le_refl 1
  le := by decide
  low := hlow
  answers := by
    have hone : counterValue 1 = 1 := rfl
    rw [verdicts_ok]
    simp [countVerdicts, hone]

/-- A request that fails while the counter is live counts nothing. -/
theorem Counts.failed (h : Counts max window e w n k) {t : Instant}
    (hlive : Redis.Server.isLive t e = true) (f : Redis.Failure) :
    Counts max window e (w ++ [⟨t, .error f⟩]) n k :=
  { h with
    started := h.started_append _
    before := h.before_append hlive
    answers := by rw [verdicts_append, h.answers, verdicts_error, List.append_nil] }

/-- A request counted in the window is answered as the next count. -/
theorem Counts.next (h : Counts max window e w n k) {t : Instant}
    (hlive : Redis.Server.isLive t e = true) (hwrap : (n + 1) % 4294967296 ≠ 1)
    (hover : ((n + 1 : Nat) : Int) ≤ Redis.maxInt64) (key : String) :
    Counts max window ⟨key, .str (toString ((n + 1 : Nat) : Int)), e.expiry⟩
      (w ++ [⟨t, .ok (decide (counterValue ((n + 1 : Nat) : Int) ≤ max))⟩]) (n + 1) (k + 1) := by
  have hlow := h.low
  have hle := h.le
  -- a window that has counted 2³² requests reads its next count as one and starts anew
  have hk : k + 1 ≤ 4294967296 := by omega
  have hcount : counterValue ((n + 1 : Nat) : Int) = counterValue ((k + 1 : Nat) : Int) := by
    rw [counterValue_natCast, counterValue_natCast]
    omega
  exact
    { started := h.started_append _
      before := h.before_append hlive
      value := rfl
      inRange := hover
      pos := Nat.succ_pos k
      le := hk
      low := by omega
      answers := by rw [verdicts_append, h.answers, countVerdicts_succ, hcount, verdicts_ok] }

end Counting

section Explaining

variable {key : String} {max window : Nat} {srv : Redis.Server} {log : List Served}

theorem explained_of_find?_none (h : srv.find? key = none) : Explained key max window srv [] := by
  intro e he
  rw [h] at he
  cases he

/-- A purge that comes with a failed request keeps every counter explained. -/
theorem Explained.purged (h : Explained key max window srv log) (now : Instant)
    (f : Redis.Failure) :
    Explained key max window (srv.purge now) (log ++ [⟨now, .error f⟩]) := by
  intro e he
  obtain ⟨pre, w, n, k, hlog, hc⟩ := h e (Redis.Server.find?_of_find?_purge he)
  exact ⟨pre, _, n, k, by rw [hlog, List.append_assoc],
    hc.failed (Redis.Server.isLive_of_find?_purge _ _ he) f⟩

/-- A counter just started stands for the request that started it. -/
theorem explained_start {srv' : Redis.Server} {t : Instant} {m : Nat}
    (hlow : m % 4294967296 = 1) (hm : (m : Int) ≤ Redis.maxInt64)
    (h : ∀ e, srv'.find? key = some e → 0 < window ∧ e.value = .str (toString (m : Int)) ∧
      e.expiry = some (t.add (Span.ofSeconds window))) :
    Explained key max window srv' (log ++ [⟨t, .ok (decide (1 ≤ max))⟩]) := by
  intro e he
  obtain ⟨hw, hv, hx⟩ := h e he
  exact ⟨log, _, m, 1, rfl, Counts.first hw hv hm hlow hx⟩

end Explaining

/-! ## Runs of requests -/

/-- One event of a run on the limiter's key: a request, the clock set to an instant, or the
commands the server fails replaced. -/
inductive LimitStep where
  | request
  | setClock (t : Instant)
  | fail (cmds : List String)
  deriving DecidableEq, Repr

/-- The backend after a step, with the requests served so far. -/
def LimitStep.run (key : String) (max window : Nat) (st : Backend × List Served) :
    LimitStep → Backend × List Served
  | .request => (((checkRateLimit key max window).run.run st.1).2,
      st.2 ++ [⟨st.1.clock.now, ((checkRateLimit key max window).run.run st.1).1⟩])
  | .setClock t => ({ st.1 with clock := st.1.clock.set t }, st.2)
  | .fail cmds => ({ st.1 with kv := { st.1.kv with failing := cmds } }, st.2)

/-- The steps in order, from a backend and no request served. -/
def runLimit (key : String) (max window : Nat) (b : Backend) (steps : List LimitStep) :
    Backend × List Served :=
  steps.foldl (LimitStep.run key max window) (b, [])

/-- A point of a run where the limiter keeps its promise: `EXPIRE` is served, the server takes
the window as a time to live at the clock's reading, and every stored counter stands for the
last requests. -/
structure Limiting (key : String) (max window : Nat) (st : Backend × List Served) : Prop where
  expireServed : st.1.kv.failing.contains "EXPIRE" = false
  fits : Redis.expiryFits st.1.clock.now (window * 1000)
  explained : Explained key max window st.1.kv st.2

section Run

variable {key : String} {max window : Nat} {b : Backend} {log : List Served}

/-- A request keeps the limiter's promise: it fails and counts nothing, starts a counter that
stands for it alone, or is counted in the window of the live counter. -/
theorem Limiting.request (h : Limiting key max window (b, log)) :
    Limiting key max window (LimitStep.request.run key max window (b, log)) := by
  have hexp : b.kv.failing.contains "EXPIRE" = false := h.expireServed
  have hfits : Redis.expiryFits b.clock.now (window * 1000) := h.fits
  show Limiting key max window (((checkRateLimit key max window).run.run b).2,
    log ++ [⟨b.clock.now, ((checkRateLimit key max window).run.run b).1⟩])
  cases hinc : b.kv.failing.contains "INCRBY" with
  | true =>
    have hup : "INCRBY".toUpper = "INCRBY" := by cbv
    rw [checkRateLimit_of_error (Redis.Server.exec_failing _ _ _ (by rw [hup]; exact hinc))]
    exact ⟨hexp, hfits, h.explained.purged _ _⟩
  | false =>
    cases hfind : (b.kv.purge b.clock.now).find? key with
    | none =>
      obtain ⟨srv', hrun, hfail, hsrv'⟩ := checkRateLimit_fresh hfind hinc hexp hfits
      rw [hrun]
      exact ⟨hfail ▸ hexp, hfits, explained_start (m := 1) rfl (by decide) hsrv'⟩
    | some e =>
      obtain ⟨pre, w, n, k, hlog, hc⟩ := h.explained e (Redis.Server.find?_of_find?_purge hfind)
      have hlog : log = pre ++ w := hlog
      rcases checkRateLimit_live hfind hc.value hc.inRange hinc hexp hfits with
        ⟨-, f, hrun⟩ | ⟨hover, hwrap, srv', hrun, hfail, hsrv'⟩ | ⟨hover, hwrap, hrun⟩
      · -- the count would leave the 64-bit range
        rw [hrun]
        exact ⟨hexp, hfits, h.explained.purged _ _⟩
      · -- the count reads as one again: a new window
        rw [hrun]
        exact ⟨hfail ▸ hexp, hfits, explained_start hwrap (by exact_mod_cast hover) hsrv'⟩
      · rw [hrun]
        dsimp only
        refine ⟨hexp, hfits, fun e' he' => ?_⟩
        rw [Redis.Server.find?_put, if_pos rfl] at he'
        cases he'
        exact ⟨pre, _, n + 1, k + 1, by rw [hlog, List.append_assoc],
          hc.next (Redis.Server.isLive_of_find?_purge _ _ hfind) hwrap (by exact_mod_cast hover)
            key⟩

/-- Every step keeps the limiter's promise, as long as `EXPIRE` stays served and the clock is set
only where the server takes the window as a time to live. -/
theorem Limiting.step {st : Backend × List Served} (h : Limiting key max window st) (s : LimitStep)
    (hfail : ∀ cmds, s = .fail cmds → cmds.contains "EXPIRE" = false)
    (hclock : ∀ t, s = .setClock t → Redis.expiryFits t (window * 1000)) :
    Limiting key max window (s.run key max window st) := by
  obtain ⟨b, log⟩ := st
  cases s with
  | request => exact h.request
  | setClock t => exact ⟨h.expireServed, hclock t rfl, h.explained⟩
  | fail cmds => exact ⟨hfail cmds rfl, h.fits, h.explained⟩

theorem Limiting.run {st : Backend × List Served} (h : Limiting key max window st)
    (steps : List LimitStep)
    (hfail : ∀ cmds, LimitStep.fail cmds ∈ steps → cmds.contains "EXPIRE" = false)
    (hclock : ∀ t, LimitStep.setClock t ∈ steps → Redis.expiryFits t (window * 1000)) :
    Limiting key max window (steps.foldl (LimitStep.run key max window) st) := by
  induction steps generalizing st with
  | nil => exact h
  | cons s steps ih =>
    exact ih (h.step s (fun cmds hs => hfail cmds (hs ▸ List.mem_cons_self))
        fun t hs => hclock t (hs ▸ List.mem_cons_self))
      (fun cmds hc => hfail cmds (List.mem_cons_of_mem s hc))
      fun t hc => hclock t (List.mem_cons_of_mem s hc)

/-- A client whose every request lies a window or more in the past finds no live counter, so
its next request starts one and is let through. -/
theorem Limiting.allowed_after_idle (h : Limiting key max window (b, log))
    (hidle : ∀ r ∈ log, r.at_.add (Span.ofSeconds window) ≤ b.clock.now)
    (hinc : b.kv.failing.contains "INCRBY" = false) (hmax : 1 ≤ max) :
    ((checkRateLimit key max window).run.run b).1 = .ok true := by
  have hfind : (b.kv.purge b.clock.now).find? key = none := by
    rw [Redis.Server.find?_purge]
    cases he : b.kv.find? key with
    | none => rfl
    | some e =>
      -- the counter expires a window after a request of the log, which lies in the past
      obtain ⟨pre, w, n, k, hlog, hc⟩ := h.explained e he
      obtain ⟨s, rest, hw', hx⟩ := hc.started
      have hlog : log = pre ++ s :: rest := hw' ▸ hlog
      have hs : s ∈ log := hlog ▸ List.mem_append_right pre List.mem_cons_self
      have hdead : Redis.Server.isLive b.clock.now e = false := by
        unfold Redis.Server.isLive
        rw [hx]
        exact decide_eq_false fun hlt => Instant.lt_irrefl _ (Instant.lt_of_lt_of_le hlt (hidle s hs))
      simp [hdead]
  obtain ⟨srv', hrun, -⟩ := checkRateLimit_fresh hfind hinc h.expireServed h.fits
  rw [hrun]
  exact congrArg Except.ok (decide_eq_true hmax)

end Run

/-- Requests on one key, with the clock set and the failing commands changed at will between
them, as long as `EXPIRE` is always served and the server takes the window as a time to live at
every reading of the clock, from a server that holds no counter. After
every run, a stored counter expires one window after a request of the run; every request from
that one on was made before it expires, and they were answered as the counts `1, …, k` against
the limit, so that while `k` stays below 2³² at most `max` of them were let through. And a client
whose every request lies a window or more in the past is let through on its next request, when
`INCRBY` is served. -/
theorem limiter_windows (key : String) (max window : Nat) (b : Backend) (steps : List LimitStep)
    (hstart : b.kv.find? key = none) (hexp : b.kv.failing.contains "EXPIRE" = false)
    (hfail : ∀ cmds, LimitStep.fail cmds ∈ steps → cmds.contains "EXPIRE" = false)
    (hfits : Redis.expiryFits b.clock.now (window * 1000))
    (hclock : ∀ t, LimitStep.setClock t ∈ steps → Redis.expiryFits t (window * 1000))
    (hmax : 1 ≤ max) :
    let st := runLimit key max window b steps
    (∀ e, st.1.kv.find? key = some e → ∃ pre s rest k, st.2 = pre ++ s :: rest ∧
      e.expiry = some (s.at_.add (Span.ofSeconds window)) ∧
      (∀ r ∈ s :: rest, r.at_ < s.at_.add (Span.ofSeconds window)) ∧
      1 ≤ k ∧ k ≤ 4294967296 ∧ verdicts (s :: rest) = countVerdicts max k ∧
      (k < 4294967296 → (verdicts (s :: rest)).count true ≤ max)) ∧
    ((∀ r ∈ st.2, r.at_.add (Span.ofSeconds window) ≤ st.1.clock.now) →
      st.1.kv.failing.contains "INCRBY" = false →
      ((checkRateLimit key max window).run.run st.1).1 = .ok true) := by
  intro st
  have h : Limiting key max window st :=
    Limiting.run ⟨hexp, hfits, explained_of_find?_none hstart⟩ steps hfail hclock
  refine ⟨fun e he => ?_, fun hidle hinc => h.allowed_after_idle hidle hinc hmax⟩
  obtain ⟨pre, w, n, k, hlog, hc⟩ := h.explained e he
  obtain ⟨s, rest, rfl, hx⟩ := hc.started
  refine ⟨pre, s, rest, k, hlog, hx, fun r hr => hc.before r hr _ hx, hc.pos, hc.le, hc.answers,
    fun hk => ?_⟩
  rw [hc.answers]
  exact count_true_countVerdicts_le max k hk

/-- Two requests a second apart, then one two minutes later, against a limit of one request a
minute, from a server at rest that holds nothing. -/
theorem limiter_windows_sample :
    let steps := [LimitStep.request, .setClock ⟨1, 0⟩, .request, .setClock ⟨121, 0⟩]
    Handshake.restingBackend.kv.find? "ratelimit:auth:127.0.0.1" = none ∧
      Handshake.restingBackend.kv.failing.contains "EXPIRE" = false ∧
      (∀ cmds, LimitStep.fail cmds ∈ steps → cmds.contains "EXPIRE" = false) ∧
      Redis.expiryFits Handshake.restingBackend.clock.now ((60 : Nat) * 1000) ∧
      (∀ t, LimitStep.setClock t ∈ steps → Redis.expiryFits t ((60 : Nat) * 1000)) ∧ 1 ≤ 1 ∧
      let st := runLimit "ratelimit:auth:127.0.0.1" 1 60 Handshake.restingBackend steps
      (∀ e, st.1.kv.find? "ratelimit:auth:127.0.0.1" = some e → ∃ pre s rest k,
        st.2 = pre ++ s :: rest ∧ e.expiry = some (s.at_.add (Span.ofSeconds 60)) ∧
        (∀ r ∈ s :: rest, r.at_ < s.at_.add (Span.ofSeconds 60)) ∧
        1 ≤ k ∧ k ≤ 4294967296 ∧ verdicts (s :: rest) = countVerdicts 1 k ∧
        (k < 4294967296 → (verdicts (s :: rest)).count true ≤ 1)) ∧
      ((∀ r ∈ st.2, r.at_.add (Span.ofSeconds 60) ≤ st.1.clock.now) →
        st.1.kv.failing.contains "INCRBY" = false →
        ((checkRateLimit "ratelimit:auth:127.0.0.1" 1 60).run.run st.1).1 = .ok true) := by
  have hstart : Handshake.restingBackend.kv.find? "ratelimit:auth:127.0.0.1" = none := by
    simp [Handshake.restingBackend, Redis.Server.find?]
  have hfits : Redis.expiryFits Handshake.restingBackend.clock.now ((60 : Nat) * 1000) := by decide
  have hclock : ∀ t, LimitStep.setClock t ∈
      [LimitStep.request, .setClock ⟨1, 0⟩, .request, .setClock ⟨121, 0⟩] →
      Redis.expiryFits t ((60 : Nat) * 1000) := by
    intro t ht
    simp only [List.mem_cons, reduceCtorEq, LimitStep.setClock.injEq, List.not_mem_nil, or_false,
      false_or] at ht
    rcases ht with rfl | rfl <;> decide
  exact ⟨hstart, by decide, by simp, hfits, hclock, Nat.le_refl 1,
    limiter_windows _ 1 60 _ _ hstart (by decide) (by simp) hfits hclock (Nat.le_refl 1)⟩

end RateLimit

end WalletAuth
