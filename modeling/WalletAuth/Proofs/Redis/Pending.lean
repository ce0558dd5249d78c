import Mathlib
import WalletAuth.Redis.Server

/-!
# WalletAuth.Proofs.Redis.Pending — which keys hold a record still to be claimed

A key of the key-value server holds a nonce record still to be claimed when its text is not
marked `used:`. `srv'.Below srv` says that every such key of `srv'` is one of `srv` too.

* Purging expired keys, erasing a key and the claim script only lower the server: a claim
  leaves its key marked used and the other keys as they were.
* The claim script answers status `1` only for a key that held a record still to be claimed.
* Of the commands a nonce store sends, `GET`, `DEL`, `SCRIPT LOAD` and `EVALSHA` only lower
  the server, and `SET` either changes nothing but the purge or answers `OK` having put its
  value.
-/

namespace WalletAuth
namespace Redis
namespace Server

/-- Whether a key holds a text not marked `used:`: a record still to be claimed. -/
def holdsPending (srv : Server) (k : String) : Bool :=
  match srv.find? k with
  | some ⟨_, .str v, _⟩ => !v.startsWith "used:"
  | _ => false

theorem find?_put (srv : Server) (e : Entry) (k : String) :
    (srv.put e).find? k = if e.key = k then some e else srv.find? k := by
  simp [find?, put, Std.TreeMap.getElem?_insert]

theorem find?_erase (srv : Server) (k' k : String) :
    (srv.erase k').find? k = if k' = k then none else srv.find? k := by
  simp [find?, erase, Std.TreeMap.getElem?_erase]

/-- A purge keeps exactly the entries still live. -/
theorem find?_purge (srv : Server) (now : Instant) (k : String) :
    (srv.purge now).find? k = (srv.find? k).filter (isLive now) := by
  simp only [purge, find?, Std.TreeMap.get?_eq_getElem?, Std.TreeMap.getElem?_filter']

theorem find?_of_find?_purge {srv : Server} {now : Instant} {k : String} {e : Entry}
    (h : (srv.purge now).find? k = some e) : srv.find? k = some e := by
  rw [find?_purge] at h
  exact (Option.filter_eq_some_iff.1 h).1

theorem holdsPending_of_find? {srv srv' : Server} {k : String}
    (h : ∀ e, srv'.find? k = some e → srv.find? k = some e)
    (hp : srv'.holdsPending k = true) : srv.holdsPending k = true := by
  unfold holdsPending at hp ⊢
  split at hp
  · rename_i v exp heq
    rw [h _ heq]
    exact hp
  · contradiction

theorem holdsPending_purge {srv : Server} {now : Instant} {k : String}
    (h : (srv.purge now).holdsPending k = true) : srv.holdsPending k = true :=
  holdsPending_of_find? (fun _ => find?_of_find?_purge) h

theorem holdsPending_erase {srv : Server} {k' k : String}
    (h : (srv.erase k').holdsPending k = true) : srv.holdsPending k = true := by
  refine holdsPending_of_find? (fun e he => ?_) h
  rw [find?_erase] at he
  split at he
  · contradiction
  · exact he

theorem holdsPending_put_of_ne {srv : Server} {e : Entry} {k : String} (h : e.key ≠ k) :
    (srv.put e).holdsPending k = srv.holdsPending k := by
  simp [holdsPending, find?_put, h]

/-- `srv'` holds pending no key that `srv` did not hold pending. -/
def Below (srv' srv : Server) : Prop := ∀ k, srv'.holdsPending k = true → srv.holdsPending k = true

theorem Below.refl (srv : Server) : srv.Below srv := fun _ h => h

theorem Below.trans {s₁ s₂ s₃ : Server} (h₁ : s₁.Below s₂) (h₂ : s₂.Below s₃) : s₁.Below s₃ :=
  fun k h => h₂ k (h₁ k h)

theorem purge_below (srv : Server) (now : Instant) : (srv.purge now).Below srv :=
  fun _ => holdsPending_purge

theorem erase_below (srv : Server) (k' : String) : (srv.erase k').Below srv :=
  fun _ => holdsPending_erase

end Server

/-- After a claim of a key, the key holds nothing pending. -/
theorem holdsPending_claim_self (srv : Server) (k : String) :
    (claim srv k).2.holdsPending k = false := by
  unfold claim
  split
  · rename_i hk
    simp [Server.holdsPending, hk]
  · rename_i hk
    simp [Server.holdsPending, hk]
  · rename_i v exp hk
    split
    · simp_all [Server.holdsPending]
    · simp [Server.holdsPending, Server.find?_put]

/-- A claim leaves the other keys as they were. -/
theorem holdsPending_claim_of_ne (srv : Server) {k' k : String} (h : k' ≠ k) :
    (claim srv k').2.holdsPending k = srv.holdsPending k := by
  unfold claim
  split
  · rfl
  · rfl
  · split
    · rfl
    · exact Server.holdsPending_put_of_ne h

/-- A claim answers status `1` only for a key that held a record still to be claimed. -/
theorem holdsPending_of_claim_one {srv : Server} {k : String} {s : Reply} {t : String}
    (h : (claim srv k).1 = .array [s, .bulk t]) (hs : s.integer = .ok 1) :
    srv.holdsPending k = true := by
  unfold claim at h
  split at h
  · simp only [Reply.array.injEq, List.cons.injEq] at h
    rw [← h.1] at hs
    simp [Reply.integer] at hs
  · simp at h
  · rename_i v exp hk
    split at h
    · simp only [Reply.array.injEq, List.cons.injEq] at h
      rw [← h.1] at hs
      simp [Reply.integer] at hs
    · rename_i hv
      simp [Server.holdsPending, hk, hv]

theorem claim_below (srv : Server) (k' : String) : (claim srv k').2.Below srv := by
  intro k h
  by_cases hk : k' = k
  · rw [hk, holdsPending_claim_self] at h
    contradiction
  · rwa [holdsPending_claim_of_ne srv hk] at h

/-! ## The commands a nonce store sends -/

-- The empty command's answer; naming it here also generates the equations of exec once, before
-- the proofs below unfold it in parallel.
attribute [simp] Server.exec.eq_1

namespace Server

variable (srv : Server) (now : Instant)

theorem exec_get (k : String) : (srv.exec now ["GET", k]).2 = srv.purge now := by
  have h : "GET".toUpper = "GET" := by cbv
  simp only [exec, h]
  split <;> (try split) <;> rfl

theorem exec_del (k : String) :
    (srv.exec now ["DEL", k]).2 = srv.purge now ∨
      (srv.exec now ["DEL", k]).2 = (srv.purge now).erase k := by
  have h : "DEL".toUpper = "DEL" := by cbv
  simp only [exec, h]
  split
  · exact .inl rfl
  · have he : [k].eraseDups = [k] := rfl
    rw [he]
    cases hk : ((srv.purge now).find? k).isSome
    · exact .inl (by simp [hk])
    · exact .inr (by simp [hk])

theorem exec_scriptLoad (code : String) :
    (srv.exec now ["SCRIPT", "LOAD", code]).2.entries = (srv.purge now).entries := by
  have h : "SCRIPT".toUpper = "SCRIPT" := by cbv
  simp only [exec, h]
  split
  · rfl
  · split <;> rfl

theorem exec_evalsha (d k : String) :
    (∃ line, srv.exec now ["EVALSHA", d, "1", k] = (.error line, srv.purge now)) ∨
      srv.exec now ["EVALSHA", d, "1", k] = claim (srv.purge now) k := by
  have h : "EVALSHA".toUpper = "EVALSHA" := by cbv
  simp only [exec, h]
  split
  · exact .inl ⟨_, rfl⟩
  · split
    · exact .inl ⟨_, rfl⟩
    · exact .inr rfl

theorem exec_set (k v : String) (opts : List String) :
    (srv.exec now ("SET" :: k :: v :: opts)).2 = srv.purge now ∨
      ∃ exp, srv.exec now ("SET" :: k :: v :: opts) =
        (.status "OK", (srv.purge now).put ⟨k, .str v, exp⟩) := by
  have h : "SET".toUpper = "SET" := by cbv
  simp only [exec, h]
  -- refused options, a refused expiry, and a failed condition all leave the server purged
  split
  · exact .inl rfl
  · split
    · exact .inl rfl
    · split
      · exact .inl rfl
      · split
        · exact .inl rfl
        · exact .inr ⟨_, rfl⟩

theorem holdsPending_congr {srv' srv : Server} (h : srv'.entries = srv.entries) (k : String) :
    srv'.holdsPending k = srv.holdsPending k := by
  simp [holdsPending, find?, h]

theorem exec_get_below (k : String) : (srv.exec now ["GET", k]).2.Below srv := by
  rw [exec_get]
  exact purge_below srv now

theorem exec_del_below (k : String) : (srv.exec now ["DEL", k]).2.Below srv := by
  rcases exec_del srv now k with h | h <;> rw [h]
  · exact purge_below srv now
  · exact (erase_below _ k).trans (purge_below srv now)

theorem exec_scriptLoad_below (code : String) :
    (srv.exec now ["SCRIPT", "LOAD", code]).2.Below srv := by
  intro k h
  rw [holdsPending_congr (exec_scriptLoad srv now code)] at h
  exact purge_below srv now k h

/-- A run of the claim script by digest: the server only loses pending keys, and an answer that
is not an error is the claim script's, run on a server below this one. -/
theorem exec_evalsha_below (d k : String) :
    (srv.exec now ["EVALSHA", d, "1", k]).2.Below srv ∧
      ∀ r, (srv.exec now ["EVALSHA", d, "1", k]).1.check = .ok r →
        ∃ s, s.Below srv ∧ (r, (srv.exec now ["EVALSHA", d, "1", k]).2) = claim s k := by
  rcases exec_evalsha srv now d k with ⟨line, h⟩ | h <;> rw [h]
  · refine ⟨purge_below srv now, fun r hr => ?_⟩
    simp [Reply.check] at hr
  · refine ⟨(claim_below _ k).trans (purge_below srv now), fun r hr => ?_⟩
    refine ⟨srv.purge now, purge_below srv now, ?_⟩
    -- a reply that passes the check is the reply itself
    have hr' : (claim (srv.purge now) k).1 = r := by
      unfold Reply.check at hr
      split at hr <;> simp_all
    rw [← hr']

theorem exec_set_below (k v : String) (opts : List String) :
    (srv.exec now ("SET" :: k :: v :: opts)).2.Below srv ∨
      ∃ exp, srv.exec now ("SET" :: k :: v :: opts) =
        (.status "OK", (srv.purge now).put ⟨k, .str v, exp⟩) := by
  rcases exec_set srv now k v opts with h | h
  · exact .inl (h ▸ purge_below srv now)
  · exact .inr h

end Server
end Redis
end WalletAuth
