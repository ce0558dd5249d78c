import Mathlib
import WalletAuth.Proofs.Redis.Pending

/-!
# WalletAuth.Proofs.Redis.Commands — the exact answers of the commands a nonce store sends

A command the server is not told to fail has one answer, read off the server purged at the
command's instant:

* `GET` answers the text kept under a key, or nil (`exec_get_str`, `exec_get_none`);
* `SET k v NX EX s` keeps `v` for `s` seconds from now, unless the key is taken
  (`exec_setNx_absent`, `exec_setNx_present`);
* `DEL` of one key removes it (`exec_del_find?`);
* `SCRIPT LOAD` marks the script loaded, and `EVALSHA` of one key runs the claim once it is
  (`exec_scriptLoad_ok`, `exec_evalsha_loaded`, `exec_evalsha_unloaded`).

A purge keeps exactly the entries live at its instant, so that a second purge at the same
instant keeps them all (`find?_purge_purge`). The claim marks a text not yet `used:`, keeping
its expiry, and leaves the server as it was otherwise (`claim_pending`, `claim_used`,
`claim_none`).
-/

namespace WalletAuth.Redis
namespace Server

variable (srv : Server) (now : Instant)

@[simp] theorem failing_purge : (srv.purge now).failing = srv.failing := rfl

@[simp] theorem scriptLoaded_purge : (srv.purge now).scriptLoaded = srv.scriptLoaded := rfl

@[simp] theorem failing_put (e : Entry) : (srv.put e).failing = srv.failing := rfl

@[simp] theorem scriptLoaded_put (e : Entry) : (srv.put e).scriptLoaded = srv.scriptLoaded := rfl

@[simp] theorem failing_erase (k : String) : (srv.erase k).failing = srv.failing := rfl

@[simp] theorem scriptLoaded_erase (k : String) : (srv.erase k).scriptLoaded = srv.scriptLoaded :=
  rfl

/-- An entry found after a purge is live at the purge's instant. -/
theorem isLive_of_find?_purge {k : String} {e : Entry} (h : (srv.purge now).find? k = some e) :
    isLive now e = true := by
  rw [find?_purge] at h
  exact (Option.filter_eq_some_iff.1 h).2

/-- A second purge at the same instant keeps every entry the first one kept. -/
theorem find?_purge_purge (k : String) :
    ((srv.purge now).purge now).find? k = (srv.purge now).find? k := by
  rw [find?_purge (srv.purge now)]
  cases h : (srv.purge now).find? k with
  | none => rfl
  | some e => simp [isLive_of_find?_purge srv now h]

/-! ## One command each -/

theorem exec_get_str {k k' v : String} {x : Option Instant}
    (hf : srv.failing.contains "GET" = false)
    (he : (srv.purge now).find? k = some ⟨k', .str v, x⟩) :
    srv.exec now ["GET", k] = (.bulk v, srv.purge now) := by
  have h : "GET".toUpper = "GET" := by with_unfolding_all rfl
  simp only [exec, h, failing_purge, hf, he]
  rfl

theorem exec_get_none {k : String} (hf : srv.failing.contains "GET" = false)
    (he : (srv.purge now).find? k = none) :
    srv.exec now ["GET", k] = (.nil, srv.purge now) := by
  have h : "GET".toUpper = "GET" := by with_unfolding_all rfl
  simp only [exec, h, failing_purge, hf, he]
  rfl

/-- The options `NX EX s` of a `SET`, for a count of seconds `s` that reads as a positive
64-bit number. -/
theorem setOptions_nx_ex {t : String} {secs : Int} (ht : parseInt64? t = some secs)
    (hpos : 0 < secs) :
    setOptions ["NX", "EX", t] = .ok { onlyIfAbsent := true, expiresIn := some (.ofSeconds secs) } := by
  have hnx : "NX".toUpper = "NX" := by with_unfolding_all rfl
  have hex : "EX".toUpper = "EX" := by with_unfolding_all rfl
  have hle : ¬secs ≤ 0 := by omega
  simp only [setOptions, readSetOptions, hnx, hex, ht, hle, if_false]
  rfl

/-- A span of whole seconds, in milliseconds. -/
theorem ofSeconds_millis (s : Int) : (Span.ofSeconds s).nanos / 1000000 = s * 1000 := by
  simp only [Span.ofSeconds, nanosPerSecond]
  omega

/-- The check of `SET` and `SETEX` is the check of `EXPIRE` and more. -/
theorem expiryFits_of_setExpiryFits {t : Instant} {ms : Int} (h : setExpiryFits t ms = true) :
    expiryFits t ms = true := by
  simp only [setExpiryFits, Bool.and_eq_true] at h
  exact h.1

/-- A count of seconds Redis takes as a time to live is a 64-bit count. -/
theorem le_maxInt64_of_expiryFits {t : Instant} {w : Int} (h : expiryFits t (w * 1000) = true) :
    w ≤ maxInt64 := by
  have h63 : maxInt64 = 9223372036854775807 := by decide
  simp only [expiryFits, decide_eq_true_eq] at h
  omega

theorem exec_setNx_absent {k v t : String} {secs : Int} (hf : srv.failing.contains "SET" = false)
    (ht : parseInt64? t = some secs) (hpos : 0 < secs) (hfits : setExpiryFits now (secs * 1000))
    (habs : (srv.purge now).find? k = none) :
    srv.exec now ["SET", k, v, "NX", "EX", t] =
      (.status "OK", (srv.purge now).put ⟨k, .str v, some (now.add (.ofSeconds secs))⟩) := by
  have h : "SET".toUpper = "SET" := by with_unfolding_all rfl
  simp only [exec, h, failing_purge, hf, setOptions_nx_ex ht hpos, Option.any_some,
    ofSeconds_millis, hfits, habs]
  rfl

theorem exec_setNx_present {k v t : String} {secs : Int} {e : Entry}
    (hf : srv.failing.contains "SET" = false) (ht : parseInt64? t = some secs) (hpos : 0 < secs)
    (hfits : setExpiryFits now (secs * 1000)) (hpre : (srv.purge now).find? k = some e) :
    srv.exec now ["SET", k, v, "NX", "EX", t] = (.nil, srv.purge now) := by
  have h : "SET".toUpper = "SET" := by with_unfolding_all rfl
  simp only [exec, h, failing_purge, hf, setOptions_nx_ex ht hpos, Option.any_some,
    ofSeconds_millis, hfits, hpre]
  rfl

/-- `DEL` of one key answers a count and leaves the purged server without the key. -/
theorem exec_del_find? {k : String} (hf : srv.failing.contains "DEL" = false) :
    (∃ i, (srv.exec now ["DEL", k]).1 = .int i) ∧
      (srv.exec now ["DEL", k]).2.failing = srv.failing ∧
      (srv.exec now ["DEL", k]).2.scriptLoaded = srv.scriptLoaded ∧
      ∀ k', (srv.exec now ["DEL", k]).2.find? k' =
        if k = k' then none else (srv.purge now).find? k' := by
  have h : "DEL".toUpper = "DEL" := by with_unfolding_all rfl
  have he : [k].eraseDups = [k] := rfl
  have hexec : srv.exec now ["DEL", k] =
      let present := [k].filter fun k => ((srv.purge now).find? k).isSome
      (.int present.length, present.foldl erase (srv.purge now)) := by
    simp only [exec, h, failing_purge, hf, he]
    rfl
  rw [hexec]
  refine ⟨⟨_, rfl⟩, ?_⟩
  cases hk : ((srv.purge now).find? k).isSome
  · -- the key was not there: erasing it changes nothing
    have hnone : (srv.purge now).find? k = none := Option.not_isSome_iff_eq_none.1 (by simp [hk])
    refine ⟨by simp [hk], by simp [hk], fun k' => ?_⟩
    simp only [List.filter_cons, hk, Bool.false_eq_true, if_false, List.filter_nil, List.foldl_nil]
    split
    · rename_i hkk
      rw [← hkk, hnone]
    · rfl
  · refine ⟨by simp [hk], by simp [hk], fun k' => ?_⟩
    simp [hk, find?_erase]

theorem exec_scriptLoad_ok (code : String) (hf : srv.failing.contains "SCRIPT" = false) :
    srv.exec now ["SCRIPT", "LOAD", code] =
      (.bulk scriptName, { srv.purge now with scriptLoaded := true }) := by
  have h : "SCRIPT".toUpper = "SCRIPT" := by with_unfolding_all rfl
  have hl : "LOAD".toUpper == "LOAD" := by with_unfolding_all rfl
  simp only [exec, h, failing_purge, hf, hl]
  rfl

theorem exec_evalsha_loaded (d k : String) (hf : srv.failing.contains "EVALSHA" = false)
    (hl : srv.scriptLoaded = true) : srv.exec now ["EVALSHA", d, "1", k] = claim (srv.purge now) k := by
  have h : "EVALSHA".toUpper = "EVALSHA" := by with_unfolding_all rfl
  simp only [exec, h, failing_purge, hf, scriptLoaded_purge, hl]
  rfl

theorem exec_evalsha_unloaded (d k : String) (hf : srv.failing.contains "EVALSHA" = false)
    (hl : srv.scriptLoaded = false) :
    srv.exec now ["EVALSHA", d, "1", k] =
      (.error "NOSCRIPT No matching script. Please use EVAL.", srv.purge now) := by
  have h : "EVALSHA".toUpper = "EVALSHA" := by with_unfolding_all rfl
  simp only [exec, h, failing_purge, hf, scriptLoaded_purge, hl]
  rfl

end Server

/-! ## The claim script -/

section Claim

variable {srv : Server} {k : String}

theorem claim_none (h : srv.find? k = none) : claim srv k = (.array [.int 0, .bulk ""], srv) := by
  simp [claim, h]

theorem claim_used {k' v : String} {x : Option Instant} (h : srv.find? k = some ⟨k', .str v, x⟩)
    (hv : v.startsWith "used:" = true) :
    claim srv k = (.array [.int 2, .bulk (String.ofList (v.toList.drop 5))], srv) := by
  simp [claim, h, hv]

theorem claim_pending {k' v : String} {x : Option Instant} (h : srv.find? k = some ⟨k', .str v, x⟩)
    (hv : v.startsWith "used:" = false) :
    claim srv k = (.array [.int 1, .bulk v], srv.put ⟨k, .str ("used:" ++ v), x⟩) := by
  simp [claim, h, hv]

end Claim

end WalletAuth.Redis
