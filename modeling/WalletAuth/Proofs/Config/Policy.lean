import WalletAuth.Config.Basic
import WalletAuth.Proofs.Handshake.Stateless
import WalletAuth.Proofs.Encoding.Hex

/-!
# WalletAuth.Proofs.Config.Policy — the settings and the challenges built under them

The settings reader and the challenge builder each check the domain, the scheme and the
statement, by rules written separately. This module compares the two.

* `Config.fromEnv_valid`: every setting the reader accepts passes its own check (`Config.Valid`).
* `Challenge.isScheme_of_isSchemeText`: on the characters the reader allows in a scheme, the
  builder's test asks only that the first one be a letter, which the reader does not ask.
* `ChallengeBuilder.build_invalidRequest_only` and `ChallengeBuilder.build_of_scheme`: with the
  default options, a policy whose domain and statement pass has its builds refused as invalid
  requests for its scheme and for nothing else.
* `Config.fromEnv_policy_refusals`: under settings read from the environment, the domain and
  the statement pass the builder's checks, and a request from a valid account at a permitted
  origin is refused as an invalid request exactly when the configured scheme does not start with
  a letter.
-/

namespace WalletAuth

namespace Text

theorem length_le_utf8ByteSize_ofList :
    ∀ l : List Char, l.length ≤ (String.ofList l).utf8ByteSize
  | [] => Nat.zero_le _
  | c :: l => by
    rw [String.ofList_cons, String.utf8ByteSize_append, String.utf8ByteSize_singleton,
      List.length_cons]
    have hc := Char.utf8Size_pos c
    have hl := length_le_utf8ByteSize_ofList l
    omega

/-- A text takes at least one byte a character. -/
theorem length_le_utf8ByteSize (s : String) : s.length ≤ s.utf8ByteSize := by
  have h := length_le_utf8ByteSize_ofList s.toList
  rwa [String.ofList_toList, String.length_toList] at h

end Text

namespace Challenge

/-! ## The builder's rules for single fields -/

/-- The domain rule: not empty, no blank, no `/`. -/
structure DomainOk (d : String) : Prop where
  ne_empty : d ≠ ""
  no_blank : Text.hasBlank d = false
  no_slash : '/' ∉ d.toList

/-- The statement rule: a single line. -/
def StatementOk (st : String) : Prop := ∀ ch ∈ st.toList, ch ≠ '\n' ∧ ch ≠ '\r'

/-- The nonce rule: at least `minNonceLength` bytes, all ASCII letters and digits. -/
structure NonceOk (n : String) : Prop where
  long : minNonceLength ≤ n.utf8ByteSize
  alphanum : ∀ ch ∈ n.toList, ch.isAlphanum = true

/-- A text of at least `minNonceLength` letters and digits passes the nonce rule. -/
theorem nonceOk_of_chars {s : String} (hlen : minNonceLength ≤ s.length)
    (hchars : ∀ ch ∈ s.toList, ch.isAlphanum = true) : NonceOk s :=
  ⟨Nat.le_trans hlen (Text.length_le_utf8ByteSize s), hchars⟩

/-- On the characters the settings allow in a scheme, the builder's scheme test asks only that
the first one be a letter. -/
theorem isScheme_of_isSchemeText {s : String} (h : Config.isSchemeText s = true) :
    isScheme s = s.toList.head?.any Char.isAlpha := by
  unfold isScheme
  unfold Config.isSchemeText at h
  cases hs : s.toList with
  | nil => rfl
  | cons c rest =>
    rw [hs, List.all_cons, Bool.and_eq_true] at h
    have hrest : rest.all (fun c => c.isAlphanum || c == '+' || c == '-' || c == '.') = true :=
      List.all_eq_true.2 fun d hd => by
        have hd' := List.all_eq_true.1 h.2 d hd
        simp only [Bool.or_eq_true, Bool.and_eq_true] at hd' ⊢
        rcases hd' with ((⟨ha, -⟩ | hp) | hm) | hdot
        · exact .inl (.inl (.inl ha))
        · exact .inl (.inl (.inr hp))
        · exact .inl (.inr hm)
        · exact .inr hdot
    simp [hrest]

/-! ## Where the builder's check fails -/

section Failure

variable {ε α : Type}

theorem bind_unit_eq_error {x y : Except ε Unit} {e : ε} :
    (x >>= fun _ => y) = .error e ↔ x = .error e ∨ x = .ok () ∧ y = .error e := by
  cases x with
  | error e' => simp [bind, Except.bind]
  | ok u => simp [bind, Except.bind]

theorem forM_option_eq_error {o : Option α} {f : α → Except ε Unit} {e : ε} :
    o.forM f = .error e ↔ ∃ a ∈ o, f a = .error e := by
  cases o with
  | none => simp [Option.forM, pure, Except.pure]
  | some a => simp [Option.forM]

end Failure

theorem require_eq_error {ok : Bool} {err e : MessageError} :
    require ok err = .error e ↔ ok = false ∧ err = e := by
  cases ok <;> simp [require]

/-- A URI is refused in the name of its field. -/
theorem validateUri_error {field value : String} {m : MessageError}
    (h : validateUri field value = .error m) : ∃ d, m = .invalidField field d := by
  unfold validateUri at h
  split at h
  · cases h
    exact ⟨_, rfl⟩
  · split at h
    · cases h
    · cases h
      exact ⟨_, rfl⟩

/-- A message whose domain, statement and nonce pass, with no request id and no resources, fails
the builder's check only at its scheme, its URI or its expiry. -/
theorem checkFields_error_of_rest {c : Challenge} {m : MessageError}
    (h : c.checkFields = .error m) (hdomain : DomainOk c.domain)
    (hstatement : ∀ st ∈ c.statement, StatementOk st) (hnonce : NonceOk c.nonce)
    (hreq : c.requestId = none) (hres : c.resources = []) :
    (∃ s ∈ c.scheme, isScheme s = false ∧ m = .invalidField "scheme" s) ∨
      (∃ d, m = .invalidField "uri" d) ∨
      m = .invalidField "expiration time" "must be after issued at" := by
  simp only [checkFields, bind_unit_eq_error, forM_option_eq_error, require_eq_error, hreq,
    hres] at h
  -- one case for each check, in the order the check makes them
  rcases h with ⟨s, hs, hbad, rfl⟩ | ⟨-, ⟨hbad, -⟩ | ⟨-, ⟨st, hst, hbad, -⟩ | ⟨-, huri |
    ⟨-, ⟨hbad, -⟩ | ⟨-, ⟨e, -, -, rfl⟩ | ⟨-, hnone | ⟨-, hnil⟩⟩⟩⟩⟩⟩⟩
  case inl => exact .inl ⟨s, hs, hbad, rfl⟩
  case inr.inl =>
    simp [String.isEmpty_iff, hdomain.ne_empty, hdomain.no_blank, hdomain.no_slash] at hbad
  case inr.inr.inl =>
    simp only [Bool.not_eq_false', List.any_eq_true, Bool.or_eq_true, beq_iff_eq] at hbad
    obtain ⟨ch, hch, hline⟩ := hbad
    have hok := hstatement st hst ch hch
    rcases hline with rfl | rfl
    · exact absurd rfl hok.1
    · exact absurd rfl hok.2
  case inr.inr.inr.inl => exact .inr (.inl (validateUri_error huri))
  case inr.inr.inr.inr.inl =>
    simp only [Bool.not_eq_false', Bool.or_eq_true, decide_eq_true_eq, Bool.not_eq_true',
      List.all_eq_false] at hbad
    rcases hbad with hshort | ⟨ch, hch, hnot⟩
    · exact absurd hnonce.long (Nat.not_le.2 hshort)
    · simp [hnonce.alphanum ch hch] at hnot
  case inr.inr.inr.inr.inr.inl => exact .inr (.inr rfl)
  case inr.inr.inr.inr.inr.inr.inl => simp at hnone
  case inr.inr.inr.inr.inr.inr.inr => cases hnil

theorem validate_eq_error {c : Challenge} {m : MessageError} :
    c.validate = .error m ↔ c.checkFields = .error m := by
  unfold validate
  cases c.checkFields with
  | error m' => simp [bind, Except.bind]
  | ok u => simp [bind, Except.bind, pure, Except.pure]

end Challenge

/-! ## The nonces a message is assembled with -/

/-- Every nonce drawn passes the nonce rule: it is 32 hex digits. -/
theorem SteppedEntropy.draw_nonceOk (e : SteppedEntropy) : Challenge.NonceOk e.draw.1 := by
  refine Challenge.nonceOk_of_chars ?_ (Hex.encode_isAlphanum _)
  simp only [draw, nonceText]
  rw [← String.length_toList, Hex.encode_toList, Hex.length_flatMap_digitPair]
  simp [nonceBytes, Challenge.minNonceLength]

theorem ChallengeBuilder.placeholderNonceOk :
    Challenge.NonceOk ChallengeBuilder.placeholderNonce := by
  refine Challenge.nonceOk_of_chars ?_ ?_
  · simp [placeholderNonce, ← String.length_toList, nonceBytes, Challenge.minNonceLength]
  · intro ch hch
    simp only [placeholderNonce, String.toList_ofList, List.mem_replicate] at hch
    rw [hch.2]
    rfl

namespace Registry

/-- An issued record carries a drawn nonce. -/
theorem issue_nonceOk {ttl : Span} {a : Address} {b b' : Backend} {r : NonceRecord}
    (h : (issue ttl a).run.run b = (.ok r, b')) : Challenge.NonceOk r.nonce := by
  change (Steps.issue ttl a).run.run.run b = _ at h
  rw [Steps.issue_run, Prog.run_now_step, Prog.run_freshNonce_step, Prog.run_step_run] at h
  have hdrawn : (Backend.freshNonce.run (Backend.now.run b).2).1 =
      (Backend.now.run b).2.entropy.draw.1 := rfl
  rw [hdrawn] at h
  generalize (Action.insert _ _).exec.run _ = inserted at h
  rcases inserted with ⟨_ | ⟨⟩, b₁⟩
  · cases h
  · cases h
    exact SteppedEntropy.draw_nonceOk _

end Registry

namespace ChallengeBuilder

/-! ## Builds refused as invalid requests -/

theorem assemblyError_scheme (s : String) :
    assemblyError (.invalidField "scheme" s) = .invalidRequest ("invalid scheme: " ++ s) := by
  simp [assemblyError, MessageError.message]

theorem assemblyError_uri (d : String) :
    assemblyError (.invalidField "uri" d) = .invalidOrigin := by
  simp [assemblyError]

theorem assemblyError_expiry (d : String) :
    assemblyError (.invalidField "expiration time" d) = .invalidTimeWindow := by
  simp [assemblyError]

/-- With the default options, a message from a policy whose domain and statement pass, with a
well-formed nonce, is refused as an invalid request only for the policy's scheme. -/
theorem assemble_invalidRequest {p : ChallengePolicy} {address : Address} {uri : String}
    {chainId : Nat} {nonce : String} {issuedAt expiration : Instant} {d : String}
    (hdomain : Challenge.DomainOk p.domain)
    (hstatement : ∀ st ∈ p.statement, Challenge.StatementOk st) (hnonce : Challenge.NonceOk nonce)
    (h : assemble p address uri chainId {} nonce issuedAt expiration = .error (.invalidRequest d)) :
    ∃ s ∈ p.scheme, Challenge.isScheme s = false ∧ d = "invalid scheme: " ++ s := by
  unfold assemble at h
  dsimp only at h
  generalize hv : Challenge.validate _ = v at h
  cases v with
  | ok c => cases h
  | error m =>
    have hm : assemblyError m = .invalidRequest d := Except.error.inj h
    rcases Challenge.checkFields_error_of_rest (Challenge.validate_eq_error.1 hv) hdomain
      hstatement hnonce rfl rfl with ⟨s, hs, hbad, rfl⟩ | ⟨d', rfl⟩ | rfl
    · rw [assemblyError_scheme] at hm
      exact ⟨s, hs, hbad, (AuthError.invalidRequest.inj hm).symm⟩
    · rw [assemblyError_uri] at hm
      cases hm
    · rw [assemblyError_expiry] at hm
      cases hm

/-- A policy whose scheme the message refuses makes every assembly fail, naming the scheme. -/
theorem assemble_of_scheme {p : ChallengePolicy} {address : Address} {uri : String}
    {chainId : Nat} {o : ChallengeOptions} {nonce : String} {issuedAt expiration : Instant}
    {s : String} (hs : p.scheme = some s) (hbad : Challenge.isScheme s = false) :
    assemble p address uri chainId o nonce issuedAt expiration =
      .error (.invalidRequest ("invalid scheme: " ++ s)) := by
  simp [assemble, Challenge.validate, Challenge.checkFields, hs, hbad, Challenge.require, bind,
    Except.bind, Option.forM, Except.mapError, assemblyError_scheme]

theorem checkRequest_ne_invalidRequest {p : ChallengePolicy} {req : ChallengeRequest}
    {e : AuthError} (he : checkRequest p req = .error e) (d : String) :
    e ≠ .invalidRequest d := by
  revert he
  unfold checkRequest
  simp only [bind, Except.bind, pure, Except.pure, throw, throwThe, MonadExceptOf.throw]
  repeat' split
  all_goals intro he; cases he <;> nofun

theorem checkWindow_ne_invalidRequest {ttl : Span} {o : ChallengeOptions} {now : Instant}
    {e : AuthError} (he : checkWindow ttl o now = .error e) (d : String) :
    e ≠ .invalidRequest d := by
  revert he
  unfold checkWindow
  simp only [bind, Except.bind, pure, Except.pure, throw, throwThe, MonadExceptOf.throw]
  repeat' split
  all_goals intro he; cases he <;> nofun

theorem run_liftM {α : Type} (m : BackendM α) (b : Backend) :
    (liftM m : ExceptT AuthError BackendM α).run.run b = (.ok (m.run b).1, (m.run b).2) := rfl

section

variable {α β : Type} {P : AuthError → Prop}

/-- `FailsOnly.bind`, for a continuation that needs only the values `x` can succeed with. -/
theorem FailsOnly.bind_of_returns {Q : α → Prop} {x : ExceptT AuthError BackendM α}
    {f : α → ExceptT AuthError BackendM β} (hx : FailsOnly P x)
    (hQ : ∀ b v b', x.run.run b = (.ok v, b') → Q v) (hf : ∀ v, Q v → FailsOnly P (f v)) :
    FailsOnly P (x >>= f) := by
  intro b e he
  rw [Backend.run_run_bind] at he
  revert he
  cases hr : x.run.run b with
  | mk r b' =>
    cases r with
    | ok v => exact hf v (hQ b v b' hr) b' e
    | error e' =>
      intro he
      cases he
      exact hx b e (by rw [hr])

end

/-- With the default options, a build under a policy whose domain and statement pass is refused
as an invalid request only for the policy's scheme. -/
theorem build_invalidRequest_only {p : ChallengePolicy} (hdomain : Challenge.DomainOk p.domain)
    (hstatement : ∀ st ∈ p.statement, Challenge.StatementOk st) (ttl : Span)
    {req : ChallengeRequest} (hopt : req.options = {}) :
    FailsOnly (fun e => ∀ d, e = .invalidRequest d →
      ∃ s ∈ p.scheme, Challenge.isScheme s = false ∧ d = "invalid scheme: " ++ s)
      (build p ttl req) := by
  unfold build
  rw [hopt]
  refine .bind (failsOnly_orThrow fun _ he d hd => absurd hd (checkRequest_ne_invalidRequest he d))
    ?_
  rintro ⟨address, uri, chainId⟩
  refine .bind (failsOnly_lift _) fun now => ?_
  refine .bind (failsOnly_orThrow fun _ he d hd => absurd hd (checkWindow_ne_invalidRequest he d))
    fun _ => ?_
  refine .bind (failsOnly_orThrow fun _ he d hd =>
    assemble_invalidRequest hdomain hstatement placeholderNonceOk (hd ▸ he)) fun _ => ?_
  -- the issued nonce is a draw, which the message accepts
  refine .bind_of_returns (failsOnly_lift _)
    (Q := fun v => ∀ r, v = .ok r → Challenge.NonceOk r.nonce) (fun b v b' h r hr => ?_)
    fun v hv => ?_
  · rw [run_liftM] at h
    cases h
    exact Registry.issue_nonceOk (Prod.ext hr rfl)
  cases v with
  | error e =>
    dsimp only
    rw [ExceptT.bind_throw]
    exact failsOnly_throw fun d hd => by cases hd
  | ok r =>
    dsimp only
    rw [pure_bind]
    split
    · exact failsOnly_pure _
    · rename_i e he
      exact .bind (failsOnly_lift _) fun _ => failsOnly_throw fun d hd =>
        assemble_invalidRequest hdomain hstatement (hv r rfl) (hd ▸ he)

/-- A request with the default options, from a valid account at a permitted origin, passes the
checks made before the clock is read when the policy serves its own default chain. -/
theorem checkRequest_of_default {p : ChallengePolicy} {req : ChallengeRequest}
    (hopt : req.options = {}) {a : Address} (haddr : Address.parseAccount req.address = some a)
    {o : Url.Parsed} (horigin : Url.parse req.origin = .ok o) (hperm : p.permitsOrigin o = true)
    (hchain : p.allowsChain p.defaultChainId = true) :
    checkRequest p req = .ok (a, o.origin.serialize, p.defaultChainId) := by
  simp [checkRequest, hopt, haddr, horigin, hperm, hchain]
  rfl

theorem build_of_scheme {p : ChallengePolicy} {ttl : Span} {req : ChallengeRequest}
    (hopt : req.options = {}) {a : Address} (haddr : Address.parseAccount req.address = some a)
    {o : Url.Parsed} (horigin : Url.parse req.origin = .ok o) (hperm : p.permitsOrigin o = true)
    (hchain : p.allowsChain p.defaultChainId = true) {s : String} (hs : p.scheme = some s)
    (hbad : Challenge.isScheme s = false) (b : Backend) :
    ((build p ttl req).run.run b).1 = .error (.invalidRequest ("invalid scheme: " ++ s)) := by
  unfold build
  -- the request passes its checks, the window is the default one, and assembly fails
  rw [Backend.run_bind_of_ok
    (by rw [orThrow_run, checkRequest_of_default hopt haddr horigin hperm hchain])]
  dsimp only
  rw [Backend.run_bind_of_ok (run_liftM _ _),
    Backend.run_bind_of_ok (by rw [orThrow_run, hopt]; rfl),
    Backend.run_bind_of_error (by rw [orThrow_run, assemble_of_scheme hs hbad])]

end ChallengeBuilder

namespace Config

/-- What the reader checks of the settings it accepts. -/
structure Valid (c : Config) : Prop where
  domain : Challenge.DomainOk c.authDomain
  scheme : ∀ s ∈ c.authScheme, s ≠ "" ∧ isSchemeText s = true
  statement : ∀ st ∈ c.authStatement, Challenge.StatementOk st
  chain : c.chainId ∈ c.allowedChainIds
  nonceTtl : 1 ≤ c.nonceTtlSecs ∧ c.nonceTtlSecs ≤ maxNonceTtlSecs
  sweepInterval : 1 ≤ c.sweepIntervalSecs ∧ c.sweepIntervalSecs ≤ maxSweepIntervalSecs

theorem require_ok {ok : Bool} {key detail : String} (h : require ok key detail = .ok ()) :
    ok = true := by
  cases ok
  · cases h
  · rfl

theorem forM_require_ok {o : Option String} {p : String → Bool} {key detail : String}
    (h : o.forM (fun s => require (p s) key detail) = .ok ()) : ∀ s ∈ o, p s = true := by
  intro s hs
  cases hs
  exact require_ok h

/-- A scheme that is set is not empty. -/
theorem schemeSetting_ne_empty {env : Environment} {s : String} (h : schemeSetting env = some s) :
    s ≠ "" := by
  unfold schemeSetting at h
  obtain ⟨v, -, hv⟩ := Option.bind_eq_some_iff.1 h
  generalize String.ofList ((Text.trimBlank v).toList.map Char.toLower) = t at hv
  by_cases he : t.isEmpty = true
  · rw [if_pos he] at hv
    cases hv
  · rw [if_neg he] at hv
    cases hv
    simpa [String.isEmpty_iff] using he

/-- Every setting the reader accepts passes its own check. -/
theorem fromEnv_valid {env : Environment} {cfg : Config} (h : fromEnv env = .ok cfg) :
    cfg.Valid := by
  -- the reader is one chain of steps: each check that passed is kept, each value is named
  unfold fromEnv at h
  obtain ⟨redisUrl, -, h⟩ := Rfc3339.bind_ok h
  obtain ⟨bindAddr, -, h⟩ := Rfc3339.bind_ok h
  obtain ⟨domainText, -, h⟩ := Rfc3339.bind_ok h
  obtain ⟨⟨⟩, hdomain, h⟩ := Rfc3339.bind_ok h
  obtain ⟨⟨⟩, hscheme, h⟩ := Rfc3339.bind_ok h
  obtain ⟨⟨⟩, hstatement, h⟩ := Rfc3339.bind_ok h
  obtain ⟨chainId, -, h⟩ := Rfc3339.bind_ok h
  obtain ⟨chainIds, -, h⟩ := Rfc3339.bind_ok h
  obtain ⟨⟨⟩, hchain, h⟩ := Rfc3339.bind_ok h
  obtain ⟨ttl, -, h⟩ := Rfc3339.bind_ok h
  obtain ⟨⟨⟩, httl, h⟩ := Rfc3339.bind_ok h
  obtain ⟨store, -, h⟩ := Rfc3339.bind_ok h
  obtain ⟨sweep, -, h⟩ := Rfc3339.bind_ok h
  obtain ⟨⟨⟩, hsweep, h⟩ := Rfc3339.bind_ok h
  obtain ⟨session, -, h⟩ := Rfc3339.bind_ok h
  obtain ⟨rate, -, h⟩ := Rfc3339.bind_ok h
  cases h
  refine ⟨?_, ?_, ?_, ?_, ?_, ?_⟩
  · have hd := require_ok hdomain
    simp only [List.contains_eq_mem, Bool.not_or, Bool.and_eq_true, Bool.not_eq_eq_eq_not,
      Bool.not_true, String.isEmpty_eq_false_iff, ne_eq, decide_eq_false_iff_not] at hd
    exact ⟨hd.1.1, hd.2, hd.1.2⟩
  · intro s hs
    exact ⟨schemeSetting_ne_empty hs, forM_require_ok hscheme s hs⟩
  · intro st hst ch hch
    have hlines := forM_require_ok hstatement st hst
    simp only [List.contains_eq_mem, Bool.not_or, Bool.and_eq_true, Bool.not_eq_eq_eq_not,
      Bool.not_true, decide_eq_false_iff_not] at hlines
    exact ⟨fun h => hlines.1 (h ▸ hch), fun h => hlines.2 (h ▸ hch)⟩
  · simpa using require_ok hchain
  · simpa using require_ok httl
  · simpa using require_ok hsweep

/-- Settings read from the environment give the challenge builder a domain and a statement it
accepts, and a scheme it accepts exactly when the scheme starts with a letter. Under them, a
request with the default options from a valid account at a permitted origin is refused as an
invalid request exactly when the configured scheme does not start with a letter, and then in the
scheme's name. -/
theorem fromEnv_policy_refusals {env : Environment} {cfg : Config} (hcfg : fromEnv env = .ok cfg)
    (ttl : Span) {req : ChallengeRequest} (hopt : req.options = {})
    (haddr : (Address.parseAccount req.address).isSome = true)
    (horigin : ∃ o, Url.parse req.origin = .ok o ∧ cfg.challengePolicy.permitsOrigin o = true)
    (b : Backend) :
    Challenge.DomainOk cfg.authDomain ∧ (∀ st ∈ cfg.authStatement, Challenge.StatementOk st) ∧
    (∀ s ∈ cfg.authScheme, Challenge.isScheme s = s.toList.head?.any Char.isAlpha) ∧
    ∀ d, ((ChallengeBuilder.build cfg.challengePolicy ttl req).run.run b).1 =
        .error (.invalidRequest d) ↔
      ∃ s ∈ cfg.authScheme, s.toList.head?.any Char.isAlpha = false ∧
        d = "invalid scheme: " ++ s := by
  have hv := fromEnv_valid hcfg
  have hscheme : ∀ s ∈ cfg.authScheme, Challenge.isScheme s = s.toList.head?.any Char.isAlpha :=
    fun s hs => Challenge.isScheme_of_isSchemeText (hv.scheme s hs).2
  refine ⟨hv.domain, hv.statement, hscheme, fun d => ⟨fun h => ?_, ?_⟩⟩
  · -- only the scheme's check can refuse the request so
    obtain ⟨s, hs, hbad, hd⟩ :=
      ChallengeBuilder.build_invalidRequest_only hv.domain hv.statement ttl hopt b _ h d rfl
    exact ⟨s, hs, hscheme s hs ▸ hbad, hd⟩
  · rintro ⟨s, hs, hbad, rfl⟩
    obtain ⟨a, ha⟩ := Option.isSome_iff_exists.1 haddr
    obtain ⟨o, ho, hperm⟩ := horigin
    have hchain : cfg.challengePolicy.allowsChain cfg.challengePolicy.defaultChainId = true := by
      simpa [ChallengePolicy.allowsChain, challengePolicy] using hv.chain
    exact ChallengeBuilder.build_of_scheme hopt ha ho hperm hchain hs ((hscheme s hs).trans hbad) b

/-- Settings whose scheme starts with a digit. -/
def digitSchemeEnv : Environment := fun key =>
  if key = "REDIS_URL" then some "redis://127.0.0.1:6379"
  else if key = "AUTH_DOMAIN" then some "[::1]"
  else if key = "AUTH_SCHEME" then some "1https"
  else none

/-- The settings read from `digitSchemeEnv`. -/
def digitSchemeConfig : Config where
  redisUrl := "redis://127.0.0.1:6379"
  bindAddr := .v4 [0, 0, 0, 0] 3000
  authDomain := "[::1]"
  authScheme := some "1https"
  authStatement := some "Sign in with Ethereum"
  allowedOrigins := []
  chainId := 1
  allowedChainIds := [1]
  nonceTtlSecs := 300
  nonceStore := .redis
  sweepIntervalSecs := 60
  sessionTtlSecs := 900
  rateLimitAuthPerMin := 10

/-- The site's origin, `https://[::1]`, as read. -/
def loopbackOrigin : Url.Parsed :=
  { scheme := "https", host := some (.ipv6 [0, 0, 0, 0, 0, 0, 0, 1]), port := none,
    pathText := "", tail := "" }

theorem fromEnv_policy_refusals_digit_scheme :
    fromEnv digitSchemeEnv = .ok digitSchemeConfig ∧ Handshake.loopbackRequest.options = {} ∧
    (Address.parseAccount Handshake.loopbackRequest.address).isSome = true ∧
    (∃ o, Url.parse Handshake.loopbackRequest.origin = .ok o ∧
      digitSchemeConfig.challengePolicy.permitsOrigin o = true) ∧
    (Challenge.DomainOk digitSchemeConfig.authDomain ∧
      (∀ st ∈ digitSchemeConfig.authStatement, Challenge.StatementOk st) ∧
      (∀ s ∈ digitSchemeConfig.authScheme,
        Challenge.isScheme s = s.toList.head?.any Char.isAlpha) ∧
      ∀ d, ((ChallengeBuilder.build digitSchemeConfig.challengePolicy (Span.ofSeconds 300)
          Handshake.loopbackRequest).run.run Handshake.restingBackend).1 =
            .error (.invalidRequest d) ↔
        ∃ s ∈ digitSchemeConfig.authScheme, s.toList.head?.any Char.isAlpha = false ∧
          d = "invalid scheme: " ++ s) := by
  have hcfg : fromEnv digitSchemeEnv = .ok digitSchemeConfig := by cbv
  have haddr : (Address.parseAccount Handshake.loopbackRequest.address).isSome = true := by
    decide +kernel
  have horigin : ∃ o, Url.parse Handshake.loopbackRequest.origin = .ok o ∧
      digitSchemeConfig.challengePolicy.permitsOrigin o = true :=
    ⟨loopbackOrigin, by decide +kernel, by decide +kernel⟩
  exact ⟨hcfg, rfl, haddr, horigin,
    fromEnv_policy_refusals hcfg (Span.ofSeconds 300) rfl haddr horigin Handshake.restingBackend⟩

end Config

end WalletAuth
