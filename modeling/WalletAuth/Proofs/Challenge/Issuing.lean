import WalletAuth.Proofs.Config.Policy
import WalletAuth.Proofs.Time.Printed

/-!
# WalletAuth.Proofs.Challenge.Issuing — building a challenge on an in-process store

`ChallengeBuilder.build` checks the request, reads the clock, checks the window and assembles a
draft with a placeholder nonce. Only then does it issue a nonce, reading the clock a second time,
and assemble the message with it, releasing the record if that assembly fails. On an in-process
store the build is atomic, and the message it answers binds the record:

* `build_run_memory`: the build as a function of its checks, its two clock readings and the
  store's insert.
* `build_error_memory`: a refused build leaves the store as it was. With the clock at rest the
  second assembly passes whenever the draft did, so a refusal is then for the request, with the
  backend untouched, or comes from the store.
* `build_ok_memory`: a build that succeeds added exactly its record's slot, under a key that was
  free, and its message satisfies `Binds`.
* `build_atomic`: every outcome, as `AtomicIssue`, for a clock that does not move back.

The window is checked on the instants asked for, and the message then cuts every instant to whole
milliseconds: a start asked for less than a millisecond before the expiry lands on it. `Binds`
therefore places the start at or before the expiry, not strictly before.
-/

namespace WalletAuth

/-- A mapped error changes no success. -/
@[simp] theorem Except.mapError_eq_ok {ε ε' α : Type} {x : Except ε α} {f : ε → ε'} {a : α} :
    x.mapError f = .ok a ↔ x = .ok a := by
  cases x <;> simp [Except.mapError]

namespace MemoryStore

variable {m m' : MemoryStore} {r : NonceRecord} {t : Instant}

/-- An insert that succeeds found the key free, and appends one pending slot. -/
theorem insert_eq_ok (h : m.insert r t = .ok m') :
    m.get r.address r.nonce = .missing ∧ m' = ⟨m.slots ++ [⟨r, false, t⟩]⟩ := by
  unfold insert at h
  split at h
  · cases h
  · rename_i hfree
    cases h
    refine ⟨?_, rfl⟩
    have hnone : m.slots.find? (·.keyed r.address r.nonce) = none := by
      simpa [List.find?_eq_none] using hfree
    simp [get, hnone]

/-- What an insert that succeeds adds is found pending under its key. -/
theorem get_of_insert (h : m.insert r t = .ok m') : m'.get r.address r.nonce = .pending r := by
  unfold insert at h
  split at h
  · cases h
  · rename_i hfree
    cases h
    have hnone : m.slots.find? (·.keyed r.address r.nonce) = none := by
      simpa [List.find?_eq_none] using hfree
    unfold get
    rw [List.find?_append, hnone]
    simp [Slot.keyed, Slot.state]

/-- Forgetting a record just inserted gives the store back. -/
theorem remove_of_insert (h : m.insert r t = .ok m') : m'.remove r.address r.nonce = m := by
  unfold insert at h
  split at h
  · cases h
  · rename_i hfree
    cases h
    -- only the new slot carries the key
    have hkeep : ∀ s ∈ m.slots, (!s.keyed r.address r.nonce) = true := by simpa using hfree
    show (⟨(m.slots ++ [(⟨r, false, t⟩ : Slot)]).filter fun s => !s.keyed r.address r.nonce⟩ :
      MemoryStore) = m
    rw [List.filter_append, List.filter_eq_self.2 hkeep]
    simp [Slot.keyed]

end MemoryStore

namespace ChallengeBuilder

variable {p : ChallengePolicy} {ttl : Span} {o : ChallengeOptions} {req : ChallengeRequest}
  {address : Address} {uri : String} {chainId : Nat} {nonce : String}
  {issuedAt expiration : Instant} {c : Challenge}

/-! ## The checks -/

/-- The checks made before the clock is read pass only for a valid account at a permitted origin,
a URI of that origin (the origin itself when none is asked for) and a chain the policy serves. -/
theorem checkRequest_eq_ok (h : checkRequest p req = .ok (address, uri, chainId)) :
    Address.parseAccount req.address = some address ∧
    (∃ origin, Url.parse req.origin = .ok origin ∧ p.permitsOrigin origin = true ∧
      uri = req.options.uri.getD origin.origin.serialize ∧
      ∀ u ∈ req.options.uri, ∃ parsed, Url.parse u = .ok parsed ∧
        parsed.origin.same origin.origin = true) ∧
    chainId = req.options.chainId.getD p.defaultChainId ∧ p.allowsChain chainId = true := by
  revert h
  unfold checkRequest
  simp only [bind, Except.bind, pure, Except.pure, throw, throwThe, MonadExceptOf.throw]
  repeat' split
  all_goals intro h; cases h
  all_goals exact ⟨‹_›, ⟨_, ‹_›, by simp_all, by simp_all, by simp_all⟩, rfl, by simp_all⟩

/-- The window's end is the expiry asked for, or one time to live from the reading; a start asked
for comes before it. -/
theorem checkWindow_eq_ok {now e : Instant} (h : checkWindow ttl o now = .ok e) :
    e = o.expirationTime.getD (now.add ttl) ∧ ∀ nb ∈ o.notBefore, nb < e := by
  revert h
  unfold checkWindow
  simp only [bind, Except.bind, pure, Except.pure, throw, throwThe, MonadExceptOf.throw]
  repeat' split
  all_goals intro h; cases h
  all_goals simp_all [Instant.lt_of_not_le]

/-- Measured against a later end `t` of the default window, the window checked ends no later
than the expiry the message will carry, and that no later than `t`. -/
theorem checkWindow_le_getD {now e t : Instant} (h : checkWindow ttl o now = .ok e)
    (hlater : now.add ttl ≤ t) : e ≤ o.expirationTime.getD t ∧ o.expirationTime.getD t ≤ t := by
  obtain ⟨he, -⟩ := checkWindow_eq_ok h
  cases hx : o.expirationTime with
  | none =>
    rw [hx, Option.getD_none] at he
    subst he
    exact ⟨hlater, Instant.le_refl t⟩
  | some y =>
    rw [hx, Option.getD_some] at he
    subst he
    exact ⟨Instant.le_refl _, Instant.le_trans (checkWindow_le_add h) hlater⟩

/-- An assembled message is the draft of its parts, and the draft passes every field check. -/
theorem assemble_eq_ok_iff :
    assemble p address uri chainId o nonce issuedAt expiration = .ok c ↔
      c.FieldsOk ∧ c =
        { scheme := p.scheme, domain := p.domain, address := address,
          statement := o.statement.orElse (fun _ => p.statement), uri := uri, chainId := chainId,
          nonce := nonce, issuedAt := Timestamp.ofInstant issuedAt,
          expirationTime := some (Timestamp.ofInstant expiration),
          notBefore := o.notBefore.map Timestamp.ofInstant, requestId := o.requestId,
          resources := o.resources } := by
  unfold assemble
  rw [Except.mapError_eq_ok, Challenge.validate_eq_ok_iff, Challenge.checkFields_eq_ok_iff]
  constructor
  · rintro ⟨hf, rfl⟩
    exact ⟨hf, rfl⟩
  · rintro ⟨hf, rfl⟩
    exact ⟨hf, rfl⟩

/-- The nonce is checked on its own: an assembly that passed with one nonce passes with any other
that the nonce rule accepts. -/
theorem assemble_of_nonceOk {n : String}
    (h : assemble p address uri chainId o n issuedAt expiration = .ok c)
    (hn : Challenge.NonceOk nonce) :
    ∃ c', assemble p address uri chainId o nonce issuedAt expiration = .ok c' := by
  obtain ⟨hf, rfl⟩ := assemble_eq_ok_iff.1 h
  refine ⟨_, assemble_eq_ok_iff.2 ⟨?_, rfl⟩⟩
  exact ⟨hf.scheme, hf.domain, hf.statement, hf.uri, ⟨hn.long, hn.alphanum⟩, hf.window,
    hf.requestId, hf.resources⟩

/-! ## What the message binds -/

/-- What a built challenge says of the request and of the nonce record behind it. -/
structure Binds (p : ChallengePolicy) (ttl : Span) (req : ChallengeRequest) (c : Challenge)
    (r : NonceRecord) : Prop where
  nonce : c.nonce = r.nonce
  address : c.address = r.address ∧ Address.parseAccount req.address = some r.address
  domain : c.domain = p.domain
  scheme : c.scheme = p.scheme
  chain : p.allowsChain c.chainId = true
  origin : ∃ origin, Url.parse req.origin = .ok origin ∧ p.permitsOrigin origin = true ∧
    c.uri = req.options.uri.getD origin.origin.serialize ∧
    ∀ u ∈ req.options.uri, ∃ parsed, Url.parse u = .ok parsed ∧
      parsed.origin.same origin.origin = true
  issuedAt : c.issuedAt.at_ = r.issuedAt.truncMillis
  expiresAt : r.expiresAt = r.issuedAt.add ttl
  window : ∃ e, c.expirationTime = some e ∧ c.issuedAt.at_ < e.at_ ∧ e.at_ ≤ r.expiresAt ∧
    ∀ nb ∈ c.notBefore, nb.at_ ≤ e.at_

/-- A message assembled at issue, after checks that passed at an earlier reading whose window
ends no later, binds the request and its record. -/
theorem binds_of_assemble {now exp : Instant}
    (hreq : checkRequest p req = .ok (address, uri, chainId))
    (hw : checkWindow ttl req.options now = .ok exp) (hlater : now.add ttl ≤ issuedAt.add ttl)
    (hc : assemble p address uri chainId req.options nonce issuedAt
      (req.options.expirationTime.getD (issuedAt.add ttl)) = .ok c) :
    Binds p ttl req c ⟨address, nonce, issuedAt, issuedAt.add ttl⟩ := by
  obtain ⟨haddr, horigin, -, hchain⟩ := checkRequest_eq_ok hreq
  obtain ⟨hfields, rfl⟩ := assemble_eq_ok_iff.1 hc
  obtain ⟨hexp, hlast⟩ := checkWindow_le_getD hw hlater
  obtain ⟨-, hnb⟩ := checkWindow_eq_ok hw
  refine ⟨rfl, ⟨rfl, haddr⟩, rfl, rfl, hchain, horigin, rfl, rfl, ⟨_, rfl, ?_, ?_, ?_⟩⟩
  · exact Instant.lt_of_not_le (hfields.window _ rfl)
  · exact Instant.le_trans (Instant.truncMillis_le _) hlast
  · -- a start checked before the expiry stays at or before it once both are cut to milliseconds
    intro nb hmem
    obtain ⟨n, hn, rfl⟩ := Option.mem_map.1 hmem
    have hlt := Instant.lt_of_lt_of_le (hnb n hn) hexp
    exact Instant.le_truncMillis (Instant.truncMillis_nanos_mod n)
      (Instant.le_trans (Instant.truncMillis_le n) (Instant.le_of_lt hlt))

/-! ## The build on an in-process store -/

variable {b b' : Backend} {m : MemoryStore}

/-- The build on an in-process store, as a function of its checks, of its two clock readings and
of the store's insert. -/
theorem build_run_memory (hb : b.nonces = .memory m []) :
    (build p ttl req).run.run b =
      match checkRequest p req with
      | .error e => (.error e, b)
      | .ok (address, uri, chainId) =>
        let b₁ := (Backend.now.run b).2
        match checkWindow ttl req.options b.clock.now with
        | .error e => (.error e, b₁)
        | .ok exp =>
          match assemble p address uri chainId req.options placeholderNonce b.clock.now exp with
          | .error e => (.error e, b₁)
          | .ok _ =>
            let drawn := Backend.freshNonce.run (Backend.now.run b₁).2
            let r : NonceRecord := ⟨address, drawn.1, b₁.clock.now, b₁.clock.now.add ttl⟩
            match m.insert r (r.expiresAt.add ttl) with
            | .error d => (.error (.store (NonceError.store d).message), drawn.2)
            | .ok m' =>
              match assemble p address uri chainId req.options r.nonce r.issuedAt
                  (req.options.expirationTime.getD r.expiresAt) with
              | .ok c => (.ok (c, r), { drawn.2 with nonces := .memory m' [] })
              | .error e => (.error e, { drawn.2 with nonces := .memory m [] }) := by
  unfold build
  rw [Backend.run_run_bind, orThrow_run]
  cases hreq : checkRequest p req with
  | error e => rfl
  | ok x =>
    obtain ⟨address, uri, chainId⟩ := x
    dsimp only
    rw [Backend.run_run_bind, run_liftM]
    dsimp only
    have hnow : (Backend.now.run b).1 = b.clock.now := rfl
    rw [hnow, Backend.run_run_bind, orThrow_run]
    cases hw : checkWindow ttl req.options b.clock.now with
    | error e => rfl
    | ok exp =>
      dsimp only
      rw [Backend.run_run_bind, orThrow_run]
      cases ha : assemble p address uri chainId req.options placeholderNonce b.clock.now exp with
      | error e => rfl
      | ok c₀ =>
        dsimp only
        rw [Backend.run_run_bind, run_liftM]
        have hb₁ : (Backend.now.run b).2.nonces = .memory m [] := hb
        have hi : (ExceptT.run (Registry.issue ttl address)).run (Backend.now.run b).2 = _ :=
          Registry.Steps.issue_alone hb₁
        rw [hi]
        dsimp only
        generalize Backend.freshNonce.run (Backend.now.run (Backend.now.run b).2).2 = drawn
        generalize (Backend.now.run b).2 = b₁ at *
        cases hins : m.insert ⟨address, drawn.1, b₁.clock.now, b₁.clock.now.add ttl⟩
            ((b₁.clock.now.add ttl).add ttl) with
        | error d => rfl
        | ok m' =>
          dsimp only
          rw [pure_bind]
          cases hc : assemble p address uri chainId req.options drawn.1 b₁.clock.now
              (req.options.expirationTime.getD (b₁.clock.now.add ttl)) with
          | ok c => rfl
          | error e =>
            -- the record is released, which gives the store back as it was
            dsimp only
            rw [Backend.run_run_bind, run_liftM]
            have hr : (ExceptT.run (Registry.release ⟨address, drawn.1, b₁.clock.now,
                b₁.clock.now.add ttl⟩)).run { drawn.2 with nonces := .memory m' [] } = _ :=
              Registry.Steps.release_alone _ rfl
            rw [hr, MemoryStore.remove_of_insert hins]
            rfl

/-- A build refused on an in-process store leaves the store as it was. With the clock at rest the
message assembled with the issued nonce passes whenever the draft did, so a refusal is then for
the request, with the backend untouched, or comes from the store. -/
theorem build_error_memory (hb : b.nonces = .memory m []) {e : AuthError}
    (h : (build p ttl req).run.run b = (.error e, b')) :
    b'.nonces = .memory m [] ∧
      (b.clock.step = ⟨0⟩ → (e.isRequestError ∧ b' = b) ∨ ∃ d, e = .store d) := by
  rw [build_run_memory hb] at h
  cases hreq : checkRequest p req with
  | error e' =>
    rw [hreq] at h
    cases h
    exact ⟨hb, fun _ => .inl ⟨checkRequest_isRequestError hreq, rfl⟩⟩
  | ok x =>
    obtain ⟨address, uri, chainId⟩ := x
    rw [hreq] at h
    dsimp only at h
    -- a refusal after the one clock reading leaves the backend as the reading left it
    have hread : e.isRequestError → b' = (Backend.now.run b).2 →
        b'.nonces = .memory m [] ∧
          (b.clock.step = ⟨0⟩ → (e.isRequestError ∧ b' = b) ∨ ∃ d, e = .store d) := by
      rintro he rfl
      exact ⟨hb, fun hrest => .inl ⟨he, by rw [Backend.now_run_of_rest hrest]⟩⟩
    cases hw : checkWindow ttl req.options b.clock.now with
    | error e' =>
      rw [hw] at h
      cases h
      exact hread (checkWindow_isRequestError hw) rfl
    | ok exp =>
      rw [hw] at h
      dsimp only at h
      cases ha : assemble p address uri chainId req.options placeholderNonce b.clock.now exp with
      | error e' =>
        rw [ha] at h
        cases h
        exact hread (assemble_isRequestError ha) rfl
      | ok c₀ =>
        rw [ha] at h
        dsimp only at h
        have hdrawn : Challenge.NonceOk
            (Backend.freshNonce.run (Backend.now.run (Backend.now.run b).2).2).1 :=
          SteppedEntropy.draw_nonceOk _
        -- the readings and the draw leave the store as it was
        have hkept : (Backend.freshNonce.run (Backend.now.run (Backend.now.run b).2).2).2.nonces =
            .memory m [] := hb
        generalize Backend.freshNonce.run (Backend.now.run (Backend.now.run b).2).2 = drawn
          at h hdrawn hkept
        have hnow : (Backend.now.run b).2.clock.now = b.clock.now.add b.clock.step := rfl
        rw [hnow] at h
        cases hins : m.insert ⟨address, drawn.1, b.clock.now.add b.clock.step,
            (b.clock.now.add b.clock.step).add ttl⟩
            (((b.clock.now.add b.clock.step).add ttl).add ttl) with
        | error d =>
          rw [hins] at h
          cases h
          exact ⟨hkept, fun _ => .inr ⟨_, rfl⟩⟩
        | ok m' =>
          rw [hins] at h
          dsimp only at h
          cases hc : assemble p address uri chainId req.options drawn.1
              (b.clock.now.add b.clock.step)
              (req.options.expirationTime.getD ((b.clock.now.add b.clock.step).add ttl)) with
          | ok c' => rw [hc] at h; cases h
          | error e' =>
            rw [hc] at h
            cases h
            refine ⟨rfl, fun hrest => ?_⟩
            -- at rest both assemblies read one instant and one window: only the nonce differs
            exfalso
            rw [hrest, Instant.add_zero, ← (checkWindow_eq_ok hw).1] at hc
            obtain ⟨c', hc'⟩ := assemble_of_nonceOk ha hdrawn
            rw [hc] at hc'
            cases hc'

/-- A build that succeeds on an in-process store passed its checks at the first reading, issued a
record at the second, under the account checked, inserted it, and answers the message assembled
with it. -/
theorem build_ok_inv (hb : b.nonces = .memory m []) {r : NonceRecord}
    (h : (build p ttl req).run.run b = (.ok (c, r), b')) :
    ∃ address uri chainId exp nonce m',
      checkRequest p req = .ok (address, uri, chainId) ∧
      checkWindow ttl req.options b.clock.now = .ok exp ∧
      r = ⟨address, nonce, b.clock.now.add b.clock.step, (b.clock.now.add b.clock.step).add ttl⟩ ∧
      m.insert r (r.expiresAt.add ttl) = .ok m' ∧
      assemble p address uri chainId req.options r.nonce r.issuedAt
        (req.options.expirationTime.getD r.expiresAt) = .ok c ∧
      b'.nonces = .memory m' [] := by
  rw [build_run_memory hb] at h
  cases hreq : checkRequest p req with
  | error e => rw [hreq] at h; cases h
  | ok x =>
    obtain ⟨address, uri, chainId⟩ := x
    rw [hreq] at h
    dsimp only at h
    cases hw : checkWindow ttl req.options b.clock.now with
    | error e => rw [hw] at h; cases h
    | ok exp =>
      rw [hw] at h
      dsimp only at h
      cases ha : assemble p address uri chainId req.options placeholderNonce b.clock.now exp with
      | error e => rw [ha] at h; cases h
      | ok c₀ =>
        rw [ha] at h
        dsimp only at h
        generalize Backend.freshNonce.run (Backend.now.run (Backend.now.run b).2).2 = drawn at h
        have hnow : (Backend.now.run b).2.clock.now = b.clock.now.add b.clock.step := rfl
        rw [hnow] at h
        cases hins : m.insert ⟨address, drawn.1, b.clock.now.add b.clock.step,
            (b.clock.now.add b.clock.step).add ttl⟩
            (((b.clock.now.add b.clock.step).add ttl).add ttl) with
        | error d => rw [hins] at h; cases h
        | ok m' =>
          rw [hins] at h
          dsimp only at h
          cases hc : assemble p address uri chainId req.options drawn.1
              (b.clock.now.add b.clock.step)
              (req.options.expirationTime.getD ((b.clock.now.add b.clock.step).add ttl)) with
          | error e => rw [hc] at h; cases h
          | ok c' =>
            rw [hc] at h
            cases h
            exact ⟨address, uri, chainId, exp, drawn.1, m', rfl, rfl, rfl, hins, hc, rfl⟩

/-- A build that succeeds on an in-process store, under a clock that does not move back, added
exactly the slot of its record, under a key that was free, and its message binds the request and
the record. -/
theorem build_ok_memory (hb : b.nonces = .memory m []) (hstep : 0 ≤ b.clock.step.nanos)
    (hvalid : b.clock.now.nanos < 2 * nanosPerSecond) {r : NonceRecord}
    (h : (build p ttl req).run.run b = (.ok (c, r), b')) :
    m.get r.address r.nonce = .missing ∧
      b'.nonces = .memory ⟨m.slots ++ [⟨r, false, r.expiresAt.add ttl⟩]⟩ [] ∧
      Binds p ttl req c r := by
  -- the issue reading is no earlier than the first, so its window ends no earlier
  have httl := ttl_pos_of_build h hvalid
  have hlater : b.clock.now.add ttl ≤ (b.clock.now.add b.clock.step).add ttl :=
    Instant.add_le_add_add hvalid hstep (Int.le_of_lt httl)
  obtain ⟨address, uri, chainId, exp, nonce, m', hreq, hw, rfl, hins, hc, hnonces⟩ :=
    build_ok_inv hb h
  obtain ⟨hfree, rfl⟩ := MemoryStore.insert_eq_ok hins
  exact ⟨hfree, hnonces, binds_of_assemble hreq hw hlater hc⟩

/-- What a build from a backend `b` whose in-process store holds `m` may end in. A refusal keeps
the store, is for the request or from the store, and with the clock at rest leaves the backend
untouched unless the store refused. A success added exactly the slot of its record, pending and
kept one time to live past its expiry, under a key that was free, and its message binds the
request and the record. -/
def AtomicIssue (p : ChallengePolicy) (ttl : Span) (req : ChallengeRequest) (m : MemoryStore)
    (b : Backend) : Except AuthError (Challenge × NonceRecord) × Backend → Prop
  | (.error e, b') => b'.nonces = .memory m [] ∧ (e.isRequestError ∨ ∃ d, e = .store d) ∧
      (b.clock.step = ⟨0⟩ → (e.isRequestError ∧ b' = b) ∨ ∃ d, e = .store d)
  | (.ok (c, r), b') => m.get r.address r.nonce = .missing ∧
      b'.nonces = .memory ⟨m.slots ++ [⟨r, false, r.expiresAt.add ttl⟩]⟩ [] ∧
      Binds p ttl req c r

theorem build_atomic (hb : b.nonces = .memory m []) (hstep : 0 ≤ b.clock.step.nanos)
    (hvalid : b.clock.now.nanos < 2 * nanosPerSecond) :
    AtomicIssue p ttl req m b ((build p ttl req).run.run b) := by
  have hfails := build_failsOnly p ttl req b
  generalize hx : (build p ttl req).run.run b = x at hfails
  obtain ⟨_ | ⟨c, r⟩, b'⟩ := x
  case error e =>
    obtain ⟨hkept, hrest⟩ := build_error_memory hb hx
    exact ⟨hkept, hfails e rfl, hrest⟩
  case ok =>
    exact build_ok_memory hb hstep hvalid hx

/-- A backend at noon on 2024-05-01 whose clock moves one millisecond at each reading, with an
empty in-process store. -/
def tickingBackend : Backend :=
  { Handshake.restingBackend with clock := { now := ⟨1714564800, 0⟩, step := Span.ofMillis 1 } }

/-- A request whose start lies less than a millisecond before the expiry it asks for. -/
def collapsingRequest : ChallengeRequest where
  address := "0xf39fd6e51aad88f6f4ce6ab8827279cfffb92266"
  origin := "https://app.example.com"
  options := { expirationTime := some ⟨1714564801, 900000⟩, notBefore := some ⟨1714564801, 500000⟩ }

theorem build_atomic_ticking :
    tickingBackend.nonces = .memory {} [] ∧ 0 ≤ tickingBackend.clock.step.nanos ∧
      tickingBackend.clock.now.nanos < 2 * nanosPerSecond ∧
      AtomicIssue Handshake.siteHandshake.policy Handshake.siteHandshake.ttl collapsingRequest {}
        tickingBackend ((build Handshake.siteHandshake.policy Handshake.siteHandshake.ttl
          collapsingRequest).run.run tickingBackend) :=
  ⟨rfl, by decide, by decide, build_atomic rfl (by decide) (by decide)⟩

end ChallengeBuilder
end WalletAuth
