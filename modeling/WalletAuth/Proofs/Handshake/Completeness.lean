import WalletAuth.Proofs.Challenge.Issuing
import WalletAuth.Proofs.Handshake.Soundness
import WalletAuth.Proofs.Account.Signing

/-!
# WalletAuth.Proofs.Handshake.Completeness — an honest answer is accepted

The converse of `verified_answer_sound`. A challenge issued on an in-process store is signed by
the key of its account and handed back inside its window, while its nonce is still held as
issued. Both `submitSigned` on the attempt and `verifySigned` then accept it, with the identity
of the challenge's account and chain.

Issuing does not ensure that the message reads back from its own text. The text prints instants
with four-digit years, so a challenge issued in the last minutes of 9999 expires in a year its
text cannot spell, and its answer is refused as malformed. `Challenge.InFourDigitYears` asks for
instants the text can spell, and the chain id must fit in 64 bits for the reader.

* `inWindow_of_bounds`, `forPolicy_of_site`: the converses of `inWindow_ok` and `forPolicy_ok`.
* `runChecks_completes`, `submitSigned_completes`, `verifySigned_completes`: the checks pass for
  a message that reads back, is in its window and for the policy, carries a good signature and
  names a pending nonce.
* `honest_handshake_completes`: the round trip from the request to the accepted answer.
-/

namespace WalletAuth

namespace Instant

/-- The instants a message spells: date-times of the years 0000 to 9999. -/
def InFourDigitYears (t : Instant) : Prop :=
  t.IsDateTime ∧ 0 ≤ (Civil.ofInstant t).year ∧ (Civil.ofInstant t).year ≤ 9999

instance (t : Instant) : Decidable t.InFourDigitYears :=
  inferInstanceAs (Decidable (_ ∧ _ ∧ _))

end Instant

/-- A timestamp cut from an instant reads back as its instant when its year has four digits. -/
theorem Timestamp.parse_ofInstant {x : Instant} (hx : (Timestamp.ofInstant x).at_.InFourDigitYears) :
    Rfc3339.parse (Timestamp.ofInstant x).text = .ok (Timestamp.ofInstant x).at_ :=
  Rfc3339.parse_formatMillis (t := x.truncMillis) hx.1 x.truncMillis_nanos_mod hx.2

/-- Every instant of the message is one its text can spell. -/
structure Challenge.InFourDigitYears (c : Challenge) : Prop where
  issuedAt : c.issuedAt.at_.InFourDigitYears
  expirationTime : ∀ e ∈ c.expirationTime, e.at_.InFourDigitYears
  notBefore : ∀ nb ∈ c.notBefore, nb.at_.InFourDigitYears

namespace ChallengeBuilder

/-- An assembled message reads back from its text when its instants are of four-digit years and
its chain id fits in 64 bits. -/
theorem parse_render_of_assemble {p : ChallengePolicy} {address : Address} {uri : String}
    {chainId : Nat} {o : ChallengeOptions} {nonce : String} {issuedAt expiration : Instant}
    {c : Challenge} (hc : assemble p address uri chainId o nonce issuedAt expiration = .ok c)
    (hy : c.InFourDigitYears) (hchain : c.chainId ≤ Challenge.maxChainId) :
    Challenge.parse c.render = .ok c := by
  obtain ⟨hfields, rfl⟩ := assemble_eq_ok_iff.1 hc
  -- every timestamp of an assembled message is cut from an instant
  refine Challenge.parse_render_of_fieldsOk hfields
    ⟨Timestamp.parse_ofInstant hy.issuedAt, fun t ht => ?_, fun t ht => ?_⟩ hchain
  · rw [Option.mem_def, Option.some_inj] at ht
    subst ht
    exact Timestamp.parse_ofInstant (hy.expirationTime _ rfl)
  · obtain ⟨x, -, rfl⟩ := Option.mem_map.1 ht
    exact Timestamp.parse_ofInstant (hy.notBefore _ ht)

end ChallengeBuilder

namespace Handshake

/-- The converse of `inWindow_ok`: a message whose expiry is ahead and whose start has come is in
its window. -/
theorem inWindow_of_bounds {c : Challenge} {now : Instant}
    (hexp : ∀ e ∈ c.expirationTime, now < e.at_) (hnb : ∀ nb ∈ c.notBefore, nb.at_ ≤ now) :
    inWindow c now = .ok () := by
  have hexpired : c.expirationTime.any (fun e => decide (e.at_ ≤ now)) = false := by
    cases he : c.expirationTime with
    | none => rfl
    | some e =>
      simp only [Option.any_some, decide_eq_false_iff_not]
      exact fun hle => Instant.lt_irrefl _ (Instant.lt_of_lt_of_le (hexp e he) hle)
  have hearly : c.notBefore.any (fun nb => decide (now < nb.at_)) = false := by
    cases hn : c.notBefore with
    | none => rfl
    | some nb =>
      simp only [Option.any_some, decide_eq_false_iff_not]
      exact Instant.le_iff_not_lt.1 (hnb nb hn)
  simp [inWindow, hexpired, hearly]

/-- The converse of `forPolicy_ok` for the policy's own spellings: a message with the policy's
domain and scheme and a chain it allows is for the policy. -/
theorem forPolicy_of_site {p : ChallengePolicy} {c : Challenge} (hd : c.domain = p.domain)
    (hs : c.scheme = p.scheme) (hc : p.allowsChain c.chainId = true) :
    forPolicy p c = .ok () := by
  have hsite : sameSite p c = true := by
    unfold sameSite
    rw [hd, hs, Text.eqIgnoreAsciiCase_refl, Bool.true_and]
    cases p.scheme with
    | none => rfl
    | some ours => exact Text.eqIgnoreAsciiCase_refl ours
  simp [forPolicy, hsite, hc]

variable {α β : Type} {b : Backend} {s : Attempt}

theorem endsAt_check_ok_bind {r : Except AuthError α} {v : α} {f : α → AttemptP β}
    {Q : Except AuthError β → Backend → Prop} (hr : r = .ok v) (h : EndsAt b s (f v) Q) :
    EndsAt b s (check r >>= f) Q := by
  subst hr
  exact h

theorem ends_check_ok_bind {r : Except AuthError α} {v : α} {f : α → AttemptP β}
    {Q : Except AuthError β → Backend → Prop} (hr : r = .ok v) (h : Ends b (f v) Q) :
    Ends b (check r >>= f) Q := by
  subst hr
  exact h

variable {h : Handshake} {signed : SignedResponse} {m : MemoryStore} {c : Challenge}
  {r : NonceRecord}

/-- The checks pass, on an attempt that holds the message, when each of them holds of it and
its nonce is pending and unexpired on an in-process store; they spend the nonce. -/
theorem runChecks_completes (hrest : b.clock.step = ⟨0⟩) (hb : b.nonces = .memory m [])
    (hs : s.challenge = some c) (hparse : Challenge.parse signed.message = .ok c)
    (hwin : inWindow c b.clock.now = .ok ()) (hpol : forPolicy h.policy c = .ok ())
    (hsig : verifySignature signed.message signed.signature c.address = .ok c.address)
    (hpend : m.get c.address c.nonce = .pending r) (hlive : b.clock.now < r.expiresAt) :
    EndsAt b s (Steps.runChecks h signed) fun res b' =>
      res = .ok ⟨c.address, c.chainId, b.clock.now⟩ ∧
        b'.nonces = .memory (m.claim c.address c.nonce).2 [] := by
  unfold Steps.runChecks
  refine endsAt_check_ok_bind (by rw [hparse]; rfl) ?_
  refine endsAt_get_bind (endsAt_check_ok_bind (by rw [issuedChallenge, hs]) ?_)
  refine endsAt_check_ok_bind (show sameNonce c c = .ok () by simp [sameNonce]) ?_
  refine Ends.at ?_ s
  refine Ends.bind (ends_lift ?_)
  rw [now_run_run_of_rest hrest]
  refine ends_check_ok_bind hwin (ends_check_ok_bind hpol ?_)
  have hnotle : ¬r.expiresAt ≤ b.clock.now := fun hle =>
    Instant.lt_irrefl _ (Instant.lt_of_lt_of_le hlive hle)
  -- the lookup finds the record live and leaves the store as it was
  refine Ends.bind (ends_registry ?_)
  rw [Registry.Steps.lookup_alone hb, hpend]
  dsimp only
  rw [if_neg hnotle, Backend.now_run_of_rest hrest]
  dsimp only
  refine ends_modify_bind (ends_check_ok_bind hsig ?_)
  -- the consume finds it again and claims it
  refine Ends.bind (ends_registry ?_)
  rw [Registry.Steps.consume_alone hb, hpend]
  dsimp only
  rw [if_neg hnotle]
  have hclaimed : ({ b with nonces := .memory (m.claim c.address c.nonce).2 [] } : Backend).clock.step =
      ⟨0⟩ := hrest
  rw [Backend.now_run_of_rest hclaimed]
  dsimp only
  refine Ends.bind (ends_lift ?_)
  rw [now_run_run_of_rest hclaimed]
  exact ends_pure ⟨rfl, rfl⟩

/-- A submission from an attempt awaiting its answer, with time left before its deadline, answers
the identity the checks establish, and leaves the nonce spent. -/
theorem submitSigned_completes (hrest : b.clock.step = ⟨0⟩) (hb : b.nonces = .memory m [])
    (hst : s.state = .challengeIssued) {d : Instant} (hd : s.deadline = some d)
    (hleft : 0 < (d.since b.clock.now).nanos)
    (hs : s.challenge = some c) (hparse : Challenge.parse signed.message = .ok c)
    (hwin : inWindow c b.clock.now = .ok ()) (hpol : forPolicy h.policy c = .ok ())
    (hsig : verifySignature signed.message signed.signature c.address = .ok c.address)
    (hpend : m.get c.address c.nonce = .pending r) (hlive : b.clock.now < r.expiresAt) :
    EndsAt b s (Steps.submitSigned h signed) fun res b' =>
      res = .ok ⟨c.address, c.chainId, b.clock.now⟩ ∧
        b'.nonces = .memory (m.claim c.address c.nonce).2 [] := by
  unfold Steps.submitSigned
  refine endsAt_get_bind (endsAt_check_ok_bind (show awaitsAnswer s = .ok () by
    simp [awaitsAnswer, hst]) ?_)
  refine endsAt_lift_bind ?_
  rw [timeLeft_run_of_rest hrest, hd]
  refine EndsAt.bind ?_
  simp only [Option.map_some, Option.getD_some]
  rw [if_neg (Int.not_le.2 hleft)]
  refine endsAt_tryCatch ((runChecks_completes hrest hb hs hparse hwin hpol hsig hpend hlive).mono ?_)
  rintro (e | v) b' ⟨hres, hnonces⟩
  · cases hres
  · cases hres
    exact ends_modify_bind (ends_pure ⟨rfl, hnonces⟩)

/-- Verifying without the attempt, the clock at rest outside a leap second and a positive time
to live, answers the identity the checks establish, and leaves the nonce spent. -/
theorem verifySigned_completes (hrest : b.clock.step = ⟨0⟩) (hb : b.nonces = .memory m [])
    (hleap : b.clock.now.nanos < nanosPerSecond) (httl : 0 < h.ttl.nanos)
    (hparse : Challenge.parse signed.message = .ok c)
    (hwin : inWindow c b.clock.now = .ok ()) (hpol : forPolicy h.policy c = .ok ())
    (hsig : verifySignature signed.message signed.signature c.address = .ok c.address)
    (hpend : m.get c.address c.nonce = .pending r) (hlive : b.clock.now < r.expiresAt) :
    ((Steps.verifySigned h signed).run.run b).1 = .ok ⟨c.address, c.chainId, b.clock.now⟩ ∧
      ((Steps.verifySigned h signed).run.run b).2.nonces =
        .memory (m.claim c.address c.nonce).2 [] := by
  unfold Steps.verifySigned
  simp only [hparse, Prog.run_bind, StateT.run_bind]
  rw [now_run_run_of_rest hrest]
  -- the made-up attempt's deadline is one time to live ahead
  have hleft : 0 < ((b.clock.now.add h.ttl).since b.clock.now).nanos := by
    rw [Instant.since_add hleap]
    exact httl
  have hdone : EndsAt b ⟨.challengeIssued, some c, some (b.clock.now.add h.ttl), none⟩
      (Steps.submitSigned h signed) fun res b' => res = .ok ⟨c.address, c.chainId, b.clock.now⟩ ∧
        b'.nonces = .memory (m.claim c.address c.nonce).2 [] :=
    submitSigned_completes hrest hb rfl rfl hleft rfl hparse hwin hpol hsig hpend hlive
  exact hdone

/-- The honest round trip. A challenge issued on an in-process store, whose instants are of
four-digit years and whose chain id fits in 64 bits, is signed by the key of its account. Later,
with the clock at rest outside a leap second, inside the window the message names, and with the
store still answering for its nonce as it did at issue, the answer is accepted by `submitSigned`
on the attempt and by `verifySigned`, with the challenge's account and chain at the clock's
instant. The three signature hypotheses are those of `signer_verifier_agree`. -/
theorem honest_handshake_completes (h : Handshake) (req : ChallengeRequest) {a₀ a : Attempt}
    {b₀ b₁ b : Backend} {m m' : MemoryStore} {c : Challenge}
    (hissued : ((h.requestChallenge req).run.run a₀).run b₀ = ((.ok c, a), b₁))
    (hb₀ : b₀.nonces = .memory m []) (hstep : 0 ≤ b₀.clock.step.nanos)
    (hvalid : b₀.clock.now.nanos < 2 * nanosPerSecond)
    (hyears : c.InFourDigitYears) (hchain : c.chainId ≤ Challenge.maxChainId)
    {k : SecretKey} {sig : Ecdsa.Signature} {P : Secp256k1.Point} (hk : k.address = c.address)
    (hsign : Ecdsa.sign k.d (personalDigest c.render) = some sig) (hkey : k.publicKey? = some P)
    (hrecover : Ecdsa.recover (personalDigest c.render) sig = some P)
    (hb : b.nonces = .memory m' [])
    (hkept : ((NonceStore.get c.address c.nonce).run.run b).1 =
      ((NonceStore.get c.address c.nonce).run.run b₁).1)
    (hrest : b.clock.step = ⟨0⟩) (hleap : b.clock.now.nanos < nanosPerSecond)
    (hstarted : ∀ nb ∈ c.notBefore, nb.at_ ≤ b.clock.now)
    (hunexpired : ∀ e ∈ c.expirationTime, b.clock.now < e.at_) :
    ∃ bytes, k.signText c.render = .ok bytes ∧
      (((h.submitSigned ⟨c.render, bytes⟩).run.run a).run b).1.1 =
        .ok ⟨c.address, c.chainId, b.clock.now⟩ ∧
      ((h.verifySigned ⟨c.render, bytes⟩).run b).1 = .ok ⟨c.address, c.chainId, b.clock.now⟩ := by
  obtain ⟨r, hbuild, rfl⟩ := issued_of_requestChallenge hissued
  obtain ⟨-, -, hbinds⟩ := ChallengeBuilder.build_ok_memory hb₀ hstep hvalid hbuild
  obtain ⟨address, uri, chainId, exp, nonce, m₁, -, -, -, hins, hc, hnonces⟩ :=
    ChallengeBuilder.build_ok_inv hb₀ hbuild
  -- the store at `b` still holds the record issued
  have hpend : m'.get c.address c.nonce = .pending r := by
    rw [NonceStore.get_run_memory hb, NonceStore.get_run_memory hnonces] at hkept
    rw [Except.ok.inj hkept, hbinds.address.1, hbinds.nonce]
    exact MemoryStore.get_of_insert hins
  obtain ⟨e, he, -, hle, -⟩ := hbinds.window
  have hlive : b.clock.now < r.expiresAt := Instant.lt_of_lt_of_le (hunexpired e he) hle
  -- each check of the answer passes
  have hparse := ChallengeBuilder.parse_render_of_assemble hc hyears hchain
  have hwin := inWindow_of_bounds hunexpired hstarted
  have hpol := forPolicy_of_site hbinds.domain hbinds.scheme hbinds.chain
  obtain ⟨bytes, hbytes, hverify⟩ := verifySignature_signText hsign hkey hrecover
  -- the answer handed back: the message's text and the key's signature of it
  let signed : SignedResponse := ⟨c.render, bytes⟩
  have hread : Challenge.parse signed.message = .ok c := hparse
  have hsig : verifySignature signed.message signed.signature c.address = .ok c.address := by
    rw [hverify, if_pos hk.symm, hk]
  have hsubmit : EndsAt b
      { a₀ with state := .challengeIssued, challenge := some c, deadline := some r.expiresAt }
      (Steps.submitSigned h signed) fun res b' =>
        res = .ok ⟨c.address, c.chainId, b.clock.now⟩ ∧
          b'.nonces = .memory (m'.claim c.address c.nonce).2 [] :=
    submitSigned_completes hrest hb rfl rfl (Instant.since_pos_of_lt hleap hlive) rfl hread hwin
      hpol hsig hpend hlive
  have hverified := verifySigned_completes hrest hb hleap
    (ChallengeBuilder.ttl_pos_of_build hbuild hvalid) hread hwin hpol hsig hpend hlive
  exact ⟨bytes, hbytes, hsubmit.1, hverified.1⟩

end Handshake
end WalletAuth
