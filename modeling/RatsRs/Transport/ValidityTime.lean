import RatsRs.Tee.Dispatch
import RatsRs.Transport.Verifiers

/-! The validity time of a certificate.

A certificate names the time in which it is valid, and only OpenSSL looks at it: it reports a
certificate outside of its time to the callback, which refuses every report but the one about the leaf's
signing itself. `verifyCertDer` does not know the time, the verifiers for rustls drop the time they are
given, and SPDM's strategy is given none. So an expired certificate that verifies is taken by three of
the four front ends. -/
namespace RatsRs.Transport
open Lib Tee Cert

/-! ### Verification returns -/

section Returns
variable (X : Externals) (D : Dcap)

theorem verifyRsa_safe (hashAlgo : HashAlgo) (spki : SubjectPublicKeyInfo) (signedData signature : Bytes) :
    (verifyRsa X hashAlgo spki signedData signature).Safe := by
  apply Res.Safe.bind (Res.safe_ofForeign _)
  intro key _
  apply Res.Safe.bind (Res.safe_ofForeign _)
  intro s _
  exact Res.safe_ofForeign _

theorem verifyEcdsa_safe (spki : SubjectPublicKeyInfo) (signedData signature : Bytes) :
    (verifyEcdsa X spki signedData signature).Safe := by
  apply Res.Safe.bind (Res.safe_ofForeign _)
  intro s _
  apply Res.Safe.bind (Res.safe_ofForeign _)
  intro key _
  exact Res.safe_ofForeign _

theorem verifyCertSignature_safe (issuer signed : Certificate) :
    (verifyCertSignature X issuer signed).Safe := by
  apply Res.Safe.bind Res.safe_ensure
  intro _ _
  apply Res.Safe.bind (Res.safe_ofForeign _)
  intro signedData _
  cases signed.signature.asBytes with
  | none => exact Res.safe_fail
  | some signature =>
    show (verifySignedData X issuer signedData signature signed.signatureAlgorithm).Safe
    unfold verifySignedData
    split
    · exact verifyRsa_safe X _ _ _ _
    · split
      · exact verifyRsa_safe X _ _ _ _
      · split
        · exact verifyRsa_safe X _ _ _ _
        · split
          · exact verifyEcdsa_safe X _ _ _
          · exact Res.safe_fail

theorem parsePubkeyHashValueBuffer_safe (C : Ciborium) (buffer : Bytes) :
    (parsePubkeyHashValueBuffer C buffer).Safe := by
  apply Res.Safe.bind (Res.safe_ofForeign _)
  intro value _
  obtain ⟨hashAlgoId, hash⟩ := value
  apply Res.Safe.bind
  · unfold hashAlgoOfIanaId
    split
    · exact Res.safe_ok
    · exact Res.safe_ok
    · exact Res.safe_ok
    · exact Res.safe_fail
  · intro _ _
    exact Res.safe_ok

/-- Whatever the certificate, `verifyCertDer` is `Ok` or an `Error`. -/
theorem verifyCertDer_safe (cert : Bytes) : (verifyCertDer X D cert).Safe := by
  apply Res.Safe.bind (Res.safe_ofForeign _).mapError.mapError
  intro c _
  apply Res.Safe.bind (verifyCertSignature_safe X c c).mapError
  intro _ _
  cases extractExtWithOid c oidTcgDiceTaggedEvidence with
  | none => exact Res.safe_fail
  | some evidenceBuffer =>
    apply Res.Safe.bind (Res.safe_ofForeign _)
    intro parsed _
    obtain ⟨tag, rawEvidence, claimsBuffer⟩ := parsed
    apply Res.Safe.bind (AutoEvidence.createEvidenceFromDice_safe tag rawEvidence)
    intro evidence hevidence
    obtain ⟨-, k, hk, rfl⟩ := AutoEvidence.createEvidenceFromDice_eq_ok.mp hevidence
    apply Res.Safe.bind (QuoteKind.verifyEvidence_safe hk (by rw [Sha2.length_hash]; decide))
    intro _ _
    rw [QuoteKind.getClaims_eq hk, ok_bind]
    apply Res.Safe.bind (Res.safe_ofForeign _)
    intro customClaims _
    cases customClaims.get claimNamePublicKeyHash with
    | none => exact Res.safe_fail
    | some pubkeyHashValueBuffer =>
      apply Res.Safe.bind (parsePubkeyHashValueBuffer_safe X.ciborium pubkeyHashValueBuffer)
      intro value _
      apply Res.Safe.bind (Res.safe_ofForeign _)
      intro spkiBytes _
      apply Res.Safe.bind Res.safe_ensure
      intro _ _
      exact Res.safe_ok

end Returns

/-! ### Decisions -/

inductive Decision where
  | accept
  | reject
  | crash
  deriving DecidableEq, Repr

/-- The call of a Rust verifier. -/
def decided {ε : Type} : Except Crash (Except ε Unit) → Decision
  | .ok (.ok ()) => .accept
  | .ok (.error _) => .reject
  | .error _ => .crash

/-- The calls of the callback. -/
def Openssl.decided (answers : List (Except Crash Int)) : Decision :=
  if answers.all fun answer => answer = .ok 1 then .accept
  else if answers.any fun answer => answer.toOption.isNone then .crash
  else .reject

/-- Where a certificate is verified, and with what else. -/
inductive FrontEnd where
  | spdm
  | rustlsServer (intermediates : List Bytes) (serverName : String) (ocspResponse : Bytes)
  | rustlsClient (intermediates : List Bytes)
  | openssl
  deriving DecidableEq

section Decisions
-- `errors` is what OpenSSL finds with a certificate at a time.
variable (X : Externals) (D : Dcap) (debug : RatsRs.Error → String) (errors : Bytes → Nat → List Int)

/-- What is decided about a certificate at a time. -/
def FrontEnd.decision (frontEnd : FrontEnd) (cert : Bytes) (now : Nat) : Decision :=
  match frontEnd with
  | spdm => decided (RatsCertValidationStrategy.verifyCertChain X D cert)
  | rustlsServer intermediates serverName ocspResponse =>
    decided (Rustls.verifyServerCert X D debug cert intermediates serverName ocspResponse now)
  | rustlsClient intermediates => decided (Rustls.verifyClientCert X D debug cert intermediates now)
  | openssl => Openssl.decided (Openssl.answers X D
      (Openssl.verification ((errors cert now).map fun error => ⟨error, some cert⟩) ⟨0, some cert⟩))

/-- The time is not between `notBefore` and `notAfter`. -/
def OutsideWindow (cert : Bytes) (now : Nat) : Prop :=
  ∃ c, X.x509.fromDer cert = .ok c ∧
    (now < c.tbsCertificate.validity.notBefore ∨ c.tbsCertificate.validity.notAfter < now)

/-- Outside of its time a certificate is rejected everywhere, and at any time everywhere the same is
decided. -/
structure ValidityAgreed (cert : Bytes) (now : Nat) : Prop where
  rejected : OutsideWindow X cert now → ∀ frontEnd : FrontEnd,
    frontEnd.decision X D debug errors cert now = .reject
  same : ∀ frontEnd other : FrontEnd,
    frontEnd.decision X D debug errors cert now = other.decision X D debug errors cert now

end Decisions

namespace Openssl

def x509VErrCertNotYetValid : Int := 9

def x509VErrCertHasExpired : Int := 10

/-- Every validity error is reported to the callback. -/
def ReportsValidity (X : Externals) (errors : Bytes → Nat → List Int) : Prop :=
  ∀ cert now, OutsideWindow X cert now →
    x509VErrCertNotYetValid ∈ errors cert now ∨ x509VErrCertHasExpired ∈ errors cert now

/-- Nothing is found but that the leaf signs itself. -/
def OnlySelfSigned (errors : List Int) : Prop := ∀ error ∈ errors, error = x509VErrDepthZeroSelfSignedCert

theorem ReportsValidity.not_only {X : Externals} {errors : Bytes → Nat → List Int} {cert : Bytes} {now : Nat}
    (h : ReportsValidity X errors) (houtside : OutsideWindow X cert now) :
    ¬ OnlySelfSigned (errors cert now) := by
  intro honly
  rcases h cert now houtside with hmem | hmem
  · exact absurd (honly _ hmem) (by decide)
  · exact absurd (honly _ hmem) (by decide)

end Openssl

section Agreement
variable {X : Externals} {D : Dcap} {debug : RatsRs.Error → String} {errors : Bytes → Nat → List Int}
  {cert : Bytes} {now : Nat}

theorem decided_eq_accept {ε : Type} {r : Except Crash (Except ε Unit)} :
    decided r = .accept ↔ r = .ok (.ok ()) := by
  rcases r with c | (e | u) <;> simp [decided]

theorem Openssl.decided_eq_accept {answers : List (Except Crash Int)} :
    Openssl.decided answers = .accept ↔ ∀ answer ∈ answers, answer = .ok 1 := by
  unfold Openssl.decided
  split
  · rename_i hall
    simpa using hall
  · rename_i hall
    split <;> simpa using hall

/-- **A front end accepts** what verifies, whatever the time; but OpenSSL nothing that it finds errors
with. -/
theorem FrontEnd.decision_eq_accept {frontEnd : FrontEnd} :
    frontEnd.decision X D debug errors cert now = .accept ↔
      (∃ claims, verifyCertDer X D cert = .ok claims) ∧
        (frontEnd = .openssl → Openssl.OnlySelfSigned (errors cert now)) := by
  cases frontEnd with
  | spdm => simp [decision, decided_eq_accept, verifyCertChain_accepts]
  | rustlsServer intermediates serverName ocspResponse =>
    simp [decision, decided_eq_accept, Rustls.verifyServerCert, Rustls.verified_eq_ok,
      verifyEmpty_eq_passed]
  | rustlsClient intermediates =>
    simp [decision, decided_eq_accept, Rustls.verifyClientCert, Rustls.verified_eq_ok,
      verifyEmpty_eq_passed]
  | openssl =>
    rw [decision, Openssl.decided_eq_accept, Openssl.verification_accepts, List.forall_mem_map]
    simp [Openssl.OnlySelfSigned]

/-- Verifying with nothing expected returns. -/
theorem verifyEmpty_safe : (verifyEmpty X D cert).Safe := by
  rw [verifyEmpty_eq]
  exact (verifyCertDer_safe X D cert).bind fun _ _ => Res.safe_ok

theorem Rustls.verified_ne_crash {res : Res VerifyPolicyOutput} (h : res.Safe) :
    decided (Rustls.verified debug res) ≠ .crash := by
  rcases h.cases with ⟨output, rfl⟩ | ⟨e, rfl⟩
  · cases output <;> nofun
  · nofun

theorem Openssl.verifyCertificateDefault_returns (preverifyOk error : Int) :
    ∃ answer, verifyCertificateDefault X D preverifyOk ⟨error, some cert⟩ = .ok answer := by
  unfold verifyCertificateDefault
  split
  · split <;> exact ⟨_, rfl⟩
  · have hsafe : (verifyEmpty X D cert).Safe := verifyEmpty_safe
    rcases hsafe.cases with ⟨output, houtput⟩ | ⟨e, he⟩
    · cases output <;> simp [houtput]
    · simp [he]

theorem Openssl.answers_return {calls : List (Int × StoreCtx)}
    (h : ∀ call ∈ calls, ∃ answer, verifyCertificateDefault X D call.1 call.2 = .ok answer) :
    Openssl.decided (answers X D calls) ≠ .crash := by
  have hreturn : ∀ answer ∈ answers X D calls, ∃ n, answer = .ok n := by
    induction calls with
    | nil =>
      intro answer hanswer
      cases hanswer
    | cons call calls ih =>
      obtain ⟨n, hn⟩ := h call (List.mem_cons_self ..)
      have ih := ih fun c hc => h c (List.mem_cons_of_mem _ hc)
      intro answer hanswer
      rw [answers] at hanswer
      rw [hn] at hanswer
      split at hanswer
      · rcases List.mem_cons.mp hanswer with rfl | hanswer
        · exact ⟨n, rfl⟩
        · exact ih answer hanswer
      · exact ⟨n, List.mem_singleton.mp hanswer⟩
  unfold Openssl.decided
  split
  · intro hcrash
    cases hcrash
  · split
    · rename_i hany
      obtain ⟨answer, hanswer, hnone⟩ := List.any_eq_true.mp hany
      obtain ⟨n, rfl⟩ := hreturn answer hanswer
      cases hnone
    · intro hcrash
      cases hcrash

theorem FrontEnd.decision_ne_crash {frontEnd : FrontEnd} :
    frontEnd.decision X D debug errors cert now ≠ .crash := by
  cases frontEnd with
  | spdm =>
    show decided (RatsCertValidationStrategy.verifyCertChain X D cert) ≠ .crash
    unfold RatsCertValidationStrategy.verifyCertChain
    rcases (verifyCertDer_safe X D cert).cases with ⟨claims, h⟩ | ⟨e, h⟩
    · rw [h]
      nofun
    · rw [h]
      nofun
  | rustlsServer intermediates serverName ocspResponse => exact Rustls.verified_ne_crash verifyEmpty_safe
  | rustlsClient intermediates => exact Rustls.verified_ne_crash verifyEmpty_safe
  | openssl =>
    apply Openssl.answers_return
    intro call hcall
    rcases List.mem_append.mp hcall with hreport | hleaf
    · obtain ⟨ctx, hctx, rfl⟩ := List.mem_map.mp hreport
      obtain ⟨error, -, rfl⟩ := List.mem_map.mp hctx
      exact Openssl.verifyCertificateDefault_returns 0 error
    · rw [List.mem_singleton.mp hleaf]
      exact Openssl.verifyCertificateDefault_returns 1 0

theorem FrontEnd.decision_eq_reject {frontEnd : FrontEnd}
    (h : frontEnd.decision X D debug errors cert now ≠ .accept) :
    frontEnd.decision X D debug errors cert now = .reject := by
  have hcrash : frontEnd.decision X D debug errors cert now ≠ .crash := FrontEnd.decision_ne_crash
  cases hdecision : frontEnd.decision X D debug errors cert now with
  | accept => exact absurd hdecision h
  | reject => rfl
  | crash => exact absurd hdecision hcrash

/-- Outside of the window the callback is told so, and refuses. -/
theorem FrontEnd.openssl_rejects (hreports : Openssl.ReportsValidity X errors)
    (houtside : OutsideWindow X cert now) :
    FrontEnd.openssl.decision X D debug errors cert now = .reject := by
  apply FrontEnd.decision_eq_reject
  intro haccept
  exact hreports.not_only houtside ((FrontEnd.decision_eq_accept.mp haccept).2 rfl)

/-- If OpenSSL finds nothing else, or the certificate does not verify, all decide the same. -/
theorem FrontEnd.unanimous (h : (∀ claims, verifyCertDer X D cert ≠ .ok claims) ∨
    Openssl.OnlySelfSigned (errors cert now)) :
    (∀ frontEnd : FrontEnd, frontEnd.decision X D debug errors cert now = .reject) ∨
      ∀ frontEnd : FrontEnd, frontEnd.decision X D debug errors cert now = .accept := by
  by_cases hverifies : ∃ claims, verifyCertDer X D cert = .ok claims
  · have honly := h.resolve_left fun hnot => hverifies.elim hnot
    exact .inr fun frontEnd => FrontEnd.decision_eq_accept.mpr ⟨hverifies, fun _ => honly⟩
  · refine .inl fun frontEnd => FrontEnd.decision_eq_reject ?_
    intro haccept
    exact hverifies (FrontEnd.decision_eq_accept.mp haccept).1

/-- **Main theorem.** The front ends agree about a certificate at a time exactly if it does not verify anyway,
or the time is in its window and OpenSSL finds nothing else with it either. Outside of its window OpenSSL
rejects it, and each of the others accepts it exactly if it verifies. -/
theorem validity_agreed_iff (X : Externals) (D : Dcap) (debug : RatsRs.Error → String)
    (errors : Bytes → Nat → List Int) (hreports : Openssl.ReportsValidity X errors) (cert : Bytes)
    (now : Nat) :
    (ValidityAgreed X D debug errors cert now ↔
      (∀ claims, verifyCertDer X D cert ≠ .ok claims) ∨
        ¬ OutsideWindow X cert now ∧ Openssl.OnlySelfSigned (errors cert now)) ∧
    (OutsideWindow X cert now →
      FrontEnd.openssl.decision X D debug errors cert now = .reject ∧
        ∀ frontEnd : FrontEnd, frontEnd ≠ .openssl →
          (frontEnd.decision X D debug errors cert now = .accept ↔
            ∃ claims, verifyCertDer X D cert = .ok claims)) := by
  refine ⟨⟨?_, ?_⟩, ?_⟩
  · intro hagreed
    by_cases hverifies : ∃ claims, verifyCertDer X D cert = .ok claims
    · refine .inr ⟨?_, ?_⟩
      · intro houtside
        have haccept : FrontEnd.spdm.decision X D debug errors cert now = .accept :=
          FrontEnd.decision_eq_accept.mpr ⟨hverifies, nofun⟩
        cases haccept.symm.trans (hagreed.rejected houtside .spdm)
      · have haccept : FrontEnd.openssl.decision X D debug errors cert now = .accept := by
          rw [hagreed.same .openssl .spdm]
          exact FrontEnd.decision_eq_accept.mpr ⟨hverifies, nofun⟩
        exact (FrontEnd.decision_eq_accept.mp haccept).2 rfl
    · exact .inl fun claims hclaims => hverifies ⟨claims, hclaims⟩
  · intro hcond
    have hall : (∀ frontEnd : FrontEnd, frontEnd.decision X D debug errors cert now = .reject) ∨
        ∀ frontEnd : FrontEnd, frontEnd.decision X D debug errors cert now = .accept :=
      FrontEnd.unanimous (hcond.imp_right And.right)
    refine ⟨?_, ?_⟩
    · intro houtside frontEnd
      rcases hall with hreject | haccept
      · exact hreject frontEnd
      · cases (haccept .openssl).symm.trans (FrontEnd.openssl_rejects hreports houtside)
    · intro frontEnd other
      rcases hall with hreject | haccept
      · rw [hreject, hreject]
      · rw [haccept, haccept]
  · intro houtside
    refine ⟨FrontEnd.openssl_rejects hreports houtside, ?_⟩
    intro frontEnd hother
    rw [FrontEnd.decision_eq_accept]
    exact ⟨And.left, fun hverifies => ⟨hverifies, fun hopenssl => absurd hopenssl hother⟩⟩

end Agreement

/-! ### A certificate of a minute -/

/-- What OpenSSL finds with a leaf that signs itself and that nobody vouches for. -/
def Openssl.leafErrors (X : Externals) (cert : Bytes) (now : Nat) : List Int :=
  match X.x509.fromDer cert with
  | .error _ => []
  | .ok c =>
    let validity := c.tbsCertificate.validity
    x509VErrDepthZeroSelfSignedCert ::
      ((if now < validity.notBefore then [x509VErrCertNotYetValid] else []) ++
        (if validity.notAfter < now then [x509VErrCertHasExpired] else []))

theorem Openssl.leafErrors_report (X : Externals) : ReportsValidity X (leafErrors X) := by
  intro cert now houtside
  obtain ⟨c, hc, htime⟩ := houtside
  rw [leafErrors, hc]
  rcases htime with hearly | hlate
  · simp [hearly]
  · simp [hlate]

/-- Half a minute after it was made. -/
theorem firstDer_agreed :
    ValidityAgreed Sample.externals Sample.dcap (fun _ => "") (Openssl.leafErrors Sample.externals)
        Sample.firstDer 1704067230 ↔
      (∀ claims, verifyCertDer Sample.externals Sample.dcap Sample.firstDer ≠ .ok claims) ∨
        ¬ OutsideWindow Sample.externals Sample.firstDer 1704067230 ∧
          Openssl.OnlySelfSigned (Openssl.leafErrors Sample.externals Sample.firstDer 1704067230) :=
  (validity_agreed_iff Sample.externals Sample.dcap (fun _ => "") (Openssl.leafErrors Sample.externals)
    (Openssl.leafErrors_report _) Sample.firstDer 1704067230).1

/-- A day later rustls and SPDM accept it still, and OpenSSL does not. -/
theorem firstDer_expired :
    OutsideWindow Sample.externals Sample.firstDer 1704153600 ∧
      FrontEnd.spdm.decision Sample.externals Sample.dcap (fun _ => "")
        (Openssl.leafErrors Sample.externals) Sample.firstDer 1704153600 = .accept ∧
      (FrontEnd.rustlsServer [] "localhost" []).decision Sample.externals Sample.dcap (fun _ => "")
        (Openssl.leafErrors Sample.externals) Sample.firstDer 1704153600 = .accept ∧
      (FrontEnd.rustlsClient []).decision Sample.externals Sample.dcap (fun _ => "")
        (Openssl.leafErrors Sample.externals) Sample.firstDer 1704153600 = .accept ∧
      FrontEnd.openssl.decision Sample.externals Sample.dcap (fun _ => "")
        (Openssl.leafErrors Sample.externals) Sample.firstDer 1704153600 = .reject ∧
      ¬ ValidityAgreed Sample.externals Sample.dcap (fun _ => "") (Openssl.leafErrors Sample.externals)
        Sample.firstDer 1704153600 := by
  have hparsed : Sample.x509.fromDer Sample.firstDer = .ok (Sample.cert Sample.first) := by
    decide +kernel
  have houtside : OutsideWindow Sample.externals Sample.firstDer 1704153600 :=
    ⟨_, hparsed, .inr (by decide)⟩
  have hverifies : ∃ claims, verifyCertDer Sample.externals Sample.dcap Sample.firstDer = .ok claims :=
    ⟨_, Sample.verify_firstDer⟩
  have hspdm : FrontEnd.spdm.decision Sample.externals Sample.dcap (fun _ => "")
      (Openssl.leafErrors Sample.externals) Sample.firstDer 1704153600 = .accept :=
    FrontEnd.decision_eq_accept.mpr ⟨hverifies, nofun⟩
  refine ⟨houtside, hspdm, FrontEnd.decision_eq_accept.mpr ⟨hverifies, nofun⟩,
    FrontEnd.decision_eq_accept.mpr ⟨hverifies, nofun⟩,
    FrontEnd.openssl_rejects (Openssl.leafErrors_report _) houtside, ?_⟩
  intro hagreed
  cases hspdm.symm.trans (hagreed.rejected houtside .spdm)

end RatsRs.Transport
