import RatsRs.Cert.Hardware

/-! Where the transports verify the certificate of their peer.

SPDM asks `RatsCertValidationStrategy`, rustls the two `Rats…Verifier`s, and OpenSSL calls
`verifyCertificateDefault`: once for each error of its own that it comes across, with
`preverify_ok` 0, and at the end for the leaf with `preverify_ok` 1. They have a convention each
for what they found. All of them accept a leaf exactly if `verifyCertDer` does, and OpenSSL, over
a whole run of calls, only if its own errors were no other than that the leaf signs itself. -/
namespace RatsRs.Transport
open Lib Tee Cert

section Spdm
variable (X : Externals) (D : Dcap)

/-- The one status of `verify_cert_chain` that is not success. -/
inductive CertStatus where
  | invalidCert
  deriving DecidableEq, Repr

/-- `verify_cert_chain`. -/
def RatsCertValidationStrategy.verifyCertChain (certChain : Bytes) : Except Crash (Except CertStatus Unit) :=
  match verifyCertDer X D certChain with
  | .ok _ => .ok (.ok ())
  | .error (.error _) => .ok (.error .invalidCert)
  | .error (.crash c) => .error c

end Spdm

/-- The certificate is verified against the policy that expects no claim. -/
def verifyEmpty (X : Externals) (D : Dcap) (cert : Bytes) : Res VerifyPolicyOutput :=
  (CertVerifier.mk (.contains .empty)).verify X D cert

/-! ### rustls -/

namespace Rustls

/-- `rustls::Error`, as far as the verifiers make one. -/
inductive Error where
  | general (msg : String)
  deriving DecidableEq, Repr

-- `debug` is `{:?}` of an `Error` of the crate.
variable (X : Externals) (D : Dcap) (debug : RatsRs.Error → String)

/-- What both verifiers make of the outcome. -/
def verified : Res VerifyPolicyOutput → Except Crash (Except Error Unit)
  | .ok .passed => .ok (.ok ())
  | .ok .failed => .ok (.error (.general "Verify failed because of claims"))
  | .error (.error err) => .ok (.error (.general ("Verify failed with err: " ++ debug err)))
  | .error (.crash c) => .error c

/-- `RatsClientVerifier`'s, which looks neither at the intermediates nor at the time. -/
def verifyClientCert (endEntity : Bytes) (_intermediates : List Bytes) (_now : Nat) :
    Except Crash (Except Error Unit) :=
  verified debug (verifyEmpty X D endEntity)

/-- `RatsServerVerifier`'s. -/
def verifyServerCert (endEntity : Bytes) (_intermediates : List Bytes) (_serverName : String)
    (_ocspResponse : Bytes) (_now : Nat) : Except Crash (Except Error Unit) :=
  verified debug (verifyEmpty X D endEntity)

end Rustls

/-! ### OpenSSL -/

namespace Openssl

def x509VErrDepthZeroSelfSignedCert : Int := 18

/-- What the callback asks an `X509_STORE_CTX` for. -/
structure StoreCtx where
  error : Int
  /-- `i2d_X509` of the current certificate, unless that fails. -/
  currentCert : Option Bytes

section Callback
variable (X : Externals) (D : Dcap)

def verifyCertificateDefault (preverifyOk : Int) (ctx : StoreCtx) : Except Crash Int :=
  if preverifyOk = 0 then
    if ctx.error = x509VErrDepthZeroSelfSignedCert then .ok 1 else .ok 0
  else
    match ctx.currentCert with
    -- The slice is made of a null pointer and a negative length.
    | none => .error .outOfBounds
    | some now =>
      match verifyEmpty X D now with
      | .ok .passed => .ok 1
      | .ok .failed => .ok 0
      | .error (.error _) => .ok 0
      | .error (.crash c) => .error c

/-- What the callback answers in one verification, in which OpenSSL would make these calls and makes
none after an answer that is not 1. -/
def answers : List (Int × StoreCtx) → List (Except Crash Int)
  | [] => []
  | (preverifyOk, ctx) :: calls =>
    let answer := verifyCertificateDefault X D preverifyOk ctx
    if answer = .ok 1 then answer :: answers calls else [answer]

/-- A verification: a report of each error, then the leaf. -/
def verification (reports : List StoreCtx) (leaf : StoreCtx) : List (Int × StoreCtx) :=
  reports.map (fun ctx => (0, ctx)) ++ [(1, leaf)]

end Callback
end Openssl

/-! ### Accepting -/

section Accepting
variable {X : Externals} {D : Dcap} {cert : Bytes}

/-- Expecting nothing, every certificate that verifies passes. -/
theorem verifyEmpty_eq : verifyEmpty X D cert = verifyCertDer X D cert >>= fun _ => .ok .passed := rfl

theorem verifyEmpty_eq_passed :
    verifyEmpty X D cert = .ok .passed ↔ ∃ claims, verifyCertDer X D cert = .ok claims := by
  simp [verifyEmpty_eq, bind_eq_ok]

theorem verifyCertChain_accepts : RatsCertValidationStrategy.verifyCertChain X D cert = .ok (.ok ()) ↔
    ∃ claims, verifyCertDer X D cert = .ok claims := by
  unfold RatsCertValidationStrategy.verifyCertChain
  split <;> simp_all

theorem Rustls.verified_eq_ok {debug : RatsRs.Error → String} {res : Res VerifyPolicyOutput} :
    Rustls.verified debug res = .ok (.ok ()) ↔ res = .ok .passed := by
  unfold Rustls.verified
  split <;> simp

namespace Openssl

/-- A report is let pass only if the leaf's signing itself is what it is about. -/
theorem verifyCertificateDefault_report {ctx : StoreCtx} :
    verifyCertificateDefault X D 0 ctx = .ok 1 ↔ ctx.error = x509VErrDepthZeroSelfSignedCert := by
  unfold verifyCertificateDefault
  rw [if_pos rfl]
  split <;> simp_all

theorem verifyCertificateDefault_leaf {preverifyOk : Int} {ctx : StoreCtx} (h : preverifyOk ≠ 0) :
    verifyCertificateDefault X D preverifyOk ctx = .ok 1 ↔
      ∃ der claims, ctx.currentCert = some der ∧ verifyCertDer X D der = .ok claims := by
  unfold verifyCertificateDefault
  rw [if_neg h]
  cases ctx.currentCert with
  | none => simp
  | some der =>
    have hpassed : verifyEmpty X D der = .ok .passed ↔ ∃ claims, verifyCertDer X D der = .ok claims :=
      verifyEmpty_eq_passed
    simp only [Option.some.injEq, exists_and_left, exists_eq_left', ← hpassed]
    split <;> simp_all

/-- OpenSSL gets to the end of its calls exactly if each is answered 1. -/
theorem answers_all {calls : List (Int × StoreCtx)} :
    (∀ answer ∈ answers X D calls, answer = .ok 1) ↔
      ∀ call ∈ calls, verifyCertificateDefault X D call.1 call.2 = .ok 1 := by
  induction calls with
  | nil => simp [answers]
  | cons call calls ih =>
    obtain ⟨preverifyOk, ctx⟩ := call
    rw [answers]
    by_cases h : verifyCertificateDefault X D preverifyOk ctx = .ok 1
    · simp only [h, if_true, List.forall_mem_cons, true_and]
      exact ih
    · simp [h]

theorem verification_accepts {reports : List StoreCtx} {leaf : StoreCtx} :
    (∀ answer ∈ answers X D (verification reports leaf), answer = .ok 1) ↔
      (∃ der claims, leaf.currentCert = some der ∧ verifyCertDer X D der = .ok claims) ∧
        ∀ ctx ∈ reports, ctx.error = x509VErrDepthZeroSelfSignedCert := by
  rw [answers_all, verification, List.forall_mem_append, List.forall_mem_map, List.forall_mem_singleton,
    and_comm]
  simp only [verifyCertificateDefault_report]
  rw [verifyCertificateDefault_leaf (by decide)]

end Openssl

end Accepting

/-- **Every front end is as strict as `verifyCertDer`.** -/
theorem front_ends_strict (X : Externals) (D : Dcap) (debug : RatsRs.Error → String) :
    (∀ cert, RatsCertValidationStrategy.verifyCertChain X D cert = .ok (.ok ()) ↔
      ∃ claims, verifyCertDer X D cert = .ok claims) ∧
    (∀ cert intermediates serverName ocspResponse now,
      Rustls.verifyServerCert X D debug cert intermediates serverName ocspResponse now = .ok (.ok ()) ↔
        ∃ claims, verifyCertDer X D cert = .ok claims) ∧
    (∀ cert intermediates now, Rustls.verifyClientCert X D debug cert intermediates now = .ok (.ok ()) ↔
      ∃ claims, verifyCertDer X D cert = .ok claims) ∧
    ∀ reports leaf, (∀ answer ∈ Openssl.answers X D (Openssl.verification reports leaf), answer = .ok 1) ↔
      (∃ der claims, leaf.currentCert = some der ∧ verifyCertDer X D der = .ok claims) ∧
        ∀ ctx ∈ reports, ctx.error = Openssl.x509VErrDepthZeroSelfSignedCert := by
  refine ⟨fun _ => verifyCertChain_accepts, ?_, ?_, fun _ _ => Openssl.verification_accepts⟩
  · intro cert intermediates serverName ocspResponse now
    rw [Rustls.verifyServerCert, Rustls.verified_eq_ok, verifyEmpty_eq_passed]
  · intro cert intermediates now
    rw [Rustls.verifyClientCert, Rustls.verified_eq_ok, verifyEmpty_eq_passed]

end RatsRs.Transport
