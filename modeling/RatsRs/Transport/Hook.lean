import RatsRs.Cert.Completeness
import RatsRs.Keys
import RatsRs.Lib.Procedure
import RatsRs.Transport.Openssl

/-! The library that is put in front of OpenSSL.

An application that is started with it calls it in place of OpenSSL, wherever it has a function of the same name.
It looks up OpenSSL's own functions, sees to it that every handshake is verified by `verify_certificate_default`,
and answers whatever key or certificate the application brings with ones it makes itself. An application that
shakes hands by other functions than `SSL_accept` and `SSL_connect` goes round it. Of OpenSSL's own functions
nothing is used but their laws (`Objects.Lawful`). -/
namespace RatsRs.Transport.Hook
open Lib Cert Tee
open Openssl (SslMode VerifyCallback EpvPkey Side)

/-! ### OpenSSL -/

/-- What an `SSL_CTX` and an `SSL` verify with and attest with. -/
structure Settings (U : Type) where
  mode : SslMode
  verifyCallback : Option (VerifyCallback U)
  certificate : Option Bytes
  privateKey : Option (EpvPkey × Bytes)

def Settings.fresh {U : Type} : Settings U := ⟨.sslVerifyNone, none, none, none⟩

/-- `cert_verify_callback`, or one of the application's. -/
inductive CertVerifyCallback (V : Type) where
  | certVerifyCallback
  | user (callback : V)

structure SslCtx (U V : Type) where
  settings : Settings U
  certVerifyCallback : Option (CertVerifyCallback V)

/-- With what a handshake that returned 1 was made, with whom, and what `SSL_get_verify_result` says of it. A
peer that presents no certificate is not verified. -/
structure Handshake (U V P : Type) where
  side : Side
  mode : SslMode
  verifyCallback : Option (VerifyCallback U)
  certVerifyCallback : Option (CertVerifyCallback V)
  peer : P
  verification : Option (Int × Int)
  verifyResult : Int

/-- A session: its context, whether it connects or accepts once that is set, and its last handshake. -/
structure Ssl (U V P : Type) where
  ctx : Nat
  settings : Settings U
  state : Option Side
  handshake : Option (Handshake U V P)

/-- A peer is a party at the other end of one handshake. Whether it presents a certificate, which a server asks
for in some modes only; `X509_verify_cert` and an application's callback in its place, which return something about
the certificate and leave an error; what a handshake returns, by what the verification has returned if there was
one; and `X509_check_private_key`. -/
structure Library (U V P : Type) where
  presents : Side → SslMode → P → Bool
  x509VerifyCert : Option (VerifyCallback U) → P → Int × Int
  userVerifyCert : V → P → Int × Int
  handshake : Side → SslMode → Option Int → P → Int
  checkPrivateKey : Bytes → EpvPkey × Bytes → Bool

def x509VOk : Int := 0

/-- `cert_verify_callback`, with what `X509_verify_cert` returns and leaves. -/
def certVerifyCallback (verified : Int × Int) : Int × Int :=
  let (res, err) := verified
  (res, if err = Openssl.x509VErrDepthZeroSelfSignedCert then x509VOk else err)

def Library.verify {U V P : Type} (L : Library U V P) (verifyCallback : Option (VerifyCallback U)) (peer : P) :
    Option (CertVerifyCallback V) → Int × Int
  | none => L.x509VerifyCert verifyCallback peer
  | some .certVerifyCallback => certVerifyCallback (L.x509VerifyCert verifyCallback peer)
  | some (.user callback) => L.userVerifyCert callback peer

/-- The verification in a handshake. -/
def Library.verifyPeer {U V P : Type} (L : Library U V P) (side : Side) (mode : SslMode)
    (verifyCallback : Option (VerifyCallback U)) (peer : P) (certVerifyCallback : Option (CertVerifyCallback V)) :
    Option (Int × Int) :=
  if L.presents side mode peer then some (L.verify verifyCallback peer certVerifyCallback) else none

inductive OsslObject where
  | ssl (ssl : Nat)
  | sslCtx (ctx : Nat)

/-- What `SSL_accept` returns for a session, and the session after it. One of which nothing is set accepts. -/
def Ssl.accept {U V P : Type} (L : Library U V P) (s : Ssl U V P)
    (certVerifyCallback : Option (CertVerifyCallback V)) (peer : P) : Int × Ssl U V P :=
  let side := s.state.getD .server
  let verification := L.verifyPeer side s.settings.mode s.settings.verifyCallback peer certVerifyCallback
  let res := L.handshake side s.settings.mode (verification.map Prod.fst) peer
  let handshake :=
    if res = 1 then
      some ⟨side, s.settings.mode, s.settings.verifyCallback, certVerifyCallback, peer, verification,
        (verification.map Prod.snd).getD x509VOk⟩
    else s.handshake
  (res, { s with state := some side, handshake := handshake })

/-- `SSL_set_verify` and `SSL_CTX_set_verify`. Without a callback a session keeps the one it has, a context does
not. -/
def Settings.setVerify {U : Type} (mode : SslMode) (callback : Option (VerifyCallback U)) :
    OsslObject → Settings U → Settings U
  | .ssl _, s => { s with mode := mode, verifyCallback := callback <|> s.verifyCallback }
  | .sslCtx _, s => { s with mode := mode, verifyCallback := callback }

/-- `SSL_use_certificate_ASN1` and `SSL_CTX_use_certificate_ASN1`, when they return `res`: a key that does not
match goes. -/
def Settings.useCertificateAsn1 {U V P : Type} (L : Library U V P) (d : Bytes) (res : Int) (s : Settings U) :
    Settings U :=
  if res = 1 then { s with certificate := some d, privateKey := s.privateKey.filter (L.checkPrivateKey d) } else s

/-- `SSL_use_PrivateKey_ASN1` and `SSL_CTX_use_PrivateKey_ASN1`, when they return `res`. -/
def Settings.usePrivateKeyAsn1 {U : Type} (key : EpvPkey × Bytes) (res : Int) (s : Settings U) : Settings U :=
  if res = 1 then { s with privateKey := some key } else s

/-- What `SSL_use_PrivateKey_ASN1` and `SSL_CTX_use_PrivateKey_ASN1` return when it is `res` but for a key that
does not match. -/
def Settings.privateKeyAnswer {U V P : Type} (L : Library U V P) (settings : Option (Settings U))
    (key : EpvPkey × Bytes) (res : Int) : Int :=
  Openssl.privateKeyAnswer L.checkPrivateKey (settings.bind (·.certificate)) key res

/-- OpenSSL with the objects in it: what may be read of the contexts and the sessions, each by its number in the
order of their making, and the functions that the hook and applications call. -/
class Objects (W : Type) (U V P : outParam Type) where
  ctxs : W → List (SslCtx U V)
  ssls : W → List (Ssl U V P)
  empty : W
  sslCtxNew : W → W
  sslNew : W → Nat → W
  /-- `SSL_set_connect_state` and `SSL_set_accept_state`. -/
  setState : W → Nat → Side → W
  setVerify : W → OsslObject → SslMode → Option (VerifyCallback U) → W
  setCertVerifyCallback : W → Nat → CertVerifyCallback V → W
  /-- When it returns the last. -/
  useCertificateAsn1 : Library U V P → W → OsslObject → Bytes → Int → W
  /-- When it returns the last but for a key that does not match. -/
  usePrivateKeyAsn1 : Library U V P → W → OsslObject → EpvPkey → Bytes → Int → Int × W
  /-- With whom. -/
  sslAccept : Library U V P → W → Nat → P → Int × W

section Functions
variable {W U V P : Type} [Objects W U V P]

namespace Objects

def settings (w : W) : OsslObject → Option (Settings U)
  | .ssl ssl => (ssls w)[ssl]?.map (·.settings)
  | .sslCtx ctx => (ctxs w)[ctx]?.map (·.settings)

/-- The object's own context: `SSL_get_SSL_CTX` of a session. -/
def ctxOf (w : W) : OsslObject → Option Nat
  | .ssl ssl => (ssls w)[ssl]?.map (·.ctx)
  | .sslCtx ctx => some ctx

/-- All that differs is what an object, if it is there, verifies with and attests with. -/
def Sets (w w' : W) (f : Settings U → Settings U) : OsslObject → Prop
  | .ssl ssl => ctxs w' = ctxs w ∧ ssls w' = (ssls w).modify ssl fun s => { s with settings := f s.settings }
  | .sslCtx ctx => ctxs w' = (ctxs w).modify ctx (fun c => { c with settings := f c.settings }) ∧ ssls w' = ssls w

/-- What OpenSSL's functions do. -/
class Lawful (W : Type) {U V P : Type} [Objects W U V P] : Prop where
  ctxs_empty : ctxs (empty : W) = []
  ssls_empty : ssls (empty : W) = []
  ctxs_sslCtxNew (w : W) : ctxs (sslCtxNew w) = ctxs w ++ [⟨.fresh, none⟩]
  ssls_sslCtxNew (w : W) : ssls (sslCtxNew w) = ssls w
  ctxs_sslNew (w : W) (ctx : Nat) : ctxs (sslNew w ctx) = ctxs w
  /-- A session starts with what its context has. -/
  ssls_sslNew (w : W) (ctx : Nat) :
    ssls (sslNew w ctx) = ssls w ++ ((ctxs w)[ctx]?.map fun c => ⟨ctx, c.settings, none, none⟩).toList
  ctxs_setState (w : W) (ssl : Nat) (side : Side) : ctxs (setState w ssl side) = ctxs w
  ssls_setState (w : W) (ssl : Nat) (side : Side) :
    ssls (setState w ssl side) = (ssls w).modify ssl fun s => { s with state := some side }
  setVerify (w : W) (object : OsslObject) (mode : SslMode) (callback : Option (VerifyCallback U)) :
    Sets w (setVerify w object mode callback) (Settings.setVerify mode callback object) object
  ctxs_setCertVerifyCallback (w : W) (ctx : Nat) (callback : CertVerifyCallback V) :
    ctxs (setCertVerifyCallback w ctx callback) =
      (ctxs w).modify ctx fun c => { c with certVerifyCallback := some callback }
  ssls_setCertVerifyCallback (w : W) (ctx : Nat) (callback : CertVerifyCallback V) :
    ssls (setCertVerifyCallback w ctx callback) = ssls w
  useCertificateAsn1 (L : Library U V P) (w : W) (object : OsslObject) (d : Bytes) (res : Int) :
    Sets w (useCertificateAsn1 L w object d res) (Settings.useCertificateAsn1 L d res) object
  usePrivateKeyAsn1 (L : Library U V P) (w : W) (object : OsslObject) (pk : EpvPkey) (d : Bytes) (res : Int) :
    let answer := Settings.privateKeyAnswer L (settings w object) (pk, d) res
    (usePrivateKeyAsn1 L w object pk d res).1 = answer ∧
      Sets w (usePrivateKeyAsn1 L w object pk d res).2 (Settings.usePrivateKeyAsn1 (pk, d) answer) object
  ctxs_sslAccept (L : Library U V P) (w : W) (ssl : Nat) (peer : P) : ctxs (sslAccept L w ssl peer).2 = ctxs w
  /-- What a context has of the verification it has from then on, a session has from its making on. -/
  sslAccept (L : Library U V P) (w : W) (ssl : Nat) (peer : P) (s : Ssl U V P) (hs : (ssls w)[ssl]? = some s) :
    let accepted := s.accept L ((ctxs w)[s.ctx]?.bind (·.certVerifyCallback)) peer
    (sslAccept L w ssl peer).1 = accepted.1 ∧ ssls (sslAccept L w ssl peer).2 = (ssls w).set ssl accepted.2
  sslAccept_none (L : Library U V P) (w : W) (ssl : Nat) (peer : P) (hs : (ssls w)[ssl]? = none) :
    (Objects.sslAccept L w ssl peer).1 = 0 ∧ ssls (Objects.sslAccept L w ssl peer).2 = ssls w

end Objects

/-! ### A store that is nothing but the objects -/

structure World (U V P : Type) where
  ctxs : List (SslCtx U V)
  ssls : List (Ssl U V P)

namespace World
variable {U V P : Type}

def settings (w : World U V P) : OsslObject → Option (Settings U)
  | .ssl ssl => w.ssls[ssl]?.map (·.settings)
  | .sslCtx ctx => w.ctxs[ctx]?.map (·.settings)

def update (w : World U V P) (object : OsslObject) (f : Settings U → Settings U) : World U V P :=
  match object with
  | .ssl ssl => { w with ssls := w.ssls.modify ssl fun s => { s with settings := f s.settings } }
  | .sslCtx ctx => { w with ctxs := w.ctxs.modify ctx fun c => { c with settings := f c.settings } }

instance : Objects (World U V P) U V P where
  ctxs := ctxs
  ssls := ssls
  empty := ⟨[], []⟩
  sslCtxNew w := { w with ctxs := w.ctxs ++ [⟨.fresh, none⟩] }
  sslNew w ctx :=
    { w with ssls := w.ssls ++ (w.ctxs[ctx]?.map fun c => ⟨ctx, c.settings, none, none⟩).toList }
  setState w ssl side := { w with ssls := w.ssls.modify ssl fun s => { s with state := some side } }
  setVerify w object mode callback := w.update object (Settings.setVerify mode callback object)
  setCertVerifyCallback w ctx callback :=
    { w with ctxs := w.ctxs.modify ctx fun c => { c with certVerifyCallback := some callback } }
  useCertificateAsn1 L w object d res := w.update object (Settings.useCertificateAsn1 L d res)
  usePrivateKeyAsn1 L w object pk d res :=
    let res := Settings.privateKeyAnswer L (w.settings object) (pk, d) res
    (res, w.update object (Settings.usePrivateKeyAsn1 (pk, d) res))
  sslAccept L w ssl peer := match w.ssls[ssl]? with
    | none => (0, w)
    | some s =>
      let (res, accepted) := s.accept L (w.ctxs[s.ctx]?.bind (·.certVerifyCallback)) peer
      (res, { w with ssls := w.ssls.set ssl accepted })

theorem settings_eq (w : World U V P) (object : OsslObject) : Objects.settings w object = w.settings object := by
  cases object <;> rfl

theorem sets_update (w : World U V P) (object : OsslObject) (f : Settings U → Settings U) :
    Objects.Sets w (w.update object f) f object := by
  cases object <;> exact ⟨rfl, rfl⟩

instance : Objects.Lawful (World U V P) where
  ctxs_empty := rfl
  ssls_empty := rfl
  ctxs_sslCtxNew _ := rfl
  ssls_sslCtxNew _ := rfl
  ctxs_sslNew _ _ := rfl
  ssls_sslNew _ _ := rfl
  ctxs_setState _ _ _ := rfl
  ssls_setState _ _ _ := rfl
  setVerify w object _ _ := w.sets_update object _
  ctxs_setCertVerifyCallback _ _ _ := rfl
  ssls_setCertVerifyCallback _ _ _ := rfl
  useCertificateAsn1 _ w object _ _ := w.sets_update object _
  usePrivateKeyAsn1 _ w object _ _ _ := by
    rw [settings_eq]
    exact ⟨rfl, w.sets_update object _⟩
  ctxs_sslAccept _ w ssl _ := by
    cases hs : w.ssls[ssl]? <;> simp only [Objects.sslAccept, Objects.ctxs, hs]
  sslAccept _ w ssl _ s hs := by
    change w.ssls[ssl]? = some s at hs
    simp only [Objects.sslAccept, Objects.ctxs, Objects.ssls, hs, and_self]
  sslAccept_none _ w ssl _ hs := by
    change w.ssls[ssl]? = none at hs
    simp only [Objects.sslAccept, Objects.ssls, hs, and_self]

end World

/-! ### OpenSSL's own functions -/

abbrev Hooked (W α : Type) := Proc W Fault α

/-- The names that `init_openssl_ctx` looks up. -/
def OsslCtx.symbols : List String :=
  ["SSL_accept", "SSL_connect", "SSL_set_verify", "SSL_CTX_set_verify", "SSL_CTX_use_certificate_ASN1",
    "SSL_CTX_use_PrivateKey_ASN1", "SSL_use_PrivateKey_ASN1", "SSL_use_certificate_ASN1",
    "SSL_CTX_set_cert_verify_callback"]

/-- Whether `OSSL_CTX` has its functions: if one is not found there are none. -/
def OsslCtx.loaded (dlsym : String → Bool) : Bool := OsslCtx.symbols.all dlsym

/-- A function of `OSSL_CTX` is called, which is unwrapped for that. -/
def call {W α : Type} (loaded : Bool) (function : Hooked W α) : Hooked W α :=
  if loaded then function else throw (.crash .panic)

/-! ### The verifier -/

def isDefault {U : Type} : Option (VerifyCallback U) → Bool
  | some .verifyCertificateDefault => true
  | _ => false

def setupSslVerifier (loaded : Bool) (object : OsslObject) : Hooked W Unit := do
  let w ← get
  match Objects.settings w object, Objects.ctxOf w object with
  | some settings, some ctx =>
    if isDefault settings.verifyCallback then return
    call loaded (modify fun w => Objects.setVerify w object settings.mode (some .verifyCertificateDefault))
    call loaded (modify fun w => Objects.setCertVerifyCallback w ctx .certVerifyCallback)
  | _, _ => return

/-- What the `setup_*_with_openssl_*_obj` return. -/
def setup {W : Type} (result : Hooked W Unit) : Hooked W Int :=
  tryCatch (result >>= fun _ => pure 1) fun
    | .error _ => pure 0
    | .crash crash => throw (.crash crash)

def setupVerifierWithOpensslObj (loaded : Bool) (object : OsslObject) : Hooked W Int :=
  setup (setupSslVerifier loaded object)

/-- `SSL_set_verify` and `SSL_CTX_set_verify`. -/
def setVerify (loaded : Bool) (object : OsslObject) (mode : SslMode) (callback : Option (VerifyCallback U)) :
    Hooked W Unit := do
  call loaded (modify fun w => Objects.setVerify w object mode callback)
  let _ ← setupVerifierWithOpensslObj loaded object

/-- `SSL_CTX_set_cert_verify_callback`, which drops what it is given. -/
def sslCtxSetCertVerifyCallback (loaded : Bool) (ctx : Nat) (_callback : V) : Hooked W Int :=
  setupVerifierWithOpensslObj loaded (.sslCtx ctx)

section Handshakes
variable (L : Library U V P) (loaded : Bool)

/-- `SSL_accept` of OpenSSL. -/
def accept (ssl : Nat) (peer : P) : Hooked W Int := do
  let w ← get
  let (res, w) := Objects.sslAccept L w ssl peer
  set w
  return res

def sslAccept (ssl : Nat) (peer : P) : Hooked W Int := do
  let _ ← setupVerifierWithOpensslObj loaded (.ssl ssl)
  call loaded (accept L ssl peer)

/-- `SSL_connect`, which calls `SSL_accept` too. -/
def sslConnect (ssl : Nat) (peer : P) : Hooked W Int := do
  let _ ← setupVerifierWithOpensslObj loaded (.ssl ssl)
  call loaded (accept L ssl peer)

end Handshakes
end Functions

/-! ### The attester -/

section Attester
variable {X : Externals} {ρ W U V P : Type} [Objects W U V P] (K : KeyCrates X.rsa X.p256 ρ) (L : Library U V P)
  (loaded : Bool)

/-- How the calls of a setup go: what is drawn for the key, what the attester says, what the certificate and the
key are answered with, and the text of OpenSSL's last error. -/
structure SetupAnswers (ρ : Type) where
  rng : ρ
  getEvidence : Bytes → Res AutoEvidence
  useCertificate : Int
  usePrivateKey : Int
  error : String

def epvPkey : AsymmetricPrivateKey X.rsa X.p256 → EpvPkey
  | .rsa2048 _ | .rsa3072 _ | .rsa4096 _ => .rsa
  | .p256 _ => .ec

def useCertificate (object : OsslObject) (cert : Bytes) (answers : SetupAnswers ρ) : Hooked W Unit := do
  call loaded (modify fun w => Objects.useCertificateAsn1 L w object cert answers.useCertificate)
  if answers.useCertificate ≠ 1 then
    throw (.error (.ofMsg s!"Failed to setup certificate: {answers.error}"))

/-- `SSL_use_PrivateKey_ASN1` and `SSL_CTX_use_PrivateKey_ASN1` of OpenSSL. -/
def usePrivateKeyAsn1 (object : OsslObject) (pk : EpvPkey) (d : Bytes) (res : Int) : Hooked W Int := do
  let w ← get
  let (res, w) := Objects.usePrivateKeyAsn1 L w object pk d res
  set w
  return res

def usePrivateKey (object : OsslObject) (epkey : EpvPkey) (pkey : Bytes) (answers : SetupAnswers ρ) :
    Hooked W Unit := do
  let res ← call loaded (usePrivateKeyAsn1 L object epkey pkey answers.usePrivateKey)
  if res ≠ 1 then
    throw (.error (.ofMsg s!"Failed to setup privatekey: {answers.error}"))

def setupSslAttester (object : OsslObject) (answers : SetupAnswers ρ) : Hooked W Unit := do
  let privkey ← Proc.ofExcept (genPrivateKey K answers.rng .rsa2048)
  let bundle ← Proc.ofExcept ((CertBuilder.new answers.getEvidence .sha256).buildWithPrivateKey X privkey)
  let cert ← Proc.ofExcept (bundle.certToDer X)
  let pkey ← Proc.ofExcept (privkey.toPkcs8Der K)
  useCertificate L loaded object cert answers
  usePrivateKey L loaded object (epvPkey privkey) pkey answers

def setupAttesterWithOpensslObj (object : OsslObject) (answers : SetupAnswers ρ) : Hooked W Int :=
  setup (setupSslAttester K L loaded object answers)

/-- What an application brings: the functions `SSL_use_*` and `SSL_CTX_use_*`, each for a session and for a
context. -/
inductive Material where
  | certificate (x : Bytes)
  | certificateAsn1 (d : Bytes)
  | certificateFile (file : String) (type : Int)
  | certificateChainFile (file : String)
  | privateKey (pkey : Bytes)
  | privateKeyAsn1 (pk : Int) (d : Bytes)
  | privateKeyFile (file : String) (type : Int)
  | rsaPrivateKey (rsa : Bytes)
  | rsaPrivateKeyAsn1 (d : Bytes)
  | rsaPrivateKeyFile (file : String) (type : Int)
  | certAndKey (x509 privatekey : Bytes) (chain : List Bytes) (override : Int)

/-- `SSL_use_*` and `SSL_CTX_use_*`: none of them looks at what it is given. -/
def use (object : OsslObject) (_material : Material) (answers : SetupAnswers ρ) : Hooked W Int :=
  setupAttesterWithOpensslObj K L loaded object answers

/-! ### Applications -/

/-- What an application calls, with how the calls of the library go. -/
inductive Event (ρ U V P : Type) where
  | ctxNew
  | new (ctx : Nat)
  | setState (ssl : Nat) (side : Side)
  | setVerify (object : OsslObject) (mode : SslMode) (callback : Option (VerifyCallback U))
  | setCertVerifyCallback (ctx : Nat) (callback : V)
  | use (object : OsslObject) (material : Material) (answers : SetupAnswers ρ)
  | accept (ssl : Nat) (peer : P)
  | connect (ssl : Nat) (peer : P)

def Event.exec : Event ρ U V P → Hooked W Unit
  | ctxNew => modify Objects.sslCtxNew
  | new ctx => modify fun w => Objects.sslNew w ctx
  | setState ssl side => modify fun w => Objects.setState w ssl side
  | setVerify object mode callback => Hook.setVerify loaded object mode callback
  | setCertVerifyCallback ctx callback => do
    let _ ← sslCtxSetCertVerifyCallback loaded ctx callback
  | use object material answers => do
    let _ ← Hook.use K L loaded object material answers
  | accept ssl peer => do
    let _ ← sslAccept L loaded ssl peer
  | connect ssl peer => do
    let _ ← sslConnect L loaded ssl peer

/-- A process ends with a panic, which does not get out of an `extern "C"` function. -/
def step : Option W → Event ρ U V P → Option W
  | none, _ => none
  | some w, event => match (event.exec K L loaded).exec w with
    | (.ok _, w) => some w
    | (.error _, _) => none

def run (events : List (Event ρ U V P)) : Option W :=
  events.foldl (step K L loaded) (some Objects.empty)

end Attester

end RatsRs.Transport.Hook
