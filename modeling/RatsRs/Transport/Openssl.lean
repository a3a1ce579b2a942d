import RatsRs.Cert.Completeness
import RatsRs.Keys
import RatsRs.Lib.Arena
import RatsRs.Lib.Procedure
import RatsRs.Transport.Tls
import RatsRs.Transport.Verifiers

/-! The OpenSSL transports from `build` to `drop`.

`Client` and `Server` hold raw pointers: one to a context, which `build` makes, and one to a session once
`negotiate` has succeeded. OpenSSL is whatever has its functions (`Objects`) and keeps its laws
(`Objects.Lawful`), which are about two arenas of what is behind such pointers (`World`). A session takes its
verification from its context when it is made, and keeps the context until it is freed. Everything that uses
OpenSSL in a process uses one of it, so transports are run together. -/
namespace RatsRs.Transport.Openssl
open Lib Cert Tee

/-! ### OpenSSL -/

structure SslMode where
  bits : BitVec 32
  deriving DecidableEq, Repr

namespace SslMode

def sslVerifyNone : SslMode := ⟨0x00⟩
def sslVerifyPeer : SslMode := ⟨0x01⟩
def sslVerifyFailIfNoPeerCert : SslMode := ⟨0x02⟩

def or (mode other : SslMode) : SslMode := ⟨mode.bits ||| other.bits⟩
def contains (mode other : SslMode) : Bool := mode.bits &&& other.bits == other.bits

end SslMode

inductive EpvPkey where
  | ec
  | rsa
  deriving DecidableEq, Repr

/-- `verify_certificate_default`, or a callback of the application's. -/
inductive VerifyCallback (U : Type) where
  | verifyCertificateDefault
  | user (callback : U)

/-- What a context holds: with what it verifies, and a private key in PKCS#8 and a certificate. -/
structure SslCtx (U : Type) where
  verify : Option (SslMode × VerifyCallback U)
  privateKey : Option (EpvPkey × Bytes)
  certificate : Option Bytes

/-- A session: its context, with what that verified when the session was made, the descriptor, and the peer
once it has shaken hands. -/
structure Ssl (U P : Type) where
  ctx : Nat
  verify : Option (SslMode × VerifyCallback U)
  fd : Option Int32
  peer : Option P

/-- `SSL_connect` and `SSL_accept`: what they return, by what the session verifies with and who is at the other
end of its descriptor; and `X509_check_private_key`. -/
structure Library (U P : Type) where
  connect : Option (SslMode × VerifyCallback U) → P → Int
  accept : Option (SslMode × VerifyCallback U) → P → Int
  checkPrivateKey : Bytes → EpvPkey × Bytes → Bool

/-- What is returned for a key: `res`, but for one that does not match the certificate there is. -/
def privateKeyAnswer (checkPrivateKey : Bytes → EpvPkey × Bytes → Bool) (certificate : Option Bytes)
    (key : EpvPkey × Bytes) (res : Int) : Int :=
  if certificate.all fun certificate => checkPrivateKey certificate key then res else 0

/-- What is behind OpenSSL's pointers: contexts, that count their references, and sessions. -/
structure World (U P : Type) where
  ctxs : Arena (Arena.Counted (SslCtx U))
  sessions : Arena (Ssl U P)

/-- OpenSSL: what is behind its pointers, and whether one was used after it was freed, and the functions that
the transports call. -/
class Objects (W : Type) (U P : outParam Type) where
  world : W → World U P
  empty : W
  /-- That does not return null. -/
  sslCtxNew : W → Nat × W
  sslCtxFree : W → Nat → W
  sslCtxSetVerify : W → Nat → SslMode → VerifyCallback U → W
  /-- When it returns the last. -/
  sslCtxUsePrivateKeyAsn1 : W → EpvPkey → Nat → Bytes → Int → W
  /-- When it returns the last. -/
  sslCtxUseCertificateAsn1 : Library U P → W → Nat → Bytes → Int → W
  /-- Of the context's store. -/
  x509StoreSetExData : W → Nat → W
  /-- That does not return null. -/
  sslNew : W → Nat → Nat × W
  sslFree : W → Nat → W
  /-- When it returns the last. -/
  sslSetFd : W → Nat → Int32 → Int → W
  /-- `SSL_connect` or `SSL_accept`, with whom. -/
  shakeHands : W → (Option (SslMode × VerifyCallback U) → P → Int) → Nat → P → Int × W
  /-- `SSL_write`, `SSL_read`, `SSL_shutdown` and `SSL_get_error`. -/
  useSession : W → Nat → W

section Functions
variable {W U P : Type}

/-- `SSL_CTX_use_PrivateKey_ASN1`, when it returns `res`. -/
def SslCtx.usePrivateKeyAsn1 (key : EpvPkey × Bytes) (res : Int) (c : SslCtx U) : SslCtx U :=
  if res = 1 then { c with privateKey := some key } else c

/-- `SSL_CTX_use_certificate_ASN1`, when it returns `res`: a key that does not match goes. -/
def SslCtx.useCertificateAsn1 (L : Library U P) (d : Bytes) (res : Int) (c : SslCtx U) : SslCtx U :=
  if res = 1 then { c with certificate := some d, privateKey := c.privateKey.filter (L.checkPrivateKey d) } else c

namespace World

def empty : World U P := ⟨.empty, .empty⟩

def sslCtxNew (w : World U P) : Nat × World U P :=
  let (ctx, ctxs) := w.ctxs.alloc ⟨1, none, none, none⟩
  (ctx, { w with ctxs := ctxs })

def sslCtxFree (w : World U P) (ctx : Nat) : World U P := { w with ctxs := w.ctxs.release ctx }

def updateCtx (w : World U P) (ctx : Nat) (f : SslCtx U → SslCtx U) : World U P :=
  { w with ctxs := w.ctxs.updateValue ctx f }

def updateSession (w : World U P) (session : Nat) (f : Ssl U P → Ssl U P) : World U P :=
  { w with sessions := w.sessions.update session f }

def sslNew (w : World U P) (ctx : Nat) : Nat × World U P :=
  let verify := (w.ctxs.get ctx).bind fun c => c.value.verify
  let (session, sessions) := w.sessions.alloc ⟨ctx, verify, none, none⟩
  (session, { ctxs := w.ctxs.retain ctx, sessions := sessions })

def sslFree (w : World U P) (session : Nat) : World U P :=
  let freed := { w with sessions := w.sessions.free session }
  match w.sessions.get session with
  | some ssl => freed.sslCtxFree ssl.ctx
  | none => freed

def shakeHands (w : World U P) (handshake : Option (SslMode × VerifyCallback U) → P → Int) (session : Nat)
    (peer : P) : Int × World U P :=
  let err := handshake ((w.sessions.get session).bind (·.verify)) peer
  (err, w.updateSession session fun s => if err = 1 then { s with peer := some peer } else s)

def useSession (w : World U P) (session : Nat) : World U P := w.updateSession session id

/-- A world is an OpenSSL itself. -/
instance : Objects (World U P) U P where
  world := id
  empty := empty
  sslCtxNew := sslCtxNew
  sslCtxFree := sslCtxFree
  sslCtxSetVerify w ctx mode callback := w.updateCtx ctx fun c => { c with verify := some (mode, callback) }
  sslCtxUsePrivateKeyAsn1 w pk ctx d res := w.updateCtx ctx (SslCtx.usePrivateKeyAsn1 (pk, d) res)
  sslCtxUseCertificateAsn1 L w ctx d res := w.updateCtx ctx (SslCtx.useCertificateAsn1 L d res)
  x509StoreSetExData w ctx := w.updateCtx ctx id
  sslNew := sslNew
  sslFree := sslFree
  sslSetFd w session fd res := w.updateSession session fun s => if res = 1 then { s with fd := some fd } else s
  shakeHands := shakeHands
  useSession := useSession

end World

namespace Objects
variable [Objects W U P]

/-- What `SSL_CTX_use_PrivateKey_ASN1` returns when it is `res` but for a key that does not match. -/
def privateKeyAnswer (L : Library U P) (w : W) (ctx : Nat) (key : EpvPkey × Bytes) (res : Int) : Int :=
  Openssl.privateKeyAnswer L.checkPrivateKey (((world w).ctxs.get ctx).bind fun c => c.value.certificate) key res

/-- What OpenSSL's functions do to what is behind the pointers, and nothing else. -/
class Lawful (W : Type) {U P : Type} [Objects W U P] : Prop where
  empty : world (empty : W) = .empty
  /-- A context is new, with one reference and nothing set. -/
  sslCtxNew (w : W) : (sslCtxNew w).1 = (world w).sslCtxNew.1 ∧ world (sslCtxNew w).2 = (world w).sslCtxNew.2
  /-- With its last reference the context goes. -/
  sslCtxFree (w : W) (ctx : Nat) : world (sslCtxFree w ctx) = (world w).sslCtxFree ctx
  /-- A setter leaves everything else as it is. -/
  sslCtxSetVerify (w : W) (ctx : Nat) (mode : SslMode) (callback : VerifyCallback U) :
    world (sslCtxSetVerify w ctx mode callback) =
      (world w).updateCtx ctx fun c => { c with verify := some (mode, callback) }
  sslCtxUsePrivateKeyAsn1 (w : W) (pk : EpvPkey) (ctx : Nat) (d : Bytes) (res : Int) :
    world (sslCtxUsePrivateKeyAsn1 w pk ctx d res) = (world w).updateCtx ctx (SslCtx.usePrivateKeyAsn1 (pk, d) res)
  sslCtxUseCertificateAsn1 (L : Library U P) (w : W) (ctx : Nat) (d : Bytes) (res : Int) :
    world (sslCtxUseCertificateAsn1 L w ctx d res) = (world w).updateCtx ctx (SslCtx.useCertificateAsn1 L d res)
  x509StoreSetExData (w : W) (ctx : Nat) : world (x509StoreSetExData w ctx) = (world w).updateCtx ctx id
  /-- A session starts with what its context verifies with, and keeps the context. -/
  sslNew (w : W) (ctx : Nat) : (sslNew w ctx).1 = ((world w).sslNew ctx).1 ∧
    world (sslNew w ctx).2 = ((world w).sslNew ctx).2
  /-- It lets go of the context. -/
  sslFree (w : W) (session : Nat) : world (sslFree w session) = (world w).sslFree session
  sslSetFd (w : W) (session : Nat) (fd : Int32) (res : Int) : world (sslSetFd w session fd res) =
    (world w).updateSession session fun s => if res = 1 then { s with fd := some fd } else s
  /-- A handshake is made with what the session verifies with, and leaves that as it is. -/
  shakeHands (w : W) (handshake : Option (SslMode × VerifyCallback U) → P → Int) (session : Nat) (peer : P) :
    (shakeHands w handshake session peer).1 = ((world w).shakeHands handshake session peer).1 ∧
      world (shakeHands w handshake session peer).2 = ((world w).shakeHands handshake session peer).2
  /-- Nothing is changed that is seen here. -/
  useSession (w : W) (session : Nat) : world (useSession w session) = (world w).useSession session

end Objects

instance : Objects.Lawful (World U P) where
  empty := rfl
  sslCtxNew _ := ⟨rfl, rfl⟩
  sslCtxFree _ _ := rfl
  sslCtxSetVerify _ _ _ _ := rfl
  sslCtxUsePrivateKeyAsn1 _ _ _ _ _ := rfl
  sslCtxUseCertificateAsn1 _ _ _ _ _ := rfl
  x509StoreSetExData _ _ := rfl
  sslNew _ _ := ⟨rfl, rfl⟩
  sslFree _ _ := rfl
  sslSetFd _ _ _ _ := rfl
  shakeHands _ _ _ _ := ⟨rfl, rfl⟩
  useSession _ _ := rfl

/-! ### The transports -/

inductive Side where
  | client
  | server
  deriving DecidableEq, Repr

/-- A `Client` or a `Server`, of which the latter has no `attest_self` and always does. -/
structure Endpoint (U : Type) where
  side : Side
  ctx : Nat
  sslSession : Option Nat
  verifyCallback : Option (VerifyCallback U)
  stream : Int32
  attestSelf : Bool

/-- A method of a transport. -/
abbrev Method (U W α : Type) := Proc (Endpoint U × W) Fault α

variable [Objects W U P]

def modifyWorld {W : Type} (f : Endpoint U → W → W) : Method U W Unit :=
  modify fun s => (s.1, f s.1 s.2)

def fail {W α : Type} (kind : ErrorKind) : Method U W α := throw (.error (.ofKind kind))

/-- How the calls of a `negotiate` go: whether `SSL_new` returns null, what `SSL_set_fd` returns, and who is at
the other end. -/
structure NegotiateAnswers (P : Type) where
  sslNew : Bool
  setFd : Int
  peer : P

def setVerify (mode : SslMode) : Method U W Unit := do
  let (self, _) ← get
  match self.verifyCallback with
  | some callback => modifyWorld fun self w => Objects.sslCtxSetVerify w self.ctx mode callback
  | none => pure ()

def newSession (sslNew : Bool) : Method U W Nat := do
  let (self, world) ← get
  if sslNew then
    let (session, world) := Objects.sslNew world self.ctx
    modifyWorld fun self _ => Objects.x509StoreSetExData world self.ctx
    return session
  else fail .osslNoMem

def setFd (session : Nat) (res : Int) : Method U W Unit := do
  modifyWorld fun self w => Objects.sslSetFd w session self.stream res
  if res ≠ 1 then fail .osslSetFdFail

def shakeHands (handshake : Option (SslMode × VerifyCallback U) → P → Int) (session : Nat) (peer : P) :
    Method U W Unit := do
  let (_, world) ← get
  let (err, world) := Objects.shakeHands world handshake session peer
  modifyWorld fun _ _ => world
  if err ≠ 1 then
    -- `SSL_get_error`
    modifyWorld fun _ w => Objects.useSession w session
    fail .osslServerNegotiationFail

/-- `negotiate` of both, by the mode and the function for the handshake. -/
def negotiate (mode : SslMode) (handshake : Option (SslMode × VerifyCallback U) → P → Int)
    (answers : NegotiateAnswers P) : Method U W Unit := do
  setVerify mode
  let session ← newSession answers.sslNew
  setFd session answers.setFd
  shakeHands handshake session answers.peer
  modify fun s => ({ s.1 with sslSession := some session }, s.2)

def Client.mode : SslMode := .sslVerifyPeer

def Client.negotiate (L : Library U P) (answers : NegotiateAnswers P) : Method U W Unit :=
  Openssl.negotiate Client.mode L.connect answers

def Server.mode : SslMode :=
  SslMode.sslVerifyNone.or (SslMode.sslVerifyPeer.or .sslVerifyFailIfNoPeerCert)

def Server.negotiate (L : Library U P) (answers : NegotiateAnswers P) : Method U W Unit :=
  Openssl.negotiate Server.mode L.accept answers

/-- `send`, when `SSL_write` returns `res`. -/
def send (res : Int32) : Method U W Unit := do
  let (self, _) ← get
  match self.sslSession with
  | none => fail .osslCtxOrSessionUninitialized
  | some session =>
    modifyWorld fun _ w => Objects.useSession w session
    if res < 0 then fail .osslSendFail

/-- `receive`, when `SSL_read` returns `res`. -/
def receive (res : Int32) : Method U W Nat := do
  let (self, _) ← get
  match self.sslSession with
  | none => fail .osslCtxOrSessionUninitialized
  | some session =>
    modifyWorld fun _ w => Objects.useSession w session
    if res < 0 then fail .osslReceiveFail
    return res.toInt.toNat

def shutdown : Method U W Unit := do
  let (self, _) ← get
  if let some session := self.sslSession then
    modifyWorld fun _ w => Objects.useSession w session

/-- `Drop`. -/
def Endpoint.drop (self : Endpoint U) (w : W) : W :=
  let w := match self.sslSession with
    | some session => Objects.sslFree w session
    | none => w
  Objects.sslCtxFree w self.ctx

/-! ### Keys and certificates -/

section Keys
variable {rsa : SignatureCrate HashAlgo} {p256 : SignatureCrate Unit} {ρ : Type} (K : KeyCrates rsa p256 ρ)
  (L : Library U P)

/-- PKCS#8 of a key and its kind; `onRsa` is what becomes of the crate's result for RSA. -/
def pkcs8 (onRsa : Except String Bytes → Res Bytes) : AsymmetricPrivateKey rsa p256 → Res (Bytes × EpvPkey)
  | .rsa2048 key | .rsa3072 key | .rsa4096 key => do
    let pkey ← onRsa (K.rsaToPkcs8Der key)
    .ok (pkey, .rsa)
  | .p256 key => do
    let pkey ← Res.ofForeign (K.p256ToPkcs8Der key)
    .ok (pkey, .ec)

/-- The call of `SSL_CTX_use_PrivateKey_ASN1`, when it returns `res` but for a key that does not match. -/
def usePrivateKeyAsn1 (epkey : EpvPkey) (pkey : Bytes) (res : Int) : Method U W Unit := do
  let (self, world) ← get
  let res := Objects.privateKeyAnswer L world self.ctx (epkey, pkey) res
  modifyWorld fun self w => Objects.sslCtxUsePrivateKeyAsn1 w epkey self.ctx pkey res
  if res ≠ 1 then fail .osslUsePrivKeyfail

/-- `use_privkey` of both. -/
def usePrivkey (pkcs8 : Res (Bytes × EpvPkey)) (res : Int) : Method U W Unit := do
  let (pkey, epkey) ← Proc.ofExcept pkcs8
  -- `pkey.as_bytes()[0]`
  if pkey = [] then throw (.crash .panic)
  usePrivateKeyAsn1 L epkey pkey res

def Client.usePrivkey (privkey : AsymmetricPrivateKey rsa p256) (res : Int) : Method U W Unit :=
  Openssl.usePrivkey L (pkcs8 K (fun r => (Res.ofForeign r).mapError fun _ => .ofKind .unknown) privkey) res

def Server.usePrivkey (privkey : AsymmetricPrivateKey rsa p256) (res : Int) : Method U W Unit :=
  Openssl.usePrivkey L (pkcs8 K Res.ofForeign privkey) res

/-- `use_cert`, when `SSL_CTX_use_certificate_ASN1` returns `res`. -/
def useCert (cert : Bytes) (res : Int) : Method U W Unit := do
  modifyWorld fun self w => Objects.sslCtxUseCertificateAsn1 L w self.ctx cert res
  if res ≠ 1 then fail .osslUseCertfail

end Keys
end Functions

/-! ### Building -/

section Build
variable {X : Externals} {ρ W U P : Type} [Objects W U P] (K : KeyCrates X.rsa X.p256 ρ) (L : Library U P)

/-- How the calls of a `build` go: what `OPENSSL_init_ssl` returns, whether `SSL_CTX_new` returns null, what is
drawn for the key, what the attester says, and what the key and the certificate are answered with. -/
structure BuildAnswers (ρ : Type) where
  init : Int
  ctxNew : Bool
  rng : ρ
  getEvidence : Bytes → Res AutoEvidence
  usePrivkey : Int
  useCert : Int

def osslInit (init : Int) : Res Unit :=
  if init < 0 then .error (.error (.ofKind .osslInitializeFail)) else .ok ()

/-- A key and a certificate for it, by the side's `use_privkey`. -/
def attest (usePrivkey : AsymmetricPrivateKey X.rsa X.p256 → Int → Method U W Unit) (answers : BuildAnswers ρ) :
    Method U W Unit := do
  let privkey ← Proc.ofExcept (genPrivateKey K answers.rng .rsa2048)
  usePrivkey privkey answers.usePrivkey
  let bundle ← Proc.ofExcept ((CertBuilder.new answers.getEvidence .sha256).buildWithPrivateKey X privkey)
  let cert ← Proc.ofExcept (bundle.certToDer X)
  useCert L cert answers.useCert

def newCtx (ctxNew : Bool) : Proc W Fault Nat := do
  if ctxNew then
    let (ctx, world) := Objects.sslCtxNew (← get)
    set world
    return ctx
  else throw (.error (.ofKind .osslCtxInitializeFail))

/-- What is still to be done with a transport that is built; it is dropped if that fails. -/
def orDrop (self : Endpoint U) (attested : Method U W Unit) : Proc W Fault (Endpoint U) := do
  let (result, self, world) := attested.exec (self, ← get)
  match result with
  | .ok () => do
    set world
    return self
  | .error e => do
    set (self.drop world)
    throw e

/-- `build` of both. Without a stream there is no transport yet that would be dropped. -/
def build (side : Side) (verifyCallback : Option (VerifyCallback U)) (stream : Option Int32) (attestSelf : Bool)
    (usePrivkey : AsymmetricPrivateKey X.rsa X.p256 → Int → Method U W Unit) (answers : BuildAnswers ρ) :
    Proc W Fault (Endpoint U) := do
  Proc.ofExcept (osslInit answers.init)
  let ctx ← newCtx answers.ctxNew
  match stream with
  | none => throw (.error (.ofKind .osslTlsBuilderStreamUnset))
  | some stream =>
    let attested := if attestSelf then attest K L usePrivkey answers else pure ()
    orDrop ⟨side, ctx, none, verifyCallback, stream, attestSelf⟩ attested

structure TlsClientBuilder (U : Type) where
  verify : Option (VerifyCallback U)
  stream : Option Int32
  attestSelf : Bool

def TlsClientBuilder.build (self : TlsClientBuilder U) (answers : BuildAnswers ρ) :
    Proc W Fault (Endpoint U) :=
  Openssl.build K L .client (some (self.verify.getD .verifyCertificateDefault)) self.stream self.attestSelf
    (Client.usePrivkey K L) answers

structure TlsServerBuilder (U : Type) where
  verify : Option (VerifyCallback U)
  stream : Option Int32
  verifyPeer : Bool

def TlsServerBuilder.build (self : TlsServerBuilder U) (answers : BuildAnswers ρ) :
    Proc W Fault (Endpoint U) :=
  Openssl.build K L .server
    (if self.verifyPeer then if self.verify.isSome then self.verify else some .verifyCertificateDefault else none)
    self.stream true (Server.usePrivkey K L) answers

/-! ### Transports together -/

/-- A call of a method, with how the calls it makes go. -/
inductive Call (X : Externals) (P : Type) where
  | negotiate (answers : NegotiateAnswers P)
  | send (res : Int32)
  | receive (res : Int32)
  | shutdown
  | usePrivkey (privkey : AsymmetricPrivateKey X.rsa X.p256) (res : Int)
  | useCert (cert : Bytes) (res : Int)

def Call.run (side : Side) : Call X P → Method U W Unit
  | negotiate answers => match side with
    | .client => Client.negotiate L answers
    | .server => Server.negotiate L answers
  | send res => Openssl.send res
  | receive res => do
    let _ ← Openssl.receive res
  | shutdown => Openssl.shutdown
  | usePrivkey privkey res => match side with
    | .client => Client.usePrivkey K L privkey res
    | .server => Server.usePrivkey K L privkey res
  | useCert cert res => Openssl.useCert L cert res

/-- The transports there are, and the library they share. -/
structure System (U W : Type) where
  world : W
  endpoints : List (Endpoint U)

def System.empty : System U W := ⟨Objects.empty, []⟩

/-- What a process may do: build a transport, call a method of one, or drop it. -/
inductive Event (X : Externals) (ρ U P : Type) where
  | buildClient (builder : TlsClientBuilder U) (answers : BuildAnswers ρ)
  | buildServer (builder : TlsServerBuilder U) (answers : BuildAnswers ρ)
  | call (i : Nat) (c : Call X P)
  | drop (i : Nat)

namespace System

/-- A transport that was built, if it was, is there. -/
def built (self : System U W) (b : Proc W Fault (Endpoint U)) : System U W :=
  match b.exec self.world with
  | (.ok t, world) => ⟨world, t :: self.endpoints⟩
  | (.error _, world) => ⟨world, self.endpoints⟩

/-- Whatever a call returns, the transport is still there. -/
def step (self : System U W) : Event X ρ U P → System U W
  | .buildClient builder answers => self.built (builder.build K L answers)
  | .buildServer builder answers => self.built (builder.build K L answers)
  | .call i c => match self.endpoints[i]? with
    | some t =>
      let (_, t, world) := (c.run K L t.side).exec (t, self.world)
      ⟨world, self.endpoints.set i t⟩
    | none => self
  | .drop i => match self.endpoints[i]? with
    | some t => ⟨t.drop self.world, self.endpoints.eraseIdx i⟩
    | none => self

def run (events : List (Event X ρ U P)) : System U W := events.foldl (step K L) .empty

end System
end Build

end RatsRs.Transport.Openssl
