import RatsRs.Cert.Bundle
import RatsRs.Transport.OpensslIdentity
import RatsRs.Transport.Rustls
import RatsRs.Transport.Verifiers

/-! The rustls transports from `new` on.

`new` makes a configuration: a certificate and its key, for whoever attests himself, and the verifier of the peer.
`negotiate` keeps the stream that rustls hands out, and every other method unwraps it. What is presented is
accepted by every peer (`rustls_attests`), what is kept is with a peer that was accepted
(`rustls_authenticates`), and it is known exactly which calls panic (`rustls_panics_iff`). -/
namespace RatsRs.Transport.Rustls
open Lib Cert Tee

/-! ### Configurations -/

/-- A `ClientConfig` or a `ServerConfig`: a certificate and its key in PKCS#8, and whether the peer is verified. -/
structure Config where
  identity : Option (Bytes × Bytes)
  verifier : Bool
  deriving DecidableEq, Repr

/-- What is drawn for a key, and what the attester says for its certificate. -/
structure Drawn (ρ : Type) where
  rng : ρ
  getEvidence : Bytes → Res AutoEvidence

/-- How the calls of a `new` go: for the certificate that is presented and for the one in the root store, and what
rustls answers. -/
structure NewAnswers (ρ : Type) where
  own : Drawn ρ
  root : Drawn ρ
  withCert : Except String Unit
  rootAdd : Except String Unit
  build : Except String Unit

section New
variable {X : Externals} {ρ : Type} (K : KeyCrates X.rsa X.p256 ρ)

/-- A key and a certificate for it. -/
def certify (drawn : Drawn ρ) : Res (AsymmetricPrivateKey X.rsa X.p256 × Bytes) := do
  let privkey ← genPrivateKey K drawn.rng .rsa2048
  let bundle ← (CertBuilder.new drawn.getEvidence .sha256).buildWithPrivateKey X privkey
  let cert ← bundle.certToDer X
  .ok (privkey, cert)

/-- A certificate and its key in PKCS#8. -/
def identify (drawn : Drawn ρ) : Res (Bytes × Bytes) := do
  let (privkey, cert) ← certify K drawn
  let tmp ← privkey.toPkcs8Der K
  .ok (cert, tmp)

/-- The verifier of rustls that is kept for signatures. Its root store has a certificate only not to be empty. -/
def defaultVerifier (answers : NewAnswers ρ) : Res Unit := do
  let _ ← certify K answers.root
  Res.ofForeign answers.rootAdd
  Res.ofForeign answers.build

/-- `RustlsClient::new`. -/
def newClient (mutal : Bool) (answers : NewAnswers ρ) : Res Config :=
  if mutal then do
    let identity ← identify K answers.own
    Res.ofForeign answers.withCert
    defaultVerifier K answers
    .ok ⟨some identity, true⟩
  else do
    defaultVerifier K answers
    .ok ⟨none, true⟩

/-- `RustlsServer::new`. -/
def newServer (mutal : Bool) (answers : NewAnswers ρ) : Res Config := do
  let identity ← identify K answers.own
  if mutal then do
    defaultVerifier K answers
    Res.ofForeign answers.withCert
    .ok ⟨some identity, true⟩
  else do
    Res.ofForeign answers.withCert
    .ok ⟨some identity, false⟩

/-! ### What is presented -/

variable {K}

/-- A key and a certificate with that key and a chain to a quote, which the verifiers of both sides accept under
whatever name and at whatever time. -/
structure Presentable (K : KeyCrates X.rsa X.p256 ρ) (D : Dcap) (debug : RatsRs.Error → String) (cert pkey : Bytes)
    (c : Chain) : Prop where
  key : ∃ key, K.rsaToPkcs8Der key = .ok pkey ∧
    pubKeyInfo X (.rsa2048 key) = .ok c.cert.tbsCertificate.subjectPublicKeyInfo
  valid : c.Valid X D cert
  byClients : ∀ intermediates serverName ocspResponse now,
    verifyServerCert X D debug cert intermediates serverName ocspResponse now = .ok (.ok ())
  byServers : ∀ intermediates now, verifyClientCert X D debug cert intermediates now = .ok (.ok ())

theorem identify_presentable (hX : X.Lawful) {D : Dcap} (debug : RatsRs.Error → String) {drawn : Drawn ρ}
    (hattester : Honest D drawn.getEvidence) {cert pkey : Bytes} (h : identify K drawn = .ok (cert, pkey)) :
    ∃ c, Presentable K D debug cert pkey c := by
  simp only [identify, certify, bind_eq_ok] at h
  obtain ⟨⟨privkey, cert'⟩, ⟨privkey', hgen, bundle, hbuild, cert'', hder, hpair⟩, pkey', hpkcs8, hidentity⟩ := h
  obtain ⟨rfl, rfl⟩ := Prod.mk.inj (Except.ok.inj hpair)
  obtain ⟨rfl, rfl⟩ := Prod.mk.inj (Except.ok.inj hidentity)
  obtain ⟨key, rfl⟩ := Openssl.genPrivateKey_rsa2048 hgen
  obtain ⟨c, hattested⟩ := Openssl.attested_of_build hX hattester (Res.ofForeign_eq_ok.mp hpkcs8) hbuild hder
  have hverified : ∃ claims, verifyCertDer X D cert'' = .ok claims :=
    ⟨_, verifyCertDer_eq_ok.mpr ⟨c, hattested.valid, rfl⟩⟩
  obtain ⟨-, hserver, hclient, -⟩ := front_ends_strict X D debug
  exact ⟨c, hattested.key, hattested.valid, fun _ _ _ _ => (hserver _ _ _ _ _).mpr hverified,
    fun _ _ => (hclient _ _ _).mpr hverified⟩

/-- Where the attester says nothing there is no certificate. -/
theorem certify_attester {drawn : Drawn ρ} (h : ∀ data evidence, drawn.getEvidence data ≠ .ok evidence)
    {r : AsymmetricPrivateKey X.rsa X.p256 × Bytes} : certify K drawn ≠ .ok r := by
  intro hr
  simp only [certify, CertBuilder.buildWithPrivateKey, CertBuilder.buildWithPrivateKeyInner, bind_eq_ok] at hr
  obtain ⟨_, -, _, ⟨_, ⟨_, -, _, -, _, -, evidence, hevidence, -⟩, -⟩, -⟩ := hr
  exact h _ evidence hevidence

/-- What a client is made of: a root of trust always, and an identity if it is to attest itself. -/
theorem newClient_made {mutal : Bool} {answers : NewAnswers ρ} {config : Config}
    (h : newClient K mutal answers = .ok config) :
    config.verifier = true ∧ defaultVerifier K answers = .ok () ∧
      (mutal = false ∧ config.identity = none ∨
        mutal = true ∧ ∃ cert pkey, identify K answers.own = .ok (cert, pkey) ∧
          config.identity = some (cert, pkey)) := by
  cases mutal with
  | false =>
    obtain ⟨⟨⟩, hverifier, hconfig⟩ := bind_eq_ok.mp h
    obtain rfl := Except.ok.inj hconfig
    exact ⟨rfl, hverifier, .inl ⟨rfl, rfl⟩⟩
  | true =>
    obtain ⟨⟨cert, pkey⟩, hidentify, h⟩ := bind_eq_ok.mp h
    obtain ⟨_, -, h⟩ := bind_eq_ok.mp h
    obtain ⟨⟨⟩, hverifier, hconfig⟩ := bind_eq_ok.mp h
    obtain rfl := Except.ok.inj hconfig
    exact ⟨rfl, hverifier, .inr ⟨rfl, cert, pkey, hidentify, rfl⟩⟩

/-- What a server is made of. -/
theorem newServer_made {mutal : Bool} {answers : NewAnswers ρ} {config : Config}
    (h : newServer K mutal answers = .ok config) :
    config.verifier = mutal ∧ ∃ cert pkey, identify K answers.own = .ok (cert, pkey) ∧
      config.identity = some (cert, pkey) := by
  obtain ⟨⟨cert, pkey⟩, hidentify, h⟩ := bind_eq_ok.mp h
  cases mutal with
  | false =>
    obtain ⟨_, -, hconfig⟩ := bind_eq_ok.mp h
    obtain rfl := Except.ok.inj hconfig
    exact ⟨rfl, cert, pkey, hidentify, rfl⟩
  | true =>
    obtain ⟨_, -, h⟩ := bind_eq_ok.mp h
    obtain ⟨_, -, hconfig⟩ := bind_eq_ok.mp h
    obtain rfl := Except.ok.inj hconfig
    exact ⟨rfl, cert, pkey, hidentify, rfl⟩

/-- **Main theorem.** On a node with an honest attester every server, and every client that is to attest itself,
presents a certificate with its own key that every peer accepts; clients always verify, and servers do if they are
to. Where the attester of a node gives no evidence no client can be made, not even one that attests nothing. -/
theorem rustls_attests (K : KeyCrates X.rsa X.p256 ρ) (hX : X.Lawful) {D : Dcap} (debug : RatsRs.Error → String)
    (mutal : Bool) (answers : NewAnswers ρ) :
    (Honest D answers.own.getEvidence →
      (∀ config, newClient K mutal answers = .ok config → config.verifier = true ∧
        config.identity.isSome = mutal ∧
        ∀ cert pkey, config.identity = some (cert, pkey) → ∃ c, Presentable K D debug cert pkey c) ∧
      ∀ config, newServer K mutal answers = .ok config → config.verifier = mutal ∧
        ∃ cert pkey c, config.identity = some (cert, pkey) ∧ Presentable K D debug cert pkey c) ∧
    ((∀ data evidence, answers.root.getEvidence data ≠ .ok evidence) →
      ∀ config, newClient K mutal answers ≠ .ok config) := by
  refine ⟨fun hattester => ⟨?_, ?_⟩, ?_⟩
  · intro config h
    obtain ⟨hverifier, -, hidentity⟩ := newClient_made h
    refine ⟨hverifier, ?_⟩
    rcases hidentity with ⟨rfl, hnone⟩ | ⟨rfl, cert, pkey, hidentify, hidentity⟩
    · rw [hnone]
      exact ⟨rfl, fun _ _ hidentity => (by cases hidentity)⟩
    · rw [hidentity]
      refine ⟨rfl, fun cert' pkey' hpresented => ?_⟩
      obtain ⟨rfl, rfl⟩ := Prod.mk.inj (Option.some.inj hpresented)
      exact identify_presentable hX debug hattester hidentify
  · intro config h
    obtain ⟨hverifier, cert, pkey, hidentify, hidentity⟩ := newServer_made h
    obtain ⟨c, hpresentable⟩ := identify_presentable hX debug hattester hidentify
    exact ⟨hverifier, cert, pkey, c, hidentity, hpresentable⟩
  · intro hnone config h
    -- the client makes a certificate of its own only to fill a root of trust that it does not use
    obtain ⟨-, hverifier, -⟩ := newClient_made h
    obtain ⟨r, hcertify, -⟩ := bind_eq_ok.mp hverifier
    exact certify_attester hnone hcertify

/-- Everything that is called succeeds. -/
theorem newServer_ok {answers : NewAnswers ρ} {key : X.rsa.PrivateKey} {pkey der : Bytes} {bundle : CertBundle X}
    (hgen : K.rsaNew answers.own.rng 2048 = .ok key) (hpkey : K.rsaToPkcs8Der key = .ok pkey)
    (hbuild : (CertBuilder.new answers.own.getEvidence .sha256).buildWithPrivateKey X (.rsa2048 key) = .ok bundle)
    (hder : bundle.certToDer X = .ok der) (hcert : answers.withCert = .ok ()) :
    newServer K false answers = .ok ⟨some (der, pkey), false⟩ := by
  have hcertify : certify K answers.own = .ok (.rsa2048 key, der) := by
    rw [certify, genPrivateKey, hgen]
    simp only [bind_eq_ok]
    exact ⟨_, ⟨key, rfl, rfl⟩, bundle, hbuild, der, hder, rfl⟩
  have hidentify : identify K answers.own = .ok (der, pkey) :=
    bind_eq_ok.mpr ⟨_, hcertify, bind_eq_ok.mpr ⟨pkey, Res.ofForeign_eq_ok.mpr hpkey, rfl⟩⟩
  exact bind_eq_ok.mpr ⟨_, hidentify, bind_eq_ok.mpr ⟨(), Res.ofForeign_eq_ok.mpr hcert, rfl⟩⟩

end New

/-- The server that attests itself, over rustls. -/
theorem servingServer_presentable : ∃ cert pkey c, Presentable
    (Cert.Sample.servingKeys Cert.Sample.servingCert Cert.Sample.servingDer) Cert.Sample.dcap (fun _ => "") cert pkey
    c := by
  obtain ⟨bundle, hbuild, hder⟩ := Cert.Sample.serving_built Cert.Sample.serving_certified
  let drawn : Drawn Unit := ⟨(), Cert.Sample.zeroEvidence⟩
  have hnew : newServer (Cert.Sample.servingKeys Cert.Sample.servingCert Cert.Sample.servingDer) false
      ⟨drawn, drawn, .ok (), .ok (), .ok ()⟩ = .ok ⟨some (Cert.Sample.servingDer, [0x30, 0x00]), false⟩ :=
    newServer_ok rfl rfl hbuild hder rfl
  obtain ⟨-, cert, pkey, c, -, hpresentable⟩ := ((rustls_attests _
    (Cert.Sample.servingWith_lawful Cert.Sample.servingCert Cert.Sample.servingDer) (fun _ => "") false _).1
      Cert.Sample.zeroEvidence_honest).2 _ hnew
  exact ⟨cert, pkey, c, hpresentable⟩

/-! ### Connections -/

/-- What tokio-rustls does with a configuration and whoever is at the other end; with whom a stream is. -/
structure Tokio (P τ : Type) where
  connect : Config → P → Except String τ
  accept : Config → P → Except String τ
  stream : AsyncWrite τ
  peer : τ → P

/-- A method of a transport, with how the calls of tokio go. The read half is there when the write half is. -/
inductive Call (P : Type) where
  | negotiate (reached : Except String P)
  | send (bytes : Bytes)
  | shutdown (res : Except String Unit)
  | receive (res : Except String Nat)

section Connections
variable {P τ : Type} (T : Tokio P τ) (config : Config)

/-- `shutdown` and `receive` unwrap a half, and hand on what tokio says. -/
def onHalf {α β : Type} (half : Option β) (res : Except String α) : Res Unit :=
  match half with
  | none => .error (.crash .panic)
  | some _ => Res.ofForeign res >>= fun _ => .ok ()

def callClient (self : RustlsClient τ) : Call P → Res Unit × RustlsClient τ
  | .negotiate reached => self.negotiate (reached >>= T.connect config)
  | .send bytes => self.send T.stream bytes
  | .shutdown res => (onHalf self.writer res, self)
  | .receive res => (onHalf self.writer res, self)

/-- A server has its stream from the start. -/
def callServer (self : RustlsServer P τ) : Call P → Res Unit × RustlsServer P τ
  | .negotiate _ => self.negotiate (T.accept config)
  | .send bytes => self.send T.stream bytes
  | .shutdown res => (onHalf self.inner res, self)
  | .receive res => (onHalf self.inner res, self)

def runClient (calls : List (Call P)) : RustlsClient τ :=
  calls.foldl (fun self call => (callClient T config self call).2) ⟨none⟩

def runServer (peer : P) (calls : List (Call P)) : RustlsServer P τ :=
  calls.foldl (fun self call => (callServer T config self call).2) ⟨some peer, none⟩

def Call.isNegotiate : Call P → Bool
  | .negotiate _ => true
  | _ => false

/-- At some point of the run a `negotiate` has returned `Ok`. -/
def Negotiated (result : List (Call P) → Call P → Res Unit) (calls : List (Call P)) : Prop :=
  ∃ before call, before ++ [call] <+: calls ∧ call.isNegotiate = true ∧ result before call = .ok ()

def clientResult (calls : List (Call P)) (call : Call P) : Res Unit :=
  (callClient T config (runClient T config calls) call).1

def serverResult (peer : P) (calls : List (Call P)) (call : Call P) : Res Unit :=
  (callServer T config (runServer T config peer calls) call).1

variable {T config}

theorem negotiated_concat {result : List (Call P) → Call P → Res Unit} {calls : List (Call P)} {call : Call P} :
    Negotiated result (calls ++ [call]) ↔
      Negotiated result calls ∨ (call.isNegotiate = true ∧ result calls call = .ok ()) := by
  constructor
  · rintro ⟨before, call', hprefix, hnegotiate, hok⟩
    obtain heq | hprefix := List.prefix_concat_iff.mp hprefix
    · obtain ⟨rfl, hcall⟩ := List.append_inj' heq rfl
      obtain rfl := List.singleton_inj.mp hcall
      exact .inr ⟨hnegotiate, hok⟩
    · exact .inl ⟨before, call', hprefix, hnegotiate, hok⟩
  · rintro (⟨before, call', hprefix, hnegotiate, hok⟩ | ⟨hnegotiate, hok⟩)
    · exact ⟨before, call', hprefix.trans (List.prefix_append _ _), hnegotiate, hok⟩
    · exact ⟨calls, call, List.prefix_refl _, hnegotiate, hok⟩

theorem not_negotiated_nil {result : List (Call P) → Call P → Res Unit} : ¬ Negotiated result [] := by
  rintro ⟨before, call, hprefix, -⟩
  exact List.append_ne_nil_of_right_ne_nil _ (List.cons_ne_nil _ _) (List.prefix_nil.mp hprefix)

/-- A foreign failure is no panic. -/
theorem onHalf_panics_iff {α β : Type} {half : Option β} {res : Except String α} :
    onHalf half res = .error (.crash .panic) ↔ half = none := by
  cases half with
  | none => exact iff_of_true rfl rfl
  | some _ => cases res <;> simp [onHalf, Res.ofForeign]

theorem writeOnce_not_panic {W : AsyncWrite τ} {writer : τ} {bytes : Bytes} :
    (writeOnce W writer bytes).1 ≠ .error (.crash .panic) := by
  unfold writeOnce
  rcases W.write writer bytes with ⟨_ | n, writer'⟩ <;> simp [Res.ofForeign]

/-! ### Clients -/

/-- **One call of a client.** It panics exactly if it is not `negotiate` and there is no stream, and it leaves a
stream exactly if there was one or it is a `negotiate` that returns `Ok`. -/
theorem callClient_spec (self : RustlsClient τ) (call : Call P) :
    ((callClient T config self call).1 = .error (.crash .panic) ↔ call.isNegotiate = false ∧ self.writer = none) ∧
    ((callClient T config self call).2.writer ≠ none ↔
      self.writer ≠ none ∨ (call.isNegotiate = true ∧ (callClient T config self call).1 = .ok ())) := by
  cases call with
  | negotiate reached =>
    rw [callClient]
    unfold RustlsClient.negotiate
    cases hconnect : reached >>= T.connect config with
    | ok writer => simp [Call.isNegotiate]
    | error e => simp [Call.isNegotiate, Res.ofForeign]
  | send bytes =>
    rw [callClient, RustlsClient.send]
    cases hwriter : self.writer with
    | none => simp [Call.isNegotiate, hwriter]
    | some writer => simp [Call.isNegotiate, writeOnce_not_panic]
  | shutdown res => simp [callClient, Call.isNegotiate, onHalf_panics_iff]
  | receive res => simp [callClient, Call.isNegotiate, onHalf_panics_iff]

theorem runClient_concat (calls : List (Call P)) (call : Call P) :
    runClient T config (calls ++ [call]) = (callClient T config (runClient T config calls) call).2 := by
  rw [runClient, List.foldl_append]
  rfl

theorem runClient_writer (calls : List (Call P)) :
    (runClient T config calls).writer ≠ none ↔ Negotiated (clientResult T config) calls := by
  induction calls using List.reverseRecOn with
  | nil => exact iff_of_false (fun h => h rfl) not_negotiated_nil
  | append_singleton calls call ih =>
    rw [runClient_concat, (callClient_spec _ call).2, negotiated_concat, ih]
    rfl

/-! ### Servers -/

/-- **One call of a server.** Its `negotiate` takes the stream there is, and panics without one. -/
theorem callServer_spec (self : RustlsServer P τ) (call : Call P) :
    ((callServer T config self call).1 = .error (.crash .panic) ↔
      (call.isNegotiate = true ∧ self.stream = none) ∨ (call.isNegotiate = false ∧ self.inner = none)) ∧
    ((callServer T config self call).2.stream = none ↔ self.stream = none ∨ call.isNegotiate = true) ∧
    ((callServer T config self call).2.inner ≠ none ↔
      self.inner ≠ none ∨ (call.isNegotiate = true ∧ (callServer T config self call).1 = .ok ())) := by
  cases call with
  | negotiate reached =>
    rw [callServer, RustlsServer.negotiate]
    cases hstream : self.stream with
    | none => simp [Call.isNegotiate, hstream]
    | some stream =>
      dsimp only
      cases haccept : T.accept config stream with
      | ok writer => simp [Call.isNegotiate]
      | error e => simp [Call.isNegotiate, Res.ofForeign]
  | send bytes =>
    rw [callServer, RustlsServer.send]
    cases hinner : self.inner with
    | none => simp [Call.isNegotiate, hinner]
    | some inner => simp [Call.isNegotiate, writeOnce_not_panic]
  | shutdown res => simp [callServer, Call.isNegotiate, onHalf_panics_iff]
  | receive res => simp [callServer, Call.isNegotiate, onHalf_panics_iff]

theorem runServer_concat (peer : P) (calls : List (Call P)) (call : Call P) :
    runServer T config peer (calls ++ [call]) = (callServer T config (runServer T config peer calls) call).2 := by
  rw [runServer, List.foldl_append]
  rfl

theorem runServer_stream (peer : P) (calls : List (Call P)) :
    (runServer T config peer calls).stream = none ↔ ∃ call ∈ calls, call.isNegotiate = true := by
  induction calls using List.reverseRecOn with
  | nil => simp [runServer]
  | append_singleton calls call ih =>
    rw [runServer_concat, (callServer_spec _ call).2.1, ih]
    simp [or_and_right, exists_or]

theorem runServer_inner (peer : P) (calls : List (Call P)) :
    (runServer T config peer calls).inner ≠ none ↔ Negotiated (serverResult T config peer) calls := by
  induction calls using List.reverseRecOn with
  | nil => exact iff_of_false (fun h => h rfl) not_negotiated_nil
  | append_singleton calls call ih =>
    rw [runServer_concat, (callServer_spec _ call).2.2, negotiated_concat, ih]
    rfl

/-- **Main theorem.** After any calls, a call of a client panics if and only if it is not `negotiate` and no
`negotiate` has returned `Ok` yet. A call of a server panics if and only if that holds, or it is a `negotiate` and
not the first one, whatever became of the first. -/
theorem rustls_panics_iff (T : Tokio P τ) (config : Config) (peer : P) (calls : List (Call P)) (call : Call P) :
    (clientResult T config calls call = .error (.crash .panic) ↔
      call.isNegotiate = false ∧ ¬ Negotiated (clientResult T config) calls) ∧
    (serverResult T config peer calls call = .error (.crash .panic) ↔
      (call.isNegotiate = true ∧ ∃ call' ∈ calls, call'.isNegotiate = true) ∨
      (call.isNegotiate = false ∧ ¬ Negotiated (serverResult T config peer) calls)) := by
  constructor
  · rw [clientResult, (callClient_spec _ call).1, ← runClient_writer, not_not]
  · rw [serverResult, (callServer_spec _ call).1, ← runServer_inner, not_not, runServer_stream]

/-! ### With whom -/

/-- What rustls promises of a stream it hands out: it is with whoever was at the other end, and a verifier that is
configured was asked about the certificate it has presented. -/
structure Tokio.Verifying (X : Externals) (D : Dcap) (debug : RatsRs.Error → String)
    (presents : P → Option (Bytes × List Bytes)) (T : Tokio P τ) : Prop where
  connect : ∀ config peer t, T.connect config peer = .ok t → T.peer t = peer ∧
    (config.verifier = true → ∃ leaf intermediates serverName ocspResponse now,
      presents peer = some (leaf, intermediates) ∧
      verifyServerCert X D debug leaf intermediates serverName ocspResponse now = .ok (.ok ()))
  accept : ∀ config peer t, T.accept config peer = .ok t → T.peer t = peer ∧
    (config.verifier = true → ∃ leaf intermediates now, presents peer = some (leaf, intermediates) ∧
      verifyClientCert X D debug leaf intermediates now = .ok (.ok ()))
  write : ∀ t bytes, T.peer (T.stream.write t bytes).2 = T.peer t

/-- The peer has presented a certificate with a chain to a quote. -/
def Vouched (X : Externals) (D : Dcap) (presents : P → Option (Bytes × List Bytes)) (peer : P) : Prop :=
  ∃ leaf intermediates c, presents peer = some (leaf, intermediates) ∧ Chain.Valid X D leaf c

section Authenticated
variable {X : Externals} {D : Dcap} {debug : RatsRs.Error → String} {presents : P → Option (Bytes × List Bytes)}

theorem Tokio.Verifying.vouched_connect (hT : T.Verifying X D debug presents) (hverifier : config.verifier = true)
    {peer : P} {t : τ} (h : T.connect config peer = .ok t) : Vouched X D presents (T.peer t) := by
  obtain ⟨rfl, hverified⟩ := hT.connect _ _ _ h
  obtain ⟨leaf, intermediates, serverName, ocspResponse, now, hpresents, hok⟩ := hverified hverifier
  obtain ⟨claims, hclaims⟩ := ((front_ends_strict X D debug).2.1 _ _ _ _ _).mp hok
  obtain ⟨c, hvalid, -⟩ := verifyCertDer_eq_ok.mp hclaims
  exact ⟨leaf, intermediates, c, hpresents, hvalid⟩

theorem Tokio.Verifying.vouched_accept (hT : T.Verifying X D debug presents) (hverifier : config.verifier = true)
    {peer : P} {t : τ} (h : T.accept config peer = .ok t) : Vouched X D presents (T.peer t) := by
  obtain ⟨rfl, hverified⟩ := hT.accept _ _ _ h
  obtain ⟨leaf, intermediates, now, hpresents, hok⟩ := hverified hverifier
  obtain ⟨claims, hclaims⟩ := ((front_ends_strict X D debug).2.2.1 _ _ _).mp hok
  obtain ⟨c, hvalid, -⟩ := verifyCertDer_eq_ok.mp hclaims
  exact ⟨leaf, intermediates, c, hpresents, hvalid⟩

theorem writeOnce_peer (hT : T.Verifying X D debug presents) (writer : τ) (bytes : Bytes) :
    T.peer (writeOnce T.stream writer bytes).2 = T.peer writer := hT.write writer bytes

theorem callClient_vouched (hT : T.Verifying X D debug presents) (hverifier : config.verifier = true)
    {self : RustlsClient τ} (h : ∀ t, self.writer = some t → Vouched X D presents (T.peer t)) (call : Call P) :
    ∀ t, (callClient T config self call).2.writer = some t → Vouched X D presents (T.peer t) := by
  intro t ht
  cases call with
  | negotiate reached =>
    rw [callClient] at ht
    unfold RustlsClient.negotiate at ht
    cases hconnect : reached >>= T.connect config with
    | ok writer =>
      rw [hconnect] at ht
      obtain rfl := Option.some.inj ht
      obtain ⟨peer, -, hok⟩ := bind_eq_ok.mp hconnect
      exact hT.vouched_connect hverifier hok
    | error e =>
      rw [hconnect] at ht
      exact h t ht
  | send bytes =>
    rw [callClient, RustlsClient.send] at ht
    cases hwriter : self.writer with
    | none =>
      rw [hwriter] at ht
      exact h t ht
    | some writer =>
      rw [hwriter] at ht
      obtain rfl := Option.some.inj ht
      rw [writeOnce_peer hT]
      exact h writer hwriter
  | shutdown res => exact h t ht
  | receive res => exact h t ht

theorem callServer_vouched (hT : T.Verifying X D debug presents) (hverifier : config.verifier = true)
    {self : RustlsServer P τ} (h : ∀ inner, self.inner = some inner → Vouched X D presents (T.peer inner.writer))
    (call : Call P) :
    ∀ inner, (callServer T config self call).2.inner = some inner → Vouched X D presents (T.peer inner.writer) := by
  intro inner hinner
  cases call with
  | negotiate reached =>
    rw [callServer, RustlsServer.negotiate] at hinner
    cases hstream : self.stream with
    | none =>
      rw [hstream] at hinner
      exact h inner hinner
    | some stream =>
      rw [hstream] at hinner
      dsimp only at hinner
      cases haccept : T.accept config stream with
      | ok writer =>
        rw [haccept] at hinner
        obtain rfl := Option.some.inj hinner
        exact hT.vouched_accept hverifier haccept
      | error e =>
        rw [haccept] at hinner
        exact h inner hinner
  | send bytes =>
    rw [callServer, RustlsServer.send] at hinner
    cases hself : self.inner with
    | none =>
      rw [hself] at hinner
      exact h inner (hself ▸ hinner)
    | some inner' =>
      rw [hself] at hinner
      obtain rfl := Option.some.inj hinner
      rw [writeOnce_peer hT]
      exact h inner' hself
  | shutdown res => exact h inner hinner
  | receive res => exact h inner hinner

/-- **Main theorem.** Whatever was called on a client, or on a server that verifies, and with whatever outcomes: a
stream that it has is with a peer whose certificate leads to a quote. -/
theorem rustls_authenticates (hT : T.Verifying X D debug presents) (hverifier : config.verifier = true) (peer : P)
    (calls : List (Call P)) :
    (∀ t, (runClient T config calls).writer = some t → Vouched X D presents (T.peer t)) ∧
    ∀ inner, (runServer T config peer calls).inner = some inner → Vouched X D presents (T.peer inner.writer) := by
  induction calls using List.reverseRecOn with
  | nil => exact ⟨fun _ h => (by cases h), fun _ h => (by cases h)⟩
  | append_singleton calls call ih =>
    rw [runClient_concat, runServer_concat]
    exact ⟨callClient_vouched hT hverifier ih.1 call, callServer_vouched hT hverifier ih.2 call⟩

end Authenticated
end Connections

/-! ### A client that negotiates -/

section Sample
variable (X : Externals) (D : Dcap) (debug : RatsRs.Error → String)

/-- A handshake with whoever presents such a certificate, if there is one. -/
def shake (config : Config) (peer : Option Bytes) : Except String (Option Bytes × Bytes) :=
  match peer with
  | some leaf =>
    if config.verifier ∧ verifyServerCert X D debug leaf [] "" [] 0 ≠ .ok (.ok ()) then .error "invalid certificate"
    else .ok (peer, [])
  | none => if config.verifier then .error "no certificate" else .ok (peer, [])

/-- A stream keeps what is written, and takes all of it. -/
def Tokio.careful : Tokio (Option Bytes) (Option Bytes × Bytes) where
  connect := shake X D debug
  accept := shake X D debug
  stream := {
    write := fun t buf => (.ok buf.length, (t.1, t.2 ++ buf))
    accepted := fun t => t.2
    write_ok := by
      intro t buf n t' h
      obtain ⟨hn, rfl⟩ := Prod.mk.inj h
      obtain rfl := Except.ok.inj hn
      exact ⟨Nat.le_refl _, by rw [List.take_length]⟩
    write_error := by
      intro t buf e t' h
      cases (Prod.mk.inj h).1 }
  peer t := t.1

variable {X D debug}

theorem shake_eq_ok {config : Config} {peer : Option Bytes} {t : Option Bytes × Bytes}
    (h : shake X D debug config peer = .ok t) : t.1 = peer ∧
      (config.verifier = true → ∃ leaf, peer = some leaf ∧
        verifyServerCert X D debug leaf [] "" [] 0 = .ok (.ok ())) := by
  unfold shake at h
  cases peer with
  | some leaf =>
    dsimp only at h
    split at h
    next => cases h
    next hverified =>
      obtain rfl := Except.ok.inj h
      exact ⟨rfl, fun hverifier => ⟨leaf, rfl, not_not.mp fun hno => hverified ⟨hverifier, hno⟩⟩⟩
  | none =>
    dsimp only at h
    split at h
    next => cases h
    next hverifier =>
      obtain rfl := Except.ok.inj h
      exact ⟨rfl, fun hyes => absurd hyes hverifier⟩

theorem Tokio.careful_verifying :
    (Tokio.careful X D debug).Verifying X D debug fun peer => peer.map fun leaf => (leaf, []) where
  connect config peer t h := by
    obtain ⟨hpeer, hverified⟩ := shake_eq_ok h
    refine ⟨hpeer, fun hverifier => ?_⟩
    obtain ⟨leaf, rfl, hok⟩ := hverified hverifier
    exact ⟨leaf, [], "", [], 0, rfl, hok⟩
  accept config peer t h := by
    obtain ⟨hpeer, hverified⟩ := shake_eq_ok h
    refine ⟨hpeer, fun hverifier => ?_⟩
    obtain ⟨leaf, rfl, hok⟩ := hverified hverifier
    exact ⟨leaf, [], 0, rfl, hok⟩
  write t bytes := rfl

/-- It negotiates, and sends. -/
theorem runClient_careful {config : Config} {leaf bytes : Bytes} {claims : Claims}
    (h : verifyCertDer X D leaf = .ok claims) :
    (runClient (Tokio.careful X D debug) config [.negotiate (.ok (some leaf)), .send bytes]).writer =
      some (some leaf, bytes) := by
  have hok : verifyServerCert X D debug leaf [] "" [] 0 = .ok (.ok ()) :=
    ((front_ends_strict X D debug).2.1 _ _ _ _ _).mpr ⟨claims, h⟩
  have hshake : shake X D debug config (some leaf) = .ok (some leaf, []) := if_neg fun hno => hno.2 hok
  have hnegotiate : (callClient (Tokio.careful X D debug) config ⟨none⟩ (.negotiate (.ok (some leaf)))).2 =
      ⟨some (some leaf, [])⟩ := by
    show (RustlsClient.negotiate ⟨none⟩ (shake X D debug config (some leaf))).2 = _
    rw [hshake]
    rfl
  rw [runClient, List.foldl_cons, hnegotiate]
  rfl

end Sample

/-- With the sample's certificate. -/
theorem sample_vouched : Vouched Cert.Sample.externals Cert.Sample.dcap (fun peer : Option Bytes =>
    peer.map fun leaf => (leaf, [])) (some Cert.Sample.firstDer) := by
  let T := Tokio.careful Cert.Sample.externals Cert.Sample.dcap fun _ => ""
  have hclient : (runClient T ⟨none, true⟩ [.negotiate (.ok (some Cert.Sample.firstDer)), .send [1, 2, 3]]).writer =
      some (some Cert.Sample.firstDer, [1, 2, 3]) := runClient_careful Cert.Sample.verify_firstDer
  have hT : T.Verifying Cert.Sample.externals Cert.Sample.dcap (fun _ => "")
      fun peer => peer.map fun leaf => (leaf, []) := Tokio.careful_verifying
  exact (rustls_authenticates hT rfl none _).1 _ hclient

end RatsRs.Transport.Rustls
