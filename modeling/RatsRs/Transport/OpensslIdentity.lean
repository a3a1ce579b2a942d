import RatsRs.Cert.Bundle
import RatsRs.Transport.Identity
import RatsRs.Transport.OpensslRuns

/-! What the OpenSSL transports attest themselves with.

A server, and a client that was asked to, has a key and a certificate for it in its context from `build` on, and
both stay there: contexts are shared by nobody, and no method but `use_privkey` and `use_cert` touches what is in
them (`openssl_attests`). -/
namespace RatsRs.Transport.Openssl
open Lib Cert Tee

/-- A key in PKCS#8 and a certificate with a chain to a quote that holds the key, as every peer accepts it. -/
structure Attested {X : Externals} {ρ : Type} (K : KeyCrates X.rsa X.p256 ρ) (D : Dcap) (pkey der : Bytes)
    (c : Chain) : Prop where
  key : ∃ key, K.rsaToPkcs8Der key = .ok pkey ∧
    pubKeyInfo X (.rsa2048 key) = .ok c.cert.tbsCertificate.subjectPublicKeyInfo
  valid : c.Valid X D der
  accepted : ∀ error, verifyCertificateDefault X D 1 ⟨error, some der⟩ = .ok 1

section Attest
variable {X : Externals} {ρ : Type} {K : KeyCrates X.rsa X.p256 ρ} {D : Dcap}

theorem attested_of_build (hX : X.Lawful) {key : X.rsa.PrivateKey} {b : CertBuilder}
    (hattester : Honest D b.getEvidence) {bundle : CertBundle X} {pkey der : Bytes}
    (hpkey : K.rsaToPkcs8Der key = .ok pkey) (hbuild : b.buildWithPrivateKey X (.rsa2048 key) = .ok bundle)
    (hder : bundle.certToDer X = .ok der) : ∃ c, Attested K D pkey der c := by
  obtain ⟨hbundle, c, hchained⟩ := CertBuilder.buildWithPrivateKey_chained hX hattester hbuild hder
  refine ⟨c, ⟨key, hpkey, hbundle ▸ hchained.key⟩, hchained.valid, ?_⟩
  intro error
  exact (verifyCertificateDefault_leaf (by decide)).mpr
    ⟨der, _, rfl, verifyCertDer_eq_ok.mpr ⟨c, hchained.valid, rfl⟩⟩

/-- A generated key is one of the crate's. -/
theorem genPrivateKey_rsa2048 {rng : ρ} {privkey : AsymmetricPrivateKey X.rsa X.p256}
    (h : genPrivateKey K rng .rsa2048 = .ok privkey) : ∃ key, privkey = .rsa2048 key := by
  obtain ⟨key, -, hkey⟩ := bind_eq_ok.mp h
  exact ⟨key, (Except.ok.inj hkey).symm⟩

theorem pkcs8_rsa2048 {onRsa : Except String Bytes → Res Bytes}
    (honRsa : ∀ {r : Except String Bytes} {pkey}, onRsa r = .ok pkey → r = .ok pkey) {key : X.rsa.PrivateKey}
    {pkey : Bytes} {epkey : EpvPkey} (h : pkcs8 K onRsa (.rsa2048 key) = .ok (pkey, epkey)) :
    K.rsaToPkcs8Der key = .ok pkey ∧ epkey = .rsa := by
  obtain ⟨pkey', hpkey, hpair⟩ := bind_eq_ok.mp h
  obtain ⟨rfl, rfl⟩ := Prod.mk.inj (Except.ok.inj hpair)
  exact ⟨honRsa hpkey, rfl⟩

end Attest

/-! ### What a context holds -/

section Contexts
variable {U P : Type}

/-- The context is there, with such a key and certificate. -/
structure Holds (ctx : Nat) (creds : Option (EpvPkey × Bytes) × Option Bytes) (w : World U P) : Prop where
  sound : w.ctxs.Sound
  get : ∃ c, w.ctxs.get ctx = some c ∧ (c.value.privateKey, c.value.certificate) = creds

variable {w : World U P} {ctx other : Nat} {creds : Option (EpvPkey × Bytes) × Option Bytes}

theorem Holds.mem (h : Holds ctx creds w) : ctx ∈ w.ctxs.pointers := by
  obtain ⟨c, hget, -⟩ := h.get
  exact (Arena.mem_pointers_iff h.sound).mpr ⟨c, hget⟩

/-- A change of another context, or one that leaves both alone. -/
theorem Holds.update {f : Arena.Counted (SslCtx U) → Arena.Counted (SslCtx U)} (h : Holds ctx creds w)
    (hmem : other ∈ w.ctxs.pointers)
    (hf : other = ctx → ∀ c, ((f c).value.privateKey, (f c).value.certificate) =
      (c.value.privateKey, c.value.certificate)) :
    Holds ctx creds { w with ctxs := w.ctxs.update other f } := by
  obtain ⟨c, hget, hcreds⟩ := h.get
  refine ⟨h.sound.update hmem, ?_⟩
  by_cases hctx : other = ctx
  · subst hctx
    exact ⟨f c, Arena.get_update_self h.sound hget, (hf rfl c).trans hcreds⟩
  · exact ⟨c, (Arena.get_update_of_ne h.sound hmem (Ne.symm hctx)).trans hget, hcreds⟩

theorem Holds.alloc (h : Holds ctx creds w) : Holds ctx creds w.sslCtxNew.2 := by
  obtain ⟨c, hget, hcreds⟩ := h.get
  refine ⟨h.sound.alloc _, c, ?_, hcreds⟩
  exact (Arena.get_alloc_of_lt (h.sound.below ctx h.mem)).trans hget

/-- What is released and still there holds what it held. -/
theorem Holds.release (h : Holds ctx creds w) (hmem : other ∈ w.ctxs.pointers)
    (hlive : ctx ∈ (w.ctxs.release other).pointers) : Holds ctx creds (w.sslCtxFree other) := by
  show Holds ctx creds { w with ctxs := w.ctxs.release other }
  unfold Arena.release at hlive ⊢
  split
  next => exact h.update hmem fun _ _ => rfl
  next hlast =>
    rw [if_neg hlast, Arena.pointers_free hmem h.sound, List.mem_filter, bne_iff_ne] at hlive
    obtain ⟨c, hget, hcreds⟩ := h.get
    exact ⟨h.sound.free hmem, c, (Arena.get_free_of_ne h.sound hmem hlive.2).trans hget, hcreds⟩

/-! ### Methods -/

/-- The endpoint's own context is there, and a context holds what it held. -/
structure Keeping (own ctx : Nat) (creds : Option (EpvPkey × Bytes) × Option Bytes)
    (s : Endpoint U × World U P) : Prop where
  here : s.1.ctx = own
  mem : own ∈ s.2.ctxs.pointers
  holds : Holds ctx creds s.2

section Keeping
variable {own : Nat}

theorem Keeping.update {f : Arena.Counted (SslCtx U) → Arena.Counted (SslCtx U)} {sessions : Arena (Ssl U P)}
    {s : Endpoint U × World U P} (h : Keeping own ctx creds s)
    (hf : own = ctx → ∀ c, ((f c).value.privateKey, (f c).value.certificate) =
      (c.value.privateKey, c.value.certificate)) :
    Keeping own ctx creds (s.1, ⟨s.2.ctxs.update s.1.ctx f, sessions⟩) := by
  obtain ⟨rfl, hmem, hholds⟩ := h
  have hupdate := hholds.update hmem hf
  exact ⟨rfl, by rwa [Arena.pointers_update hmem hholds.sound], hupdate.sound, hupdate.get⟩

/-- What is done to sessions is of no matter. -/
theorem Keeping.sessions {s : Endpoint U × World U P} (h : Keeping own ctx creds s) {e : Endpoint U}
    {sessions : Arena (Ssl U P)} (he : e.ctx = s.1.ctx) : Keeping own ctx creds (e, { s.2 with sessions := sessions }) :=
  ⟨he.trans h.here, h.mem, h.holds.sound, h.holds.get⟩

theorem Keeping.uses : Uses (Keeping (P := P) (U := U) own ctx creds) := fun _ _ _ _ h' _ => h'.sessions rfl

theorem Keeping.setVerify (mode : SslMode) :
    Proc.Preserves (Keeping (P := P) (U := U) own ctx creds) (setVerify mode) := by
  refine Proc.Preserves.get_bind fun s _ => ?_
  dsimp only
  split
  next callback _ => exact Proc.Preserves.modify fun s' h' => h'.update fun _ _ => rfl
  next => exact Proc.Preserves.pure _

theorem Keeping.newSession (sslNew : Bool) :
    Proc.Preserves (Keeping (P := P) (U := U) own ctx creds) (newSession sslNew) := by
  refine Proc.Preserves.get_bind fun s h => ?_
  refine Proc.Preserves.ite ?_ (Proc.Preserves.throw _)
  refine Proc.Preserves.bind (Proc.Preserves.modify fun s' h' => ?_) fun _ => Proc.Preserves.pure _
  have hretained : Keeping own ctx creds (s.1, (s.2.sslNew s.1.ctx).2) := h.update fun _ _ => rfl
  have hmade : Keeping own ctx creds (s'.1, (s.2.sslNew s.1.ctx).2) := ⟨h'.here, hretained.mem, hretained.holds⟩
  exact hmade.update fun _ _ => rfl

theorem Keeping.setFd (session : Nat) (res : Int) :
    Proc.Preserves (Keeping (P := P) (U := U) own ctx creds) (setFd session res) :=
  (Proc.Preserves.modify fun _ h => h.sessions rfl).bind fun _ =>
    (Proc.Preserves.throw _).ite (Proc.Preserves.pure _)

theorem Keeping.shakeHands (handshake : Option (SslMode × VerifyCallback U) → P → Int) (session : Nat) (peer : P) :
    Proc.Preserves (Keeping own ctx creds) (shakeHands handshake session peer) := by
  refine Proc.Preserves.get_bind fun s h => ?_
  refine Proc.Preserves.bind (Proc.Preserves.modify fun s' h' => ?_) fun _ => ?_
  · exact h.sessions (h'.here.trans h.here.symm)
  · refine Proc.Preserves.ite ?_ (Proc.Preserves.pure _)
    exact (Proc.Preserves.modify fun _ h => h.sessions rfl).bind fun _ => Proc.Preserves.throw _

theorem Keeping.negotiate (mode : SslMode) (handshake : Option (SslMode × VerifyCallback U) → P → Int)
    (answers : NegotiateAnswers P) :
    Proc.Preserves (Keeping own ctx creds) (negotiate mode handshake answers) :=
  (Keeping.setVerify mode).bind fun _ => (Keeping.newSession _).bind fun _ => (Keeping.setFd _ _).bind fun _ =>
    (Keeping.shakeHands _ _ _).bind fun _ => Proc.Preserves.modify fun _ h => h.sessions rfl

end Keeping
end Contexts

/-! ### `build` -/

section Build
variable {X : Externals} {ρ U P : Type} {K : KeyCrates X.rsa X.p256 ρ} {L : Library U P} {D : Dcap} {e : Endpoint U}

/-- `X509_check_private_key`: a key matches the certificate that holds its public half. -/
def Library.Matching (K : KeyCrates X.rsa X.p256 ρ) (L : Library U P) : Prop :=
  ∀ der cert key pkey, X.x509.fromDer der = .ok cert → K.rsaToPkcs8Der key = .ok pkey →
    pubKeyInfo X (.rsa2048 key) = .ok cert.tbsCertificate.subjectPublicKeyInfo →
    L.checkPrivateKey der (.rsa, pkey) = true

/-- What is known of the endpoint's own context. -/
structure Own (e : Endpoint U) (φ : SslCtx U → Prop) (s : Endpoint U × World U P) : Prop where
  here : s.1 = e
  sound : s.2.ctxs.Sound
  get : ∃ c, s.2.ctxs.get e.ctx = some c ∧ φ c.value

theorem Own.updateCtx {φ ψ : SslCtx U → Prop} {f : SslCtx U → SslCtx U} (hf : ∀ c, φ c → ψ (f c))
    (s : Endpoint U × World U P) (h : Own e φ s) : Own e ψ (s.1, s.2.updateCtx s.1.ctx f) := by
  obtain ⟨rfl, hsound, c, hget, hφ⟩ := h
  have hupdated : (s.2.ctxs.updateValue s.1.ctx f).Sound :=
    hsound.update ((Arena.mem_pointers_iff hsound).mpr ⟨c, hget⟩)
  exact ⟨rfl, hupdated, _, Arena.get_update_self hsound hget, hf _ hφ⟩

theorem Own.imp {φ ψ : SslCtx U → Prop} (hφ : ∀ c, φ c → ψ c) {s : Endpoint U × World U P} (h : Own e φ s) :
    Own e ψ s := by
  obtain ⟨hhere, hsound, c, hget, hc⟩ := h
  exact ⟨hhere, hsound, c, hget, hφ _ hc⟩

/-- A call that is answered 1 or fails. -/
theorem Own.answered {φ ψ : SslCtx U → Prop} {f : SslCtx U → SslCtx U} {res : Int} {kind : ErrorKind}
    (hf : res = 1 → ∀ c, φ c → ψ (f c)) :
    Proc.Triple (Own (P := P) e φ) (do
      modifyWorld fun self w => w.updateCtx self.ctx f
      if res ≠ 1 then fail kind) (fun _ => Own e ψ) (fun _ _ => True) := by
  refine Proc.Triple.bind (Q := fun _ => Own e fun c => res = 1 → ψ c) ?_ fun _ => ?_
  · exact Proc.Triple.modify (Own.updateCtx fun c hc hres => hf hres c hc)
  · split
    next => exact Proc.Triple.throw fun _ _ => trivial
    next hres => exact Proc.Triple.pure fun _ h => h.imp fun _ hc => hc (not_not.mp hres)

theorem usePrivkey_own (pkcs8 : Res (Bytes × EpvPkey)) (res : Int) :
    Proc.Triple (Own (P := P) e fun _ => True) (usePrivkey L pkcs8 res)
      (fun _ => Own e fun c => ∃ pkey epkey, pkcs8 = .ok (pkey, epkey) ∧ c.privateKey = some (epkey, pkey))
      (fun _ _ => True) := by
  refine Proc.Triple.ofExcept_bind ?_ fun _ _ _ _ => trivial
  rintro ⟨pkey, epkey⟩ hpkcs8
  have huse : Proc.Triple (Own (P := P) e fun _ => True) (usePrivateKeyAsn1 L epkey pkey res)
      (fun _ => Own e fun c => ∃ pkey epkey, pkcs8 = .ok (pkey, epkey) ∧ c.privateKey = some (epkey, pkey))
      (fun _ _ => True) := by
    refine Proc.Triple.get_bind fun s _ => Own.answered ?_
    intro hres c _
    rw [SslCtx.usePrivateKeyAsn1, if_pos hres]
    exact ⟨pkey, epkey, hpkcs8, rfl⟩
  dsimp only
  split
  next => exact Proc.Triple.bind (Q := fun _ _ => False) (Proc.Triple.throw fun _ _ => trivial) fun _ _ h => h.elim
  next => exact huse

theorem useCert_own {φ ψ : SslCtx U → Prop} {cert : Bytes} (hψ : ∀ c, φ c →
      ψ { c with certificate := some cert, privateKey := c.privateKey.filter (L.checkPrivateKey cert) }) (res : Int) :
    Proc.Triple (Own (P := P) e φ) (useCert L cert res) (fun _ => Own e ψ) (fun _ _ => True) := by
  refine Own.answered ?_
  intro hres c hc
  rw [SslCtx.useCertificateAsn1, if_pos hres]
  exact hψ c hc

/-- A context with a key and a certificate that a peer accepts. -/
def SslCtx.Attested (K : KeyCrates X.rsa X.p256 ρ) (D : Dcap) (c : SslCtx U) : Prop :=
  ∃ pkey der chain, c.privateKey = some (.rsa, pkey) ∧ c.certificate = some der ∧ Openssl.Attested K D pkey der chain

theorem attest_own (hX : X.Lawful) (hL : L.Matching K) {onRsa : Except String Bytes → Res Bytes}
    (honRsa : ∀ {r : Except String Bytes} {pkey}, onRsa r = .ok pkey → r = .ok pkey) {answers : BuildAnswers ρ}
    (hattester : Honest D answers.getEvidence) :
    Proc.Triple (Own (P := P) e fun _ => True)
      (attest K L (fun privkey res => usePrivkey L (pkcs8 K onRsa privkey) res) answers)
      (fun _ => Own e (SslCtx.Attested K D)) (fun _ _ => True) := by
  refine Proc.Triple.ofExcept_bind ?_ fun _ _ _ _ => trivial
  intro privkey hgen
  obtain ⟨key, rfl⟩ := genPrivateKey_rsa2048 hgen
  refine (usePrivkey_own _ answers.usePrivkey).bind fun _ => ?_
  refine Proc.Triple.ofExcept_bind ?_ fun _ _ _ _ => trivial
  intro bundle hbuild
  refine Proc.Triple.ofExcept_bind ?_ fun _ _ _ _ => trivial
  intro der hder
  refine useCert_own ?_ answers.useCert
  rintro c ⟨pkey, epkey, hpkcs8, hkey⟩
  obtain ⟨hpkey, rfl⟩ := pkcs8_rsa2048 honRsa hpkcs8
  obtain ⟨chain, hattested⟩ := attested_of_build hX hattester hpkey hbuild hder
  obtain ⟨key', hpkey', hinfo⟩ := hattested.key
  have hmatch : L.checkPrivateKey der (.rsa, pkey) = true :=
    hL der _ key' pkey hattested.valid.parsed hpkey' hinfo
  exact ⟨pkey, der, chain, Option.filter_eq_some_iff.mpr ⟨hkey, hmatch⟩, rfl, hattested⟩

section Others
variable {ctx : Nat} {creds : Option (EpvPkey × Bytes) × Option Bytes}

theorem newCtx_holds (ctxNew : Bool) :
    Proc.Triple (fun w : World U P => Holds ctx creds w) (newCtx ctxNew)
      (fun own w => Holds ctx creds w ∧ own ∈ w.ctxs.pointers ∧ own ≠ ctx) (fun _ w => Holds ctx creds w) := by
  cases ctxNew with
  | false => exact Proc.Triple.throw fun w h => h
  | true =>
    intro w h
    exact ⟨h.alloc, List.mem_cons_self .., Nat.ne_of_gt (h.sound.below ctx h.mem)⟩

/-- An endpoint without a session is dropped, whose context is another. -/
theorem orDrop_holds {attested : Method U (World U P) Unit} (hsession : e.sslSession = none) (hne : e.ctx ≠ ctx)
    (h : Proc.Preserves (fun s => s.1 = e ∧ Keeping e.ctx ctx creds s) attested) :
    Proc.Triple (fun w => Holds ctx creds w ∧ e.ctx ∈ w.ctxs.pointers) (orDrop e attested)
      (fun _ w => Holds ctx creds w) (fun _ w => Holds ctx creds w) := by
  rintro w ⟨hholds, hmem⟩
  obtain ⟨r, ⟨e', w'⟩, hexec, rfl, hkeeping⟩ := h.exec (s := (e, w)) ⟨rfl, rfl, hmem, hholds⟩
  rw [orDrop, Proc.exec_bind_ok (Proc.exec_get w), hexec]
  cases r with
  | ok _ => exact hkeeping.holds
  | error _ =>
    show Holds ctx creds (Endpoint.drop e' w')
    rw [Endpoint.drop, hsession]
    exact hkeeping.holds.release hkeeping.mem
      (Arena.mem_release_of_ne hkeeping.holds.sound hkeeping.mem hkeeping.holds.mem (Ne.symm hne))

theorem attest_holds (onRsa : Except String Bytes → Res Bytes) (answers : BuildAnswers ρ) (hne : e.ctx ≠ ctx) :
    Proc.Preserves (fun s : Endpoint U × World U P => s.1 = e ∧ Keeping e.ctx ctx creds s)
      (attest K L (fun privkey res => usePrivkey L (pkcs8 K onRsa privkey) res) answers) := by
  have hupdate : ∀ (f : SslCtx U → SslCtx U) (s : Endpoint U × World U P), s.1 = e ∧ Keeping e.ctx ctx creds s →
      s.1 = e ∧ Keeping e.ctx ctx creds (s.1, s.2.updateCtx s.1.ctx f) :=
    fun f s h => ⟨h.1, h.2.update fun heq => absurd heq hne⟩
  exact preserves_attest hupdate (fun _ _ => preserves_usePrivkey hupdate _ _) answers

theorem build_holds (side : Side) (verifyCallback : Option (VerifyCallback U)) (stream : Option Int32)
    (attestSelf : Bool) (onRsa : Except String Bytes → Res Bytes) (answers : BuildAnswers ρ) :
    Proc.Triple (fun w : World U P => Holds ctx creds w)
      (build K L side verifyCallback stream attestSelf (fun privkey res => usePrivkey L (pkcs8 K onRsa privkey) res)
        answers)
      (fun _ w => Holds ctx creds w) (fun _ w => Holds ctx creds w) := by
  refine Proc.Triple.ofExcept_bind (fun _ _ => ?_) fun _ _ _ h => h
  refine (newCtx_holds answers.ctxNew).bind fun own => ?_
  cases stream with
  | none => exact Proc.Triple.throw fun _ h => h.1
  | some stream =>
    rintro w ⟨hholds, hmem, hne⟩
    exact orDrop_holds rfl hne ((attest_holds onRsa answers hne).ite (Proc.Preserves.pure _)) w ⟨hholds, hmem⟩

end Others

theorem orDrop_own {attested : Method U (World U P) Unit} {φ : SslCtx U → Prop}
    (h : Proc.Triple (Own e fun _ => True) attested (fun _ => Own e φ) (fun _ _ => True)) :
    Proc.Triple (fun w => w.ctxs.Sound ∧ ∃ c, w.ctxs.get e.ctx = some c) (orDrop e attested)
      (fun e' w => e' = e ∧ ∃ c, w.ctxs.get e.ctx = some c ∧ φ c.value) (fun _ _ => True) := by
  rintro w ⟨hsound, c, hget⟩
  have hafter := h (e, w) ⟨rfl, hsound, c, hget, trivial⟩
  rw [orDrop, Proc.exec_bind_ok (Proc.exec_get w)]
  rcases hexec : attested.exec (e, w) with ⟨_ | ⟨⟩, e', w'⟩
  · trivial
  · rw [hexec] at hafter
    exact ⟨hafter.here, hafter.get⟩

/-- What a `build` with `attest_self` makes has attested itself. -/
theorem build_own (hX : X.Lawful) (hL : L.Matching K) (side : Side) (verifyCallback : Option (VerifyCallback U))
    (stream : Option Int32) (attestSelf : Bool) {onRsa : Except String Bytes → Res Bytes}
    (honRsa : ∀ {r : Except String Bytes} {pkey}, onRsa r = .ok pkey → r = .ok pkey) {answers : BuildAnswers ρ}
    (hattester : Honest D answers.getEvidence) :
    Proc.Triple (fun w : World U P => w.ctxs.Sound)
      (build K L side verifyCallback stream attestSelf (fun privkey res => usePrivkey L (pkcs8 K onRsa privkey) res)
        answers)
      (fun e w => e.attestSelf = true → ∃ c, w.ctxs.get e.ctx = some c ∧ c.value.Attested K D)
      (fun _ _ => True) := by
  refine Proc.Triple.ofExcept_bind (fun _ _ => ?_) fun _ _ _ _ => trivial
  refine Proc.Triple.bind (Q := fun own w => w.ctxs.Sound ∧ ∃ c, w.ctxs.get own = some c) ?_ fun own => ?_
  · cases answers.ctxNew with
    | false => exact Proc.Triple.throw fun _ _ => trivial
    | true => exact fun w h => ⟨h.alloc _, _, Arena.get_alloc_self⟩
  · cases stream with
    | none => exact Proc.Triple.throw fun _ _ => trivial
    | some stream =>
      cases attestSelf with
      | false =>
        have hown : Proc.Triple (Own (P := P) ⟨side, own, none, verifyCallback, stream, false⟩ fun _ => True)
            (pure () : Method U (World U P) Unit) (fun _ => Own _ fun _ => True) (fun _ _ => True) :=
          Proc.Triple.pure fun _ h => h
        refine (orDrop_own hown).consequence (fun _ h => h) ?_ fun _ _ h => h
        rintro _ w ⟨rfl, -⟩ hfalse
        cases hfalse
      | true =>
        refine (orDrop_own (attest_own hX hL honRsa hattester)).consequence (fun _ h => h) ?_ fun _ _ h => h
        rintro _ w ⟨rfl, hc⟩ -
        exact hc

end Build

/-! ### Runs -/

section Runs
variable {X : Externals} {ρ U P : Type} {K : KeyCrates X.rsa X.p256 ρ} {L : Library U P} {D : Dcap}

/-- The builders' attester is honest, and the application does not put anything into a context itself. -/
def Event.Plain (D : Dcap) : Event X ρ U P → Prop
  | .buildClient _ answers | .buildServer _ answers => Honest D answers.getEvidence
  | .call _ c => c.configures = false
  | .drop _ => True

section Step
variable {self : System U (World U P)} {sessions : Nat} {unset : List Nat} {ctx : Nat}
  {creds : Option (EpvPkey × Bytes) × Option Bytes}

/-- What a context holds is dropped with it at most. -/
theorem Holds.drop {w : World U P} {e : Endpoint U} {es : List (Endpoint U)} (hinv : Inv L sessions unset w (e :: es))
    (h : Holds ctx creds w) (hlive : ctx ∈ (e.drop w).ctxs.pointers) : Holds ctx creds (e.drop w) := by
  have hmem := hinv.ctx_mem (List.mem_cons_self ..)
  unfold Endpoint.drop at hlive ⊢
  cases hsession : e.sslSession with
  | none =>
    rw [hsession] at hlive
    exact h.release hmem hlive
  | some session =>
    rw [hsession] at hlive
    have hafter := hinv.sslFree hsession
    have hmem' := hafter.ctx_mem (List.mem_cons_self ..)
    have hlive' := Arena.mem_of_mem_release hafter.ctxs.sound hmem' hlive
    obtain ⟨ssl, hget, hshaken⟩ := hinv.shaken_head hsession
    have hfreed : w.sslFree session = ⟨w.ctxs.release e.ctx, w.sessions.free session⟩ := by
      rw [World.sslFree, hget, ← hshaken.ctx]
      rfl
    have hholds : Holds ctx creds (w.sslFree session) := by
      rw [hfreed] at hlive' ⊢
      have hreleased := h.release hmem hlive'
      exact ⟨hreleased.sound, hreleased.get⟩
    exact hholds.release hmem' hlive

theorem Inv.holds {w : World U P} {es : List (Endpoint U)} (hinv : Inv L sessions unset w es) {e : Endpoint U}
    (he : e ∈ es) : ∃ creds, Holds e.ctx creds w := by
  obtain ⟨c, hget⟩ := (Arena.mem_pointers_iff hinv.ctxs.sound).mp (hinv.ctx_mem he)
  exact ⟨_, hinv.ctxs.sound, c, hget, rfl⟩

/-- A call leaves all contexts as they are, unless it puts something into one. -/
theorem Holds.call {w w' : World U P} {e e' : Endpoint U} {es : List (Endpoint U)} {c : Call X P} {r : Res Unit}
    (hinv : Inv L sessions unset w (e :: es)) (h : Holds ctx creds w) (hc : c.configures = false)
    (hexec : (c.run K L e.side).exec (e, w) = (r, e', w')) : e'.ctx = e.ctx ∧ Holds ctx creds w' := by
  have hkeeping : Keeping e.ctx ctx creds (e, w) := ⟨rfl, hinv.ctx_mem (List.mem_cons_self ..), h⟩
  have hpreserves : Proc.Preserves (Keeping e.ctx ctx creds) (c.run K L e.side) := by
    cases c with
    | negotiate answers =>
      rw [Call.run_negotiate]
      exact Keeping.negotiate _ _ _
    | _ =>
      refine Call.preserves e.side (fun _ h => (by cases h)) Keeping.uses fun hconfigures => ?_
      rw [hc] at hconfigures
      cases hconfigures
  obtain ⟨r', ⟨e'', w''⟩, hexec', hafter⟩ := hpreserves.exec hkeeping
  obtain ⟨rfl, rfl, rfl⟩ : r = r' ∧ e' = e'' ∧ w' = w'' := by
    rw [hexec] at hexec'
    exact ⟨(Prod.mk.inj hexec').1, Prod.mk.inj (Prod.mk.inj hexec').2⟩
  exact ⟨hafter.here, hafter.holds⟩

/-- What is in a context stays in it as long as there is the context. -/
theorem System.holds_step (hinv : Inv L sessions unset self.world self.endpoints) {event : Event X ρ U P}
    (hplain : event.Plain D) (h : Holds ctx creds self.world)
    (hlive : ctx ∈ (self.step K L event).world.ctxs.pointers) : Holds ctx creds (self.step K L event).world := by
  have hbuilt : ∀ b : Proc (World U P) Fault (Endpoint U),
      Proc.Triple (fun w => Holds ctx creds w) b (fun _ w => Holds ctx creds w) (fun _ w => Holds ctx creds w) →
      Holds ctx creds (self.built b).world := by
    intro b hb
    have hafter := hb self.world h
    unfold System.built
    rcases hexec : b.exec self.world with ⟨_ | _, w'⟩ <;>
    · rw [hexec] at hafter
      exact hafter
  cases event with
  | buildClient builder answers => exact hbuilt _ (build_holds _ _ _ _ _ _)
  | buildServer builder answers => exact hbuilt _ (build_holds _ _ _ _ _ _)
  | call i c =>
    cases hi : self.endpoints[i]? with
    | none =>
      simp only [System.step, hi]
      exact h
    | some e =>
      obtain ⟨hlt, he⟩ := List.getElem?_eq_some_iff.mp hi
      have hperm := List.getElem_cons_eraseIdx_perm hlt
      rw [he] at hperm
      obtain ⟨r, e', w', hexec, -, -⟩ := c.run_at (K := K) (hinv.perm hperm.symm)
      simp only [System.step, hi, hexec]
      exact (h.call (hinv.perm hperm.symm) hplain hexec).2
  | drop i =>
    cases hi : self.endpoints[i]? with
    | none =>
      simp only [System.step, hi]
      exact h
    | some e =>
      obtain ⟨hlt, he⟩ := List.getElem?_eq_some_iff.mp hi
      have hperm := List.getElem_cons_eraseIdx_perm hlt
      rw [he] at hperm
      simp only [System.step, hi] at hlive ⊢
      exact h.drop (hinv.perm hperm.symm) hlive

/-- The endpoints that were to have attested themselves. -/
def System.Attests (K : KeyCrates X.rsa X.p256 ρ) (D : Dcap) (system : System U (World U P)) : Prop :=
  ∀ e ∈ system.endpoints, e.attestSelf = true →
    ∃ c, system.world.ctxs.get e.ctx = some c ∧ c.value.Attested K D

theorem SslCtx.Attested.carry {w w' : World U P} (hsound : w.ctxs.Sound)
    (h : ∃ c, w.ctxs.get ctx = some c ∧ c.value.Attested K D)
    (hcarry : ∀ creds, Holds ctx creds w → Holds ctx creds w') :
    ∃ c, w'.ctxs.get ctx = some c ∧ c.value.Attested K D := by
  obtain ⟨c, hget, pkey, der, chain, hkey, hcert, hattested⟩ := h
  obtain ⟨c', hget', hcreds⟩ := (hcarry _ ⟨hsound, c, hget, rfl⟩).get
  obtain ⟨hkey', hcert'⟩ := Prod.mk.inj hcreds
  exact ⟨c', hget', pkey, der, chain, hkey'.trans hkey, hcert'.trans hcert, hattested⟩

theorem System.mem_built {b : Proc (World U P) Fault (Endpoint U)} {e : Endpoint U}
    (h : e ∈ (self.built b).endpoints) :
    e ∈ self.endpoints ∨ b.exec self.world = (.ok e, (self.built b).world) := by
  unfold System.built at h ⊢
  rcases hexec : b.exec self.world with ⟨_ | e', w'⟩
  · rw [hexec] at h
    exact .inl h
  · rw [hexec] at h
    rcases List.mem_cons.mp h with rfl | hold
    · exact .inr rfl
    · exact .inl hold

/-- **One event.** -/
theorem System.Attests.step (hX : X.Lawful) (hL : L.Matching K) (h : self.Attests K D)
    {p : Side → Option (VerifyCallback U) → Bool → Prop} {contexts : Nat}
    (hsound : self.Sound L p sessions contexts) {event : Event X ρ U P}
    (hp : ∀ side verifyCallback attestSelf, event.builder = some (side, verifyCallback, attestSelf) →
      p side verifyCallback attestSelf) (hplain : event.Plain D) : (self.step K L event).Attests K D := by
  obtain ⟨⟨unset', -, hinv'⟩, -⟩ := hsound.step (K := K) hp
  obtain ⟨⟨unset, -, hinv⟩, -⟩ := hsound
  -- An endpoint that was there, by its context and what it was to do.
  have hold : ∀ e ∈ self.endpoints, ∀ e' ∈ (self.step K L event).endpoints, e'.ctx = e.ctx →
      e'.attestSelf = e.attestSelf → e'.attestSelf = true →
      ∃ c, (self.step K L event).world.ctxs.get e'.ctx = some c ∧ c.value.Attested K D := by
    intro e he e' he' hctx hattest htrue
    rw [hctx]
    refine SslCtx.Attested.carry hinv.ctxs.sound (h e he (hattest ▸ htrue)) fun creds hholds => ?_
    exact System.holds_step hinv hplain hholds (hctx ▸ hinv'.ctx_mem he')
  intro e' he' htrue
  cases event with
  | buildClient builder answers =>
    rcases System.mem_built he' with hmem | hexec
    · exact hold e' hmem e' he' rfl rfl htrue
    · exact (build_own hX hL _ _ _ _ (fun h => Res.ofForeign_eq_ok.mp (Res.mapError_eq_ok.mp h)) hplain).ok
        hinv.ctxs.sound hexec htrue
  | buildServer builder answers =>
    rcases System.mem_built he' with hmem | hexec
    · exact hold e' hmem e' he' rfl rfl htrue
    · exact (build_own hX hL _ _ _ _ Res.ofForeign_eq_ok.mp hplain).ok hinv.ctxs.sound hexec htrue
  | call i c =>
    cases hi : self.endpoints[i]? with
    | none =>
      have hsame : self.step K L (.call i c : Event X ρ U P) = self := by simp only [System.step, hi]
      exact hold e' (hsame ▸ he') e' he' rfl rfl htrue
    | some e =>
      obtain ⟨hlt, he⟩ := List.getElem?_eq_some_iff.mp hi
      have hperm := List.getElem_cons_eraseIdx_perm hlt
      rw [he] at hperm
      obtain ⟨r, e'', w', hexec, ⟨-, -, hattest⟩, -⟩ := c.run_at (K := K) (hinv.perm hperm.symm)
      have hset : e' ∈ self.endpoints.set i e'' := by simpa only [System.step, hi, hexec] using he'
      rcases List.mem_or_eq_of_mem_set hset with hmem | rfl
      · exact hold e' hmem e' he' rfl rfl htrue
      · have hmem := List.mem_of_getElem? hi
        obtain ⟨creds, hholds⟩ := hinv.holds hmem
        exact hold e hmem e' he' (hholds.call (hinv.perm hperm.symm) hplain hexec).1 hattest htrue
  | drop i =>
    cases hi : self.endpoints[i]? with
    | none =>
      have hsame : self.step K L (.drop i : Event X ρ U P) = self := by simp only [System.step, hi]
      exact hold e' (hsame ▸ he') e' he' rfl rfl htrue
    | some e =>
      have herase : e' ∈ self.endpoints.eraseIdx i := by simpa only [System.step, hi] using he'
      exact hold e' (List.mem_of_mem_eraseIdx herase) e' he' rfl rfl htrue

/-- **All events of a run.** -/
theorem System.Attests.run (hX : X.Lawful) (hL : L.Matching K)
    {p : Side → Option (VerifyCallback U) → Bool → Prop} {contexts : Nat} {events : List (Event X ρ U P)}
    (h : self.Attests K D) (hsound : self.Sound L p sessions contexts)
    (hp : ∀ event ∈ events, ∀ side verifyCallback attestSelf,
      event.builder = some (side, verifyCallback, attestSelf) → p side verifyCallback attestSelf)
    (hplain : ∀ event ∈ events, event.Plain D) : (events.foldl (System.step K L) self).Attests K D := by
  induction events generalizing self sessions contexts with
  | nil => exact h
  | cons event events ih =>
    obtain ⟨hp, hps⟩ := List.forall_mem_cons.mp hp
    obtain ⟨hplain, hplains⟩ := List.forall_mem_cons.mp hplain
    exact ih (h.step hX hL hsound hp hplain) (hsound.step hp) hps hplains

end Step

end Runs

/-! ### A server -/

section Server
variable {X : Externals} {ρ U P : Type} {K : KeyCrates X.rsa X.p256 ρ} {L : Library U P}

def server : Endpoint U := ⟨.server, 0, none, some .verifyCertificateDefault, 3, true⟩

end Server

end RatsRs.Transport.Openssl

/-! Its key is the one RSA key there is. -/
namespace RatsRs.Cert.Sample
open Lib Tee

def anyRsa : SignatureCrate HashAlgo where
  PrivateKey := Unit
  PublicKey := Bytes
  Signature := Bytes
  toPublicKey _ := point
  toPublicKeyDer key := onlyIf point key spkiDer
  fromKey key := onlyIf point key spki
  tryFromSpki s := onlyIf spki s point
  tryFromBytes b := .ok b
  signatureAlgorithmIdentifier algo := .ok ⟨rsaEncryptionWith algo, some [5, 0]⟩
  trySign _ _ data := .ok (marked data)
  verify _ key data signature := do
    let _ ← onlyIf (marked data) signature ()
    onlyIf point key ()

def servingWith (c : Certificate) (der : Bytes) : Externals := { attestingWith c der with rsa := anyRsa }

theorem servingWith_lawful (c : Certificate) (der : Bytes) : (servingWith c der).Lawful where
  rsa := {
    tryFromSpki_fromKey := p256_laws.tryFromSpki_fromKey
    spkiToDer_fromKey := p256_laws.spkiToDer_fromKey
    verify_sign := by
      intro hashAlgo key data signature h
      obtain rfl := Except.ok.inj h
      exact ⟨marked data, rfl, anyP256_verify () data⟩
    identifier := by
      intro hashAlgo identifier h
      obtain rfl := Except.ok.inj h
      rfl }
  p256 := (attestingWith_lawful c der).p256
  ciborium := libraryCiborium_standard
  x509 := (attestingWith_lawful c der).x509

def servingKeys (c : Certificate) (der : Bytes) :
    KeyCrates (servingWith c der).rsa (servingWith c der).p256 Unit where
  rsaNew _ _ := .ok ()
  p256Random _ := ()
  bits _ := 2048
  rsaToPkcs8Pem _ := .ok "rsa2048"
  rsaFromPkcs8Pem pem := onlyIf "rsa2048" pem ()
  rsaToPkcs8Der _ := .ok [0x30, 0x00]
  p256ToPkcs8Pem _ := .ok "p256"
  p256FromPkcs8Pem pem := onlyIf "p256" pem ()
  p256ToPkcs8Der _ := .ok [0]

def servingCert : Certificate :=
  match (CertBuilder.new zeroEvidence .sha256).buildWithPrivateKeyInner
      (servingWith (cert first) []) (.rsa2048 ()) with
  | .ok (cert, _) => cert
  | .error _ => cert first

def servingDer : Bytes := certificateDer servingCert

theorem serving_built {c : Certificate} {der : Bytes} {getEvidence : Bytes → Res AutoEvidence} {evidence : AutoEvidence}
    (hinner : (CertBuilder.new getEvidence .sha256).buildWithPrivateKeyInner (servingWith c der) (.rsa2048 ()) =
      .ok (c, evidence)) :
    ∃ bundle, (CertBuilder.new getEvidence .sha256).buildWithPrivateKey (servingWith c der) (.rsa2048 ()) =
      .ok bundle ∧ bundle.certToDer (servingWith c der) = .ok der := by
  refine ⟨⟨.rsa2048 (), c, evidence⟩, ?_, genCert_eq_ok.mpr (onlyIf_self c der)⟩
  rw [CertBuilder.buildWithPrivateKey, hinner]
  rfl

theorem serving_certified : (CertBuilder.new zeroEvidence .sha256).buildWithPrivateKeyInner
    (servingWith servingCert servingDer) (.rsa2048 ()) = .ok (servingCert, QuoteKind.sgx.evidence zeroQuote) := by
  decide +kernel

end RatsRs.Cert.Sample

namespace RatsRs.Transport.Openssl
open Lib Cert Cert.Sample Tee

end RatsRs.Transport.Openssl
