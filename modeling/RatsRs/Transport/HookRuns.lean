import RatsRs.Transport.HookProofs

/-! Runs of an application over the hook.

Whatever the application asks for, a session that has shaken hands under a mode that verifies is with a peer that
has attested itself (`hook_verifies`), and what contexts and sessions attest with is the hook's (`hook_attests`).
The modes stay the application's, and so does it whether a session connects: `SSL_connect` does not see to that
(`hook_keeps_modes`). -/
namespace RatsRs.Transport.Hook
open Lib Cert Tee
open Openssl (SslMode VerifyCallback EpvPkey Side StoreCtx Attested verifyCertificateDefault verification answers)

section Runs
variable {X : Externals} {ρ W U V P : Type} [Objects W U V P] [Objects.Lawful W] {K : KeyCrates X.rsa X.p256 ρ}
  {L : Library U V P} {loaded : Bool} {w w' : W} {object : OsslObject}

/-! ### Whom a session is with -/

/-- The modes under which OpenSSL insists on a peer that verifies. -/
structure Demanding (side : Side) (mode : SslMode) : Prop where
  verifyPeer : mode.contains .sslVerifyPeer = true
  fail : side = .server → mode.contains .sslVerifyFailIfNoPeerCert = true

/-- What OpenSSL promises of a handshake. `presents` is what a peer sends when it presents a certificate: what
OpenSSL itself finds wrong with it, and the leaf. -/
structure Library.Verifying (X : Externals) (D : Dcap) (presents : P → Option (List StoreCtx × StoreCtx))
    (L : Library U V P) : Prop where
  handshake : ∀ side mode verified peer, Demanding side mode → L.handshake side mode verified peer = 1 →
    ∃ res, verified = some res ∧ 0 < res
  presented : ∀ side mode peer, L.presents side mode peer = true → (presents peer).isSome = true
  x509VerifyCert : ∀ peer reports leaf, presents peer = some (reports, leaf) →
    0 < (L.x509VerifyCert (some .verifyCertificateDefault) peer).1 →
    ∀ answer ∈ answers X D (verification reports leaf), answer = .ok 1

/-- What the peer presents leads to a quote, and nothing is wrong with it but that it signs itself. -/
structure Verified (X : Externals) (D : Dcap) (presented : List StoreCtx × StoreCtx) (der : Bytes) (c : Chain) :
    Prop where
  leaf : presented.2.currentCert = some der
  reports : ∀ ctx ∈ presented.1, ctx.error = Openssl.x509VErrDepthZeroSelfSignedCert
  valid : c.Valid X D der

/-- `cert_verify_callback` returns what `X509_verify_cert` does. -/
theorem verify_of_hooked {verifyCallback : Option (VerifyCallback U)} {peer : P}
    {callback : Option (CertVerifyCallback V)} (h : ∀ c, callback = some c → c = .certVerifyCallback) :
    (L.verify verifyCallback peer callback).1 = (L.x509VerifyCert verifyCallback peer).1 := by
  cases callback with
  | none => rfl
  | some c =>
    obtain rfl := h c rfl
    rfl

theorem Handshake.Sound.verified {D : Dcap} {presents : P → Option (List StoreCtx × StoreCtx)}
    (hL : L.Verifying X D presents) {connects : Prop} {h : Handshake U V P} (hsound : h.Sound L loaded connects)
    (hdemanding : Demanding h.side h.mode) :
    ∃ presented der c, presents h.peer = some presented ∧ Verified X D presented der c := by
  obtain ⟨res, hverified, hpositive⟩ := hL.handshake _ _ _ _ hdemanding hsound.accepted
  rw [hsound.verification, Option.map_eq_some_iff] at hverified
  obtain ⟨_, hverification, rfl⟩ := hverified
  obtain ⟨hpresents, hverify⟩ := Option.ite_none_right_eq_some.mp hverification
  obtain rfl := Option.some.inj hverify
  obtain ⟨⟨reports, leaf⟩, hpresented⟩ := Option.isSome_iff_exists.mp (hL.presented _ _ _ hpresents)
  rw [verify_of_hooked hsound.certVerifyCallback, hsound.verifyCallback] at hpositive
  obtain ⟨⟨der, claims, hder, hverified⟩, hreports⟩ :=
    Openssl.verification_accepts.mp (hL.x509VerifyCert _ _ _ hpresented hpositive)
  obtain ⟨c, hvalid, -⟩ := verifyCertDer_eq_ok.mp hverified
  exact ⟨_, der, c, hpresented, hder, hreports, hvalid⟩

/-- `X509_check_private_key`: a key that matches a certificate is the one it holds. -/
def Library.Matching (K : KeyCrates X.rsa X.p256 ρ) (L : Library U V P) : Prop :=
  ∀ der cert key pkey, X.x509.fromDer der = .ok cert → K.rsaToPkcs8Der key = .ok pkey →
    L.checkPrivateKey der (.rsa, pkey) = true →
    pubKeyInfo X (.rsa2048 key) = .ok cert.tbsCertificate.subjectPublicKeyInfo

/-- A certificate is one that the hook has had made, a key is one that it has drawn, and they match. -/
structure Settings.Own (K : KeyCrates X.rsa X.p256 ρ) (L : Library U V P) (D : Dcap) (s : Settings U) : Prop where
  certificate : ∀ der, s.certificate = some der → ∃ c : Chain, c.Valid X D der
  privateKey : ∀ key, s.privateKey = some key → ∃ k pkey, key = (.rsa, pkey) ∧ K.rsaToPkcs8Der k = .ok pkey
  matched : ∀ der key, s.certificate = some der → s.privateKey = some key → L.checkPrivateKey der key = true

theorem Settings.Own.kept {D : Dcap} (hX : X.Lawful) {event : Event ρ U V P}
    (hhonest : ∀ object material answers, event = .use object material answers → Honest D answers.getEvidence) :
    Kept K L loaded (Settings.Own K L D) event where
  verify _ s mode callback h := ⟨h.certificate, h.privateKey, h.matched⟩
  certificate object material answers hevent _ cert epkey pkey hmade s h := by
    obtain ⟨key, bundle, -, hbuild, hder, hpkey⟩ := hmade
    obtain ⟨c, hattested⟩ := Openssl.attested_of_build hX (hhonest _ _ _ hevent) hpkey hbuild hder
    refine ⟨?_, ?_, ?_⟩
    · intro der hcertificate
      obtain rfl := Option.some.inj hcertificate
      exact ⟨c, hattested.valid⟩
    · intro key' hkey'
      exact h.privateKey key' (Option.filter_eq_some_iff.mp hkey').1
    · intro der key' hcertificate hkey'
      obtain rfl := Option.some.inj hcertificate
      exact (Option.filter_eq_some_iff.mp hkey').2
  privateKey object material answers hevent _ cert epkey pkey hmade s hmatches h := by
    obtain ⟨key, bundle, rfl, -, -, hpkey⟩ := hmade
    refine ⟨h.certificate, ?_, ?_⟩
    · intro key' hkey'
      obtain rfl := Option.some.inj hkey'
      exact ⟨key, pkey, rfl, hpkey⟩
    · intro der key' hcertificate hkey'
      obtain rfl := Option.some.inj hkey'
      exact hmatches der hcertificate

/-- The modes of contexts and of sessions, and the contexts of these, as they are without the hook. -/
structure Asked where
  ctxs : List SslMode
  ssls : List (Nat × SslMode)

def askedOf (w : W) : Asked :=
  ⟨(Objects.ctxs w).map (·.settings.mode), (Objects.ssls w).map fun s => (s.ctx, s.settings.mode)⟩

def Asked.setVerify (asked : Asked) (mode : SslMode) : OsslObject → Asked
  | .ssl ssl => { asked with ssls := asked.ssls.modify ssl fun s => (s.1, mode) }
  | .sslCtx ctx => { asked with ctxs := asked.ctxs.modify ctx fun _ => mode }

def Asked.step (asked : Asked) : Event ρ U V P → Asked
  | .ctxNew => { asked with ctxs := asked.ctxs ++ [.sslVerifyNone] }
  | .new ctx => match asked.ctxs[ctx]? with
    | some mode => { asked with ssls := asked.ssls ++ [(ctx, mode)] }
    | none => asked
  | .setVerify object mode _ => asked.setVerify mode object
  | _ => asked

def Asked.run (events : List (Event ρ U V P)) : Asked := events.foldl Asked.step ⟨[], []⟩

omit [Objects.Lawful W] in
/-- A setter of the mode. -/
theorem asked_sets {f : Settings U → Settings U} {mode : SslMode} (hw' : Objects.Sets w w' f object)
    (hf : ∀ s, (f s).mode = mode) : askedOf w' = (askedOf w).setVerify mode object := by
  cases object with
  | ssl ssl =>
    obtain ⟨hctxs, hssls⟩ := hw'
    rw [askedOf, hctxs, hssls]
    exact congrArg (Asked.mk _) (map_modify fun s => Prod.ext rfl (hf s.settings))
  | sslCtx ctx =>
    obtain ⟨hctxs, hssls⟩ := hw'
    rw [askedOf, hctxs, hssls]
    exact congrArg (Asked.mk · _) (map_modify fun c => hf c.settings)

omit [Objects.Lawful W] in
/-- What changes no mode changes nothing of it. -/
theorem asked_sets_same {f : Settings U → Settings U} (hw' : Objects.Sets w w' f object)
    (hf : ∀ s, (f s).mode = s.mode) : askedOf w' = askedOf w := by
  cases object with
  | ssl ssl =>
    obtain ⟨hctxs, hssls⟩ := hw'
    rw [askedOf, hctxs, hssls]
    exact congrArg (Asked.mk _) (map_modify_of_eq fun s => Prod.ext rfl (hf s.settings))
  | sslCtx ctx =>
    obtain ⟨hctxs, hssls⟩ := hw'
    rw [askedOf, hctxs, hssls]
    exact congrArg (Asked.mk · _) (map_modify_of_eq fun c => hf c.settings)

theorem asked_setVerify (mode : SslMode) (callback : Option (VerifyCallback U)) :
    askedOf (Objects.setVerify w object mode callback) = (askedOf w).setVerify mode object := by
  refine asked_sets (Objects.Lawful.setVerify w object mode callback) fun s => ?_
  cases object <;> rfl

theorem asked_setCertVerifyCallback (ctx : Nat) (callback : CertVerifyCallback V) :
    askedOf (Objects.setCertVerifyCallback w ctx callback) = askedOf w := by
  rw [askedOf, Objects.Lawful.ctxs_setCertVerifyCallback, Objects.Lawful.ssls_setCertVerifyCallback]
  exact congrArg (Asked.mk · _) (map_modify_of_eq fun _ => rfl)

/-- The mode that is read is set again. -/
theorem asked_setVerify_self {settings : Settings U} {callback : Option (VerifyCallback U)}
    (h : Objects.settings w object = some settings) :
    askedOf (Objects.setVerify w object settings.mode callback) = askedOf w := by
  rw [asked_setVerify]
  cases object with
  | ssl ssl =>
    obtain ⟨s, hs, rfl⟩ := Option.map_eq_some_iff.mp h
    refine congrArg (Asked.mk _) (modify_of_fixed fun a ha => ?_)
    obtain ⟨s', hs', rfl⟩ := Option.map_eq_some_iff.mp (List.getElem?_map.symm.trans ha)
    rw [Option.some.inj (hs.symm.trans hs')]
  | sslCtx ctx =>
    obtain ⟨c, hc, rfl⟩ := Option.map_eq_some_iff.mp h
    refine congrArg (Asked.mk · _) (modify_of_fixed fun a ha => ?_)
    obtain ⟨c', hc', rfl⟩ := Option.map_eq_some_iff.mp (List.getElem?_map.symm.trans ha)
    rw [Option.some.inj (hc.symm.trans hc')]

theorem asked_sslAccept (ssl : Nat) (peer : P) : askedOf (Objects.sslAccept L w ssl peer).2 = askedOf w := by
  rw [askedOf, Objects.Lawful.ctxs_sslAccept]
  cases hs : (Objects.ssls w)[ssl]? with
  | none => rw [(Objects.Lawful.sslAccept_none L w ssl peer hs).2, askedOf]
  | some s =>
    rw [(Objects.Lawful.sslAccept L w ssl peer s hs).2, askedOf]
    refine congrArg (Asked.mk _) ?_
    apply List.ext_getElem?
    intro j
    rw [List.getElem?_map, List.getElem?_map, List.getElem?_set]
    split
    next hj =>
      subst hj
      rw [if_pos (List.getElem?_eq_some_iff.mp hs).1, hs]
      rfl
    next => rfl

/-- The verifier is set up under the mode there is. -/
theorem setupVerifier_asked {asked : Asked} :
    Proc.Preserves (fun w : W => askedOf w = asked) (setupVerifierWithOpensslObj loaded object) := by
  intro w hw
  obtain ⟨hexec, -⟩ | ⟨-, settings, ctx, hget, -, hexec⟩ | ⟨-, hexec⟩ := setupVerifier_cases loaded w object
  · rw [hexec]
    exact hw
  · rw [hexec]
    exact ((asked_setCertVerifyCallback ctx _).trans (asked_setVerify_self hget)).trans hw
  · rw [hexec]
    exact hw

/-- **One call does to the modes what it does without the hook.** -/
theorem asked_exec (event : Event ρ U V P) (asked : Asked) :
    Proc.Triple (fun w : W => askedOf w = asked) (event.exec K L loaded) (fun _ w => askedOf w = asked.step event)
      (fun _ _ => True) := by
  have hhandshake : ∀ ssl peer, Proc.Preserves (fun w : W => askedOf w = asked)
      (sslAccept L loaded ssl peer) := fun ssl peer => setupVerifier_asked.bind fun _ =>
    preserves_call fun _ w hw => (asked_sslAccept ssl peer).trans hw
  have hof : ∀ {α : Type} {f : Hooked W α}, Proc.Preserves (fun w : W => askedOf w = asked) f →
      Proc.Triple (fun w => askedOf w = asked) (f >>= fun _ => pure ()) (fun _ w => askedOf w = asked) fun _ _ => True :=
    fun h => (h.bind fun _ => Proc.Preserves.pure _).consequence (fun _ h => h) (fun _ _ h => h) fun _ _ _ => trivial
  cases event with
  | ctxNew =>
    refine Proc.Triple.modify fun w hw => ?_
    subst hw
    rw [askedOf, Objects.Lawful.ctxs_sslCtxNew, Objects.Lawful.ssls_sslCtxNew]
    exact congrArg (Asked.mk · _) List.map_append
  | new ctx =>
    refine Proc.Triple.modify fun w hw => ?_
    subst hw
    rw [askedOf, Objects.Lawful.ctxs_sslNew, Objects.Lawful.ssls_sslNew, Asked.step,
      show (askedOf w).ctxs = (Objects.ctxs w).map (·.settings.mode) from rfl, List.getElem?_map]
    cases (Objects.ctxs w)[ctx]? with
    | none =>
      rw [Option.map_none, Option.toList_none, List.append_nil]
      rfl
    | some c => exact congrArg (Asked.mk _) List.map_append
  | setState ssl side =>
    refine Proc.Triple.modify fun w hw => ?_
    subst hw
    rw [askedOf, Objects.Lawful.ctxs_setState, Objects.Lawful.ssls_setState]
    exact congrArg (Asked.mk _)
      (map_modify_of_eq (f := fun s : Ssl U V P => { s with state := some side }) fun _ => rfl)
  | setVerify object mode callback =>
    refine Proc.Triple.bind (Q := fun _ w => askedOf w = asked.setVerify mode object) ?_ fun _ => ?_
    · refine triple_call (fun _ => Proc.Triple.modify fun w hw => ?_) fun _ _ _ => trivial
      rw [asked_setVerify, hw]
    · exact (setupVerifier_asked.bind fun _ => Proc.Preserves.pure _).consequence (fun _ h => h) (fun _ _ h => h)
        fun _ _ _ => trivial
  | setCertVerifyCallback ctx callback => exact hof setupVerifier_asked
  | use object material answers =>
    refine hof (preserves_use material ?_ ?_)
    · intro _ cert epkey pkey _ w hw
      refine (asked_sets_same (Objects.Lawful.useCertificateAsn1 L w object cert _) fun s => ?_).trans hw
      unfold Settings.useCertificateAsn1
      split <;> rfl
    · intro _ cert epkey pkey _ w hw
      refine (asked_sets_same (Objects.Lawful.usePrivateKeyAsn1 L w object epkey pkey _).2 fun s => ?_).trans hw
      unfold Settings.usePrivateKeyAsn1
      split <;> rfl
  | accept ssl peer => exact hof (hhandshake ssl peer)
  | connect ssl peer => exact hof (hhandshake ssl peer)

theorem asked_run {events : List (Event ρ U V P)} (hrun : run K L loaded events = some w) :
    askedOf w = Asked.run events := by
  induction events using List.reverseRecOn generalizing w with
  | nil =>
    obtain rfl := Option.some.inj hrun
    rw [askedOf, Objects.Lawful.ctxs_empty, Objects.Lawful.ssls_empty]
    rfl
  | append_singleton events event ih =>
    obtain ⟨w', hbefore, hstep⟩ := run_concat hrun
    rw [Asked.run, List.foldl_append, ← Asked.run, ← ih hbefore]
    exact (asked_exec event (askedOf w')).ok rfl hstep

/-- If a name is not found none of OpenSSL's functions are there. -/
theorem loaded_eq_false {dlsym : String → Bool} {symbol : String} (hsymbol : symbol ∈ OsslCtx.symbols)
    (hmissing : dlsym symbol = false) : OsslCtx.loaded dlsym = false :=
  List.all_eq_false.mpr ⟨symbol, hsymbol, by rw [hmissing]; exact Bool.false_ne_true⟩

/-- **Main theorem.** In every run that the process survives, contexts and sessions have the modes that they have
without the hook. No session has connected, whichever of `SSL_connect` and `SSL_accept` was called, unless the
application has set its state to connect; and if one of OpenSSL's functions was not found, no session has shaken
hands and no context or session has a mode, a callback, a certificate or a key. -/
theorem hook_keeps_modes (K : KeyCrates X.rsa X.p256 ρ) (L : Library U V P) {dlsym : String → Bool}
    {events : List (Event ρ U V P)} (hrun : run K L (OsslCtx.loaded dlsym) events = some w) :
    askedOf w = Asked.run events ∧
    (∀ (ssl : Nat) s h, (Objects.ssls w)[ssl]? = some s → s.handshake = some h → h.side = .client →
      .setState ssl .client ∈ events) ∧
    ∀ symbol ∈ OsslCtx.symbols, dlsym symbol = false →
      (∀ object settings, Objects.settings w object = some settings → settings = .fresh) ∧
      (∀ c ∈ Objects.ctxs w, c.certVerifyCallback = none) ∧ ∀ s ∈ Objects.ssls w, s.handshake = none := by
  refine ⟨asked_run hrun, ?_, ?_⟩
  · intro ssl s h hs hh
    have hinv : Inv L (OsslCtx.loaded dlsym) (fun _ => True) (fun ssl => .setState ssl .client ∈ events) w :=
      Inv.run trivial (fun _ _ => Kept.always) (fun _ h => h) hrun
    exact ((hinv.ssls ssl s hs).handshake h hh).side
  · intro symbol hsymbol hmissing
    rw [loaded_eq_false hsymbol hmissing] at hrun
    have hinv : Inv L false (· = .fresh) (fun _ => True) w :=
      Inv.run rfl (fun _ _ => ⟨fun h => (by cases h), fun _ _ _ _ h => (by cases h), fun _ _ _ _ h => (by cases h)⟩)
        (fun _ _ => trivial) hrun
    refine ⟨fun object settings hget => hinv.settings hget, ?_, ?_⟩
    · intro c hc
      obtain ⟨ctx, hctx⟩ := List.mem_iff_getElem?.mp hc
      cases hcallback : c.certVerifyCallback with
      | none => rfl
      | some callback => cases ((hinv.ctxs ctx c hctx).certVerifyCallback callback hcallback).2
    · intro s hs
      obtain ⟨ssl, hssl⟩ := List.mem_iff_getElem?.mp hs
      cases hh : s.handshake with
      | none => rfl
      | some h => cases ((hinv.ssls ssl s hssl).handshake h hh).loaded

/-! ### What the application is told -/

/-- A context with the hook's `cert_verify_callback`. -/
def Reports (ctxs : List (SslCtx U V)) (ctx : Nat) : Prop :=
  ∃ c, ctxs[ctx]? = some c ∧ c.certVerifyCallback = some .certVerifyCallback

/-- Wherever the hook's callback is, its context has the hook's `cert_verify_callback` too. -/
structure Reporting (ctxs : List (SslCtx U V)) (ssls : List (Ssl U V P)) : Prop where
  inside : ∀ (ssl : Nat) s, ssls[ssl]? = some s → s.ctx < ctxs.length
  ofCtx : ∀ (ctx : Nat) c, ctxs[ctx]? = some c → c.settings.verifyCallback = some .verifyCertificateDefault →
    c.certVerifyCallback = some .certVerifyCallback
  ofSsl : ∀ (ssl : Nat) s, ssls[ssl]? = some s → s.settings.verifyCallback = some .verifyCertificateDefault →
    Reports ctxs s.ctx
  shaken : ∀ (ssl : Nat) s, ssls[ssl]? = some s → ∀ h, s.handshake = some h →
    h.certVerifyCallback = some .certVerifyCallback

section Tables
variable {ctxs : List (SslCtx U V)} {ssls : List (Ssl U V P)} {ctx ssl i : Nat} {f : Settings U → Settings U}

theorem Reports.modify {g : SslCtx U V → SslCtx U V} (h : Reports ctxs ctx)
    (hg : ∀ c, c.certVerifyCallback = some .certVerifyCallback →
      (g c).certVerifyCallback = some .certVerifyCallback) : Reports (ctxs.modify i g) ctx := by
  obtain ⟨c, hc, hcallback⟩ := h
  by_cases hi : i = ctx
  · subst hi
    exact ⟨g c, by rw [List.getElem?_modify_eq, hc]; rfl, hg c hcallback⟩
  · exact ⟨c, by rw [List.getElem?_modify_ne _ _ hi, hc], hcallback⟩

/-- A session is given the hook's callback only where its context has the other. -/
theorem Reporting.modifySsl (h : Reporting ctxs ssls)
    (hf : ∀ s, ssls[ssl]? = some s → (f s.settings).verifyCallback = some .verifyCertificateDefault →
      s.settings.verifyCallback = some .verifyCertificateDefault ∨ Reports ctxs s.ctx) :
    Reporting ctxs (ssls.modify ssl fun s => { s with settings := f s.settings }) where
  inside := forall_getElem?_modify h.inside fun _ _ hs => hs
  ofCtx := h.ofCtx
  ofSsl := forall_getElem?_modify h.ofSsl fun s hget hs hcallback => (hf s hget hcallback).elim hs id
  shaken := forall_getElem?_modify h.shaken fun _ _ hs => hs

/-- And a context only where it has the other itself. -/
theorem Reporting.modifyCtx (h : Reporting ctxs ssls)
    (hf : ∀ c, ctxs[ctx]? = some c → (f c.settings).verifyCallback = some .verifyCertificateDefault →
      c.settings.verifyCallback = some .verifyCertificateDefault ∨ c.certVerifyCallback = some .certVerifyCallback) :
    Reporting (ctxs.modify ctx fun c => { c with settings := f c.settings }) ssls where
  inside ssl s hs := (h.inside ssl s hs).trans_eq (List.length_modify _ _ _).symm
  ofCtx := forall_getElem?_modify h.ofCtx fun c hget hc hcallback => (hf c hget hcallback).elim hc id
  ofSsl ssl s hs hcallback := (h.ofSsl ssl s hs hcallback).modify fun _ hc => hc
  shaken := h.shaken

theorem Reporting.setCertVerifyCallback (h : Reporting ctxs ssls) (ctx : Nat) :
    Reporting (ctxs.modify ctx fun c => { c with certVerifyCallback := some .certVerifyCallback }) ssls where
  inside ssl s hs := (h.inside ssl s hs).trans_eq (List.length_modify _ _ _).symm
  ofCtx := forall_getElem?_modify h.ofCtx fun _ _ _ _ => rfl
  ofSsl ssl s hs hcallback := (h.ofSsl ssl s hs hcallback).modify fun _ _ => rfl
  shaken := h.shaken

/-- The other callback is set. -/
theorem reports_setCertVerifyCallback (h : ctx < ctxs.length) :
    Reports (ctxs.modify ctx fun c => { c with certVerifyCallback := some .certVerifyCallback }) ctx :=
  ⟨{ ctxs[ctx] with certVerifyCallback := some .certVerifyCallback },
    by rw [List.getElem?_modify_eq, List.getElem?_eq_getElem h]; rfl, rfl⟩

theorem Reporting.concatCtx (h : Reporting ctxs ssls) : Reporting (ctxs ++ [⟨.fresh, none⟩]) ssls where
  inside ssl s hs := (h.inside ssl s hs).trans_le (by rw [List.length_append]; omega)
  ofCtx := forall_getElem?_concat h.ofCtx fun hcallback => (by cases hcallback)
  ofSsl ssl s hs hcallback := by
    obtain ⟨c, hc, hcert⟩ := h.ofSsl ssl s hs hcallback
    exact ⟨c, (List.getElem?_append_left (List.getElem?_eq_some_iff.mp hc).1).trans hc, hcert⟩
  shaken := h.shaken

theorem Reporting.concatSsl (h : Reporting ctxs ssls) {c : SslCtx U V} (hc : ctxs[ctx]? = some c) :
    Reporting ctxs (ssls ++ [⟨ctx, c.settings, none, none⟩]) where
  inside := forall_getElem?_concat h.inside (List.getElem?_eq_some_iff.mp hc).1
  ofCtx := h.ofCtx
  ofSsl := forall_getElem?_concat h.ofSsl fun hcallback => ⟨c, hc, h.ofCtx ctx c hc hcallback⟩
  shaken := forall_getElem?_concat h.shaken fun _ hh => (by cases hh)

theorem Reporting.setState (h : Reporting ctxs ssls) (ssl : Nat) (side : Side) :
    Reporting ctxs (ssls.modify ssl fun s => { s with state := some side }) where
  inside := forall_getElem?_modify h.inside fun _ _ hs => hs
  ofCtx := h.ofCtx
  ofSsl := forall_getElem?_modify h.ofSsl fun _ _ hs => hs
  shaken := forall_getElem?_modify h.shaken fun _ _ hs => hs

theorem Reporting.accept {s : Ssl U V P} (h : Reporting ctxs ssls) (hs : ssls[ssl]? = some s)
    (hdefault : s.settings.verifyCallback = some .verifyCertificateDefault) (peer : P) :
    Reporting ctxs (ssls.set ssl (s.accept L (ctxs[s.ctx]?.bind (·.certVerifyCallback)) peer).2) where
  inside := forall_getElem?_set h.inside (h.inside ssl s hs)
  ofCtx := h.ofCtx
  ofSsl := forall_getElem?_set h.ofSsl (h.ofSsl ssl s hs)
  shaken := by
    refine forall_getElem?_set h.shaken fun handshake hhandshake => ?_
    dsimp only [Ssl.accept] at hhandshake
    split at hhandshake
    next =>
      obtain rfl := Option.some.inj hhandshake
      obtain ⟨c, hc, hcert⟩ := h.ofSsl ssl s hs hdefault
      exact Option.bind_eq_some_iff.mpr ⟨c, hc, hcert⟩
    next => exact h.shaken ssl s hs handshake hhandshake

end Tables

/-- The objects of a store. -/
def ReportingIn (w : W) : Prop := Reporting (Objects.ctxs w) (Objects.ssls w)

omit [Objects.Lawful W] in
/-- What gives no object the hook's callback. -/
theorem ReportingIn.sets {f : Settings U → Settings U} (h : ReportingIn w) (hw' : Objects.Sets w w' f object)
    (hf : ∀ s, (f s).verifyCallback = some .verifyCertificateDefault →
      s.verifyCallback = some .verifyCertificateDefault) : ReportingIn w' := by
  cases object with
  | ssl ssl =>
    obtain ⟨hctxs, hssls⟩ := hw'
    rw [ReportingIn, hctxs, hssls]
    exact Reporting.modifySsl h fun s _ hs => .inl (hf _ hs)
  | sslCtx ctx =>
    obtain ⟨hctxs, hssls⟩ := hw'
    rw [ReportingIn, hctxs, hssls]
    exact Reporting.modifyCtx h fun c _ hc => .inl (hf _ hc)

/-- The hook sets its two callbacks, in an order that does not matter. -/
theorem ReportingIn.hooked {ctx : Nat} {settings : Settings U} (h : ReportingIn w)
    (hget : Objects.settings w object = some settings) (hctx : Objects.ctxOf w object = some ctx) (mode : SslMode) :
    ReportingIn (Objects.setCertVerifyCallback
      (Objects.setVerify w object mode (some .verifyCertificateDefault)) ctx .certVerifyCallback) := by
  have hset : Objects.Sets w (Objects.setVerify w object mode (some .verifyCertificateDefault)) _ object :=
    Objects.Lawful.setVerify w object mode (some .verifyCertificateDefault)
  rw [ReportingIn, Objects.Lawful.ctxs_setCertVerifyCallback, Objects.Lawful.ssls_setCertVerifyCallback]
  have hboth := Reporting.setCertVerifyCallback h ctx
  cases object with
  | ssl ssl =>
    obtain ⟨hctxs, hssls⟩ := hset
    rw [hctxs, hssls]
    refine hboth.modifySsl fun s hs _ => .inr ?_
    obtain ⟨s', hs', rfl⟩ := Option.map_eq_some_iff.mp hctx
    rw [Option.some.inj (hs.symm.trans hs')]
    exact reports_setCertVerifyCallback (h.inside ssl s' hs')
  | sslCtx ctx' =>
    obtain rfl := Option.some.inj hctx
    obtain ⟨hctxs, hssls⟩ := hset
    rw [hctxs, hssls, modify_modify_comm]
    · refine hboth.modifyCtx fun c hc _ => .inr ?_
      obtain ⟨c', hc', -⟩ := Option.map_eq_some_iff.mp hget
      obtain ⟨c'', hc'', hcert⟩ := reports_setCertVerifyCallback (List.getElem?_eq_some_iff.mp hc').1
      rwa [Option.some.inj (hc.symm.trans hc'')]
    · exact fun _ => rfl

theorem ReportingIn.sslNew (h : ReportingIn w) (ctx : Nat) : ReportingIn (Objects.sslNew w ctx) := by
  rw [ReportingIn, Objects.Lawful.ctxs_sslNew, Objects.Lawful.ssls_sslNew]
  cases hctx : (Objects.ctxs w)[ctx]? with
  | none =>
    rw [Option.map_none, Option.toList_none, List.append_nil]
    exact h
  | some c => exact Reporting.concatSsl h hctx

theorem ReportingIn.sslAccept {ssl : Nat} {peer : P} (h : ReportingIn w) (hdefault : HasDefault (.ssl ssl) w) :
    ReportingIn (Objects.sslAccept L w ssl peer).2 := by
  rw [ReportingIn, Objects.Lawful.ctxs_sslAccept]
  cases hs : (Objects.ssls w)[ssl]? with
  | none =>
    rw [(Objects.Lawful.sslAccept_none L w ssl peer hs).2]
    exact h
  | some s =>
    rw [(Objects.Lawful.sslAccept L w ssl peer s hs).2]
    exact Reporting.accept h hs (hdefault s.settings (by rw [Objects.settings, hs]; rfl)) peer

theorem setupVerifier_reporting : Proc.Triple ReportingIn (setupVerifierWithOpensslObj loaded object)
    (fun _ (w : W) => ReportingIn w ∧ HasDefault object w) (fun _ => ReportingIn) := by
  intro w hw
  obtain ⟨hexec, hhooked⟩ | ⟨-, settings, ctx, hget, hctx, hexec⟩ | ⟨-, hexec⟩ := setupVerifier_cases loaded w object
  · rw [hexec]
    exact ⟨hw, hhooked⟩
  · rw [hexec]
    exact ⟨hw.hooked hget hctx _, hasDefault_setVerify w object _ ctx⟩
  · rw [hexec]
    exact hw

/-- The application does not itself set the hook's callback. -/
def Event.Plain (event : Event ρ U V P) : Prop :=
  ∀ object mode, event ≠ .setVerify object mode (some .verifyCertificateDefault)

theorem ReportingIn.exec {event : Event ρ U V P} (hplain : event.Plain) :
    Proc.Preserves (ReportingIn (W := W)) (event.exec K L loaded) := by
  have hsetup : ∀ object, Proc.Preserves ReportingIn (setupVerifierWithOpensslObj loaded object : Hooked W Int) :=
    fun object => setupVerifier_reporting.consequence (fun _ h => h) (fun _ _ h => h.1) fun _ _ h => h
  have hhandshake : ∀ ssl peer, Proc.Preserves (ReportingIn (W := W)) (Hook.sslAccept L loaded ssl peer) :=
    fun ssl peer => Proc.Triple.bind setupVerifier_reporting fun _ =>
      triple_call (fun _ w hw => hw.1.sslAccept hw.2) fun _ _ h => h.1
  cases event with
  | ctxNew =>
    refine Proc.Preserves.modify fun w hw => ?_
    rw [ReportingIn, Objects.Lawful.ctxs_sslCtxNew, Objects.Lawful.ssls_sslCtxNew]
    exact Reporting.concatCtx hw
  | new ctx => exact Proc.Preserves.modify fun w hw => hw.sslNew ctx
  | setState ssl side =>
    refine Proc.Preserves.modify fun w hw => ?_
    rw [ReportingIn, Objects.Lawful.ctxs_setState, Objects.Lawful.ssls_setState]
    exact Reporting.setState hw ssl side
  | setVerify object mode callback =>
    refine Proc.Preserves.bind (preserves_call fun _ => Proc.Preserves.modify fun w hw => ?_) fun _ =>
      (hsetup object).bind fun _ => Proc.Preserves.pure _
    refine hw.sets (Objects.Lawful.setVerify w object mode callback) fun s hs => ?_
    have hother : callback ≠ some .verifyCertificateDefault := fun h =>
      hplain object mode (congrArg (Event.setVerify object mode) h)
    cases object with
    | ssl ssl =>
      cases callback with
      | none => exact hs
      | some callback => exact absurd hs hother
    | sslCtx ctx => exact absurd hs hother
  | setCertVerifyCallback ctx callback => exact (hsetup _).bind fun _ => Proc.Preserves.pure _
  | use object material answers =>
    refine Proc.Preserves.bind (preserves_use material ?_ ?_) fun _ => Proc.Preserves.pure _
    · intro _ cert epkey pkey _ w hw
      refine hw.sets (Objects.Lawful.useCertificateAsn1 L w object cert _) fun s hs => ?_
      unfold Settings.useCertificateAsn1 at hs
      split at hs <;> exact hs
    · intro _ cert epkey pkey _ w hw
      refine hw.sets (Objects.Lawful.usePrivateKeyAsn1 L w object epkey pkey _).2 fun s hs => ?_
      unfold Settings.usePrivateKeyAsn1 at hs
      split at hs <;> exact hs
  | accept ssl peer => exact (hhandshake ssl peer).bind fun _ => Proc.Preserves.pure _
  | connect ssl peer => exact (hhandshake ssl peer).bind fun _ => Proc.Preserves.pure _

theorem ReportingIn.run {events : List (Event ρ U V P)} (hplain : ∀ event ∈ events, event.Plain)
    (hrun : run K L loaded events = some w) : ReportingIn w := by
  induction events using List.reverseRecOn generalizing w with
  | nil =>
    obtain rfl := Option.some.inj hrun
    rw [ReportingIn, Objects.Lawful.ctxs_empty, Objects.Lawful.ssls_empty]
    exact ⟨fun _ _ h => (by cases h), fun _ _ h => (by cases h), fun _ _ h => (by cases h), fun _ _ h => (by cases h)⟩
  | append_singleton events event ih =>
    obtain ⟨w', hbefore, hstep⟩ := run_concat hrun
    have hw' := ih (fun e he => hplain e (List.mem_append_left _ he)) hbefore
    exact Proc.Triple.ok (ReportingIn.exec (hplain event (List.mem_append_right _ (List.mem_singleton_self event)))) hw'
      hstep

end Runs

/-! ### A server -/

section Sample
variable (X : Externals) (D : Dcap)

/-- Where a peer is what it presents. -/
abbrev Presenting := World Unit Unit (Option (List StoreCtx × StoreCtx))

/-- A peer is what it presents, and has to present something where the mode says so. -/
def Library.careful (checkPrivateKey : Bytes → EpvPkey × Bytes → Bool) :
    Library Unit Unit (Option (List StoreCtx × StoreCtx)) where
  x509VerifyCert verifyCallback peer := match verifyCallback, peer with
    | some .verifyCertificateDefault, some presented =>
      (if Openssl.vouched X D presented then 1 else 0, (presented.1.map (·.error)).getLastD x509VOk)
    | _, _ => (1, x509VOk)
  userVerifyCert _ _ := (1, x509VOk)
  presents side mode peer := peer.isSome && (decide (side = .client) || mode.contains .sslVerifyPeer)
  handshake side mode verified _ :=
    if mode.contains .sslVerifyPeer then
      match verified with
      | some res => if 0 < res then 1 else -1
      | none => if side = .client ∨ mode.contains .sslVerifyFailIfNoPeerCert then -1 else 1
    else 1
  checkPrivateKey := checkPrivateKey

variable {X D}

theorem Library.careful_verifying {checkPrivateKey : Bytes → EpvPkey × Bytes → Bool} :
    (Library.careful X D checkPrivateKey).Verifying X D id where
  handshake side mode verified peer hdemanding h := by
    simp only [Library.careful, hdemanding.verifyPeer, if_true] at h
    cases verified with
    | some res =>
      dsimp only at h
      split at h
      next hpositive => exact ⟨res, rfl, hpositive⟩
      next => cases h
    | none =>
      have hrefused : side = .client ∨ mode.contains .sslVerifyFailIfNoPeerCert = true := by
        cases side with
        | client => exact .inl rfl
        | server => exact .inr (hdemanding.fail rfl)
      dsimp only at h
      rw [if_pos hrefused] at h
      cases h
  presented side mode peer h := (Bool.and_eq_true_iff.mp h).1
  x509VerifyCert peer reports leaf hpresents h := by
    obtain rfl : peer = some (reports, leaf) := hpresents
    have hvouched : Openssl.vouched X D (reports, leaf) = true := by
      by_contra hno
      simp [Library.careful, hno] at h
    simpa [Openssl.vouched] using hvouched

variable {ρ V P : Type} {K : KeyCrates X.rsa X.p256 ρ}

/-- A server asks for a certificate, has a callback of its own, and accepts. -/
def verifyingServer (peer : P) : List (Event ρ Unit Unit P) :=
  [.ctxNew, .setVerify (.sslCtx 0) Openssl.Server.mode (some (.user ())), .new 0, .accept 0 peer]

end Sample

/-- A callback of the application's own is replaced, the mode is not. -/
theorem verifyingServer_keeps : ∃ w : Presenting, run Openssl.keyless
    (Library.careful Sample.externals Sample.dcap fun _ _ => true) (OsslCtx.loaded fun _ => true)
      (verifyingServer none) = some w ∧ askedOf w = ⟨[Openssl.Server.mode], [(0, Openssl.Server.mode)]⟩ := by
  obtain ⟨w, hrun⟩ : ∃ w : Presenting, run Openssl.keyless
      (Library.careful Sample.externals Sample.dcap fun _ _ => true) (OsslCtx.loaded fun _ => true)
        (verifyingServer none) = some w := ⟨_, rfl⟩
  exact ⟨w, hrun, (hook_keeps_modes _ _ hrun).1⟩

section Attesting
variable {c : Certificate} {der : Bytes}

end Attesting

end RatsRs.Transport.Hook
