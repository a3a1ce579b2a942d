import RatsRs.Lib.Table
import RatsRs.Transport.Hook
import RatsRs.Transport.OpensslIdentity

/-! What holds of an application over the hook.

The invariant is about each context and each session: what it attests with has a property that OpenSSL's own
functions keep when the hook calls them, and a session has shaken hands, if it has, as the hook wants it
(`Inv.run`). That the modes are those the application has asked for is a refinement (`asked_run`). -/
namespace RatsRs.Transport.Hook
open Lib Cert Tee
open Openssl (SslMode VerifyCallback EpvPkey Side StoreCtx)

section Setup
variable {X : Externals} {ρ W U V P : Type} [Objects W U V P] {K : KeyCrates X.rsa X.p256 ρ} {L : Library U V P}
  {loaded : Bool} {w : W} {object : OsslObject}

/-! ### What the hook's own functions do -/

theorem isDefault_eq {U : Type} {callback : Option (VerifyCallback U)} :
    isDefault callback = true ↔ callback = some .verifyCertificateDefault := by
  unfold isDefault
  split <;> simp_all

/-- What is there has a context. -/
theorem ctxOf_of_settings {settings : Settings U} (h : Objects.settings w object = some settings) :
    ∃ ctx, Objects.ctxOf w object = some ctx := by
  cases object with
  | ssl ssl =>
    obtain ⟨s, hs, -⟩ := Option.map_eq_some_iff.mp h
    exact ⟨s.ctx, by rw [Objects.ctxOf, hs]; rfl⟩
  | sslCtx ctx => exact ⟨ctx, rfl⟩

/-- An object with the hook's callback. -/
def HasDefault (object : OsslObject) (w : W) : Prop :=
  ∀ settings, Objects.settings w object = some settings → settings.verifyCallback = some .verifyCertificateDefault

/-- The verifier is set up: nothing is left to do, or it is done, or OpenSSL's functions were not found. -/
theorem setupVerifier_cases (loaded : Bool) (w : W) (object : OsslObject) :
    ((setupVerifierWithOpensslObj loaded object).exec w = (.ok 1, w) ∧ HasDefault object w) ∨
    (loaded = true ∧ ∃ settings ctx, Objects.settings w object = some settings ∧ Objects.ctxOf w object = some ctx ∧
      (setupVerifierWithOpensslObj loaded object).exec w = (.ok 1,
        Objects.setCertVerifyCallback
          (Objects.setVerify w object settings.mode (some .verifyCertificateDefault)) ctx .certVerifyCallback)) ∨
    (loaded = false ∧ (setupVerifierWithOpensslObj loaded object).exec w = (.error (.crash .panic), w)) := by
  rw [setupVerifierWithOpensslObj, setup, Proc.exec_tryCatch, Proc.exec_bind, setupSslVerifier,
    Proc.exec_bind_ok (Proc.exec_get w)]
  cases hsettings : Objects.settings w object with
  | none => exact .inl ⟨rfl, fun settings h => (by rw [hsettings] at h; cases h)⟩
  | some settings =>
    obtain ⟨ctx, hctx⟩ := ctxOf_of_settings hsettings
    rw [hctx]
    dsimp only
    by_cases hdefault : isDefault settings.verifyCallback = true
    · rw [if_pos hdefault]
      refine .inl ⟨rfl, fun settings' h => ?_⟩
      rw [hsettings] at h
      exact Option.some.inj h ▸ isDefault_eq.mp hdefault
    · rw [if_neg hdefault]
      cases loaded with
      | true => exact .inr (.inl ⟨rfl, settings, ctx, rfl, rfl, rfl⟩)
      | false => exact .inr (.inr ⟨rfl, rfl⟩)

/-- What a setup of the attester installs. -/
def Made (K : KeyCrates X.rsa X.p256 ρ) (answers : SetupAnswers ρ) (cert : Bytes) (epkey : EpvPkey)
    (pkey : Bytes) : Prop :=
  ∃ key bundle, epkey = .rsa ∧
    (CertBuilder.new answers.getEvidence .sha256).buildWithPrivateKey X (.rsa2048 key) = .ok bundle ∧
    bundle.certToDer X = .ok cert ∧ K.rsaToPkcs8Der key = .ok pkey

theorem preserves_setup {I : W → Prop} {result : Hooked W Unit} (h : Proc.Preserves I result) :
    Proc.Preserves I (setup result) := by
  refine (h.bind fun _ => Proc.Preserves.pure _).tryCatch fun e => ?_
  cases e with
  | error e => exact Proc.Preserves.pure _
  | crash crash => exact Proc.Preserves.throw _

theorem triple_call {α : Type} {I : W → Prop} {Q : α → W → Prop}
    {R : Fault → W → Prop} {function : Hooked W α}
    (h : loaded = true → Proc.Triple I function Q R) (hR : ∀ e w, I w → R e w) :
    Proc.Triple I (call loaded function) Q R := by
  unfold call
  split
  next hloaded => exact h hloaded
  next => exact Proc.Triple.throw (hR _)

theorem preserves_call {α : Type} {I : W → Prop} {function : Hooked W α}
    (h : loaded = true → Proc.Preserves I function) : Proc.Preserves I (call loaded function) :=
  triple_call h fun _ _ hw => hw

/-- **An invariant of the two functions that install something is one of every `use`.** -/
theorem preserves_use {I : W → Prop} {answers : SetupAnswers ρ} (material : Material)
    (hcert : loaded = true → ∀ cert epkey pkey, Made K answers cert epkey pkey → ∀ w, I w →
      I (Objects.useCertificateAsn1 L w object cert answers.useCertificate))
    (hkey : loaded = true → ∀ cert epkey pkey, Made K answers cert epkey pkey → ∀ w, I w →
      I (Objects.usePrivateKeyAsn1 L w object epkey pkey answers.usePrivateKey).2) :
    Proc.Preserves I (use K L loaded object material answers) := by
  refine preserves_setup ?_
  refine Proc.Triple.ofExcept_bind (fun privkey hgen => ?_) fun _ _ _ h => h
  obtain ⟨key, rfl⟩ := Openssl.genPrivateKey_rsa2048 hgen
  refine Proc.Triple.ofExcept_bind (fun bundle hbuild => ?_) fun _ _ _ h => h
  refine Proc.Triple.ofExcept_bind (fun cert hder => ?_) fun _ _ _ h => h
  refine Proc.Triple.ofExcept_bind (fun pkey hpkcs8 => ?_) fun _ _ _ h => h
  have hmade : Made K answers cert (epvPkey (X := X) (.rsa2048 key)) pkey :=
    ⟨key, bundle, rfl, hbuild, hder, Res.ofForeign_eq_ok.mp hpkcs8⟩
  have hcertificate : Proc.Preserves I (useCertificate L loaded object cert answers : Hooked W Unit) :=
    (preserves_call fun h => Proc.Preserves.modify (hcert h _ _ _ hmade)).bind fun _ =>
      (Proc.Preserves.throw _).ite (Proc.Preserves.pure _)
  exact hcertificate.bind fun _ => (preserves_call fun h w hw => hkey h _ _ _ hmade w hw).bind fun _ =>
    (Proc.Preserves.throw _).ite (Proc.Preserves.pure _)

theorem run_concat {events : List (Event ρ U V P)} {event : Event ρ U V P}
    (h : run K L loaded (events ++ [event]) = some w) :
    ∃ w' : W, run K L loaded events = some w' ∧ (event.exec K L loaded).exec w' = (.ok (), w) := by
  rw [run, List.foldl_append] at h
  cases hbefore : (run K L loaded events : Option W) with
  | none =>
    rw [show events.foldl (step K L loaded) (some Objects.empty) = none from hbefore] at h
    cases h
  | some w' =>
    rw [show events.foldl (step K L loaded) (some Objects.empty) = some w' from hbefore] at h
    refine ⟨w', rfl, ?_⟩
    rw [List.foldl_cons, List.foldl_nil, step] at h
    rcases hexec : (event.exec K L loaded).exec w' with ⟨_ | ⟨⟩, w''⟩
    · rw [hexec] at h
      cases h
    · rw [hexec] at h
      rw [Option.some.inj h]

end Setup

/-! ### Contexts and sessions -/

section Invariant
variable {X : Externals} {ρ W U V P : Type} [Objects W U V P] {K : KeyCrates X.rsa X.p256 ρ} {L : Library U V P}
  {loaded : Bool}

/-- A handshake as the hook wants it; `connects` says that the application has asked for one that connects. -/
structure Handshake.Sound (L : Library U V P) (loaded : Bool) (connects : Prop) (h : Handshake U V P) : Prop where
  loaded : loaded = true
  verification : h.verification = L.verifyPeer h.side h.mode h.verifyCallback h.peer h.certVerifyCallback
  accepted : L.handshake h.side h.mode (h.verification.map Prod.fst) h.peer = 1
  verifyResult : h.verifyResult = (h.verification.map Prod.snd).getD x509VOk
  verifyCallback : h.verifyCallback = some .verifyCertificateDefault
  certVerifyCallback : ∀ callback, h.certVerifyCallback = some callback → callback = .certVerifyCallback
  side : h.side = .client → connects

structure SslCtx.Sound (loaded : Bool) (p : Settings U → Prop) (c : SslCtx U V) : Prop where
  settings : p c.settings
  certVerifyCallback : ∀ callback, c.certVerifyCallback = some callback →
    callback = .certVerifyCallback ∧ loaded = true

structure Ssl.Sound (L : Library U V P) (loaded : Bool) (p : Settings U → Prop) (connects : Prop)
    (s : Ssl U V P) : Prop where
  settings : p s.settings
  state : s.state = some .client → connects
  handshake : ∀ h, s.handshake = some h → h.Sound L loaded connects

structure Inv (L : Library U V P) (loaded : Bool) (p : Settings U → Prop) (connects : Nat → Prop) (w : W) : Prop where
  ctxs : ∀ (ctx : Nat) c, (Objects.ctxs w)[ctx]? = some c → c.Sound loaded p
  ssls : ∀ (ssl : Nat) s, (Objects.ssls w)[ssl]? = some s → s.Sound L loaded p (connects ssl)

variable {p : Settings U → Prop} {connects : Nat → Prop} {w w' : W} {object : OsslObject}

/-- What is in a context or a session. -/
theorem Inv.settings (h : Inv L loaded p connects w) {settings : Settings U}
    (hget : Objects.settings w object = some settings) : p settings := by
  cases object with
  | ssl ssl =>
    obtain ⟨s, hs, rfl⟩ := Option.map_eq_some_iff.mp hget
    exact (h.ssls ssl s hs).settings
  | sslCtx ctx =>
    obtain ⟨c, hc, rfl⟩ := Option.map_eq_some_iff.mp hget
    exact (h.ctxs ctx c hc).settings

/-- A setter that keeps the property of what it sets. -/
theorem Inv.sets {f : Settings U → Settings U} (h : Inv L loaded p connects w) (hw' : Objects.Sets w w' f object)
    (hf : ∀ s, Objects.settings w object = some s → p s → p (f s)) : Inv L loaded p connects w' := by
  cases object with
  | ssl ssl =>
    obtain ⟨hctxs, hssls⟩ := hw'
    refine ⟨by rw [hctxs]; exact h.ctxs, ?_⟩
    rw [hssls]
    refine forall_getElem?_modify h.ssls fun s hget hs => ?_
    exact { hs with settings := hf _ (by rw [Objects.settings, hget]; rfl) hs.settings }
  | sslCtx ctx =>
    obtain ⟨hctxs, hssls⟩ := hw'
    refine ⟨?_, by rw [hssls]; exact h.ssls⟩
    rw [hctxs]
    refine forall_getElem?_modify h.ctxs fun c hget hc => ?_
    exact { hc with settings := hf _ (by rw [Objects.settings, hget]; rfl) hc.settings }

/-- A session with the hook's callback that accepts is as it should be. -/
theorem Ssl.Sound.accept {s : Ssl U V P} {connects : Prop} (h : s.Sound L loaded p connects) (hloaded : loaded = true)
    (hdefault : s.settings.verifyCallback = some .verifyCertificateDefault)
    {callback : Option (CertVerifyCallback V)} (hcallback : ∀ c, callback = some c → c = .certVerifyCallback)
    (peer : P) : (s.accept L callback peer).2.Sound L loaded p connects := by
  have hside : s.state.getD .server = .client → connects := by
    intro hclient
    apply h.state
    cases hstate : s.state with
    | none =>
      rw [hstate] at hclient
      cases hclient
    | some side =>
      rw [hstate] at hclient
      exact congrArg some hclient
  refine ⟨h.settings, fun hclient => hside (Option.some.inj hclient), ?_⟩
  intro handshake hhandshake
  dsimp only [Ssl.accept] at hhandshake
  split at hhandshake
  next hres =>
    obtain rfl := Option.some.inj hhandshake
    exact ⟨hloaded, rfl, hres, rfl, hdefault, hcallback, hside⟩
  next => exact h.handshake handshake hhandshake

section Laws
variable [Objects.Lawful W]

theorem Inv.empty : Inv L loaded p connects (Objects.empty : W) where
  ctxs ctx c h := by
    rw [Objects.Lawful.ctxs_empty] at h
    cases h
  ssls ssl s h := by
    rw [Objects.Lawful.ssls_empty] at h
    cases h

theorem Inv.setCertVerifyCallback (h : Inv L loaded p connects w) (hloaded : loaded = true) (ctx : Nat) :
    Inv L loaded p connects (Objects.setCertVerifyCallback w ctx .certVerifyCallback) := by
  refine ⟨?_, by rw [Objects.Lawful.ssls_setCertVerifyCallback]; exact h.ssls⟩
  rw [Objects.Lawful.ctxs_setCertVerifyCallback]
  refine forall_getElem?_modify h.ctxs fun c _ hc => ?_
  exact { hc with certVerifyCallback := fun callback hcallback => ⟨(Option.some.inj hcallback).symm, hloaded⟩ }

theorem Inv.sslCtxNew (h : Inv L loaded p connects w) (hfresh : p .fresh) :
    Inv L loaded p connects (Objects.sslCtxNew w) := by
  refine ⟨?_, by rw [Objects.Lawful.ssls_sslCtxNew]; exact h.ssls⟩
  rw [Objects.Lawful.ctxs_sslCtxNew]
  exact forall_getElem?_concat h.ctxs ⟨hfresh, fun callback hcallback => (by cases hcallback)⟩

theorem Inv.sslNew (h : Inv L loaded p connects w) (ctx : Nat) : Inv L loaded p connects (Objects.sslNew w ctx) := by
  refine ⟨by rw [Objects.Lawful.ctxs_sslNew]; exact h.ctxs, ?_⟩
  rw [Objects.Lawful.ssls_sslNew]
  cases hctx : (Objects.ctxs w)[ctx]? with
  | none =>
    rw [Option.map_none, Option.toList_none, List.append_nil]
    exact h.ssls
  | some c =>
    refine forall_getElem?_concat h.ssls ?_
    exact ⟨(h.ctxs ctx c hctx).settings, fun hstate => (by cases hstate), fun handshake hh => (by cases hh)⟩

theorem Inv.setState {ssl : Nat} {side : Side} (h : Inv L loaded p connects w) (hside : side = .client → connects ssl) :
    Inv L loaded p connects (Objects.setState w ssl side) := by
  refine ⟨by rw [Objects.Lawful.ctxs_setState]; exact h.ctxs, ?_⟩
  rw [Objects.Lawful.ssls_setState]
  refine forall_getElem?_modify h.ssls fun s _ hs => ?_
  exact { hs with state := fun hstate => hside (Option.some.inj hstate) }

/-- A session with the hook's callback shakes hands as it should. -/
theorem Inv.sslAccept {ssl : Nat} {peer : P} (h : Inv L loaded p connects w) (hloaded : loaded = true)
    (hdefault : HasDefault (.ssl ssl) w) : Inv L loaded p connects (Objects.sslAccept L w ssl peer).2 := by
  refine ⟨by rw [Objects.Lawful.ctxs_sslAccept]; exact h.ctxs, ?_⟩
  cases hs : (Objects.ssls w)[ssl]? with
  | none =>
    rw [(Objects.Lawful.sslAccept_none L w ssl peer hs).2]
    exact h.ssls
  | some s =>
    rw [(Objects.Lawful.sslAccept L w ssl peer s hs).2]
    refine forall_getElem?_set h.ssls ((h.ssls ssl s hs).accept hloaded ?_ ?_ peer)
    · exact hdefault s.settings (by rw [Objects.settings, hs]; rfl)
    · intro callback hcallback
      obtain ⟨c, hc, hcallback⟩ := Option.bind_eq_some_iff.mp hcallback
      exact ((h.ctxs s.ctx c hc).certVerifyCallback callback hcallback).1

/-! ### Runs -/

/-- The property that settings have is kept by what a call of the hook puts into them. -/
structure Kept (K : KeyCrates X.rsa X.p256 ρ) (L : Library U V P) (loaded : Bool) (p : Settings U → Prop)
    (event : Event ρ U V P) : Prop where
  verify : loaded = true → ∀ (s : Settings U) mode callback, p s → p { s with mode := mode, verifyCallback := callback }
  certificate : ∀ object material answers, event = .use object material answers → loaded = true →
    ∀ cert epkey pkey, Made K answers cert epkey pkey → ∀ s : Settings U, p s →
    p { s with certificate := some cert, privateKey := s.privateKey.filter (L.checkPrivateKey cert) }
  privateKey : ∀ object material answers, event = .use object material answers → loaded = true →
    ∀ cert epkey pkey, Made K answers cert epkey pkey → ∀ s : Settings U,
    (∀ certificate, s.certificate = some certificate → L.checkPrivateKey certificate (epkey, pkey) = true) → p s →
    p { s with privateKey := some (epkey, pkey) }

theorem Kept.always {event : Event ρ U V P} : Kept K L loaded (fun _ => True) event where
  verify _ _ _ _ _ := trivial
  certificate _ _ _ _ _ _ _ _ _ _ _ := trivial
  privateKey _ _ _ _ _ _ _ _ _ _ _ _ := trivial

theorem Inv.setVerify (h : Inv L loaded p connects w) (hverify : ∀ (s : Settings U) mode callback, p s →
      p { s with mode := mode, verifyCallback := callback }) (mode : SslMode) (callback : Option (VerifyCallback U)) :
    Inv L loaded p connects (Objects.setVerify w object mode callback) := by
  refine h.sets (Objects.Lawful.setVerify w object mode callback) fun s _ hs => ?_
  cases object <;> exact hverify s mode _ hs

/-- What was given a callback has it. -/
theorem hasDefault_setVerify (w : W) (object : OsslObject) (mode : SslMode) (ctx : Nat) :
    HasDefault object (Objects.setCertVerifyCallback
      (Objects.setVerify w object mode (some .verifyCertificateDefault)) ctx .certVerifyCallback) := by
  intro settings h
  have hset : Objects.Sets w (Objects.setVerify w object mode (some .verifyCertificateDefault)) _ object :=
    Objects.Lawful.setVerify w object mode (some .verifyCertificateDefault)
  cases object with
  | ssl ssl =>
    obtain ⟨-, hssls⟩ := hset
    obtain ⟨s, hs, rfl⟩ := Option.map_eq_some_iff.mp h
    rw [Objects.Lawful.ssls_setCertVerifyCallback, hssls, List.getElem?_modify_eq] at hs
    obtain ⟨s', -, rfl⟩ := Option.map_eq_some_iff.mp hs
    rfl
  | sslCtx ctx' =>
    obtain ⟨hctxs, -⟩ := hset
    obtain ⟨c, hc, rfl⟩ := Option.map_eq_some_iff.mp h
    rw [Objects.Lawful.ctxs_setCertVerifyCallback, hctxs, List.getElem?_modify, List.getElem?_modify_eq] at hc
    obtain ⟨c', hc', rfl⟩ := Option.map_eq_some_iff.mp hc
    obtain ⟨c'', -, rfl⟩ := Option.map_eq_some_iff.mp hc'
    dsimp only
    split <;> rfl

/-- The verifier is set up: the invariant holds still, and the object has the hook's callback. -/
theorem setupVerifier_triple (hverify : loaded = true → ∀ (s : Settings U) mode callback, p s →
      p { s with mode := mode, verifyCallback := callback }) :
    Proc.Triple (Inv L loaded p connects) (setupVerifierWithOpensslObj loaded object)
      (fun _ (w : W) => Inv L loaded p connects w ∧ HasDefault object w) (fun _ => Inv L loaded p connects) := by
  intro w hw
  obtain ⟨hexec, hhooked⟩ | ⟨hloaded, settings, ctx, -, -, hexec⟩ | ⟨-, hexec⟩ := setupVerifier_cases loaded w object
  · rw [hexec]
    exact ⟨hw, hhooked⟩
  · rw [hexec]
    exact ⟨(hw.setVerify (hverify hloaded) _ _).setCertVerifyCallback hloaded ctx, hasDefault_setVerify w object _ ctx⟩
  · rw [hexec]
    exact hw

/-- Handshakes by either function. -/
theorem handshake_preserves (hverify : loaded = true → ∀ (s : Settings U) mode callback, p s →
      p { s with mode := mode, verifyCallback := callback }) (ssl : Nat) (peer : P) :
    Proc.Preserves (Inv (W := W) L loaded p connects) (sslAccept L loaded ssl peer) := by
  refine Proc.Triple.bind (setupVerifier_triple hverify) fun _ => triple_call (fun hloaded => ?_) fun _ _ h => h.1
  exact fun w hw => hw.1.sslAccept hloaded hw.2

/-- OpenSSL takes a key only if it matches the certificate there is. -/
theorem matches_of_answer {key : EpvPkey × Bytes} {res : Int} {s : Settings U}
    (hres : Settings.privateKeyAnswer L (some s) key res = 1) :
    ∀ certificate, s.certificate = some certificate → L.checkPrivateKey certificate key = true := by
  intro certificate hcertificate
  rw [Settings.privateKeyAnswer, Option.bind_some, hcertificate, Openssl.privateKeyAnswer] at hres
  split at hres
  next hcheck => exact hcheck
  next => cases hres

/-- **One call of the application.** -/
theorem Inv.exec {event : Event ρ U V P} (hfresh : p .fresh) (hkept : Kept K L loaded p event)
    (hconnects : ∀ ssl, event = .setState ssl .client → connects ssl) :
    Proc.Preserves (Inv (W := W) L loaded p connects) (event.exec K L loaded) := by
  cases event with
  | ctxNew => exact Proc.Preserves.modify fun w hw => hw.sslCtxNew hfresh
  | new ctx => exact Proc.Preserves.modify fun w hw => hw.sslNew ctx
  | setState ssl side => exact Proc.Preserves.modify fun w hw => hw.setState fun h => hconnects ssl (h ▸ rfl)
  | setVerify object mode callback =>
    refine Proc.Preserves.bind (preserves_call fun hloaded => Proc.Preserves.modify fun w hw => ?_) fun _ => ?_
    · exact hw.setVerify (hkept.verify hloaded) mode callback
    · exact Proc.Preserves.bind ((setupVerifier_triple hkept.verify).consequence (fun _ h => h) (fun _ _ h => h.1)
        fun _ _ h => h) fun _ => Proc.Preserves.pure _
  | setCertVerifyCallback ctx callback =>
    exact Proc.Preserves.bind ((setupVerifier_triple hkept.verify).consequence (fun _ h => h) (fun _ _ h => h.1)
      fun _ _ h => h) fun _ => Proc.Preserves.pure _
  | use object material answers =>
    refine Proc.Preserves.bind (preserves_use material ?_ ?_) fun _ => Proc.Preserves.pure _
    · intro hloaded cert epkey pkey hmade w hw
      refine hw.sets (Objects.Lawful.useCertificateAsn1 L w object cert _) fun s _ hs => ?_
      unfold Settings.useCertificateAsn1
      split
      next => exact hkept.certificate _ _ _ rfl hloaded cert epkey pkey hmade s hs
      next => exact hs
    · intro hloaded cert epkey pkey hmade w hw
      refine hw.sets (Objects.Lawful.usePrivateKeyAsn1 L w object epkey pkey _).2 fun s hget hs => ?_
      unfold Settings.usePrivateKeyAsn1
      split
      next hres =>
        rw [hget] at hres
        exact hkept.privateKey _ _ _ rfl hloaded cert epkey pkey hmade s (matches_of_answer hres) hs
      next => exact hs
  | accept ssl peer => exact (handshake_preserves hkept.verify ssl peer).bind fun _ => Proc.Preserves.pure _
  | connect ssl peer => exact (handshake_preserves hkept.verify ssl peer).bind fun _ => Proc.Preserves.pure _

theorem Inv.run (hfresh : p .fresh) {events : List (Event ρ U V P)} (hkept : ∀ event ∈ events, Kept K L loaded p event)
    (hconnects : ∀ ssl, .setState ssl .client ∈ events → connects ssl) (hrun : run K L loaded events = some w) :
    Inv L loaded p connects w := by
  induction events using List.reverseRecOn generalizing w with
  | nil =>
    obtain rfl := Option.some.inj hrun
    exact .empty
  | append_singleton events event ih =>
    obtain ⟨w', hbefore, hstep⟩ := run_concat hrun
    have hw' := ih (fun e he => hkept e (List.mem_append_left _ he))
      (fun ssl h => hconnects ssl (List.mem_append_left _ h)) hbefore
    have hmem : event ∈ events ++ [event] := List.mem_append_right _ (List.mem_singleton_self event)
    exact Proc.Triple.ok (Inv.exec hfresh (hkept event hmem) fun ssl h => hconnects ssl (h ▸ hmem)) hw' hstep

end Laws
end Invariant

end RatsRs.Transport.Hook
