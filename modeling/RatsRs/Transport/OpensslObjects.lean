import RatsRs.Transport.Openssl

/-! Transports over any OpenSSL.

Of an OpenSSL that keeps its laws one sees behind the pointers what a `World` holds after the same calls: a
method or a `build` over it simulates the one over a world, and so does a run (`System.seen_run`). -/
namespace RatsRs.Transport.Openssl
open Lib Cert Tee

section Methods
variable {W U P : Type} [Objects W U P]

/-- A transport, with what is seen of OpenSSL. -/
def seen (s : Endpoint U × W) : Endpoint U × World U P := (s.1, Objects.world s.2)

theorem modifyWorld_seen {f : Endpoint U → W → W} {f' : Endpoint U → World U P → World U P}
    (h : ∀ e w, Objects.world (f e w) = f' e (Objects.world w)) :
    Proc.Simulates seen (modifyWorld f) (modifyWorld f') :=
  Proc.Simulates.modify fun s => congrArg (Prod.mk s.1) (h s.1 s.2)

variable [Objects.Lawful W]

theorem useSession_seen (session : Nat) :
    Proc.Simulates (seen (W := W)) (modifyWorld fun _ w => Objects.useSession w session)
      (modifyWorld fun _ w => Objects.useSession w session) :=
  modifyWorld_seen fun _ w => Objects.Lawful.useSession w session

theorem setVerify_seen (mode : SslMode) : Proc.Simulates (seen (W := W)) (setVerify mode) (setVerify mode) := by
  refine Proc.Simulates.get_bind fun s => ?_
  obtain ⟨self, w⟩ := s
  cases hcallback : self.verifyCallback with
  | none =>
    simp only [seen, hcallback]
    exact Proc.Simulates.pure _
  | some callback =>
    simp only [seen, hcallback]
    exact modifyWorld_seen fun self w => Objects.Lawful.sslCtxSetVerify w self.ctx mode callback

theorem newSession_seen (sslNew : Bool) :
    Proc.Simulates (seen (W := W)) (newSession sslNew) (newSession sslNew) := by
  refine Proc.Simulates.get_bind fun s => ?_
  obtain ⟨self, w⟩ := s
  refine Proc.Simulates.ite ?_ (Proc.Simulates.throw _)
  obtain ⟨hsession, hworld⟩ := Objects.Lawful.sslNew (U := U) (P := P) w self.ctx
  refine Proc.Simulates.bind (modifyWorld_seen fun self' _ => ?_) fun _ => ?_
  · exact (Objects.Lawful.x509StoreSetExData (Objects.sslNew w self.ctx).2 self'.ctx).trans
      (congrArg (World.updateCtx · self'.ctx id) hworld)
  · exact hsession ▸ Proc.Simulates.pure _

theorem setFd_seen (session : Nat) (res : Int) :
    Proc.Simulates (seen (W := W)) (setFd session res) (setFd session res) :=
  (modifyWorld_seen fun self w => Objects.Lawful.sslSetFd w session self.stream res).bind fun _ =>
    (Proc.Simulates.throw _).ite (Proc.Simulates.pure _)

theorem shakeHands_seen (handshake : Option (SslMode × VerifyCallback U) → P → Int) (session : Nat) (peer : P) :
    Proc.Simulates (seen (W := W)) (shakeHands handshake session peer) (shakeHands handshake session peer) := by
  refine Proc.Simulates.get_bind fun s => ?_
  obtain ⟨self, w⟩ := s
  obtain ⟨herr, hworld⟩ := Objects.Lawful.shakeHands w handshake session peer
  refine Proc.Simulates.bind (modifyWorld_seen fun _ _ => hworld) fun _ => ?_
  show Proc.Simulates seen (if _ ≠ 1 then _ else _) (if ((Objects.world w).shakeHands handshake session peer).1 ≠ 1
    then _ else _)
  rw [← herr]
  exact ((useSession_seen session).bind fun _ => Proc.Simulates.throw _).ite (Proc.Simulates.pure _)

theorem negotiate_seen (mode : SslMode) (handshake : Option (SslMode × VerifyCallback U) → P → Int)
    (answers : NegotiateAnswers P) :
    Proc.Simulates (seen (W := W)) (negotiate mode handshake answers) (negotiate mode handshake answers) :=
  (setVerify_seen mode).bind fun _ => (newSession_seen _).bind fun session => (setFd_seen session _).bind fun _ =>
    (shakeHands_seen handshake session _).bind fun _ => Proc.Simulates.modify fun _ => rfl

theorem send_seen (res : Int32) : Proc.Simulates (seen (W := W)) (send res) (send res) := by
  refine Proc.Simulates.get_bind fun s => ?_
  obtain ⟨self, w⟩ := s
  cases hsession : self.sslSession with
  | none =>
    simp only [seen, hsession]
    exact Proc.Simulates.throw _
  | some session =>
    simp only [seen, hsession]
    exact (useSession_seen session).bind fun _ => (Proc.Simulates.throw _).ite (Proc.Simulates.pure _)

theorem receive_seen (res : Int32) : Proc.Simulates (seen (W := W)) (receive res) (receive res) := by
  refine Proc.Simulates.get_bind fun s => ?_
  obtain ⟨self, w⟩ := s
  cases hsession : self.sslSession with
  | none =>
    simp only [seen, hsession]
    exact Proc.Simulates.throw _
  | some session =>
    simp only [seen, hsession]
    exact (useSession_seen session).bind fun _ =>
      ((Proc.Simulates.throw _).bind fun _ => Proc.Simulates.pure _).ite (Proc.Simulates.pure _)

theorem shutdown_seen : Proc.Simulates (seen (W := W)) shutdown shutdown := by
  refine Proc.Simulates.get_bind fun s => ?_
  obtain ⟨self, w⟩ := s
  cases hsession : self.sslSession with
  | none =>
    simp only [seen, hsession]
    exact Proc.Simulates.pure _
  | some session =>
    simp only [seen, hsession]
    exact useSession_seen session

theorem Endpoint.drop_seen (e : Endpoint U) (w : W) : Objects.world (e.drop w) = e.drop (Objects.world w) := by
  unfold Endpoint.drop
  cases e.sslSession with
  | none => exact Objects.Lawful.sslCtxFree w e.ctx
  | some session =>
    exact (Objects.Lawful.sslCtxFree (Objects.sslFree w session) e.ctx).trans
      (congrArg (World.sslCtxFree · e.ctx) (Objects.Lawful.sslFree w session))

/-! ### Keys and certificates -/

variable (L : Library U P)

theorem usePrivkey_seen (pkcs8 : Res (Bytes × EpvPkey)) (res : Int) :
    Proc.Simulates (seen (W := W)) (usePrivkey L pkcs8 res) (usePrivkey L pkcs8 res) := by
  refine (Proc.Simulates.ofExcept pkcs8).bind ?_
  rintro ⟨pkey, epkey⟩
  have huse : Proc.Simulates (seen (W := W)) (usePrivateKeyAsn1 L epkey pkey res)
      (usePrivateKeyAsn1 L epkey pkey res) := by
    refine Proc.Simulates.get_bind fun s => ?_
    refine (modifyWorld_seen fun self w => ?_).bind fun _ => (Proc.Simulates.throw _).ite (Proc.Simulates.pure _)
    exact Objects.Lawful.sslCtxUsePrivateKeyAsn1 w epkey self.ctx pkey _
  exact ((Proc.Simulates.throw _).bind fun _ => huse).ite huse

theorem useCert_seen (cert : Bytes) (res : Int) :
    Proc.Simulates (seen (W := W)) (useCert L cert res) (useCert L cert res) :=
  (modifyWorld_seen fun self w => Objects.Lawful.sslCtxUseCertificateAsn1 L w self.ctx cert res).bind fun _ =>
    (Proc.Simulates.throw _).ite (Proc.Simulates.pure _)

end Methods

/-! ### Building -/

section Build
variable {X : Externals} {ρ W U P : Type} [Objects W U P] [Objects.Lawful W] (K : KeyCrates X.rsa X.p256 ρ)
  (L : Library U P)

theorem attest_seen {usePrivkey : AsymmetricPrivateKey X.rsa X.p256 → Int → Method U W Unit}
    {usePrivkey' : AsymmetricPrivateKey X.rsa X.p256 → Int → Method U (World U P) Unit}
    (huse : ∀ privkey res, Proc.Simulates seen (usePrivkey privkey res) (usePrivkey' privkey res))
    (answers : BuildAnswers ρ) :
    Proc.Simulates seen (attest K L usePrivkey answers) (attest K L usePrivkey' answers) :=
  (Proc.Simulates.ofExcept _).bind fun privkey => (huse privkey _).bind fun _ =>
    (Proc.Simulates.ofExcept _).bind fun _ => (Proc.Simulates.ofExcept _).bind fun cert => useCert_seen L cert _

theorem newCtx_seen (ctxNew : Bool) :
    Proc.Simulates (Objects.world : W → World U P) (newCtx ctxNew) (newCtx ctxNew) := by
  cases ctxNew with
  | false => exact Proc.Simulates.throw _
  | true =>
    intro w
    obtain ⟨hctx, hworld⟩ := Objects.Lawful.sslCtxNew (U := U) (P := P) w
    exact Prod.ext (congrArg Except.ok hctx.symm) hworld.symm

theorem orDrop_seen (e : Endpoint U) {attested : Method U W Unit} {attested' : Method U (World U P) Unit}
    (h : Proc.Simulates seen attested attested') :
    Proc.Simulates (Objects.world : W → World U P) (orDrop e attested) (orDrop e attested') := by
  intro w
  have hafter : attested'.exec (e, Objects.world w) = _ := h (e, w)
  rw [orDrop, orDrop, Proc.exec_bind_ok (Proc.exec_get _), Proc.exec_bind_ok (Proc.exec_get _), hafter]
  rcases attested.exec (e, w) with ⟨_ | _, e', w'⟩
  · exact Prod.ext rfl (e'.drop_seen w').symm
  · rfl

theorem build_seen {usePrivkey : AsymmetricPrivateKey X.rsa X.p256 → Int → Method U W Unit}
    {usePrivkey' : AsymmetricPrivateKey X.rsa X.p256 → Int → Method U (World U P) Unit}
    (huse : ∀ privkey res, Proc.Simulates seen (usePrivkey privkey res) (usePrivkey' privkey res)) (side : Side)
    (verifyCallback : Option (VerifyCallback U)) (stream : Option Int32) (attestSelf : Bool)
    (answers : BuildAnswers ρ) :
    Proc.Simulates (Objects.world : W → World U P)
      (build K L side verifyCallback stream attestSelf usePrivkey answers)
      (build K L side verifyCallback stream attestSelf usePrivkey' answers) := by
  refine (Proc.Simulates.ofExcept _).bind fun _ => (newCtx_seen _).bind fun ctx => ?_
  cases stream with
  | none => exact Proc.Simulates.throw _
  | some stream => exact orDrop_seen _ ((attest_seen K L huse answers).ite (Proc.Simulates.pure _))

theorem Call.run_seen (side : Side) (c : Call X P) :
    Proc.Simulates (seen (W := W)) (c.run K L side) (c.run K L side) := by
  cases c with
  | negotiate answers => cases side <;> exact negotiate_seen _ _ answers
  | send res => exact send_seen res
  | receive res => exact (receive_seen res).bind fun _ => Proc.Simulates.pure _
  | shutdown => exact shutdown_seen
  | usePrivkey privkey res => cases side <;> exact usePrivkey_seen L _ res
  | useCert cert res => exact useCert_seen L cert res

/-! ### Transports together -/

namespace System

def seen (self : System U W) : System U (World U P) := ⟨Objects.world self.world, self.endpoints⟩

variable {K L}

omit [Objects.Lawful W] in
theorem seen_built {b : Proc W Fault (Endpoint U)} {b' : Proc (World U P) Fault (Endpoint U)}
    (h : Proc.Simulates Objects.world b b') (self : System U W) : (self.built b).seen = self.seen.built b' := by
  have hafter : b'.exec self.seen.world = _ := h self.world
  unfold built
  rw [hafter]
  rcases b.exec self.world with ⟨_ | _, w⟩ <;> rfl

/-- **One event.** -/
theorem seen_step (event : Event X ρ U P) (self : System U W) :
    (self.step K L event).seen = self.seen.step K L event := by
  cases event with
  | buildClient builder answers =>
    exact seen_built (build_seen K L (fun _ _ => usePrivkey_seen L _ _) _ _ _ _ answers) self
  | buildServer builder answers =>
    exact seen_built (build_seen K L (fun _ _ => usePrivkey_seen L _ _) _ _ _ _ answers) self
  | call i c =>
    have hendpoints : self.seen.endpoints[i]? = self.endpoints[i]? := rfl
    cases hi : self.endpoints[i]? with
    | none => simp only [step, hendpoints, hi]
    | some e =>
      have hafter : (c.run K L e.side).exec (e, self.seen.world) = _ := Call.run_seen K L e.side c (e, self.world)
      simp only [step, hendpoints, hi, hafter]
      rfl
  | drop i =>
    have hendpoints : self.seen.endpoints[i]? = self.endpoints[i]? := rfl
    cases hi : self.endpoints[i]? with
    | none => simp only [step, hendpoints, hi]
    | some e =>
      simp only [step, hendpoints, hi]
      exact congrArg (System.mk · _) (e.drop_seen self.world)

/-- **All events of a run.** -/
theorem seen_foldl (events : List (Event X ρ U P)) (self : System U W) :
    (events.foldl (step K L) self).seen = events.foldl (step K L) self.seen := by
  induction events generalizing self with
  | nil => rfl
  | cons event events ih => rw [List.foldl_cons, List.foldl_cons, ih, seen_step]

theorem seen_empty : (empty : System U W).seen = (empty : System U (World U P)) :=
  congrArg (System.mk · []) Objects.Lawful.empty

end System
end Build

end RatsRs.Transport.Openssl
