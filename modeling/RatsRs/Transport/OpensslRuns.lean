import RatsRs.Cert.Soundness
import RatsRs.Transport.OpensslObjects
import RatsRs.Transport.OpensslProofs

/-! Runs of clients and servers over OpenSSL.

Whatever a process does with any number of clients and servers, no pointer is used after it was freed, and what
is lost is known exactly (`openssl_memory`). With the default callback the sessions that are sent and received on
are with peers that have attested themselves (`openssl_authenticates`). -/
namespace RatsRs.Transport.Openssl
open Lib Cert Tee

section Runs
variable {X : Externals} {ρ W U P : Type} [Objects W U P] {K : KeyCrates X.rsa X.p256 ρ} {L : Library U P}

/-- What a `build` event builds with. -/
def Event.builder : Event X ρ U P → Option (Side × Option (VerifyCallback U) × Bool)
  | .buildClient builder _ =>
    some (.client, some (builder.verify.getD .verifyCertificateDefault), builder.attestSelf)
  | .buildServer builder _ => some (.server,
    if builder.verifyPeer then if builder.verify.isSome then builder.verify else some .verifyCertificateDefault
    else none, true)
  | _ => none

/-- The contexts that an event leaves behind. -/
def Event.leftContexts : Event X ρ U P → Nat
  | .buildClient builder answers => answers.unset builder.stream
  | .buildServer builder answers => answers.unset builder.stream
  | _ => 0

variable (K L)

/-- The sessions that a call leaves behind: of all calls only `negotiate` does. -/
def Call.leftSessions (c : Call X P) (e : Endpoint U) (w : W) : Nat :=
  match c with
  | .negotiate answers => match ((Call.negotiate answers).run K L e.side).exec (e, w) with
    | (.ok _, _) => if e.sslSession.isSome then 1 else 0
    | (.error _, _) => if answers.sslNew then 1 else 0
  | _ => 0

/-- The sessions that an event leaves behind. -/
def System.leftSessions (self : System U W) : Event X ρ U P → Nat
  | .call i c => match self.endpoints[i]? with
    | some e => c.leftSessions K L e self.world
    | none => 0
  | _ => 0

/-- All that a run leaves behind, sessions and contexts. -/
def System.leftBehind (self : System U W) : List (Event X ρ U P) → Nat × Nat
  | [] => (0, 0)
  | event :: events =>
    let (sessions, contexts) := (self.step K L event).leftBehind events
    (self.leftSessions K L event + sessions, event.leftContexts + contexts)

section Seen
variable [Objects.Lawful W]

theorem Call.leftSessions_seen (c : Call X P) (e : Endpoint U) (w : W) :
    c.leftSessions K L e (Objects.world w) = c.leftSessions K L e w := by
  cases c with
  | negotiate answers =>
    have hafter : ((Call.negotiate answers).run K L e.side).exec (e, Objects.world w) = _ :=
      Call.run_seen K L e.side (.negotiate answers) (e, w)
    rw [Call.leftSessions, Call.leftSessions, hafter]
    rcases ((Call.negotiate answers).run K L e.side).exec (e, w) with ⟨_ | _, _⟩ <;> rfl
  | _ => rfl

theorem System.leftSessions_seen (self : System U W) (event : Event X ρ U P) :
    self.seen.leftSessions K L event = self.leftSessions K L event := by
  cases event with
  | call i c =>
    simp only [System.leftSessions, System.seen]
    cases self.endpoints[i]? with
    | none => rfl
    | some e => exact c.leftSessions_seen K L e self.world
  | _ => rfl

theorem System.leftBehind_seen (events : List (Event X ρ U P)) (self : System U W) :
    self.seen.leftBehind K L events = self.leftBehind K L events := by
  induction events generalizing self with
  | nil => rfl
  | cons event events ih =>
    rw [System.leftBehind, System.leftBehind, ← System.seen_step, ih, System.leftSessions_seen]

end Seen

/-- A system as it should be, of which so much was left behind; `p` holds of what is built. -/
structure System.Sound (p : Side → Option (VerifyCallback U) → Bool → Prop) (sessions contexts : Nat)
    (system : System U (World U P)) : Prop where
  inv : ∃ unset, unset.length = contexts ∧ Inv L sessions unset system.world system.endpoints
  builders : ∀ e ∈ system.endpoints, p e.side e.verifyCallback e.attestSelf

variable {K L}

section Steps
variable {p : Side → Option (VerifyCallback U) → Bool → Prop} {sessions contexts : Nat} {self : System U (World U P)}

/-- The calls that put something into a context. -/
def Call.configures : Call X P → Bool
  | .usePrivkey _ _ | .useCert _ _ => true
  | _ => false

/-- Of all methods but `negotiate`. -/
theorem Call.preserves {I : Endpoint U × World U P → Prop} {c : Call X P} (side : Side)
    (hnegotiate : ∀ answers, c ≠ .negotiate answers) (huses : Uses I)
    (hconfigures : c.configures = true → ∀ f s, I s → I (s.1, s.2.updateCtx s.1.ctx f)) :
    Proc.Preserves I (c.run K L side) := by
  cases c with
  | negotiate answers => exact absurd rfl (hnegotiate answers)
  | send res => exact preserves_send huses res
  | receive res => exact (preserves_receive huses res).bind fun _ => Proc.Preserves.pure _
  | shutdown => exact preserves_shutdown huses
  | usePrivkey privkey res => cases side <;> exact preserves_usePrivkey (hconfigures rfl) _ res
  | useCert cert res => exact preserves_useCert (hconfigures rfl) cert res

theorem Call.run_negotiate (answers : NegotiateAnswers P) (side : Side) :
    ((Call.negotiate answers).run K L side : Method U W Unit) =
      Openssl.negotiate side.mode (L.handshake side) answers := by
  cases side <;> rfl

theorem Call.run_at (c : Call X P) {unset : List Nat} {e : Endpoint U} {es : List (Endpoint U)} {w : World U P}
    (h : Inv L sessions unset w (e :: es)) :
    ∃ r e' w', (c.run K L e.side).exec (e, w) = (r, e', w') ∧
      (e'.side = e.side ∧ e'.verifyCallback = e.verifyCallback ∧ e'.attestSelf = e.attestSelf) ∧
      Inv L (sessions + c.leftSessions K L e w) unset w' (e' :: es) := by
  have hpreserves : (∀ answers, c ≠ .negotiate answers) → c.leftSessions K L e w = 0 → ∃ r e' w',
      (c.run K L e.side).exec (e, w) = (r, e', w') ∧
      (e'.side = e.side ∧ e'.verifyCallback = e.verifyCallback ∧ e'.attestSelf = e.attestSelf) ∧
      Inv L (sessions + c.leftSessions K L e w) unset w' (e' :: es) := by
    intro hc h0
    have hat : At L sessions unset e es (e, w) := ⟨rfl, h⟩
    obtain ⟨r, ⟨e', w'⟩, hexec, rfl, hinv⟩ :=
      (Call.preserves (K := K) (L := L) e.side hc At.uses fun _ => At.updateCtx).exec hat
    rw [h0]
    exact ⟨r, e', w', hexec, ⟨rfl, rfl, rfl⟩, hinv⟩
  cases c with
  | negotiate answers =>
    have hafter := negotiate_at answers (e, w) ⟨rfl, h⟩
    rw [Call.leftSessions, Call.run_negotiate]
    rcases hexec : (Openssl.negotiate e.side.mode (L.handshake e.side) answers).exec (e, w) with ⟨_ | ⟨⟩, e', w'⟩
    · rw [hexec] at hafter
      obtain ⟨rfl, hinv⟩ := hafter
      exact ⟨_, e', w', rfl, ⟨rfl, rfl, rfl⟩, hinv⟩
    · rw [hexec] at hafter
      obtain ⟨session, rfl, hinv⟩ := hafter
      exact ⟨_, _, w', rfl, ⟨rfl, rfl, rfl⟩, hinv⟩
  | _ => exact hpreserves (fun _ h => (by cases h)) rfl

theorem System.Sound.built (h : self.Sound L p sessions contexts) {b : Proc (World U P) Fault (Endpoint U)}
    {lost : Nat} {side : Side} {verifyCallback : Option (VerifyCallback U)} {attestSelf : Bool}
    (hp : p side verifyCallback attestSelf)
    (hb : ∀ unset, Proc.Triple (fun w => Inv L sessions unset w self.endpoints) b
      (fun e w => lost = 0 ∧ (e.side = side ∧ e.verifyCallback = verifyCallback ∧ e.attestSelf = attestSelf) ∧
        Inv L sessions unset w (e :: self.endpoints))
      (fun _ w => ∃ unset', unset'.length = unset.length + lost ∧ Inv L sessions unset' w self.endpoints)) :
    (self.built b).Sound L p sessions (contexts + lost) := by
  obtain ⟨⟨unset, hunset, hinv⟩, hbuilders⟩ := h
  have hafter := hb unset self.world hinv
  unfold System.built
  rcases hexec : b.exec self.world with ⟨_ | e, w'⟩
  · rw [hexec] at hafter
    obtain ⟨unset', hlength, hinv'⟩ := hafter
    exact ⟨⟨unset', by rw [hlength, hunset], hinv'⟩, hbuilders⟩
  · rw [hexec] at hafter
    obtain ⟨rfl, ⟨rfl, rfl, rfl⟩, hinv'⟩ := hafter
    exact ⟨⟨unset, hunset, hinv'⟩, List.forall_mem_cons.mpr ⟨hp, hbuilders⟩⟩

/-- **One event.** -/
theorem System.Sound.step (h : self.Sound L p sessions contexts) {event : Event X ρ U P}
    (hp : ∀ side verifyCallback attestSelf, event.builder = some (side, verifyCallback, attestSelf) →
      p side verifyCallback attestSelf) :
    (self.step K L event).Sound L p (sessions + self.leftSessions K L event) (contexts + event.leftContexts) := by
  cases event with
  | buildClient builder answers =>
    exact h.built (hp _ _ _ rfl) fun unset =>
      build_inv (fun _ _ _ _ _ _ => preserves_usePrivkey At.updateCtx _ _) _ _ _ _ answers
  | buildServer builder answers =>
    exact h.built (hp _ _ _ rfl) fun unset =>
      build_inv (fun _ _ _ _ _ _ => preserves_usePrivkey At.updateCtx _ _) _ _ _ _ answers
  | call i c =>
    obtain ⟨⟨unset, hunset, hinv⟩, hbuilders⟩ := h
    cases hi : self.endpoints[i]? with
    | none =>
      simp only [System.step, System.leftSessions, hi]
      exact ⟨⟨unset, hunset, hinv⟩, hbuilders⟩
    | some e =>
      obtain ⟨hlt, he⟩ := List.getElem?_eq_some_iff.mp hi
      have hperm := List.getElem_cons_eraseIdx_perm hlt
      rw [he] at hperm
      obtain ⟨r, e', w', hexec, ⟨hside, hcallback, hattest⟩, hinv'⟩ := c.run_at (K := K) (hinv.perm hperm.symm)
      have hset := List.set_perm_cons_eraseIdx hlt e'
      simp only [System.step, System.leftSessions, hi, hexec]
      refine ⟨⟨unset, hunset, hinv'.perm hset.symm⟩, ?_⟩
      intro e'' he''
      rcases List.mem_cons.mp (hset.mem_iff.mp he'') with rfl | hother
      · rw [hside, hcallback, hattest]
        exact hbuilders e (List.mem_of_getElem? hi)
      · exact hbuilders e'' (List.mem_of_mem_eraseIdx hother)
  | drop i =>
    obtain ⟨⟨unset, hunset, hinv⟩, hbuilders⟩ := h
    cases hi : self.endpoints[i]? with
    | none =>
      simp only [System.step, hi]
      exact ⟨⟨unset, hunset, hinv⟩, hbuilders⟩
    | some e =>
      obtain ⟨hlt, he⟩ := List.getElem?_eq_some_iff.mp hi
      have hperm := List.getElem_cons_eraseIdx_perm hlt
      rw [he] at hperm
      simp only [System.step, hi]
      exact ⟨⟨unset, hunset, (hinv.perm hperm.symm).drop⟩, fun e' he' => hbuilders e' (List.mem_of_mem_eraseIdx he')⟩

/-- **All events of a run.** -/
theorem System.Sound.run {events : List (Event X ρ U P)} (h : self.Sound L p sessions contexts)
    (hp : ∀ event ∈ events, ∀ side verifyCallback attestSelf,
      event.builder = some (side, verifyCallback, attestSelf) → p side verifyCallback attestSelf) :
    (events.foldl (System.step K L) self).Sound L p (sessions + (self.leftBehind K L events).1)
      (contexts + (self.leftBehind K L events).2) := by
  induction events generalizing self sessions contexts with
  | nil => exact h
  | cons event events ih =>
    obtain ⟨hfirst, hrest⟩ := List.forall_mem_cons.mp hp
    have hafter := ih (h.step (K := K) hfirst) hrest
    rw [Nat.add_assoc, Nat.add_assoc] at hafter
    exact hafter

end Steps

theorem System.sound_empty (L : Library U P) (p : Side → Option (VerifyCallback U) → Bool → Prop) :
    (System.empty : System U (World U P)).Sound L p 0 0 := ⟨⟨[], rfl, inv_empty⟩, fun _ h => (by cases h)⟩

theorem System.sound_run [Objects.Lawful W] (K : KeyCrates X.rsa X.p256 ρ) (L : Library U P)
    (p : Side → Option (VerifyCallback U) → Bool → Prop) (events : List (Event X ρ U P))
    (hp : ∀ event ∈ events, ∀ side verifyCallback attestSelf,
      event.builder = some (side, verifyCallback, attestSelf) → p side verifyCallback attestSelf) :
    (System.run K L events : System U W).seen.Sound L p ((System.empty : System U W).leftBehind K L events).1
      ((System.empty : System U W).leftBehind K L events).2 := by
  have hrun := (System.sound_empty L p).run (K := K) hp
  rw [Nat.zero_add, Nat.zero_add, ← System.seen_empty (W := W), System.leftBehind_seen] at hrun
  exact System.seen_foldl (W := W) events .empty ▸ hrun

/-! ### What is left -/

/-- Without endpoints there is nothing but what was left behind. -/
theorem Inv.left_iff {left : Nat} {unset : List Nat} {w : World U P} (h : Inv L left unset w []) :
    (w.sessions.live = [] ↔ left = 0) ∧ (w.sessions.live = [] → (w.ctxs.live = [] ↔ unset = [])) := by
  have hlength : w.sessions.pointers.length = w.sessions.live.length := List.length_map _
  have hcount : w.sessions.live.length = 0 + left := hlength ▸ h.count
  refine ⟨by rw [← List.length_eq_zero_iff, hcount, Nat.zero_add], ?_⟩
  intro hsessions
  have hreferences : ∀ ctx, w.ctxs.references ctx = unset.count ctx := by
    intro ctx
    rw [h.references ctx, Arena.values, hsessions]
    simp
  constructor
  · intro hctxs
    rw [List.eq_nil_iff_forall_not_mem]
    intro ctx hctx
    have hmem : ctx ∈ w.ctxs.pointers := by
      refine Arena.mem_of_references h.ctxs.sound ?_
      rw [hreferences]
      exact List.count_pos_iff.mpr hctx
    rw [Arena.pointers, hctxs] at hmem
    cases hmem
  · intro hunset
    rw [List.eq_nil_iff_forall_not_mem]
    intro object hobject
    have hpos := h.ctxs.references_pos (List.mem_map_of_mem hobject)
    rw [hreferences, hunset] at hpos
    cases hpos

/-- **Main theorem.** In every run of clients and servers no pointer is used after it was freed, and none is
freed twice. The sessions that OpenSSL holds are those that endpoints keep and those left behind, and every
context has the references of its endpoint, of the sessions with it, and of `build`s without a stream. When all
endpoints are dropped nothing is held if and only if nothing was left behind. -/
theorem openssl_memory [Objects.Lawful W] (K : KeyCrates X.rsa X.p256 ρ) (L : Library U P)
    (events : List (Event X ρ U P)) :
    let final : System U W := System.run K L events
    let world : World U P := Objects.world final.world
    let left := (System.empty : System U W).leftBehind K L events
    (world.ctxs.fault = false ∧ world.sessions.fault = false) ∧
    world.sessions.pointers.length = (kept final.endpoints).length + left.1 ∧
    (∃ unset : List Nat, unset.length = left.2 ∧ ∀ ctx, world.ctxs.references ctx =
      (final.endpoints.map (·.ctx)).count ctx + (world.sessions.values.map (·.ctx)).count ctx +
        unset.count ctx) ∧
    (final.endpoints = [] →
      (world.sessions.live = [] ∧ world.ctxs.live = [] ↔ left.1 = 0 ∧ left.2 = 0)) := by
  intro final world left
  obtain ⟨⟨unset, hunset, hinv⟩, -⟩ := System.sound_run (W := W) K L (fun _ _ _ => True) events
    fun _ _ _ _ _ _ => trivial
  refine ⟨⟨hinv.ctxs.sound.fault, hinv.sessions.fault⟩, hinv.count, ⟨unset, hunset, hinv.references⟩, ?_⟩
  intro hnone
  have hinv' : Inv L left.1 unset world [] := hnone ▸ hinv
  obtain ⟨hsessions, hctxs⟩ := hinv'.left_iff
  rw [← hsessions, ← show unset.length = left.2 from hunset, List.length_eq_zero_iff]
  exact and_congr_right hctxs

/-! ### Whom a session is with -/

/-- What OpenSSL promises of a handshake with the default callback: `SSL_connect` verifies the server if the
mode has `SSL_VERIFY_PEER`, and `SSL_accept` the client if it has `SSL_VERIFY_FAIL_IF_NO_PEER_CERT` too. Of a
verification all calls of the callback are answered 1. `presents` is what a peer sends: what OpenSSL itself
finds wrong with it, and the leaf. -/
structure Library.Verifying (X : Externals) (D : Dcap) (presents : P → Option (List StoreCtx × StoreCtx))
    (L : Library U P) : Prop where
  connect : ∀ mode peer, mode.contains .sslVerifyPeer = true →
    L.connect (some (mode, .verifyCertificateDefault)) peer = 1 →
    ∃ reports leaf, presents peer = some (reports, leaf) ∧
      ∀ answer ∈ answers X D (verification reports leaf), answer = .ok 1
  accept : ∀ mode peer, mode.contains .sslVerifyPeer = true → mode.contains .sslVerifyFailIfNoPeerCert = true →
    L.accept (some (mode, .verifyCertificateDefault)) peer = 1 →
    ∃ reports leaf, presents peer = some (reports, leaf) ∧
      ∀ answer ∈ answers X D (verification reports leaf), answer = .ok 1

/-- A session with a peer whose certificate leads to a quote, and with which OpenSSL finds nothing wrong but
that it signs itself. -/
structure Authenticated (X : Externals) (D : Dcap) (presents : P → Option (List StoreCtx × StoreCtx))
    (e : Endpoint U) (ssl : Ssl U P) (der : Bytes) (c : Chain) : Prop where
  fd : ssl.fd = some e.stream
  peer : ∃ peer reports leaf, ssl.peer = some peer ∧ presents peer = some (reports, leaf) ∧
    leaf.currentCert = some der ∧ ∀ ctx ∈ reports, ctx.error = x509VErrDepthZeroSelfSignedCert
  valid : c.Valid X D der

/-- Both modes verify. -/
theorem Library.Verifying.handshake {D : Dcap} {presents : P → Option (List StoreCtx × StoreCtx)}
    (hL : L.Verifying X D presents) {side : Side} {peer : P}
    (h : L.handshake side (some (side.mode, .verifyCertificateDefault)) peer = 1) :
    ∃ reports leaf, presents peer = some (reports, leaf) ∧
      ∀ answer ∈ answers X D (verification reports leaf), answer = .ok 1 := by
  cases side with
  | client => exact hL.connect _ peer (by decide) h
  | server => exact hL.accept _ peer (by decide) (by decide) h

theorem Shaken.authenticated {D : Dcap} {presents : P → Option (List StoreCtx × StoreCtx)}
    (hL : L.Verifying X D presents) {e : Endpoint U} {ssl : Ssl U P} (h : Shaken L e ssl)
    (hcallback : e.verifyCallback = some .verifyCertificateDefault) :
    ∃ der c, Authenticated X D presents e ssl der c := by
  obtain ⟨peer, hpeer, hhandshake⟩ := h.peer
  rw [h.verify _ hcallback] at hhandshake
  obtain ⟨reports, leaf, hpresents, hanswers⟩ := hL.handshake hhandshake
  obtain ⟨⟨der, claims, hder, hverified⟩, hreports⟩ := verification_accepts.mp hanswers
  obtain ⟨c, hvalid, -⟩ := verifyCertDer_eq_ok.mp hverified
  exact ⟨der, c, h.fd, ⟨peer, reports, leaf, hpeer, hpresents, hder, hreports⟩, hvalid⟩

/-- A builder that is not given a callback, and of a server one that verifies. -/
def Event.Verifying : Event X ρ U P → Prop
  | .buildClient builder _ => builder.verify = none
  | .buildServer builder _ => builder.verify = none ∧ builder.verifyPeer = true
  | _ => True

/-- **Main theorem.** In every run, a session that an endpoint with the default callback keeps, and so sends
and receives on, is over the endpoint's stream and with a peer whose certificate leads to a quote; whatever else
became of its calls of `negotiate`. A client always has a callback, and if the builders are not given one and the
servers verify, then all endpoints have the default one. -/
theorem openssl_authenticates [Objects.Lawful W] (K : KeyCrates X.rsa X.p256 ρ) {L : Library U P} {D : Dcap}
    {presents : P → Option (List StoreCtx × StoreCtx)} (hL : L.Verifying X D presents)
    (events : List (Event X ρ U P)) :
    let final : System U W := System.run K L events
    (∀ e ∈ final.endpoints, e.verifyCallback = some .verifyCertificateDefault →
      ∀ session, e.sslSession = some session → ∃ ssl der c,
        (Objects.world final.world).sessions.get session = some ssl ∧ Authenticated X D presents e ssl der c) ∧
    (∀ e ∈ final.endpoints, e.side = .client → e.verifyCallback ≠ none) ∧
    ((∀ event ∈ events, event.Verifying) →
      ∀ e ∈ final.endpoints, e.verifyCallback = some .verifyCertificateDefault) := by
  intro final
  refine ⟨?_, ?_, ?_⟩
  · obtain ⟨⟨unset, -, hinv⟩, -⟩ := System.sound_run (W := W) K L (fun _ _ _ => True) events
      fun _ _ _ _ _ _ => trivial
    intro e he hcallback session hsession
    obtain ⟨ssl, hget, hshaken⟩ := hinv.shaken e he session hsession
    obtain ⟨der, c, hauthenticated⟩ := hshaken.authenticated hL hcallback
    exact ⟨ssl, der, c, hget, hauthenticated⟩
  · refine (System.sound_run (W := W) K L (fun side callback _ => side = .client → callback ≠ none) events ?_).builders
    intro event _ side callback attestSelf hbuilder hside
    cases event with
    | buildClient builder answers =>
      obtain ⟨-, rfl, -⟩ := Prod.mk.inj (Option.some.inj hbuilder)
      exact Option.some_ne_none _
    | buildServer builder answers =>
      obtain ⟨rfl, -⟩ := Prod.mk.inj (Option.some.inj hbuilder)
      cases hside
    | _ => cases hbuilder
  · intro hverifying
    refine (System.sound_run (W := W) K L (fun _ callback _ => callback = some .verifyCertificateDefault) events
      ?_).builders
    intro event hevent side callback attestSelf hbuilder
    have hdefault := hverifying event hevent
    cases event with
    | buildClient builder answers =>
      obtain ⟨-, rfl, -⟩ := Prod.mk.inj (Option.some.inj hbuilder)
      rw [show builder.verify = none from hdefault]
      rfl
    | buildServer builder answers =>
      obtain ⟨-, rfl, -⟩ := Prod.mk.inj (Option.some.inj hbuilder)
      rw [hdefault.1, hdefault.2]
      rfl
    | _ => cases hbuilder

end Runs

/-! ### A client that negotiates -/

section Sample
variable (X : Externals) (D : Dcap) {ρ U P : Type}

/-- Everything that the callback is called with is answered 1. -/
def vouched (presented : List StoreCtx × StoreCtx) : Bool :=
  (answers X D (verification presented.1 presented.2)).all fun answer => decide (answer = .ok 1)

/-- The handshake with a peer that is what it presents, and may have to present something. -/
def shakes (required : SslMode → Bool) (verify : Option (SslMode × VerifyCallback Unit))
    (peer : Option (List StoreCtx × StoreCtx)) : Int :=
  match verify, peer with
  | some (_, .verifyCertificateDefault), some presented => if vouched X D presented then 1 else -1
  | some (mode, _), none => if required mode then -1 else 1
  | _, _ => 1

/-- A world with such peers. -/
abbrev Presented : Type := World Unit (Option (List StoreCtx × StoreCtx))

def Library.careful (checkPrivateKey : Bytes → EpvPkey × Bytes → Bool) :
    Library Unit (Option (List StoreCtx × StoreCtx)) where
  connect := shakes X D fun _ => true
  accept := shakes X D fun mode => mode.contains .sslVerifyFailIfNoPeerCert
  checkPrivateKey := checkPrivateKey

variable {X D}

theorem shakes_eq_one {required : SslMode → Bool} {mode : SslMode} {peer : Option (List StoreCtx × StoreCtx)}
    (hrequired : required mode = true) :
    shakes X D required (some (mode, .verifyCertificateDefault)) peer = 1 ↔
      ∃ reports leaf, peer = some (reports, leaf) ∧
        ∀ answer ∈ answers X D (verification reports leaf), answer = .ok 1 := by
  unfold shakes
  cases peer with
  | none => simp [hrequired]
  | some presented =>
    obtain ⟨reports, leaf⟩ := presented
    simp only [vouched, List.all_eq_true, decide_eq_true_eq, Option.some.injEq, Prod.mk.injEq]
    constructor
    · intro h
      split at h
      next hanswers => exact ⟨reports, leaf, ⟨rfl, rfl⟩, hanswers⟩
      next => cases h
    · rintro ⟨_, _, ⟨rfl, rfl⟩, hanswers⟩
      exact if_pos hanswers

theorem Library.careful_verifying {checkPrivateKey : Bytes → EpvPkey × Bytes → Bool} :
    (Library.careful X D checkPrivateKey).Verifying X D id where
  connect _ _ _ h := (shakes_eq_one rfl).mp h
  accept mode _ _ hfail h := (@shakes_eq_one _ _ (fun mode => mode.contains _) mode _ hfail).mp h

/-- A client, before and after it has negotiated. -/
def built : Endpoint U := ⟨.client, 0, none, some .verifyCertificateDefault, 3, false⟩

def negotiated : Endpoint U := { (built : Endpoint U) with sslSession := some 0 }

theorem shakeHands_exec {handshake : Option (SslMode × VerifyCallback U) → P → Int} {session : Nat} {peer : P}
    {e : Endpoint U} {w : World U P} (h : (w.shakeHands handshake session peer).1 = 1) :
    (shakeHands handshake session peer).exec (e, w) = (.ok (), e, (w.shakeHands handshake session peer).2) := by
  have hok : ¬ (w.shakeHands handshake session peer).1 ≠ 1 := not_not.mpr h
  rw [shakeHands, Proc.exec_bind_ok (Proc.exec_get _)]
  show (modifyWorld (fun _ _ => (w.shakeHands handshake session peer).2) >>= fun _ =>
    if (w.shakeHands handshake session peer).1 ≠ 1 then _ else _).exec (e, w) = _
  rw [if_neg hok]
  rfl

/-- With the first context of a process. -/
theorem negotiate_built {L : Library U P} {peer : P}
    (h : L.connect (some (Client.mode, .verifyCertificateDefault)) peer = 1) :
    ∃ w', (Client.negotiate L ⟨true, 1, peer⟩).exec (built, (World.empty.sslCtxNew).2) = (.ok (), negotiated, w') := by
  let w₁ : World U P := Objects.sslCtxSetVerify (World.empty : World U P).sslCtxNew.2 0 Client.mode
    .verifyCertificateDefault
  let w₂ : World U P := Objects.x509StoreSetExData (w₁.sslNew 0).2 0
  let w₃ : World U P := Objects.sslSetFd w₂ 0 3 1
  have hset : (setVerify Client.mode).exec (built, World.empty.sslCtxNew.2) = (.ok (), built, w₁) := rfl
  have hnew : (newSession true).exec (built, w₁) = (.ok 0, built, w₂) := rfl
  have hfd : (setFd 0 1).exec (built, w₂) = (.ok (), built, w₃) := rfl
  have hshake : (w₃.shakeHands L.connect 0 peer).1 = 1 := h
  rw [Client.negotiate, negotiate, Proc.exec_bind_ok hset, Proc.exec_bind_ok hnew, Proc.exec_bind_ok hfd,
    Proc.exec_bind_ok (shakeHands_exec hshake)]
  exact ⟨_, rfl⟩

/-- A client is built, and negotiates. -/
def events (rng : ρ) (peer : P) : List (Event X ρ U P) :=
  [.buildClient ⟨none, some 3, false⟩ ⟨0, true, rng, fun _ => Res.fail .unsupportedTeeType "", 1, 1⟩,
    .call 0 (.negotiate ⟨true, 1, peer⟩)]

theorem endpoints_events {K : KeyCrates X.rsa X.p256 ρ} {L : Library U P} (rng : ρ) {peer : P}
    (h : L.connect (some (Client.mode, .verifyCertificateDefault)) peer = 1) :
    (System.run K L (events rng peer) : System U (World U P)).endpoints = [negotiated] := by
  obtain ⟨w', hexec⟩ := negotiate_built h
  have hbuild : System.step K L (.empty : System U (World U P)) (.buildClient ⟨none, some 3, false⟩
      ⟨0, true, rng, fun _ => Res.fail .unsupportedTeeType "", 1, 1⟩) = ⟨World.empty.sslCtxNew.2, [built]⟩ := rfl
  have hcall : System.step K L ⟨World.empty.sslCtxNew.2, [built]⟩ (.call 0 (.negotiate ⟨true, 1, peer⟩)) =
      ⟨w', [negotiated]⟩ := by
    let after := (Client.negotiate L ⟨true, 1, peer⟩).exec (built, World.empty.sslCtxNew.2)
    show (⟨after.2.2, [after.2.1]⟩ : System U (World U P)) = _
    rw [show after = _ from hexec]
  rw [System.run, events, List.foldl_cons, List.foldl_cons, hbuild, hcall, List.foldl_nil]

/-- A certificate of which OpenSSL reports that it signs itself. -/
def presented (der : Bytes) : List StoreCtx × StoreCtx :=
  ([⟨x509VErrDepthZeroSelfSignedCert, none⟩], ⟨0, some der⟩)

theorem negotiated_mem {K : KeyCrates X.rsa X.p256 ρ} {der : Bytes} {claims : Claims}
    (h : verifyCertDer X D der = .ok claims) (rng : ρ) (checkPrivateKey : Bytes → EpvPkey × Bytes → Bool) :
    negotiated ∈ (System.run K (.careful X D checkPrivateKey) (events rng (some (presented der))) :
      System Unit Presented).endpoints := by
  have hanswers : ∀ answer ∈ answers X D (verification (presented der).1 (presented der).2), answer = .ok 1 :=
    verification_accepts.mpr ⟨⟨der, claims, rfl, h⟩, List.forall_mem_singleton.mpr rfl⟩
  have hconnect : (Library.careful X D checkPrivateKey).connect (some (Client.mode, .verifyCertificateDefault))
      (some (presented der)) = 1 :=
    (@shakes_eq_one X D (fun _ => true) Client.mode _ rfl).mpr ⟨_, _, rfl, hanswers⟩
  rw [endpoints_events (K := K) (L := .careful X D checkPrivateKey) rng hconnect]
  exact List.mem_singleton_self _

end Sample

/-- Crates with which no key can be had. -/
def keyless : KeyCrates Sample.externals.rsa Sample.externals.p256 Unit where
  rsaNew _ _ := .error "unknown"
  p256Random _ := ()
  bits _ := 0
  rsaToPkcs8Pem _ := .error "unknown"
  rsaFromPkcs8Pem _ := .error "unknown"
  rsaToPkcs8Der _ := .error "unknown"
  p256ToPkcs8Pem _ := .error "unknown"
  p256FromPkcs8Pem _ := .error "unknown"
  p256ToPkcs8Der _ := .error "unknown"

/-- Over a world, with the sample's certificate. -/
theorem sample_memory :
    let final := System.run (W := Presented) keyless (Library.careful Sample.externals Sample.dcap fun _ _ => true)
      (events () (some (presented Sample.firstDer)))
    let world : Presented := Objects.world final.world
    world.ctxs.fault = false ∧ world.sessions.fault = false := by
  obtain ⟨hfault, -⟩ := openssl_memory (W := Presented) keyless
    (Library.careful Sample.externals Sample.dcap fun _ _ => true) (events () (some (presented Sample.firstDer)))
  exact hfault

theorem sample_authenticated : ∃ (ssl : Ssl Unit (Option (List StoreCtx × StoreCtx))) (der : Bytes) (c : Chain),
    Authenticated Sample.externals Sample.dcap id negotiated ssl der c := by
  have hverifying : (Library.careful Sample.externals Sample.dcap fun _ _ => true).Verifying Sample.externals
      Sample.dcap id := Library.careful_verifying
  obtain ⟨hauthenticates, -⟩ := openssl_authenticates (W := Presented) keyless hverifying
    (events () (some (presented Sample.firstDer)))
  obtain ⟨ssl, der, c, -, h⟩ := hauthenticates negotiated (negotiated_mem Sample.verify_firstDer () _) rfl 0 rfl
  exact ⟨ssl, der, c, h⟩

end RatsRs.Transport.Openssl
