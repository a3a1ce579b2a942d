import RatsRs.Transport.Openssl

/-! What is behind the pointers of the OpenSSL transports.

No pointer is used after it was freed, every context has as many references as there are endpoints and sessions
that keep it, and a session that an endpoint keeps has shaken hands with what the endpoint verifies with (`Inv`).
All methods but `negotiate` leave this as it is (`Keeps`); `negotiate` leaves a session behind if it fails after
`SSL_new`, or succeeds where there was a session, and `build` a context if it has no stream. -/
namespace RatsRs.Transport.Openssl
open Lib Cert Tee

section Invariant
variable {U P : Type}

def Side.mode : Side → SslMode
  | client => Client.mode
  | server => Server.mode

def Library.handshake (L : Library U P) : Side → Option (SslMode × VerifyCallback U) → P → Int
  | .client => L.connect
  | .server => L.accept

variable (L : Library U P)

/-- A session of an endpoint: over its stream, with its callback, and a handshake that succeeded. -/
structure Shaken (e : Endpoint U) (ssl : Ssl U P) : Prop where
  ctx : ssl.ctx = e.ctx
  fd : ssl.fd = some e.stream
  verify : ∀ callback, e.verifyCallback = some callback → ssl.verify = some (e.side.mode, callback)
  peer : ∃ peer, ssl.peer = some peer ∧ L.handshake e.side ssl.verify peer = 1

/-- The sessions that are kept. -/
def kept (endpoints : List (Endpoint U)) : List Nat := endpoints.filterMap (·.sslSession)

/-- Of the sessions `left` are not kept by any endpoint, and the contexts `unset` by no endpoint or session. -/
structure Inv (left : Nat) (unset : List Nat) (w : World U P) (endpoints : List (Endpoint U)) : Prop where
  ctxs : w.ctxs.Referenced
  sessions : w.sessions.Sound
  references : ∀ ctx, w.ctxs.references ctx =
    (endpoints.map (·.ctx)).count ctx + (w.sessions.values.map (·.ctx)).count ctx + unset.count ctx
  shaken : ∀ e ∈ endpoints, ∀ session, e.sslSession = some session →
    ∃ ssl, w.sessions.get session = some ssl ∧ Shaken L e ssl
  distinct : (kept endpoints).Nodup
  count : w.sessions.pointers.length = (kept endpoints).length + left

/-- A session that no endpoint keeps. -/
structure Loose (w : World U P) (endpoints : List (Endpoint U)) (session : Nat) (ssl : Ssl U P) : Prop where
  get : w.sessions.get session = some ssl
  free : session ∉ kept endpoints

variable {L} {left : Nat} {unset : List Nat} {w : World U P} {e : Endpoint U} {es : List (Endpoint U)}
  {ctx session : Nat} {ssl : Ssl U P}

theorem inv_empty : Inv L 0 [] (World.empty : World U P) [] where
  ctxs := ⟨Arena.sound_empty, fun _ _ h => (by cases h)⟩
  sessions := Arena.sound_empty
  references _ := rfl
  shaken := fun _ h => (by cases h)
  distinct := List.nodup_nil
  count := rfl

/-- The order of the endpoints does not matter. -/
theorem Inv.perm {es' : List (Endpoint U)} (h : Inv L left unset w es) (hperm : es.Perm es') :
    Inv L left unset w es' where
  ctxs := h.ctxs
  sessions := h.sessions
  references ctx := by rw [h.references ctx, (hperm.map _).count_eq]
  shaken e he := h.shaken e (hperm.mem_iff.mpr he)
  distinct := (hperm.filterMap _).nodup_iff.mp h.distinct
  count := by rw [h.count, kept, kept, (hperm.filterMap _).length_eq]

/-- The context of an endpoint is there. -/
theorem Inv.ctx_mem (h : Inv L left unset w es) (he : e ∈ es) : e.ctx ∈ w.ctxs.pointers := by
  refine Arena.mem_of_references h.ctxs.sound ?_
  have hpos : 0 < (es.map (·.ctx)).count e.ctx := List.count_pos_iff.mpr (List.mem_map_of_mem he)
  have := h.references e.ctx
  omega

theorem Inv.shaken_head (h : Inv L left unset w (e :: es)) (hsession : e.sslSession = some session) :
    ∃ ssl, w.sessions.get session = some ssl ∧ Shaken L e ssl :=
  h.shaken e (List.mem_cons_self ..) session hsession

/-! ### What changes nothing of it -/

theorem Inv.updateCtx {f : SslCtx U → SslCtx U} (h : Inv L left unset w es) (hctx : ctx ∈ w.ctxs.pointers) :
    Inv L left unset (w.updateCtx ctx f) es where
  ctxs := h.ctxs.updateValue hctx
  sessions := h.sessions
  references other := by
    show (w.ctxs.updateValue ctx f).references other = _
    rw [Arena.references_updateValue h.ctxs.sound hctx, h.references other]
    rfl
  shaken := h.shaken
  distinct := h.distinct
  count := h.count

/-- A session that is kept may be used. -/
theorem Inv.useSession (h : Inv L left unset w (e :: es)) (hsession : e.sslSession = some session) :
    w.useSession session = w := by
  obtain ⟨ssl, hget, -⟩ := h.shaken_head hsession
  rw [World.useSession, World.updateSession,
    Arena.update_id h.sessions ((Arena.mem_pointers_iff h.sessions).mpr ⟨ssl, hget⟩)]

theorem Inv.useLoose (h : Inv L left unset w es) (hloose : Loose w es session ssl) : w.useSession session = w := by
  rw [World.useSession, World.updateSession,
    Arena.update_id h.sessions ((Arena.mem_pointers_iff h.sessions).mpr ⟨ssl, hloose.get⟩)]

/-- A session that is not kept may change, as long as its context is the same. -/
theorem Inv.updateLoose {f : Ssl U P → Ssl U P} (h : Inv L left unset w es) (hloose : Loose w es session ssl)
    (hf : ∀ ssl, (f ssl).ctx = ssl.ctx) :
    Inv L left unset { w with sessions := w.sessions.update session f } es ∧
      Loose { w with sessions := w.sessions.update session f } es session (f ssl) := by
  have hmem : session ∈ w.sessions.pointers := (Arena.mem_pointers_iff h.sessions).mpr ⟨ssl, hloose.get⟩
  refine ⟨?_, Arena.get_update_self h.sessions hloose.get, hloose.free⟩
  exact {
    ctxs := h.ctxs
    sessions := h.sessions.update hmem
    references := by
      intro ctx
      rw [Arena.map_values_update h.sessions hmem hf]
      exact h.references ctx
    shaken := by
      intro e he other hother
      have hne : other ≠ session := by
        rintro rfl
        exact hloose.free (List.mem_filterMap.mpr ⟨e, he, hother⟩)
      dsimp only
      rw [Arena.get_update_of_ne h.sessions hmem hne]
      exact h.shaken e he other hother
    distinct := h.distinct
    count := by
      rw [Arena.pointers_update hmem h.sessions]
      exact h.count }

/-! ### Making -/

theorem Inv.sslNew (h : Inv L left unset w es) (hctx : ctx ∈ w.ctxs.pointers) :
    Inv L (left + 1) unset (w.sslNew ctx).2 es ∧
      Loose (w.sslNew ctx).2 es (w.sslNew ctx).1 ⟨ctx, (w.ctxs.get ctx).bind fun c => c.value.verify, none, none⟩ := by
  have hkept : ∀ e ∈ es, ∀ session, e.sslSession = some session → session < w.sessions.next := by
    intro e he session hsession
    obtain ⟨ssl, hget, -⟩ := h.shaken e he session hsession
    exact h.sessions.below session ((Arena.mem_pointers_iff h.sessions).mpr ⟨ssl, hget⟩)
  refine ⟨?_, Arena.get_alloc_self, ?_⟩
  · exact {
      ctxs := h.ctxs.retain hctx
      sessions := h.sessions.alloc _
      references := by
        intro other
        show (w.ctxs.retain ctx).references other = _ + (ctx :: w.sessions.values.map (·.ctx)).count other + _
        rw [Arena.references_retain h.ctxs.sound hctx, h.references other, List.count_cons]
        simp only [beq_iff_eq]
        omega
      shaken := by
        intro e he session hsession
        obtain ⟨ssl, hget, hshaken⟩ := h.shaken e he session hsession
        exact ⟨ssl, (Arena.get_alloc_of_lt (hkept e he session hsession)).trans hget, hshaken⟩
      distinct := h.distinct
      count := congrArg (· + 1) h.count }
  · intro hmem
    obtain ⟨e, he, hsession⟩ := List.mem_filterMap.mp hmem
    exact Nat.lt_irrefl _ (hkept e he _ hsession)

/-- An endpoint takes a session that was loose, and leaves the one it has. -/
theorem Inv.hold (h : Inv L (left + 1) unset w (e :: es)) (hloose : Loose w (e :: es) session ssl)
    (hshaken : Shaken L e ssl) :
    Inv L (left + if e.sslSession.isSome then 1 else 0) unset w ({ e with sslSession := some session } :: es) where
  ctxs := h.ctxs
  sessions := h.sessions
  references := h.references
  shaken := by
    intro e' he' other hother
    rcases List.mem_cons.mp he' with rfl | he'
    · obtain rfl := Option.some.inj hother
      exact ⟨ssl, hloose.get, hshaken.ctx, hshaken.fd, hshaken.verify, hshaken.peer⟩
    · exact h.shaken e' (List.mem_cons_of_mem _ he') other hother
  distinct := by
    have hfree := hloose.free
    have hdistinct := h.distinct
    cases hsession : e.sslSession <;> simp_all [kept]
  count := by
    have hcount := h.count
    cases hsession : e.sslSession with
    | none =>
      simp only [kept, List.filterMap_cons_none hsession] at hcount
      simp only [kept, List.filterMap_cons_some (rfl : ({ e with sslSession := some session } : Endpoint U).sslSession = _)]
      rw [hcount]
      simp [Nat.add_assoc, Nat.add_comm]
    | some old =>
      simp only [kept, List.filterMap_cons_some hsession] at hcount
      exact hcount

theorem Inv.sslCtxNew (h : Inv L left unset w es) :
    (∀ side verifyCallback stream attestSelf,
      Inv L left unset w.sslCtxNew.2 (⟨side, w.sslCtxNew.1, none, verifyCallback, stream, attestSelf⟩ :: es)) ∧
    Inv L left (w.sslCtxNew.1 :: unset) w.sslCtxNew.2 es := by
  have hreferences : ∀ ctx, w.sslCtxNew.2.ctxs.references ctx = w.ctxs.references ctx +
      if w.sslCtxNew.1 = ctx then 1 else 0 := fun _ => Arena.references_alloc h.ctxs.sound _
  constructor
  · intro side verifyCallback stream attestSelf
    exact {
      ctxs := h.ctxs.alloc _
      sessions := h.sessions
      references := by
        intro ctx
        rw [hreferences, h.references ctx, List.map_cons, List.count_cons]
        simp only [beq_iff_eq, show w.sslCtxNew.2.sessions = w.sessions from rfl]
        omega
      shaken := by
        intro e he session hsession
        rcases List.mem_cons.mp he with rfl | he
        · cases hsession
        · exact h.shaken e he session hsession
      distinct := h.distinct
      count := h.count }
  · exact {
      ctxs := h.ctxs.alloc _
      sessions := h.sessions
      references := by
        intro ctx
        rw [hreferences, h.references ctx, List.count_cons]
        simp only [beq_iff_eq, show w.sslCtxNew.2.sessions = w.sessions from rfl]
        omega
      shaken := h.shaken
      distinct := h.distinct
      count := h.count }

/-! ### Dropping -/

/-- An endpoint without a session. -/
theorem Inv.sslCtxFree (h : Inv L left unset w (e :: es)) (hsession : e.sslSession = none) :
    Inv L left unset (w.sslCtxFree e.ctx) es where
  ctxs := h.ctxs.release (h.ctx_mem (List.mem_cons_self ..))
  sessions := h.sessions
  references := by
    intro ctx
    have hrelease : w.ctxs.references ctx = (w.ctxs.release e.ctx).references ctx + _ :=
      Arena.references_release h.ctxs (h.ctx_mem (List.mem_cons_self ..))
    rw [h.references ctx, List.map_cons, List.count_cons] at hrelease
    simp only [beq_iff_eq] at hrelease
    show (w.ctxs.release e.ctx).references ctx = _ + (w.sessions.values.map (·.ctx)).count ctx + _
    omega
  shaken := fun e' he' => h.shaken e' (List.mem_cons_of_mem _ he')
  distinct := by
    have hdistinct := h.distinct
    rwa [kept, List.filterMap_cons_none hsession] at hdistinct
  count := by
    have hcount := h.count
    rwa [kept, List.filterMap_cons_none hsession] at hcount

/-- A session that is kept is freed, and its endpoint goes on without one. -/
theorem Inv.sslFree (h : Inv L left unset w (e :: es)) (hsession : e.sslSession = some session) :
    Inv L left unset (w.sslFree session) ({ e with sslSession := none } :: es) := by
  obtain ⟨ssl, hget, hshaken⟩ := h.shaken_head hsession
  have hmem : session ∈ w.sessions.pointers := (Arena.mem_pointers_iff h.sessions).mpr ⟨ssl, hget⟩
  have hctx : ssl.ctx ∈ w.ctxs.pointers := hshaken.ctx ▸ h.ctx_mem (List.mem_cons_self ..)
  have hdistinct := h.distinct
  have hcount := h.count
  rw [kept, List.filterMap_cons_some hsession] at hdistinct hcount
  obtain ⟨hfree, hrest⟩ := List.nodup_cons.mp hdistinct
  have hfreed : w.sslFree session =
      ⟨w.ctxs.release ssl.ctx, w.sessions.free session⟩ := by
    rw [World.sslFree, hget]
    rfl
  rw [hfreed]
  exact {
    ctxs := h.ctxs.release hctx
    sessions := h.sessions.free hmem
    references := by
      intro ctx
      have hrelease : w.ctxs.references ctx = (w.ctxs.release ssl.ctx).references ctx + _ :=
        Arena.references_release h.ctxs hctx
      have hvalues := ((Arena.values_free h.sessions hget).map (·.ctx)).count_eq ctx
      rw [List.map_cons, List.count_cons] at hvalues
      rw [h.references ctx, hvalues] at hrelease
      simp only [beq_iff_eq] at hrelease
      show (w.ctxs.release ssl.ctx).references ctx = ((e :: es).map (·.ctx)).count ctx +
        ((w.sessions.free session).values.map (·.ctx)).count ctx + _
      omega
    shaken := by
      intro e' he' other hother
      rcases List.mem_cons.mp he' with rfl | he'
      · cases hother
      · have hne : other ≠ session := by
          rintro rfl
          exact hfree (List.mem_filterMap.mpr ⟨e', he', hother⟩)
        dsimp only
        rw [Arena.get_free_of_ne h.sessions hmem hne]
        exact h.shaken e' (List.mem_cons_of_mem _ he') other hother
    distinct := hrest
    count := by
      have hlength := Arena.length_free hmem h.sessions
      rw [List.length_cons] at hcount
      show (w.sessions.free session).pointers.length = (es.filterMap (·.sslSession)).length + left
      have hcount : w.sessions.pointers.length = (es.filterMap (·.sslSession)).length + 1 + left := hcount
      omega }

theorem Inv.drop (h : Inv L left unset w (e :: es)) : Inv L left unset (e.drop w) es := by
  unfold Endpoint.drop
  cases hsession : e.sslSession with
  | none => exact h.sslCtxFree hsession
  | some session => exact (h.sslFree hsession).sslCtxFree rfl

end Invariant

/-! ### Methods -/

section Methods
variable {U P : Type}

section Preserves
variable {I : Endpoint U × World U P → Prop}

/-- The session of the endpoint may be used. -/
def Uses (I : Endpoint U × World U P → Prop) : Prop :=
  ∀ s s' session, I s → I s' → s.1.sslSession = some session → I (s'.1, s'.2.useSession session)

theorem preserves_send (h : Uses I) (res : Int32) : Proc.Preserves I (send res) := by
  refine Proc.Preserves.get_bind fun s hs => ?_
  dsimp only
  split
  next => exact Proc.Preserves.throw _
  next session hsession =>
    exact (Proc.Preserves.modify fun s' hs' => h s s' session hs hs' hsession).bind fun _ =>
      (Proc.Preserves.throw _).ite (Proc.Preserves.pure _)

theorem preserves_receive (h : Uses I) (res : Int32) : Proc.Preserves I (receive res) := by
  refine Proc.Preserves.get_bind fun s hs => ?_
  dsimp only
  split
  next => exact Proc.Preserves.throw _
  next session hsession =>
    exact (Proc.Preserves.modify fun s' hs' => h s s' session hs hs' hsession).bind fun _ =>
      ((Proc.Preserves.throw _).bind fun _ => Proc.Preserves.pure _).ite (Proc.Preserves.pure _)

theorem preserves_shutdown (h : Uses I) : Proc.Preserves I shutdown := by
  refine Proc.Preserves.get_bind fun s hs => ?_
  dsimp only
  split
  next session hsession => exact Proc.Preserves.modify fun s' hs' => h s s' session hs hs' hsession
  next => exact Proc.Preserves.pure _

/-- With the answers that `SSL_write` gives, `send` is the one of which is known when it keeps its word. -/
theorem send_eq_sslSend {S : Type} (W : Tls.SslWrite S) {sslSession : Option S} {e : Endpoint U} {w : World U P}
    (h : sslSession.isSome = e.sslSession.isSome) (bytes : Bytes) :
    ((send ((sslSession.map fun session => (W.answer session bytes).1).getD 0)).exec (e, w)).1 =
      (Tls.sslSend W sslSession bytes).1 := by
  rw [send, Proc.exec_bind_ok (Proc.exec_get _)]
  cases hsession : e.sslSession with
  | none =>
    rw [hsession, Option.isSome_none, Option.isSome_eq_false_iff, Option.isNone_iff_eq_none] at h
    subst h
    simp only [hsession]
    rfl
  | some s =>
    rw [hsession, Option.isSome_some, Option.isSome_iff_exists] at h
    obtain ⟨session, rfl⟩ := h
    simp only [hsession, Option.map_some, Option.getD_some]
    rw [modifyWorld, Proc.exec_bind_ok (Proc.exec_modify _ _)]
    by_cases hres : (W.answer session bytes).1 < 0
    · rw [if_pos hres, Tls.sslSend_negative hres]
      rfl
    · rw [if_neg hres, Tls.sslSend_ok hres]
      rfl

section Keys
variable {L : Library U P} (h : ∀ f s, I s → I (s.1, s.2.updateCtx s.1.ctx f))
include h

theorem preserves_usePrivkey (pkcs8 : Res (Bytes × EpvPkey)) (res : Int) :
    Proc.Preserves I (usePrivkey L pkcs8 res) := by
  refine (Proc.Preserves.ofExcept pkcs8).bind ?_
  rintro ⟨pkey, epkey⟩
  have huse : Proc.Preserves I (usePrivateKeyAsn1 L epkey pkey res) :=
    Proc.Preserves.get_bind fun _ _ => (Proc.Preserves.modify (h _)).bind fun _ =>
      (Proc.Preserves.throw _).ite (Proc.Preserves.pure _)
  exact ((Proc.Preserves.throw _).bind fun _ => huse).ite huse

theorem preserves_useCert (cert : Bytes) (res : Int) : Proc.Preserves I (useCert L cert res) :=
  (Proc.Preserves.modify (h _)).bind fun _ => (Proc.Preserves.throw _).ite (Proc.Preserves.pure _)

theorem preserves_attest {X : Externals} {ρ : Type} {K : KeyCrates X.rsa X.p256 ρ}
    {usePrivkey : AsymmetricPrivateKey X.rsa X.p256 → Int → Method U (World U P) Unit}
    (huse : ∀ privkey res, Proc.Preserves I (usePrivkey privkey res)) (answers : BuildAnswers ρ) :
    Proc.Preserves I (attest K L usePrivkey answers) := by
  refine (Proc.Preserves.ofExcept _).bind fun privkey => (huse privkey _).bind fun _ => ?_
  exact (Proc.Preserves.ofExcept _).bind fun bundle => (Proc.Preserves.ofExcept _).bind fun cert =>
    preserves_useCert h cert _

end Keys
end Preserves

variable (L : Library U P)

/-- The endpoint is `e`, and the world is as it should be. -/
def At (left : Nat) (unset : List Nat) (e : Endpoint U) (es : List (Endpoint U)) (s : Endpoint U × World U P) :
    Prop := s.1 = e ∧ Inv L left unset s.2 (e :: es)

/-- Whatever a method comes to, all is as before. -/
def Keeps {α : Type} (m : Method U (World U P) α) : Prop :=
  ∀ left unset e es, Proc.Preserves (At L left unset e es) m

variable {L} {α β : Type}

section At
variable {left : Nat} {unset : List Nat} {e : Endpoint U} {es : List (Endpoint U)}

theorem At.updateCtx (f : SslCtx U → SslCtx U) (s : Endpoint U × World U P) (h : At L left unset e es s) :
    At L left unset e es (s.1, s.2.updateCtx s.1.ctx f) := by
  obtain ⟨rfl, hinv⟩ := h
  exact ⟨rfl, hinv.updateCtx (hinv.ctx_mem (List.mem_cons_self ..))⟩

theorem At.uses : Uses (At L left unset e es) := by
  rintro ⟨_, w⟩ ⟨_, w'⟩ session ⟨rfl, h⟩ ⟨rfl, h'⟩ hsession
  refine ⟨rfl, ?_⟩
  dsimp only
  rw [h'.useSession hsession]
  exact h'

end At

/-! ### `negotiate` -/

section Negotiate
variable {left : Nat} {unset : List Nat} {e : Endpoint U} {es : List (Endpoint U)} {session : Nat}
  {R : Fault → Endpoint U × World U P → Prop}

/-- The context of `e` verifies in this mode, if `e` has a callback. -/
def Verifies (mode : SslMode) (e : Endpoint U) (w : World U P) : Prop :=
  ∀ callback, e.verifyCallback = some callback →
    ∃ c, w.ctxs.get e.ctx = some c ∧ c.value.verify = some (mode, callback)

/-- There is a session more than before, with what `e` verifies with; `Q` is what else is known of it. -/
structure Opened (L : Library U P) (mode : SslMode) (left : Nat) (unset : List Nat) (e : Endpoint U)
    (es : List (Endpoint U)) (session : Nat) (Q : Ssl U P → Prop) (s : Endpoint U × World U P) : Prop where
  here : At L (left + 1) unset e es s
  ssl : ∃ ssl, Loose s.2 (e :: es) session ssl ∧ ssl.ctx = e.ctx ∧
    (∀ callback, e.verifyCallback = some callback → ssl.verify = some (mode, callback)) ∧ Q ssl

theorem setVerify_at (mode : SslMode) :
    Proc.Triple (At L left unset e es) (setVerify mode)
      (fun _ s => At L left unset e es s ∧ Verifies mode e s.2) R := by
  refine Proc.Triple.get_bind ?_
  rintro ⟨_, w⟩ ⟨rfl, -⟩
  dsimp only
  split
  next callback hcallback =>
    refine Proc.Triple.modify ?_
    rintro ⟨_, w⟩ ⟨rfl, h⟩
    have hctx := h.ctx_mem (List.mem_cons_self ..)
    refine ⟨⟨rfl, h.updateCtx hctx⟩, ?_⟩
    intro callback' hcallback'
    obtain rfl := Option.some.inj (hcallback.symm.trans hcallback')
    obtain ⟨c, hget⟩ := (Arena.mem_pointers_iff h.ctxs.sound).mp hctx
    exact ⟨_, Arena.get_update_self h.ctxs.sound hget, rfl⟩
  next hnone =>
    refine Proc.Triple.pure ?_
    intro s h
    refine ⟨h, ?_⟩
    intro callback hcallback
    rw [hnone] at hcallback
    cases hcallback

theorem newSession_at (mode : SslMode) :
    Proc.Triple (fun s => At L left unset e es s ∧ Verifies mode e s.2) (newSession true)
      (fun session => Opened L mode left unset e es session fun _ => True) R := by
  refine Proc.Triple.get_bind ?_
  rintro ⟨_, w⟩ ⟨⟨rfl, h⟩, hverifies⟩
  dsimp only at h hverifies ⊢
  obtain ⟨hinv, hloose⟩ := h.sslNew (h.ctx_mem (List.mem_cons_self ..))
  have hctx := hinv.ctx_mem (List.mem_cons_self ..)
  rw [if_pos rfl]
  refine Proc.Triple.bind (Q := fun _ => Opened L mode left unset _ es (w.sslNew _).1 fun _ => True) ?_
    fun _ => Proc.Triple.pure fun _ h => h
  refine Proc.Triple.modify ?_
  rintro ⟨_, _⟩ ⟨⟨rfl, -⟩, -⟩
  refine ⟨⟨rfl, hinv.updateCtx hctx⟩, _, ⟨hloose.get, hloose.free⟩, rfl, ?_, trivial⟩
  intro callback hcallback
  obtain ⟨c, hget, hverify⟩ := hverifies callback hcallback
  dsimp only
  rw [hget]
  exact hverify

/-- A call that changes the session that was made. -/
theorem Opened.update {mode : SslMode} {Q Q' : Ssl U P → Prop} {f : Ssl U P → Ssl U P} {w : World U P}
    (h : Opened L mode left unset e es session Q (e, w)) (hctx : ∀ ssl, (f ssl).ctx = ssl.ctx)
    (hverify : ∀ ssl, (f ssl).verify = ssl.verify)
    (hQ : ∀ ssl, w.sessions.get session = some ssl → Q ssl → Q' (f ssl)) :
    Opened L mode left unset e es session Q' (e, { w with sessions := w.sessions.update session f }) := by
  obtain ⟨⟨-, hinv⟩, ssl, hloose, hssl, hcallback, hq⟩ := h
  obtain ⟨hinv', hloose'⟩ := hinv.updateLoose hloose hctx
  refine ⟨⟨rfl, hinv'⟩, f ssl, hloose', (hctx ssl).trans hssl, ?_, hQ ssl hloose.get hq⟩
  intro callback h
  rw [hverify, hcallback callback h]

theorem setFd_at (mode : SslMode) (res : Int) :
    Proc.Triple (Opened L mode left unset e es session fun _ => True) (setFd session res)
      (fun _ => Opened L mode left unset e es session fun ssl => ssl.fd = some e.stream)
      (fun _ => At L (left + 1) unset e es) := by
  refine Proc.Triple.bind (Q := fun _ => Opened L mode left unset e es session
    fun ssl => res = 1 → ssl.fd = some e.stream) ?_ ?_
  · refine Proc.Triple.modify ?_
    rintro ⟨_, w⟩ h
    obtain rfl := h.here.1
    refine h.update (fun ssl => ?_) (fun ssl => ?_) (fun ssl _ _ hres => ?_)
    · dsimp only; split <;> rfl
    · dsimp only; split <;> rfl
    · rw [if_pos hres]
  · intro _
    split
    next => exact Proc.Triple.throw fun _ h => h.here
    next hres =>
      refine Proc.Triple.pure ?_
      rintro s ⟨hhere, ssl, hloose, hctx, hverify, hfd⟩
      exact ⟨hhere, ssl, hloose, hctx, hverify, hfd (not_not.mp hres)⟩

theorem shakeHands_at {side : Side} (peer : P) :
    Proc.Triple (Opened L side.mode left unset e es session fun ssl => ssl.fd = some e.stream)
      (shakeHands (L.handshake side) session peer)
      (fun _ => Opened L side.mode left unset e es session fun ssl => ssl.fd = some e.stream ∧
        ∃ peer, ssl.peer = some peer ∧ L.handshake side ssl.verify peer = 1)
      (fun _ => At L (left + 1) unset e es) := by
  refine Proc.Triple.get_bind ?_
  rintro ⟨e', w⟩ h
  obtain rfl : e = e' := h.here.1.symm
  dsimp only
  refine Proc.Triple.bind (Q := fun _ => Opened L side.mode left unset e es session fun ssl =>
    ssl.fd = some e.stream ∧ ((w.shakeHands (L.handshake side) session peer).1 = 1 →
      ∃ peer, ssl.peer = some peer ∧ L.handshake side ssl.verify peer = 1)) ?_ ?_
  · refine Proc.Triple.modify ?_
    rintro ⟨e', w'⟩ h'
    obtain rfl : e = e' := h'.here.1.symm
    refine h.update (fun ssl => ?_) (fun ssl => ?_) (fun ssl hget hfd => ?_)
    · split <;> rfl
    · split <;> rfl
    · have herr : (w.shakeHands (L.handshake side) session peer).1 = L.handshake side ssl.verify peer := by
        rw [World.shakeHands, hget]
        rfl
      rw [hget, herr]
      split
      next h1 => exact ⟨hfd, fun _ => ⟨peer, rfl, h1⟩⟩
      next h1 => exact ⟨hfd, fun h => absurd h h1⟩
  · intro _
    split
    next =>
      refine Proc.Triple.bind (Q := fun _ => At L (left + 1) unset e es) ?_
        fun _ => Proc.Triple.throw fun _ h => h
      refine Proc.Triple.modify ?_
      rintro ⟨e', w'⟩ ⟨hhere, ssl, hloose, -⟩
      refine ⟨hhere.1, ?_⟩
      obtain rfl : e = e' := hhere.1.symm
      show Inv L (left + 1) unset (w'.useSession session) (e :: es)
      rw [hhere.2.useLoose hloose]
      exact hhere.2
    next herr =>
      refine Proc.Triple.pure ?_
      rintro s ⟨hhere, ssl, hloose, hctx, hverify, hfd, hpeer⟩
      exact ⟨hhere, ssl, hloose, hctx, hverify, hfd, hpeer (not_not.mp herr)⟩

/-- A `negotiate` of a side, which leaves a session behind if it fails after `SSL_new`, and the session there
was if it succeeds. -/
theorem negotiate_at (answers : NegotiateAnswers P) :
    Proc.Triple (At L left unset e es) (negotiate e.side.mode (L.handshake e.side) answers)
      (fun _ s => ∃ session, s.1 = { e with sslSession := some session } ∧
        Inv L (left + if e.sslSession.isSome then 1 else 0) unset s.2 (s.1 :: es))
      (fun _ => At L (left + if answers.sslNew then 1 else 0) unset e es) := by
  refine (setVerify_at e.side.mode).bind fun _ => ?_
  cases answers.sslNew with
  | false =>
    refine Proc.Triple.bind (Q := fun _ _ => False) ?_ fun _ _ h => h.elim
    refine Proc.Triple.get_bind fun s hs => ?_
    exact Proc.Triple.throw fun _ h => h.1
  | true =>
    refine (newSession_at e.side.mode).bind fun session => (setFd_at _ _).bind fun _ =>
      (shakeHands_at _).bind fun _ => ?_
    refine Proc.Triple.modify ?_
    rintro ⟨_, w⟩ ⟨⟨rfl, hinv⟩, ssl, hloose, hctx, hverify, hfd, hpeer⟩
    exact ⟨session, rfl, hinv.hold hloose ⟨hctx, hfd, hverify, hpeer⟩⟩

end Negotiate

end Methods

/-! ### Building -/

section Build
variable {X : Externals} {ρ U P : Type} {K : KeyCrates X.rsa X.p256 ρ} {L : Library U P}

/-- A `build` without a stream leaves its context behind, if it comes as far as having one. -/
def BuildAnswers.unset (answers : BuildAnswers ρ) (stream : Option Int32) : Nat :=
  if 0 ≤ answers.init ∧ answers.ctxNew ∧ stream = none then 1 else 0

variable {left : Nat} {unset : List Nat} {es : List (Endpoint U)}

theorem osslInit_eq_ok {init : Int} : osslInit init = .ok () ↔ 0 ≤ init := by
  unfold osslInit
  split <;> simp_all

theorem newCtx_inv (ctxNew : Bool) :
    Proc.Triple (fun w => Inv L left unset w es) (newCtx ctxNew)
      (fun ctx w => ctxNew = true ∧ (∀ side verifyCallback stream attestSelf,
        Inv L left unset w (⟨side, ctx, none, verifyCallback, stream, attestSelf⟩ :: es)) ∧
        Inv L left (ctx :: unset) w es)
      (fun _ w => ctxNew = false ∧ Inv L left unset w es) := by
  cases ctxNew with
  | false => exact Proc.Triple.throw fun w h => ⟨rfl, h⟩
  | true => exact fun w h => ⟨rfl, h.sslCtxNew⟩

theorem orDrop_inv {attested : Method U (World U P) Unit} (hattested : Keeps L attested) (e : Endpoint U) :
    Proc.Triple (fun w => Inv L left unset w (e :: es)) (orDrop e attested)
      (fun e' w => e' = e ∧ Inv L left unset w (e :: es)) (fun _ w => Inv L left unset w es) := by
  intro w h
  have hafter := hattested left unset e es (e, w) ⟨rfl, h⟩
  rw [orDrop, Proc.exec_bind_ok (Proc.exec_get w)]
  rcases hexec : attested.exec (e, w) with ⟨_ | ⟨⟩, e', w'⟩
  · rw [hexec] at hafter
    obtain ⟨rfl, hinv⟩ := hafter
    exact hinv.drop
  · rw [hexec] at hafter
    exact hafter

theorem build_inv {usePrivkey : AsymmetricPrivateKey X.rsa X.p256 → Int → Method U (World U P) Unit}
    (huse : ∀ privkey res, Keeps L (usePrivkey privkey res)) (side : Side)
    (verifyCallback : Option (VerifyCallback U)) (stream : Option Int32) (attestSelf : Bool)
    (answers : BuildAnswers ρ) :
    Proc.Triple (fun w => Inv L left unset w es)
      (build K L side verifyCallback stream attestSelf usePrivkey answers)
      (fun e w => answers.unset stream = 0 ∧
        (e.side = side ∧ e.verifyCallback = verifyCallback ∧ e.attestSelf = attestSelf) ∧
        Inv L left unset w (e :: es))
      (fun _ w => ∃ unset', unset'.length = unset.length + answers.unset stream ∧ Inv L left unset' w es) := by
  have hnone : answers.unset stream = 0 → ∀ w, Inv L left unset w es →
      ∃ unset', unset'.length = unset.length + answers.unset stream ∧ Inv L left unset' w es := by
    intro h0 w h
    exact ⟨unset, by rw [h0, Nat.add_zero], h⟩
  refine Proc.Triple.ofExcept_bind ?_ ?_
  · intro _ hinit
    rw [osslInit_eq_ok] at hinit
    have hctx := (@newCtx_inv _ _ L left unset es answers.ctxNew).consequence
      (fun _ h => h) (fun _ _ h => h) fun e w' h' => hnone (if_neg fun hreach => by simp [h'.1] at hreach) w' h'.2
    refine hctx.bind fun ctx => ?_
    cases stream with
    | none =>
      refine Proc.Triple.throw ?_
      rintro w ⟨hctxNew, -, hinv⟩
      refine ⟨ctx :: unset, ?_, hinv⟩
      rw [BuildAnswers.unset, if_pos ⟨hinit, hctxNew, rfl⟩]
      rfl
    | some stream =>
      have h0 : answers.unset (some stream) = 0 := if_neg fun hreach => by simp at hreach
      have hattested : Keeps L (if attestSelf then attest K L usePrivkey answers else pure ()) :=
        fun left unset e es => (preserves_attest At.updateCtx (fun privkey res => huse privkey res left unset e es)
          answers).ite (Proc.Preserves.pure _)
      have hdrop := @orDrop_inv _ _ L left unset es _ hattested ⟨side, ctx, none, verifyCallback, stream, attestSelf⟩
      refine hdrop.consequence ?_ ?_ ?_
      · rintro w ⟨-, hinv, -⟩
        exact hinv side verifyCallback stream attestSelf
      · rintro _ w ⟨rfl, hinv⟩
        exact ⟨h0, ⟨rfl, rfl, rfl⟩, hinv⟩
      · exact fun _ => hnone h0
  · intro e herror
    refine hnone (if_neg ?_)
    rintro ⟨hinit, -⟩
    rw [osslInit_eq_ok.mpr hinit] at herror
    cases herror

end Build

end RatsRs.Transport.Openssl
