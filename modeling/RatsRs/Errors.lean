import RatsRs.Lib.Bytes

/-! Errors, and what else a call can end in.

The crate's `Error` is a kind and an optional message; `kind`, `context` and
`with_context` act on results. A foreign error is known by the text it displays, so
a foreign `Result` is `Except String`. Besides `Ok` and `Err` a call can panic, and
code that reads through raw pointers can read past the string it was given; `Res`
keeps the three apart, so that a proof that a call succeeds or fails with an `Error`
is also a proof that it does neither of the other two. -/
namespace RatsRs

inductive ErrorKind where
  | unsupportedTeeType
  | unrecognizedEvidenceType
  | sgxDcapUnsupportedEvidenceType
  | sgxDcapAttesterGenerateQuoteFailed
  | sgxDcapVerifierVerifyQuoteFailed
  | sgxDcapVerifierGetSupplementalDataFailed
  | sgxDcapMulformedQuote
  | sgxDcapVerifierReportDataMismatch
  | tdxUnsupportedEvidenceType
  | tdxAttesterGenerateQuoteFailed
  | tdxVerifierVerifyQuoteFailed
  | tdxVerifierGetSupplementalDataFailed
  | tdxMulformedQuote
  | tdxVerifierReportDataMismatch
  | invalidParameter
  | unsupportedHashAlgo
  | calculateHashFailed
  | genCertError
  | parseCertError
  | certVerifySignatureFailed
  | certExtractExtensionFailed
  | certVerifyPublicKeyHashFailed
  | parsePrivateKey
  | spdmNegotiate
  | spdmSend
  | spdmReceive
  | spdmShutdown
  | spdmSessionNotReady
  | spdmBrokenSession
  | spdmlibError
  | osslTlsBuilderStreamUnset
  | osslUnsupportedPkeyAlgo
  | osslCtxUninitialize
  | osslCtxInitializeFail
  | osslUsePrivKeyfail
  | osslUseCertfail
  | osslNoMem
  | osslSetFdFail
  | osslServerNegotiationFail
  | osslGetExtensionFail
  | osslClientNegotiationFail
  | osslFindX509ExFail
  | osslOIDErr
  | osslClientConnectFail
  | osslCtxOrSessionUninitialized
  | osslSendFail
  | osslReceiveFail
  | osslInitializeFail
  | unknown
  deriving DecidableEq, Repr

structure Error where
  kind : ErrorKind
  msg : Option String
  deriving DecidableEq, Repr

namespace Error

/-- `Error::kind`. -/
def ofKind (kind : ErrorKind) : Error := ⟨kind, none⟩

def kindWithMsg (kind : ErrorKind) (msg : String) : Error := ⟨kind, some msg⟩

/-- `Error::msg`. -/
def ofMsg (msg : String) : Error := kindWithMsg .unknown msg

def withKind (e : Error) (kind : ErrorKind) : Error := { e with kind := kind }

def withMsg (e : Error) (msg : String) : Error := { e with msg := some msg }

/-- `From<E: Display>`. -/
def ofDisplay (error : String) : Error := kindWithMsg .unknown error

/-- `context` of an `Error`: in front of the message there is, else the message. -/
def addContext (e : Error) (context : String) : Error :=
  match e.msg with
  | some msg => e.withMsg (context ++ ": " ++ msg)
  | none => e.withMsg context

end Error

/-! ### Panics and stray reads -/

inductive Crash where
  /-- A Rust panic: an index out of range, a failed `unwrap` or `unreachable!`. -/
  | panic
  /-- A read through a raw pointer past the end of its string. -/
  | outOfBounds
  /-- A loop still running when its bound on iterations is used up. -/
  | diverged
  deriving DecidableEq, Repr

inductive Fault where
  | error (e : Error)
  | crash (c : Crash)
  deriving DecidableEq, Repr

/-- What a call of the crate ends in. -/
abbrev Res := Except Fault

section Inversion
variable {ε α β : Type}

theorem bind_eq_ok {x : Except ε α} {f : α → Except ε β} {b : β} :
    (x >>= f) = .ok b ↔ ∃ a, x = .ok a ∧ f a = .ok b := by
  cases x <;> simp [Bind.bind, Except.bind]

theorem pure_eq_ok {a b : α} : (pure a : Except ε α) = .ok b ↔ a = b := by
  simp [pure, Except.pure]

@[simp] theorem ok_bind (a : α) (f : α → Except ε β) : ((.ok a : Except ε α) >>= f) = f a := rfl

@[simp] theorem error_bind (e : ε) (f : α → Except ε β) :
    ((.error e : Except ε α) >>= f) = .error e := rfl

theorem ok_triple_inj {γ : Type} {a a' : α} {b b' : β} {c c' : γ}
    (h : (.ok (a, b, c) : Except ε (α × β × γ)) = .ok (a', b', c')) : a = a' ∧ b = b' ∧ c = c' := by
  obtain ⟨ha, hrest⟩ := Prod.mk.inj (Except.ok.inj h)
  exact ⟨ha, Prod.mk.inj hrest⟩

/-- What follows and cannot fail adds no error. -/
theorem bind_ok_eq_error {x : Except ε α} {f : α → β} {e : ε} :
    (x >>= fun a => .ok (f a)) = .error e ↔ x = .error e := by
  cases x <;> simp

end Inversion

namespace Res
variable {α : Type}

def fail (kind : ErrorKind) (msg : String) : Res α := .error (.error (.kindWithMsg kind msg))

def crash (c : Crash) : Res α := .error (.crash c)

/-- An early return of the error unless `p` holds. -/
def ensure (p : Prop) [Decidable p] (kind : ErrorKind) (msg : String) : Res Unit :=
  if p then .ok () else fail kind msg

@[simp] theorem ensure_eq_ok {p : Prop} [Decidable p] {kind : ErrorKind} {msg : String} {u : Unit} :
    ensure p kind msg = .ok u ↔ p := by
  unfold ensure fail
  split <;> simp_all

theorem ensure_true {p : Prop} [Decidable p] {kind : ErrorKind} {msg : String} (h : p) :
    ensure p kind msg = .ok () := if_pos h

theorem ensure_false {p : Prop} [Decidable p] {kind : ErrorKind} {msg : String} (h : ¬ p) :
    ensure p kind msg = fail kind msg := if_neg h

/-- A stray read or a panic inside a call is one of the call. -/
def ofCrash : Except Crash α → Res α
  | .ok a => .ok a
  | .error c => .error (.crash c)

@[simp] theorem ofCrash_eq_ok {r : Except Crash α} {a : α} : ofCrash r = .ok a ↔ r = .ok a := by
  cases r <;> simp [ofCrash]

/-- `?` on a foreign result. -/
def ofForeign : Except String α → Res α
  | .ok a => .ok a
  | .error e => .error (.error (.ofDisplay e))

@[simp] theorem ofForeign_eq_ok {r : Except String α} {a : α} :
    ofForeign r = .ok a ↔ r = .ok a := by
  cases r <;> simp [ofForeign]

/-- `kind` and `context` on a result whose error is an `Error`. -/
def mapError (f : Error → Error) : Res α → Res α
  | .error (.error e) => .error (.error (f e))
  | r => r

def kind (r : Res α) (k : ErrorKind) : Res α := r.mapError (·.withKind k)

def context (r : Res α) (c : String) : Res α := r.mapError (·.addContext c)

@[simp] theorem mapError_eq_ok {f : Error → Error} {r : Res α} {a : α} :
    r.mapError f = .ok a ↔ r = .ok a := by
  rcases r with (e | c) | v <;> simp [mapError]

@[simp] theorem kind_eq_ok {r : Res α} {k : ErrorKind} {a : α} : r.kind k = .ok a ↔ r = .ok a :=
  mapError_eq_ok

@[simp] theorem context_eq_ok {r : Res α} {c : String} {a : α} :
    r.context c = .ok a ↔ r = .ok a :=
  mapError_eq_ok

/-- `.ok()`: an error is forgotten, a panic is not. -/
def getOk : Res α → Except Crash (Option α)
  | .ok a => .ok (some a)
  | .error (.error _) => .ok none
  | .error (.crash c) => .error c

/-! ### Calls that return -/

/-- The call neither panics nor reads past a string: it returns, with or without an error. -/
def Safe (r : Res α) : Prop := ∀ c, r ≠ .error (.crash c)

theorem safe_ok {a : α} : Safe (.ok a) := nofun

theorem safe_fail {kind : ErrorKind} {msg : String} : Safe (fail kind msg : Res α) := by
  simp [Safe, fail]

theorem safe_ensure {p : Prop} [Decidable p] {kind : ErrorKind} {msg : String} :
    (ensure p kind msg).Safe := by
  unfold ensure
  split
  · exact safe_ok
  · exact safe_fail

theorem safe_ofForeign (r : Except String α) : (ofForeign r).Safe := by
  cases r <;> simp [Safe, ofForeign]

theorem Safe.mapError {f : Error → Error} {r : Res α} (h : r.Safe) : (r.mapError f).Safe := by
  rcases r with (e | c) | a
  · simp [Safe, Res.mapError]
  · exact absurd rfl (h c)
  · exact safe_ok

/-- Such a call is `Ok` or an `Error`. -/
theorem Safe.cases {r : Res α} (h : r.Safe) : (∃ a, r = .ok a) ∨ ∃ e, r = .error (.error e) := by
  rcases r with (e | c) | a
  · exact .inr ⟨e, rfl⟩
  · exact absurd rfl (h c)
  · exact .inl ⟨a, rfl⟩

theorem Safe.bind {β : Type} {r : Res α} {f : α → Res β} (hr : r.Safe)
    (hf : ∀ a, r = .ok a → (f a).Safe) : Safe (r >>= f) := by
  rcases r with (e | c) | a
  · simp [Safe]
  · exact absurd rfl (hr c)
  · exact hf a rfl

end Res

end RatsRs
