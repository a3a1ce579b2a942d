import RatsRs.Errors

/-! Context on results, call by call.

`WithContext` has an implementation for results with any error that converts to `Error`, and one for
results with an `Error`, which takes the place of the first for its `context` only. A chain of calls
meets the first once and the second from then on. The second puts a context in front of the message;
the first puts it in place of the message. -/
namespace RatsRs

/-! ### Conversion -/

/-- `Display`. -/
class Display (E : Type) where
  display : E → String

/-- `From<E>` for `Error`. -/
class IntoError (E : Type) where
  into : E → Error

/-- Of an error that can be displayed. (An `SpdmStatus` is converted by its `Debug` text in the same way.) -/
instance [Display E] : IntoError E := ⟨fun error => .ofDisplay (Display.display error)⟩

/-- Of an `Error`. -/
instance : IntoError Error := ⟨id⟩

/-! ### The two implementations -/

/-- What of the trait depends on the error. -/
class WithContext (E : Type) where
  kind : {α : Type} → Except E α → ErrorKind → Except Error α
  context : {α : Type} → Except E α → String → Except Error α

namespace WithContext

/-- For any error. -/
instance (priority := low) general [IntoError E] : WithContext E where
  kind r kind := r.mapError fun error => (IntoError.into error).withKind kind
  context r context := r.mapError fun error => (IntoError.into error).withMsg context

/-- For an `Error`; its `kind` is the general one. -/
instance specialized : WithContext Error where
  kind := general.kind
  context r context := r.mapError fun error => error.addContext context

/-- `with_context` calls the `context` of the implementation there is. -/
def withContext [WithContext E] (r : Except E α) (f : Unit → String) : Except Error α :=
  match r with
  | .ok t => .ok t
  | .error e => context (.error e : Except E α) (f ())

end WithContext

/-! ### Chains of calls -/

inductive ContextCall where
  | kind (kind : ErrorKind)
  | context (context : String)
  | withContext (f : Unit → String)

namespace ContextCall

def apply [WithContext E] (r : Except E α) : ContextCall → Except Error α
  | kind k => WithContext.kind r k
  | context c => WithContext.context r c
  | withContext f => WithContext.withContext r f

/-- A chain: the calls after the first are made on what it returns. -/
def chain [WithContext E] (r : Except E α) (first : ContextCall) (rest : List ContextCall) : Except Error α :=
  rest.foldl (fun r call => call.apply r) (first.apply r)

def kind? : ContextCall → Option ErrorKind
  | kind k => some k
  | context _ | withContext _ => none

def context? : ContextCall → Option String
  | kind _ => none
  | context c => some c
  | withContext f => some (f ())

/-- The last kind that is set. -/
def lastKind (start : ErrorKind) (calls : List ContextCall) : ErrorKind :=
  (calls.filterMap kind?).getLast?.getD start

/-- The contexts, outermost first. -/
def contexts (calls : List ContextCall) : List String := (calls.filterMap context?).reverse

/-- The message of some parts. -/
def joined : List String → Option String
  | [] => none
  | part :: parts =>
    match joined parts with
    | none => some part
    | some msg => some (part ++ ": " ++ msg)

/-- What a chain should make of an error: all contexts in front of its own message. -/
def explained (e : Error) (calls : List ContextCall) : Error :=
  ⟨lastKind e.kind calls, joined (contexts calls ++ e.msg.toList)⟩

/-! ### Calls on an `Error` -/

@[simp] theorem joined_toList (msg : Option String) : joined msg.toList = msg := by
  cases msg <;> rfl

theorem addContext_joined {e : Error} {parts : List String} (h : e.msg = joined parts) (c : String) :
    e.addContext c = ⟨e.kind, joined (c :: parts)⟩ := by
  rw [Error.addContext, joined, ← h]
  cases e.msg <;> rfl

/-- A context in front, or another kind. -/
theorem apply_error {e : Error} {parts : List String} (h : e.msg = joined parts) (call : ContextCall) :
    call.apply (.error e : Except Error α) =
      .error ⟨call.kind?.getD e.kind, joined (call.context?.toList ++ parts)⟩ := by
  cases call with
  | kind k =>
    show Except.error (e.withKind k) = _
    rw [Error.withKind, h]
    rfl
  | context c =>
    show Except.error (e.addContext c) = _
    rw [addContext_joined h]
    rfl
  | withContext f =>
    show Except.error (e.addContext (f ())) = _
    rw [addContext_joined h]
    rfl

theorem lastKind_cons (start : ErrorKind) (call : ContextCall) (calls : List ContextCall) :
    lastKind start (call :: calls) = lastKind (call.kind?.getD start) calls := by
  cases call with
  | kind k => simp [lastKind, kind?, List.getLast?_cons]
  | context c => rfl
  | withContext f => rfl

theorem contexts_cons (call : ContextCall) (calls : List ContextCall) :
    contexts (call :: calls) = contexts calls ++ call.context?.toList := by
  cases call with
  | kind k =>
    rw [contexts, List.filterMap_cons_none rfl, context?, Option.toList_none, List.append_nil]
    rfl
  | context c => simp [contexts, context?]
  | withContext f => simp [contexts, context?]

/-- Each call of the rest of a chain finds an `Error`. -/
theorem foldl_error (calls : List ContextCall) {e : Error} {parts : List String}
    (h : e.msg = joined parts) :
    calls.foldl (fun r call => call.apply r) (.error e : Except Error α) =
      .error ⟨lastKind e.kind calls, joined (contexts calls ++ parts)⟩ := by
  induction calls generalizing e parts with
  | nil =>
    show Except.error e = .error ⟨e.kind, joined parts⟩
    rw [← h]
  | cons call calls ih =>
    rw [List.foldl_cons, apply_error h]
    rw [ih (e := ⟨call.kind?.getD e.kind, joined (call.context?.toList ++ parts)⟩) rfl, lastKind_cons,
      contexts_cons, List.append_assoc]

theorem foldl_ok (calls : List ContextCall) (a : α) :
    calls.foldl (fun r call => call.apply r) (.ok a : Except Error α) = .ok a := by
  induction calls with
  | nil => rfl
  | cons call calls ih =>
    rw [List.foldl_cons, show call.apply (.ok a : Except Error α) = .ok a by cases call <;> rfl, ih]

/-! ### The first call on another error -/

/-- A kind keeps the text of the error, a context takes its place. -/
theorem apply_foreign [Display E] (e : E) (call : ContextCall) :
    call.apply (.error e : Except E α) = .error ⟨call.kind?.getD .unknown,
      joined (call.context?.getD (Display.display e) :: [])⟩ := by
  cases call <;> rfl

theorem chain_foreign [Display E] (e : E) (first : ContextCall) (rest : List ContextCall) :
    chain (.error e : Except E α) first rest = .error ⟨lastKind .unknown (first :: rest),
      joined (contexts rest ++ [first.context?.getD (Display.display e)])⟩ := by
  rw [chain, apply_foreign, foldl_error rest
    (e := ⟨first.kind?.getD .unknown, joined [first.context?.getD (Display.display e)]⟩) rfl, lastKind_cons]

theorem chain_error (e : Error) (first : ContextCall) (rest : List ContextCall) :
    chain (.error e : Except Error α) first rest = .error (explained e (first :: rest)) :=
  foldl_error (first :: rest) (joined_toList e.msg).symm

theorem chain_ok [Display E] (a : α) (first : ContextCall) (rest : List ContextCall) :
    chain (.ok a : Except E α) first rest = .ok a := by
  rw [chain, show first.apply (.ok a : Except E α) = .ok a by cases first <;> rfl, foldl_ok]

theorem joined_ne_nil {parts : List String} (h : parts ≠ []) : ∃ msg, joined parts = some msg := by
  cases parts with
  | nil => exact absurd rfl h
  | cons part parts =>
    rw [joined]
    split
    · exact ⟨_, rfl⟩
    · exact ⟨_, rfl⟩

/-- The same parts in front can be taken away. -/
theorem joined_cancel (front : List String) {a b : List String} (ha : a ≠ []) (hb : b ≠ [])
    (h : joined (front ++ a) = joined (front ++ b)) : joined a = joined b := by
  induction front with
  | nil => exact h
  | cons part front ih =>
    obtain ⟨x, hx⟩ := joined_ne_nil (List.append_ne_nil_of_right_ne_nil front ha)
    obtain ⟨y, hy⟩ := joined_ne_nil (List.append_ne_nil_of_right_ne_nil front hb)
    rw [List.cons_append, List.cons_append, joined, joined, hx, hy] at h
    have hxy : x = y := (String.append_right_inj _).mp (Option.some.inj h)
    exact ih (by rw [hx, hy, hxy])

/-- A context and the text behind it are not the context alone. -/
theorem joined_pair_ne (c text : String) : joined [c] ≠ joined [c, text] := by
  intro h
  have hlen := congrArg String.length (Option.some.inj h)
  have htwo : (": " : String).length = 2 := rfl
  rw [String.length_append, String.length_append, htwo] at hlen
  omega

/-- The cause survives exactly if the first call is `kind`. -/
theorem chain_foreign_iff [Display E] (e : E) (first : ContextCall) (rest : List ContextCall) :
    chain (.error e : Except E α) first rest =
        .error (explained (IntoError.into e) (first :: rest)) ↔ first.kind?.isSome = true := by
  have hexplained : explained (IntoError.into e) (first :: rest) =
      ⟨lastKind .unknown (first :: rest),
        joined (contexts rest ++ (first.context?.toList ++ [Display.display e]))⟩ := by
    rw [explained, contexts_cons, List.append_assoc]
    rfl
  have hlost : ∀ c, joined (contexts rest ++ [c]) ≠ joined (contexts rest ++ [c, Display.display e]) := by
    intro c h
    exact joined_pair_ne c _ (joined_cancel (contexts rest) (by simp) (by simp) h)
  rw [chain_foreign, hexplained]
  cases first with
  | kind k => exact ⟨fun _ => rfl, fun _ => rfl⟩
  | context c =>
    constructor
    · intro h
      exact absurd (Error.mk.inj (Except.error.inj h)).2 (hlost c)
    · intro h
      cases h
  | withContext f =>
    constructor
    · intro h
      exact absurd (Error.mk.inj (Except.error.inj h)).2 (hlost (f ()))
    · intro h
      cases h

/-- A context on the error itself and on its conversion. -/
theorem context_foreign_iff [Display E] (r : Except E α) (c : String) :
    WithContext.context r c = WithContext.context (r.mapError IntoError.into) c ↔ ∃ a, r = .ok a := by
  cases r with
  | ok a => exact ⟨fun _ => ⟨a, rfl⟩, fun _ => rfl⟩
  | error e =>
    constructor
    · intro h
      have hmsg := congrArg Error.msg (Except.error.inj h)
      exact absurd hmsg (joined_pair_ne c (Display.display e))
    · intro h
      obtain ⟨a, ha⟩ := h
      cases ha

/-- **Main theorem.** On an `Error` every chain keeps the cause. On another error it does exactly if its first
call is `kind`, and a context alone is the same before and after the conversion exactly if there is no
error. An `Ok` passes through. -/
theorem cause_kept_iff {E α : Type} [Display E] (first : ContextCall) (rest : List ContextCall) (c : String) :
    (∀ e : Error, chain (.error e : Except Error α) first rest = .error (explained e (first :: rest))) ∧
    (∀ e : E, chain (.error e : Except E α) first rest =
        .error (explained (IntoError.into e) (first :: rest)) ↔ first.kind?.isSome = true) ∧
    (∀ r : Except Error α,
      WithContext.context r c = WithContext.context (r.mapError IntoError.into) c) ∧
    (∀ r : Except E α,
      WithContext.context r c = WithContext.context (r.mapError IntoError.into) c ↔ ∃ a, r = .ok a) ∧
    ∀ a : α, chain (.ok a : Except Error α) first rest = .ok a ∧
      chain (.ok a : Except E α) first rest = .ok a := by
  refine ⟨fun e => chain_error e first rest, fun e => chain_foreign_iff e first rest, ?_,
    fun r => context_foreign_iff r c, ?_⟩
  · intro r
    cases r <;> rfl
  · intro a
    exact ⟨foldl_ok (first :: rest) a, chain_ok a first rest⟩

end ContextCall

/-- A foreign error that is known by its text. -/
instance : Display String := ⟨id⟩

/-- The attester's task has panicked: what it panicked with is gone. -/
theorem ContextCall.join_error_lost :
    chain (.error "task 7 panicked with message \"no enclave\"" : Except String Lib.Bytes)
        (.context "the quote generation task panics") [] =
      .error ⟨.unknown, some "the quote generation task panics"⟩ ∧
    chain (.error "task 7 panicked with message \"no enclave\"" : Except String Lib.Bytes)
        (.context "the quote generation task panics") [] ≠
      .error (explained (IntoError.into "task 7 panicked with message \"no enclave\"")
        [.context "the quote generation task panics"]) := by
  refine ⟨rfl, ?_⟩
  intro h
  exact joined_pair_ne _ _ (Error.mk.inj (Except.error.inj h)).2

/-! ### The results of the model

Results that can also be a crash have `kind` and `context` of their own; a foreign result is converted
first, and its first call is `kind` wherever it is used. -/

namespace Res

def ofResult : Except Error α → Res α := Except.mapError Fault.error

theorem kind_ofForeign (r : Except String α) (k : ErrorKind) :
    (ofForeign r).kind k = ofResult (WithContext.kind r k) := by
  cases r <;> rfl

theorem kind_ofResult (r : Except Error α) (k : ErrorKind) :
    (ofResult r).kind k = ofResult (WithContext.kind r k) := by
  cases r <;> rfl

theorem context_ofResult (r : Except Error α) (c : String) :
    (ofResult r).context c = ofResult (WithContext.context r c) := by
  cases r <;> rfl

end Res

end RatsRs
