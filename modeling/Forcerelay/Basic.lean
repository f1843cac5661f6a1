import Mathlib.Data.List.Basic

/-!
# Outcomes, errors and heights

The Axon endpoint (`crates/relayer/src/chain/axon.rs`) returns `Result<_, Error>`, but a call
can also panic (`unwrap`, `expect`, `assert!`) or, in `get_proofs`, poll the node for ever.
`Fault` collects the three ways a call does not return `Ok`, and every computation of the model
is an `Except Fault`. Errors of the node, the ledger and the other crates come into the model as
`Except Error` and are lifted with `MonadLift`, which is what `?` does in the source.

Numbers the code keeps in `u64` (heights, block numbers, sequences) are `UInt64`; the checked
arithmetic of `get_proofs_ingredients` is `checkedSub` and `checkedAdd`.
-/

namespace Forcerelay

/-- `crate::error::Error`, with the constructors the modelled code builds. A foreign error
(a provider error, an `eyre::Report`, a key-ring error) is kept as the text it prints. -/
inductive Error where
  | otherError (msg : String)
  | other (detail : String)
  | rpcResponse (msg : String)
  | sendTx (msg : String)
  | query (msg : String)
  | protobufDecode (typeUrl detail : String)
  | eventMonitor (detail : String)
  | keyBase (detail : String)
  | emptyDenomTrace (hash : String)
  | connProof (connectionId detail : String)
  | chanProof (portId channelId detail : String)
  deriving DecidableEq, Repr

/-- What a call does instead of returning `Ok`: return `Err`, panic with a message, or still be
polling the node when the fuel of the model runs out. -/
inductive Fault where
  | err (e : Error)
  | panic (msg : String)
  | polling
  deriving DecidableEq, Repr

instance instDecidableEqExcept {ε α : Type} [DecidableEq ε] [DecidableEq α] :
    DecidableEq (Except ε α)
  | .ok a, .ok b => if h : a = b then isTrue (h ▸ rfl) else isFalse fun e => h (Except.ok.inj e)
  | .error a, .error b =>
    if h : a = b then isTrue (h ▸ rfl) else isFalse fun e => h (Except.error.inj e)
  | .ok _, .error _ => isFalse Except.noConfusion
  | .error _, .ok _ => isFalse Except.noConfusion

/-- `?` on a `Result<_, Error>` inside a function that may also panic. -/
instance : MonadLift (Except Error) (Except Fault) := ⟨Except.mapError Fault.err⟩

/-- `.map_err(f)?` on a foreign `Result`. -/
def mapErr {ε α : Type} (r : Except ε α) (f : ε → Error) : Except Fault α :=
  r.mapError (Fault.err ∘ f)

@[simp] theorem mapErr_ok {ε α : Type} (a : α) (f : ε → Error) : mapErr (.ok a) f = .ok a := rfl
@[simp] theorem mapErr_error {ε α : Type} (e : ε) (f : ε → Error) :
    mapErr (.error e : Except ε α) f = .error (.err (f e)) := rfl

@[simp] theorem mapErr_eq_ok {ε α : Type} (x : Except ε α) (f : ε → Error) (a : α) :
    mapErr x f = .ok a ↔ x = .ok a := by
  cases x <;> simp

theorem mapErr_eq_error {ε α : Type} (x : Except ε α) (f : ε → Error) (g : Fault) :
    mapErr x f = .error g ↔ ∃ e, x = .error e ∧ g = .err (f e) := by
  cases x <;> simp [eq_comm]

/-- `Option::expect(msg)`. -/
def expect {α : Type} (o : Option α) (msg : String) : Except Fault α :=
  match o with
  | some a => .ok a
  | none => .error (.panic msg)

/-- `Result::unwrap()`. -/
def unwrap {ε α : Type} (r : Except ε α) : Except Fault α :=
  match r with
  | .ok a => .ok a
  | .error _ => .error (.panic "called `Result::unwrap()` on an `Err` value")

/-- `Result::expect(msg)`. -/
def expectOk {ε α : Type} (r : Except ε α) (msg : String) : Except Fault α :=
  match r with
  | .ok a => .ok a
  | .error _ => .error (.panic msg)

/-- `Option::ok_or_else(|| e)`. -/
def okOr {α : Type} (o : Option α) (e : Error) : Except Error α :=
  match o with
  | some a => .ok a
  | none => .error e

/-- `assert!(cond, msg)`. -/
def assert (cond : Bool) (msg : String) : Except Fault Unit :=
  if cond then .ok () else .error (.panic msg)

@[simp] theorem expect_some {α : Type} (a : α) (msg : String) : expect (some a) msg = .ok a := rfl
@[simp] theorem expect_none {α : Type} (msg : String) : expect (none : Option α) msg = .error (.panic msg) := rfl
@[simp] theorem unwrap_ok {ε α : Type} (a : α) : unwrap (.ok a : Except ε α) = .ok a := rfl
@[simp] theorem expectOk_ok {ε α : Type} (a : α) (msg : String) :
    expectOk (.ok a : Except ε α) msg = .ok a := rfl
@[simp] theorem expectOk_error {ε α : Type} (e : ε) (msg : String) :
    expectOk (.error e : Except ε α) msg = .error (.panic msg) := rfl

@[simp] theorem okOr_some {α : Type} (a : α) (e : Error) : okOr (some a) e = .ok a := rfl
@[simp] theorem okOr_none {α : Type} (e : Error) : okOr (none : Option α) e = .error e := rfl

@[simp] theorem okOr_eq_ok {α : Type} (o : Option α) (e : Error) (a : α) :
    okOr o e = .ok a ↔ o = some a := by
  cases o <;> simp

@[simp] theorem liftM_ok {α : Type} (a : α) :
    (liftM (.ok a : Except Error α) : Except Fault α) = .ok a := rfl
@[simp] theorem liftM_error {α : Type} (e : Error) :
    (liftM (.error e : Except Error α) : Except Fault α) = .error (.err e) := rfl

@[simp] theorem liftM_eq_ok {α : Type} (x : Except Error α) (a : α) :
    (liftM x : Except Fault α) = .ok a ↔ x = .ok a := by
  cases x <;> simp [Except.ok.injEq]

theorem bind_eq_ok {ε α β : Type} (x : Except ε α) (f : α → Except ε β) (b : β) :
    x >>= f = .ok b ↔ ∃ a, x = .ok a ∧ f a = .ok b := by
  cases x <;> simp [bind, Except.bind]

theorem bind_eq_error {ε α β : Type} (x : Except ε α) (f : α → Except ε β) (e : ε) :
    x >>= f = .error e ↔ x = .error e ∨ ∃ a, x = .ok a ∧ f a = .error e := by
  cases x <;> simp [bind, Except.bind]

theorem map_eq_error {ε α β : Type} (f : α → β) (x : Except ε α) (e : ε) :
    f <$> x = .error e ↔ x = .error e := by
  cases x <;> simp [Functor.map, Except.map]

/-- A lifted `Err` is never a panic. -/
@[simp] theorem liftM_ne_panic {α : Type} (x : Except Error α) (msg : String) :
    (liftM x : Except Fault α) ≠ .error (.panic msg) := by
  cases x <;> simp

theorem map_eq_ok {ε α β : Type} (f : α → β) (x : Except ε α) (b : β) :
    f <$> x = .ok b ↔ ∃ a, x = .ok a ∧ f a = b := by
  cases x <;> simp [Functor.map, Except.map]

/-- `x.await?.ok_or_else(..)?` goes on exactly with the `a` of an `Ok(Some(a))`. -/
@[simp] theorem exists_ok_some_iff {ε α : Type} (x : Except ε (Option α)) (P : α → Prop) :
    (∃ o, x = .ok o ∧ ∃ a, o = some a ∧ P a) ↔ ∃ a, x = .ok (some a) ∧ P a :=
  ⟨fun ⟨_, hx, a, ho, h⟩ => ⟨a, ho ▸ hx, h⟩, fun ⟨a, hx, h⟩ => ⟨_, hx, a, rfl, h⟩⟩

@[simp] theorem ok_bind {ε α β : Type} (a : α) (f : α → Except ε β) :
    (Except.ok a >>= f) = f a := rfl
@[simp] theorem error_bind {ε α β : Type} (e : ε) (f : α → Except ε β) :
    (Except.error e >>= f) = .error e := rfl

/-! ### Heights and checked arithmetic -/

/-- `ibc_relayer_types::Height`. -/
structure Height where
  revisionNumber : UInt64
  revisionHeight : UInt64
  deriving DecidableEq, Repr

/-- `Height::default()`, the "unknown" sentinel. -/
def Height.default : Height := ⟨0, 0⟩

/-- `Height::from_noncosmos_height`: a block number of a chain without revisions. -/
def Height.fromNoncosmosHeight (n : UInt64) : Height := ⟨0, n⟩

/-- `checked_sub` on `u64`. -/
def checkedSub (a b : UInt64) : Option UInt64 := if b ≤ a then some (a - b) else none

/-- `checked_add` on `u64`. -/
def checkedAdd (a b : UInt64) : Option UInt64 :=
  if a.toNat + b.toNat < UInt64.size then some (a + b) else none

theorem u64_le_iff (a b : UInt64) : a ≤ b ↔ a.toNat ≤ b.toNat := Iff.rfl

theorem checkedSub_one_eq_none (a : UInt64) : checkedSub a 1 = none ↔ a = 0 := by
  have h1 : (1 : UInt64).toNat = 1 := rfl
  constructor
  · intro h
    apply UInt64.toNat.inj
    simp only [checkedSub, ite_eq_right_iff, reduceCtorEq, imp_false, u64_le_iff, h1] at h
    simp only [UInt64.toNat_zero]; omega
  · rintro rfl; rfl

theorem checkedSub_one_of_ne (a : UInt64) (h : a ≠ 0) : checkedSub a 1 = some (a - 1) := by
  cases hs : checkedSub a 1 with
  | none => exact absurd ((checkedSub_one_eq_none a).1 hs) h
  | some b => simp only [checkedSub] at hs; split at hs <;> simp_all

theorem checkedAdd_one_eq_none (a : UInt64) : checkedAdd a 1 = none ↔ a.toNat = UInt64.size - 1 := by
  have := a.toNat_lt_size
  have h1 : (1 : UInt64).toNat = 1 := rfl
  simp only [checkedAdd, ite_eq_right_iff, reduceCtorEq, imp_false, not_lt, h1]
  omega

end Forcerelay
