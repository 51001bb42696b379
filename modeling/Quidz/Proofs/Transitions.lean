import Quidz.Model

/-! What one event can do to a payment. Every later invariant is read off the
inversion of `applyEffect` proved here, guards included. -/

namespace Quidz.Proofs

variable {T : Type}

@[simp] theorem raiseIf_ok {condition : Prop} [Decidable condition] {type : ExcType} {message : Str} {done : Unit} :
    raiseIf condition type message = .ok done ↔ ¬condition := by
  unfold raiseIf
  split <;> simp_all

@[simp] theorem bind_ok {α β ε : Type} {first : Except ε α} {next : α → Except ε β} {value : β} :
    (first >>= next) = .ok value ↔ ∃ middle, first = .ok middle ∧ next middle = .ok value := by
  cases first with
  | error exc => simp [bind, Except.bind]
  | ok middle => simp [bind, Except.bind]

theorem bind_error {α β ε : Type} {first : Except ε α} {next : α → Except ε β} {exc : ε} :
    (first >>= next) = .error exc ↔ first = .error exc ∨ ∃ middle, first = .ok middle ∧ next middle = .error exc := by
  cases first with
  | error raised => simp [bind, Except.bind]
  | ok middle => simp [bind, Except.bind]

theorem raiseIf_error {condition : Prop} [Decidable condition] {type : ExcType} {message : Str} {exc : Exc} :
    raiseIf condition type message = .error exc ↔ condition ∧ exc = ⟨type, message⟩ := by
  unfold raiseIf
  split
  next holds => simp [raise, holds, eq_comm]
  next fails => simp [fails]

theorem orRaise_error {α : Type} {value : Option α} {type : ExcType} {message : Str} {exc : Exc} :
    orRaise value type message = .error exc ↔ value = none ∧ exc = ⟨type, message⟩ := by
  cases value with
  | some found => simp [orRaise]
  | none => simp [orRaise, raise, eq_comm]

@[simp] theorem pure_eq_ok {α ε : Type} (value : α) : (pure value : Except ε α) = .ok value := rfl

/-- Whatever is raised is of one of these types. -/
def Raises {α : Type} (types : List ExcType) (computation : Except Exc α) : Prop :=
  ∀ exc, computation = .error exc → exc.type ∈ types

namespace Raises
variable {α β : Type} {types : List ExcType}

theorem ok (value : α) : Raises types (.ok value : Except Exc α) := nofun

theorem raise {type : ExcType} (listed : type ∈ types) (message : Str) :
    Raises types (raise type message : Except Exc α) := by
  intro exc same
  cases same
  exact listed

theorem raiseIf_of {type : ExcType} (condition : Prop) [Decidable condition] (listed : condition → type ∈ types)
    (message : Str) : Raises types (raiseIf condition type message) := by
  unfold Quidz.raiseIf
  split
  next holds => exact raise (listed holds) message
  next => exact ok ()

theorem raiseIf {type : ExcType} (listed : type ∈ types) (condition : Prop) [Decidable condition] (message : Str) :
    Raises types (raiseIf condition type message) := raiseIf_of condition (fun _ => listed) message

theorem bind {first : Except Exc α} {next : α → Except Exc β} (raises : Raises types first)
    (later : ∀ value, Raises types (next value)) : Raises types (first >>= next) := by
  intro exc same
  cases seen : first with
  | error raised =>
    rw [seen] at same
    cases same
    exact raises _ seen
  | ok value =>
    rw [seen] at same
    exact later value exc same

end Raises

/-- The amount the money guards read: present, in the aggregate's currency and
not negative. -/
def Carries (state : PaymentState) (event : CanonicalEvent T) (minor : Int) : Prop :=
  ∃ amount, event.amount = some amount ∧ amount.currency = state.currency ∧ 0 ≤ amount.minor ∧ amount.minor = minor

/-- One constructor for each branch of `applyEffect` that returns. -/
inductive Accepts (state : PaymentState) (event : CanonicalEvent T) : PaymentState → Prop where
  | authorizeFail (kind : event.kind = .authorizeFail) (pending : state.rank ≤ 0) :
      Accepts state event (folded state .authorizeFail 0 event.sequence)
  | authorize {minor} (kind : event.kind = .authorize) (carries : Carries state event minor)
      (unheld : state.authorizedMinor ≤ 0) (low : state.rank ≤ 10) :
      Accepts state event (folded state .authorize minor event.sequence)
  | stale {minor} (kind : event.kind = .adjustAuth) (carries : Carries state event minor)
      (held : 10 ≤ state.rank) (older : event.sequence < state.lastSequence) :
      Accepts state event state
  | adjustAuth {minor} (kind : event.kind = .adjustAuth) (carries : Carries state event minor)
      (held : 10 ≤ state.rank) (newer : state.lastSequence ≤ event.sequence)
      (covers : state.capturedMinor ≤ minor) (low : state.rank ≤ 10) :
      Accepts state event (folded state .adjustAuth minor event.sequence)
  | capture {minor} (kind : event.kind = .capture) (carries : Carries state event minor)
      (live : state.voided = false ∧ state.expired = false) (held : 10 ≤ state.rank)
      (within : state.capturedMinor + minor ≤ state.authorizedMinor) (first : state.capturedMinor ≤ 0)
      (low : state.rank ≤ 40) :
      Accepts state event (folded state .capture minor event.sequence)
  | captureFail {minor} (kind : event.kind = .captureFail) (carries : Carries state event minor)
      (held : 10 ≤ state.rank) (low : state.rank ≤ 20) :
      Accepts state event (folded state .captureFail minor event.sequence)
  | void (kind : event.kind = .void) (held : 10 ≤ state.rank) (low : state.rank ≤ 30) :
      Accepts state event (folded state .void 0 event.sequence)
  | expire (kind : event.kind = .expire) (held : 10 ≤ state.rank) (low : state.rank ≤ 30) :
      Accepts state event (folded state .expire 0 event.sequence)
  | refund {minor} (kind : event.kind = .refund) (carries : Carries state event minor)
      (live : state.voided = false ∧ state.expired = false)
      (open_ : state.capturedMinor = 0 → state.captureFailedMinor ≤ 0) (captured : 40 ≤ state.rank)
      (within : state.refundedMinor + minor ≤ state.capturedMinor) (low : state.rank ≤ 60) :
      Accepts state event (folded state .refund minor event.sequence)
  | correction {minor} (kind : event.kind.regressive = true) (carries : Carries state event minor)
      (refunded : 60 ≤ state.rank) (within : minor ≤ state.refundedMinor) :
      Accepts state event (folded state event.kind minor event.sequence)

theorem amountMinor_ok {event : CanonicalEvent T} {state : PaymentState} {minor : Int} :
    amountMinor event state = .ok minor ↔ Carries state event minor := by
  unfold amountMinor Carries
  cases event.amount with
  | none => simp
  | some amount =>
    simp only [bind_ok, raiseIf_ok, pure_eq_ok, Except.ok.injEq, not_not, Option.some.injEq]
    constructor
    · intro ⟨_, currency, _, nonneg, same⟩
      exact ⟨amount, rfl, currency, Int.not_lt.mp nonneg, same⟩
    · rintro ⟨_, rfl, currency, nonneg, same⟩
      exact ⟨(), currency, (), Int.not_lt.mpr nonneg, same⟩

theorem effectMinor_ok {event : CanonicalEvent T} {state : PaymentState} {minor : Int} :
    effectMinor event state = .ok minor ↔
      if event.kind.needsAmount then Carries state event minor else minor = 0 := by
  unfold effectMinor
  split
  · exact amountMinor_ok
  · simp [eq_comm]

section Folded
variable (state : PaymentState) (kind : EffectKind) (minor sequence : Int)

@[simp] theorem folded_paymentId : (folded state kind minor sequence).paymentId = (fold state kind minor).paymentId := rfl
@[simp] theorem folded_currency : (folded state kind minor sequence).currency = (fold state kind minor).currency := rfl
@[simp] theorem folded_authorizedMinor :
    (folded state kind minor sequence).authorizedMinor = (fold state kind minor).authorizedMinor := rfl
@[simp] theorem folded_capturedMinor :
    (folded state kind minor sequence).capturedMinor = (fold state kind minor).capturedMinor := rfl
@[simp] theorem folded_captureFailedMinor :
    (folded state kind minor sequence).captureFailedMinor = (fold state kind minor).captureFailedMinor := rfl
@[simp] theorem folded_refundedMinor :
    (folded state kind minor sequence).refundedMinor = (fold state kind minor).refundedMinor := rfl
@[simp] theorem folded_refundFailedMinor :
    (folded state kind minor sequence).refundFailedMinor = (fold state kind minor).refundFailedMinor := rfl
@[simp] theorem folded_voided : (folded state kind minor sequence).voided = (fold state kind minor).voided := rfl
@[simp] theorem folded_expired : (folded state kind minor sequence).expired = (fold state kind minor).expired := rfl
@[simp] theorem folded_lastSequence :
    (folded state kind minor sequence).lastSequence = max state.lastSequence sequence := rfl

theorem kind_rank_le_folded : kind.rank ≤ (folded state kind minor sequence).rank := by
  simp only [folded]
  split <;> omega

theorem rank_le_folded (ratchets : kind.regressive = false) : state.rank ≤ (folded state kind minor sequence).rank := by
  simp only [folded, ratchets, Bool.false_eq_true, ↓reduceIte]
  exact Int.le_max_left _ _

end Folded

section Corrections
variable {kind : EffectKind} (regressive : kind.regressive = true)
include regressive

theorem correction_rank : kind.rank = 60 := by
  cases kind <;> simp at regressive ⊢

theorem correction_needs : kind.needsAmount = true ∧ kind.movesMoney = false ∧ kind.prerequisiteRank = some 60 := by
  cases kind <;> simp at regressive ⊢

/-- A correction takes money back from the refunds and leaves everything else. -/
theorem fold_correction (state : PaymentState) (minor : Int) : fold state kind minor =
    { state with refundedMinor := state.refundedMinor - minor, refundFailedMinor := state.refundFailedMinor + minor } := by
  cases kind <;> simp [fold] at regressive ⊢

end Corrections

@[simp] theorem fold_paymentId (state : PaymentState) (kind : EffectKind) (minor : Int) :
    (fold state kind minor).paymentId = state.paymentId := by cases kind <;> rfl

@[simp] theorem fold_currency (state : PaymentState) (kind : EffectKind) (minor : Int) :
    (fold state kind minor).currency = state.currency := by cases kind <;> rfl

theorem stateRank_bounds (state : PaymentState) : 0 ≤ stateRank (deriveStatus state) ∧ stateRank (deriveStatus state) ≤ 70 := by
  cases deriveStatus state <;> decide

/-- The guards of `applyEffect`, read off kind by kind. -/
theorem applyEffect_ok {state after : PaymentState} {event : CanonicalEvent T} :
    applyEffect state event = .ok after ↔ Accepts state event after := by
  unfold applyEffect
  simp only [bind_ok, raiseIf_ok, exists_const, effectMinor_ok]
  constructor
  · intro ⟨minor, amount, live, possible, timely, rest⟩
    obtain ⟨provider, identity, paymentId, kind, providerRef, money, occurredAt, sequence, value, currency⟩ := event
    cases kind <;> simp at amount live possible timely rest
    case authorize =>
      obtain ⟨unheld, low, rfl⟩ := rest
      exact .authorize rfl amount unheld low
    case authorizeFail =>
      obtain ⟨pending, rfl⟩ := rest
      subst amount
      exact .authorizeFail rfl pending
    case adjustAuth =>
      split at rest
      next older =>
        cases rest
        exact .stale rfl amount timely older
      next newer =>
        simp at rest
        obtain ⟨covers, low, rfl⟩ := rest
        exact .adjustAuth rfl amount timely (Int.not_lt.mp newer) covers low
    case capture =>
      obtain ⟨within, first, low, rfl⟩ := rest
      exact .capture rfl amount live timely within first low
    case captureFail =>
      obtain ⟨low, rfl⟩ := rest
      exact .captureFail rfl amount timely low
    case void =>
      obtain ⟨low, rfl⟩ := rest
      subst amount
      exact .void rfl timely low
    case expire =>
      obtain ⟨low, rfl⟩ := rest
      subst amount
      exact .expire rfl timely low
    case refund =>
      obtain ⟨within, low, rfl⟩ := rest
      exact .refund rfl amount live (fun none => (possible none).1) timely within low
    all_goals
      obtain ⟨within, rfl⟩ := rest
      exact .correction rfl amount timely within
  · intro accepted
    cases accepted with
    | authorizeFail kind pending => exact ⟨0, by simp [kind, pending]⟩
    | @authorize minor kind carries unheld low => exact ⟨minor, by simp [kind, carries, unheld, low]⟩
    | @stale minor kind carries held older => exact ⟨minor, by simp [kind, carries, held, older]⟩
    | @adjustAuth minor kind carries held newer covers low =>
      exact ⟨minor, by simp [kind, carries, held, Int.not_lt.mpr newer, covers, low]⟩
    | @capture minor kind carries live held within first low =>
      exact ⟨minor, by simp [kind, carries, live, held, within, first, low]⟩
    | @captureFail minor kind carries held low => exact ⟨minor, by simp [kind, carries, held, low]⟩
    | void kind held low => exact ⟨0, by simp [kind, held, low]⟩
    | expire kind held low => exact ⟨0, by simp [kind, held, low]⟩
    | @refund minor kind carries live open_ captured within low =>
      exact ⟨minor, by simpa [kind, carries, live, captured, within, low] using open_⟩
    | @correction minor regressive carries refunded within =>
      refine ⟨minor, ?_⟩
      cases kind : event.kind <;> simp [kind] at regressive
      all_goals simp [carries, refunded, within]

/-- The reasons the state machine refuses an event for, the last of them not for
good. -/
def refusals : List ExcType :=
  [.illegalTransition, .amountInvariantViolation, .currencyMismatch, .prematureEvent]

section Refusals
variable {types : List ExcType} (illegal : .illegalTransition ∈ types) (amount : .amountInvariantViolation ∈ types)
  (currency : .currencyMismatch ∈ types)
include illegal amount currency

theorem effectMinor_raises (event : CanonicalEvent T) (state : PaymentState) : Raises types (effectMinor event state) := by
  unfold effectMinor amountMinor
  split
  · split
    · exact .raise illegal _
    · exact .bind (.raiseIf currency _ _) fun _ => .bind (.raiseIf amount _ _) fun _ => .ok _
  · exact .ok _

theorem applyEffect_raises_of (state : PaymentState) (event : CanonicalEvent T)
    (early : (∃ prerequisite ∈ event.kind.prerequisiteRank, state.rank < prerequisite) → .prematureEvent ∈ types) :
    Raises types (applyEffect state event) := by
  unfold applyEffect
  refine .bind (effectMinor_raises illegal amount currency event state) fun minor => ?_
  refine .bind (.raiseIf illegal _ _) fun _ => .bind (.raiseIf illegal _ _) fun _ => ?_
  refine .bind (.raiseIf_of _ early _) fun _ => ?_
  split
  · exact .ok _
  · refine .bind (.raiseIf amount _ _) fun _ => .bind (.raiseIf amount _ _) fun _ => ?_
    refine .bind (.raiseIf amount _ _) fun _ => .bind (.raiseIf amount _ _) fun _ => ?_
    refine .bind (.raiseIf illegal _ _) fun _ => .bind (.raiseIf illegal _ _) fun _ => ?_
    exact .bind (.raiseIf illegal _ _) fun _ => .ok _

end Refusals

theorem applyEffect_raises (state : PaymentState) (event : CanonicalEvent T) : Raises refusals (applyEffect state event) :=
  applyEffect_raises_of (by decide) (by decide) (by decide) state event fun _ => by decide

/-- Only an event that lacks its prerequisite is premature. -/
theorem applyEffect_early {state : PaymentState} {event : CanonicalEvent T} {exc : Exc}
    (refused : applyEffect state event = .error exc) (premature : exc.type = .prematureEvent) :
    ∃ prerequisite ∈ event.kind.prerequisiteRank, state.rank < prerequisite := by
  by_contra timely
  have listed := @applyEffect_raises_of T [.illegalTransition, .amountInvariantViolation, .currencyMismatch]
    (by decide) (by decide) (by decide) state event (fun early => absurd early timely) exc refused
  rw [premature] at listed
  exact absurd listed (by decide)

/-- An event that lacks its prerequisite waits, unless a guard before that refuses it. -/
theorem applyEffect_premature {state : PaymentState} {event : CanonicalEvent T} {minor : Int}
    (amount : effectMinor event state = .ok minor)
    (live : ¬(event.kind.movesMoney = true ∧ (state.voided = true ∨ state.expired = true)))
    (possible : ¬(event.kind = .refund ∧ state.capturedMinor = 0 ∧
      (state.captureFailedMinor > 0 ∨ state.voided = true ∨ state.expired = true)))
    (early : ∃ prerequisite ∈ event.kind.prerequisiteRank, state.rank < prerequisite) :
    ∃ message, applyEffect state event = .error ⟨.prematureEvent, message⟩ := by
  unfold applyEffect
  simp only [amount, raiseIf, if_neg live, if_neg possible, if_pos early, raise]
  exact ⟨_, rfl⟩

end Quidz.Proofs
