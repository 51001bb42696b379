import Quidz.Event

/-! The payment aggregate and its transition rules. The status a human reads is
derived from the amounts and never stored. -/

namespace Quidz

inductive Status where
  | pending | authorized | captureFailed | voided | expired
  | partiallyCaptured | captured | partiallyRefunded | refunded
  deriving DecidableEq, Repr

def stateRank : Status → Int
  | .pending => 0
  | .authorized => 10
  | .captureFailed => 20
  | .voided => 30
  | .expired => 30
  | .partiallyCaptured => 40
  | .captured => 50
  | .partiallyRefunded => 60
  | .refunded => 70

namespace EffectKind

/-- The lowest status rank an effect of this kind implies. -/
@[simp] def rank : EffectKind → Int
  | .authorizeFail => 0
  | .authorize => 10
  | .adjustAuth => 10
  | .captureFail => 20
  | .void => 30
  | .expire => 30
  | .capture => 40
  | .refund => 60
  | .refundFail => 60
  | .refundReverse => 60

/-- The rank the aggregate must already carry for the effect to apply at all. -/
@[simp] def prerequisiteRank : EffectKind → Option Int
  | .adjustAuth | .capture | .captureFail | .void | .expire => some 10
  | .refund => some 40
  | .refundFail | .refundReverse => some 60
  | .authorize | .authorizeFail => none

@[simp] def regressive : EffectKind → Bool
  | .refundFail | .refundReverse => true
  | _ => false

@[simp] def needsAmount : EffectKind → Bool
  | .authorize | .adjustAuth | .capture | .captureFail | .refund | .refundFail | .refundReverse => true
  | _ => false

@[simp] def movesMoney : EffectKind → Bool
  | .capture | .refund => true
  | _ => false

end EffectKind

structure PaymentState where
  paymentId : Str
  currency : Str
  authorizedMinor : Int := 0
  capturedMinor : Int := 0
  captureFailedMinor : Int := 0
  refundedMinor : Int := 0
  refundFailedMinor : Int := 0
  voided : Bool := false
  expired : Bool := false
  rank : Int := 0
  lastSequence : Int := -1
  deriving DecidableEq

def deriveStatus (state : PaymentState) : Status :=
  if state.capturedMinor > 0 then
    if state.refundedMinor ≥ state.capturedMinor then .refunded
    else if state.refundedMinor > 0 then .partiallyRefunded
    else if state.capturedMinor ≥ state.authorizedMinor then .captured
    else .partiallyCaptured
  else if state.expired then .expired
  else if state.voided then .voided
  else if state.captureFailedMinor > 0 then .captureFailed
  else if state.authorizedMinor > 0 then .authorized
  else .pending

variable {T : Type}

def amountMinor (event : CanonicalEvent T) (state : PaymentState) : Except Exc Int :=
  match event.amount with
  | none => raise .illegalTransition (event.kind.value ++ str " requires an amount, delivery carried none")
  | some amount => do
    raiseIf (amount.currency ≠ state.currency) .currencyMismatch
      (str "event currency " ++ amount.currency ++ str " does not match payment " ++ state.paymentId ++
        str " held in " ++ state.currency)
    raiseIf (amount.minor < 0) .amountInvariantViolation (event.kind.value ++ str " amount must not be negative")
    pure amount.minor

/-- The minor units the effect moves; a kind that needs no amount ignores one it
is sent. -/
def effectMinor (event : CanonicalEvent T) (state : PaymentState) : Except Exc Int :=
  if event.kind.needsAmount then amountMinor event state else .ok 0

def fold (state : PaymentState) (kind : EffectKind) (minor : Int) : PaymentState :=
  match kind with
  | .authorize => { state with authorizedMinor := minor }
  | .adjustAuth => { state with authorizedMinor := minor }
  | .authorizeFail => state
  | .capture => { state with capturedMinor := state.capturedMinor + minor }
  | .captureFail => { state with captureFailedMinor := state.captureFailedMinor + minor }
  | .void => { state with voided := true }
  | .expire => { state with expired := true }
  | .refund => { state with refundedMinor := state.refundedMinor + minor }
  | .refundFail | .refundReverse =>
    { state with
      refundedMinor := state.refundedMinor - minor
      refundFailedMinor := state.refundFailedMinor + minor }

/-- The fold, then the rank ratchet. A refund correction follows the money back
down, with the kind's own rank as the floor. -/
def folded (state : PaymentState) (kind : EffectKind) (minor sequence : Int) : PaymentState :=
  let updated := fold state kind minor
  let rank :=
    if kind.regressive then max kind.rank (stateRank (deriveStatus updated))
    else max state.rank (max kind.rank (stateRank (deriveStatus updated)))
  { updated with rank, lastSequence := max state.lastSequence sequence }

def applyEffect (state : PaymentState) (event : CanonicalEvent T) : Except Exc PaymentState := do
  let kind := event.kind
  let minor ← effectMinor event state
  raiseIf (kind.movesMoney ∧ (state.voided ∨ state.expired)) .illegalTransition
    (str "cannot " ++ kind.value ++ str " a payment that is already " ++
      if state.expired then str "expired" else str "voided")
  raiseIf (kind = .refund ∧ state.capturedMinor = 0 ∧
      (state.captureFailedMinor > 0 ∨ state.voided ∨ state.expired)) .illegalTransition
    (str "cannot refund a payment that was never captured; cancel it instead")
  raiseIf (∃ prerequisite ∈ kind.prerequisiteRank, state.rank < prerequisite) .prematureEvent
    (kind.value ++ str " arrived before its prerequisite on payment " ++ state.paymentId)
  -- A stale adjustment folds as a no-op rather than being refused.
  if kind = .adjustAuth ∧ event.sequence < state.lastSequence then
    return state
  raiseIf (kind = .capture ∧ state.capturedMinor + minor > state.authorizedMinor) .amountInvariantViolation
    (str "capture of " ++ Str.ofInt minor ++ str " would exceed the authorization of " ++
      Str.ofInt state.authorizedMinor ++ str " on payment " ++ state.paymentId)
  raiseIf (kind = .refund ∧ state.refundedMinor + minor > state.capturedMinor) .amountInvariantViolation
    (str "refund of " ++ Str.ofInt minor ++ str " would exceed the captured " ++
      Str.ofInt state.capturedMinor ++ str " on payment " ++ state.paymentId)
  raiseIf (kind.regressive ∧ minor > state.refundedMinor) .amountInvariantViolation
    (kind.value ++ str " of " ++ Str.ofInt minor ++ str " exceeds the outstanding refunded " ++
      Str.ofInt state.refundedMinor ++ str " on payment " ++ state.paymentId)
  raiseIf (kind = .adjustAuth ∧ minor < state.capturedMinor) .amountInvariantViolation
    (str "adjusted authorization " ++ Str.ofInt minor ++ str " is below the captured " ++
      Str.ofInt state.capturedMinor)
  raiseIf (kind = .capture ∧ state.capturedMinor > 0) .illegalTransition
    (str "payment " ++ state.paymentId ++ str " is already captured and the remainder of a partial " ++
      str "capture is released, so a second capture is not possible")
  raiseIf (kind = .authorize ∧ state.authorizedMinor > 0) .illegalTransition
    (str "payment " ++ state.paymentId ++ str " already carries an authorization of " ++
      Str.ofInt state.authorizedMinor ++ str "; a second one is a double authorization rather than a " ++
      str "top up, and an adjustment arrives as adjust_auth carrying the new total")
  raiseIf (¬kind.regressive ∧ kind.rank < state.rank) .illegalTransition
    (kind.value ++ str " would regress payment " ++ state.paymentId ++ str " below rank " ++
      Str.ofInt state.rank)
  return folded state kind minor event.sequence

end Quidz
