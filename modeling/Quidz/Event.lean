import Quidz.Money

/-! The canonical event both providers' payloads decode to. -/

namespace Quidz

inductive EffectKind where
  | authorize | authorizeFail | adjustAuth | capture | captureFail
  | void | expire | refund | refundFail | refundReverse
  deriving DecidableEq, Repr

def EffectKind.value : EffectKind → Str
  | .authorize => str "authorize"
  | .authorizeFail => str "authorize_fail"
  | .adjustAuth => str "adjust_auth"
  | .capture => str "capture"
  | .captureFail => str "capture_fail"
  | .void => str "void"
  | .expire => str "expire"
  | .refund => str "refund"
  | .refundFail => str "refund_fail"
  | .refundReverse => str "refund_reverse"

inductive Provider where
  | stripe | adyen
  deriving DecidableEq, Repr

def Provider.value : Provider → Str
  | .stripe => str "stripe"
  | .adyen => str "adyen"

structure CanonicalEvent (T : Type) where
  provider : Provider
  identity : Str
  paymentId : Str
  kind : EffectKind
  providerRef : Str
  amount : Option Money
  occurredAt : T
  sequence : Int
  /-- The provider's own strings, kept verbatim so reconciliation compares like
  for like. -/
  rawAmountValue : Option Str
  rawCurrency : Option Str
  deriving DecidableEq

end Quidz
