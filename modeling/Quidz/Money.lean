import Quidz.Runtime

/-! An amount is always the pair of integer minor units and a currency. -/

namespace Quidz

/-- Three letters that are alphabetic, uppercase and ASCII. -/
def validCurrency (currency : Str) : Bool :=
  currency.length == 3 && currency.all fun c => codePoint 'A' ≤ c && c ≤ codePoint 'Z'

structure Money where
  minor : Int
  currency : Str
  valid : validCurrency currency = true
  deriving DecidableEq

namespace Money

/-- `Money(minor, currency)`, which checks the currency it is given. -/
def new (isprintable : CodePoint → Bool) (minor : Int) (currency : Str) : Except Exc Money :=
  if valid : validCurrency currency = true then .ok ⟨minor, currency, valid⟩
  else raise .valueError
    (str "currency must be three uppercase ASCII letters, got " ++ Json.reprStr isprintable currency)

theorem new_ok {isprintable : CodePoint → Bool} {minor : Int} {currency : Str} {money : Money}
    (made : new isprintable minor currency = .ok money) : money.minor = minor ∧ money.currency = currency := by
  unfold new at made
  split at made
  · cases made; exact ⟨rfl, rfl⟩
  · exact absurd made (raise_ne_ok _ _ _)

end Money
end Quidz
