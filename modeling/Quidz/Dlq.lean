import Quidz.Runtime

/-! Poison message handling: typed reason codes, bounded jittered backoff and a
budget of retries per minute. -/

namespace Quidz

structure ReasonCode where
  code : Str
  retryable : Bool
  maxAttempts : Option Int
  deriving DecidableEq

namespace ReasonCode

def signatureInvalid : ReasonCode := ⟨str "signature_invalid", false, none⟩
def staleTimestamp : ReasonCode := ⟨str "stale_timestamp", false, none⟩
def schemaInvalid : ReasonCode := ⟨str "schema_invalid", false, none⟩
def illegalTransition : ReasonCode := ⟨str "illegal_transition", false, none⟩
def amountInvariant : ReasonCode := ⟨str "amount_invariant", false, none⟩
def currencyMismatch : ReasonCode := ⟨str "currency_mismatch", false, none⟩
def unknownEventType : ReasonCode := ⟨str "unknown_event_type", true, some 3⟩
def downstreamUnavailable : ReasonCode := ⟨str "downstream_unavailable", true, some 5⟩
def unknown : ReasonCode := ⟨str "unknown", true, some 3⟩

end ReasonCode

/-- Consulted in order, the specific classes before the ones they extend. -/
def classifiers : List (ExcType × ReasonCode) :=
  [(.staleTimestamp, .staleTimestamp),
    (.badSignature, .signatureInvalid),
    (.malformedHeader, .signatureInvalid),
    (.signatureError, .signatureInvalid),
    (.unknownEventType, .unknownEventType),
    (.malformedEvent, .schemaInvalid),
    (.jsonDecodeError, .schemaInvalid),
    (.unicodeDecodeError, .schemaInvalid),
    (.currencyMismatch, .currencyMismatch),
    (.amountInvariantViolation, .amountInvariant),
    (.illegalTransition, .illegalTransition),
    (.operationalError, .downstreamUnavailable)]

def classify (exc : Exc) : ReasonCode :=
  match classifiers.find? fun entry => exc.isinstance entry.1 with
  | some entry => entry.2
  | none => .unknown

structure RetryPolicy (T : Type) where
  baseSeconds : T
  maxSeconds : T
  maxAttempts : Int := 5
  budgetPerMinute : Int := 100
  seed : Option Int := none

/-- The policy the package constructs when it is given no other. -/
def RetryPolicy.standard : RetryPolicy Int := { baseSeconds := 1, maxSeconds := 300 }

section Jitter
variable {T R : Type} [Seconds T] (rt : Runtime T R) (policy : RetryPolicy T)

def jitterSource : R := rt.random policy.seed

/-- Full jitter: anywhere below the exponential ceiling. -/
def nextDelay (attempt : Nat) (rng : R) : T × R :=
  rt.uniform rng 0 (min policy.maxSeconds (Seconds.scale policy.baseSeconds attempt))

end Jitter

def shouldRetry {T : Type} (policy : RetryPolicy T) (reason : ReasonCode) (attempt : Nat) (budgetUsed : Int) : Bool :=
  if reason.retryable = false then false
  else if budgetUsed ≥ policy.budgetPerMinute then false
  else
    let cap : Int := match reason.maxAttempts with
      | some attempts => min policy.maxAttempts attempts
      | none => policy.maxAttempts
    attempt < cap

end Quidz
