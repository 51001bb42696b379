import Quidz.Text

/-! The exceptions the package raises, catches or classifies, with the class
hierarchy that `isinstance` and `except` consult. -/

namespace Quidz

inductive ExcType where
  | signatureError | malformedHeader | badSignature | staleTimestamp
  | eventError | malformedEvent | unknownEventType
  | illegalTransition | amountInvariantViolation | prematureEvent
  | valueError | currencyMismatch | jsonDecodeError | unicodeDecodeError | unicodeEncodeError
  | osError | operationalError | integrityError
  | overflowError | typeError | keyError | indexError | runtimeError | recursionError
  | cliError
  deriving DecidableEq, Repr

namespace ExcType

def bases : ExcType → List ExcType
  | .malformedHeader | .badSignature | .staleTimestamp => [.signatureError]
  | .malformedEvent | .unknownEventType => [.eventError]
  | .currencyMismatch | .jsonDecodeError | .unicodeDecodeError | .unicodeEncodeError => [.valueError]
  | .recursionError => [.runtimeError]
  | _ => []

end ExcType

structure Exc where
  type : ExcType
  message : Str
  deriving DecidableEq

namespace Exc

def isinstance (exc : Exc) (type : ExcType) : Bool := exc.type == type || exc.type.bases.contains type

end Exc

def raise {α : Type u} (type : ExcType) (message : Str) : Except Exc α := .error ⟨type, message⟩

@[simp] theorem raise_ne_ok {α : Type u} (type : ExcType) (message : Str) (value : α) :
    raise type message ≠ .ok value := nofun

/-- A value that has to be there. -/
def orRaise {α : Type u} (value : Option α) (type : ExcType) (message : Str) : Except Exc α :=
  match value with
  | some value => .ok value
  | none => raise type message

@[simp] theorem orRaise_ok {α : Type u} {value : Option α} {type : ExcType} {message : Str} {found : α} :
    orRaise value type message = .ok found ↔ value = some found := by
  cases value <;> simp [orRaise]

/-- One guard of a sequence: the first that holds is the one that raises. -/
def raiseIf (condition : Prop) [Decidable condition] (type : ExcType) (message : Str) : Except Exc Unit :=
  if condition then raise type message else .ok ()

end Quidz
