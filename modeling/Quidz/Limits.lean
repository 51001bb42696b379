import Mathlib.Data.Rat.Floor
import Quidz.Library.Rounding
import Quidz.Report

/-! Reconciliation and the gate with what the interpreter raises on the way: an integer of too
many digits has no text, and a quotient beyond the largest float no value. -/

namespace Quidz

open Library (Group.group Group.members)
open Library.Rounding (nearest roundEven)

/-- The integer has a text. -/
def Writable (n : Int) : Prop := n.natAbs < 10 ^ intMaxStrDigits

instance (n : Int) : Decidable (Writable n) := Nat.decLt _ _

/-- `f"{n}"`. -/
def formatInt (n : Int) : Except Exc Str :=
  if Writable n then .ok (Str.ofInt n)
  else
    raise .valueError (str "Exceeds the limit (" ++ Str.ofNat intMaxStrDigits ++ str " digits) for integer string conversion; " ++
      str "use sys.set_int_max_str_digits() to increase the limit")

/-- `n / d` of integers: the float next to the quotient. -/
def trueDivide (n d : Int) : Except Exc ℚ :=
  let quotient := nearest 53 (-1074) ((n : ℚ) / d)
  if 2 ^ 1024 ≤ |quotient| then raise .overflowError (str "integer division result too large for a float") else .ok quotient

/-- A runtime whose `round(n / d)` is that of binary floats. -/
def Runtime.binary64 {T R : Type} (rt : Runtime T R) : Runtime T R :=
  { rt with rounded := fun n d => roundEven (nearest 53 (-1074) ((n : ℚ) / d)) }

def localById (local_ : List PaymentState) : List (Str × List PaymentState) := Group.group PaymentState.paymentId local_

def remoteById {T : Type} (remote : List (RemotePayment T)) : List (Str × List (RemotePayment T)) :=
  Group.group RemotePayment.paymentId (remote.filter fun row => row.paymentId ≠ [])

variable {T R : Type} (rt : Runtime T R) (policy : GatePolicy T)

/-- The ledger payment that a settlement row is joined to. -/
def joined (local_ : List PaymentState) (remote : List (RemotePayment T)) (row : SettlementRow) : Option PaymentState :=
  (byRef (remoteById remote) row.pspReference).bind fun record => (Group.members (localById local_) record.paymentId).head?

/-- The text of a mismatch, and of a payment without its row, names the difference. -/
def Finding.write (finding : Finding T) : Except Exc Unit :=
  if finding.kind = .amountMismatch ∨ finding.kind = .unsettledPastSla then do
    let _ ← formatInt (finding.deltaMinor.getD 0)
  else .ok ()

/-- `feeBps`, or what its division raises. -/
def tryFeeBps (gross net : Int) : Except Exc Int :=
  if gross ≤ 0 then .ok 10000 else (trueDivide ((net - gross).natAbs * 10000) gross).map roundEven

/-- The text of a fee names the amounts, the basis points and the tolerance. -/
def writeFee (gross net : Int) : Except Exc Unit := do
  let bps ← tryFeeBps gross net
  let _ ← formatInt net
  let _ ← formatInt gross
  let _ ← formatInt bps
  let _ ← formatInt policy.feeToleranceBps

def writeRow (local_ : List PaymentState) (remote : List (RemotePayment T)) (row : SettlementRow) : Except Exc Unit :=
  match joined local_ remote row with
  | some state => if row.currency ≠ state.currency then .ok () else writeFee policy state.capturedMinor row.netMinor
  | none => .ok ()

variable [Seconds T]

/-- `reconcile`, or what it raises: over the payment ids, over the settlement rows, over
the payments that are due. -/
def tryReconcile (local_ : List PaymentState) (remote : List (RemotePayment T)) (settlement : List SettlementRow)
    (parked : List (Str × T)) (now : T) (counters : List (Str × Int)) : Except Exc (ExceptionReport T) := do
  (reconcileEvents policy (localById local_) (remoteById remote) now).forM Finding.write
  (settlement.insertionSort fun first second => first.pspReference ≤ second.pspReference).forM (writeRow policy local_ remote)
  (reconcileSettlement rt.binary64 policy (localById local_) (remoteById remote) settlement now).forM Finding.write
  return reconcile rt.binary64 policy local_ remote settlement parked now counters

section Gate
variable (report : ExceptionReport T)

/-- The rationale names the thresholds where nothing comes up to them, and the exposure where
something is blocked. -/
def writeRationale (now : T) : Except Exc Unit :=
  let findings := effective report policy
  let (_, ids) := suppress policy.breakGlass now (scopedIds policy.scope findings)
  if findings.length = 0 then
    if (breaks report).length ≠ 0 then do
      let _ ← formatInt policy.materialityCount
      let _ ← formatInt policy.materialityValueMinor
    else .ok ()
  else if ids ≠ [] then
    (exposureByCurrency (breaks report)).forM fun entry => do
      let _ ← formatInt entry.2
  else .ok ()

/-- `gate`, or what it raises. -/
def tryGate (floatText : T → Str) (now : T) : Except Exc (GateDecision T) := do
  writeRationale policy report now
  return gate floatText report policy now

end Gate

end Quidz
