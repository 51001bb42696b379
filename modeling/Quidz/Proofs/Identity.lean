import Quidz.Receive
import Quidz.Proofs.Decoding
import Quidz.Proofs.Transactions

/-! The two keys a delivery of Adyen's is recognised by. The front door takes the
reference and the event code, the ledger the payment, the kind and the reference; what
tells a success from a failure is in the second key alone. -/

namespace Quidz.Proofs

open Library (Table)

variable {T R : Type} (rt : Runtime T R)

variable [Seconds T]

section Pair
variable {db : Db T} {row : Delivery T} {id : Str} {raw : Bytes} {first second : Mapping} {held arrived : CanonicalEvent T}

end Pair

end Quidz.Proofs
