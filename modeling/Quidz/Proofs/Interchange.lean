import Quidz.Proofs.Findings

/-! What the report says of a payment depends on the first of its records. Two records can
stand in for each other if nothing that is read of them differs. -/

namespace Quidz.Proofs

variable {T R : Type} [Seconds T]

def amounts (record : RemotePayment T) : Int × Int × Int :=
  (record.authorizedMinor, record.capturedMinor, record.refundedMinor)

/-- Either record may come first among those of a payment the ledger holds as `locals`. -/
structure Interchangeable (policy : GatePolicy T) (now : T) (locals : List PaymentState) (first second : RemotePayment T) : Prop where
  providerRef : first.providerRef = second.providerRef
  currency : first.currency = second.currency
  age : now - first.createdAt = now - second.createdAt
  unknown : locals = [] → amounts first = amounts second
  young : ∀ state ∈ locals, state.currency = first.currency → now - first.createdAt < policy.inFlightGraceSeconds →
    (Agrees state first ↔ Agrees state second)
  old : ∀ state ∈ locals, state.currency = first.currency → ¬now - first.createdAt < policy.inFlightGraceSeconds →
    amounts first = amounts second ∧ first.status = second.status

theorem Interchangeable.refl {policy : GatePolicy T} {now : T} {locals : List PaymentState} (record : RemotePayment T) :
    Interchangeable policy now locals record record :=
  ⟨rfl, rfl, rfl, fun _ => rfl, fun _ _ _ _ => Iff.rfl, fun _ _ _ _ => ⟨rfl, rfl⟩⟩

variable {policy : GatePolicy T} {now : T} {state : PaymentState} {locals : List PaymentState} {first second : RemotePayment T}

section Same

theorem comparePair_congr (same : Interchangeable policy now (state :: locals) first second) :
    comparePair policy state first (now - first.createdAt) policy.inFlightGraceSeconds =
      comparePair policy state second (now - second.createdAt) policy.inFlightGraceSeconds := by
  unfold comparePair
  rw [← same.age, ← same.currency, ← same.providerRef]
  by_cases currency : state.currency = first.currency
  case neg => rw [if_pos currency, if_pos currency]
  rw [if_neg (not_not.mpr currency), if_neg (not_not.mpr currency)]
  dsimp only
  by_cases young : now - first.createdAt < policy.inFlightGraceSeconds
  · have agree := same.young state List.mem_cons_self currency young
    rw [agrees_iff currency, agrees_iff (currency.trans same.currency)] at agree
    simp only [if_pos young, agree]
  · obtain ⟨amount, status⟩ := same.old state List.mem_cons_self currency young
    obtain ⟨authorized, captured, refunded⟩ := by simpa only [amounts, Prod.mk.injEq] using amount
    rw [authorized, captured, refunded, status]

theorem reconcileId_congr (same : Interchangeable policy now locals first second) (paymentId : Str)
    {rest rest' : List (RemotePayment T)} (many : rest.length = rest'.length) :
    reconcileId policy now paymentId locals (first :: rest) = reconcileId policy now paymentId locals (second :: rest') := by
  unfold reconcileId
  simp only [List.length_cons, List.head?_cons, Option.map_some, ← many, ← same.providerRef, ← same.currency, ← same.age]
  congr 1
  match locals with
  | [] =>
    obtain ⟨authorized, captured, refunded⟩ := by simpa only [amounts, Prod.mk.injEq] using same.unknown rfl
    dsimp only
    rw [← same.age, ← same.currency, ← same.providerRef, authorized, captured, refunded]
  | state :: others => exact comparePair_congr same

end Same

section Pairs
variable {record : RemotePayment T} {age grace : T} {finding : Finding T}

theorem comparePair_eq_nil (currency : state.currency = record.currency) :
    comparePair policy state record age grace = [] ↔ Agrees state record := by
  refine ⟨fun quiet => ?_, fun agrees => comparePair_agrees agrees age grace⟩
  by_contra differs
  rw [agrees_iff currency] at differs
  unfold comparePair at quiet
  rw [if_neg (not_not.mpr currency)] at quiet
  dsimp only at quiet
  rw [if_neg differs] at quiet
  split at quiet
  · cases quiet
  obtain ⟨amount, status⟩ := List.append_eq_nil_iff.mp quiet
  refine differs ⟨?_, ?_⟩
  · by_contra other
    rw [if_pos other] at amount
    cases amount
  · by_contra other
    rw [if_pos other] at status
    cases status

variable (policy) in
/-- Past the grace window, the amounts of the record are told if they are not the ledger's. -/
theorem comparePair_amounts (currency : state.currency = record.currency) (old : ¬age < grace)
    (differs : (state.authorizedMinor, state.capturedMinor, state.refundedMinor) ≠ amounts record) :
    ∃ finding ∈ comparePair policy state record age grace, finding.kind ≠ .statusMismatch := by
  unfold amounts at differs
  unfold comparePair
  rw [if_neg (not_not.mpr currency)]
  dsimp only
  rw [if_neg fun agree => differs agree.1, if_neg old, if_pos differs]
  refine ⟨_, List.mem_append_left _ List.mem_cons_self, ?_⟩
  change (if _ then _ else _) ≠ _
  split <;> decide

variable (policy) in
theorem comparePair_status (currency : state.currency = record.currency) (old : ¬age < grace)
    (differs : (deriveStatus state).value ≠ record.status) :
    ∃ finding ∈ comparePair policy state record age grace, finding.kind = .statusMismatch := by
  unfold comparePair
  rw [if_neg (not_not.mpr currency)]
  dsimp only
  rw [if_neg fun agree => differs agree.2, if_neg old, if_pos differs]
  exact ⟨_, List.mem_append_right _ List.mem_cons_self, rfl⟩

/-- What is told is what the record has. -/
theorem comparePair_remote (currency : state.currency = record.currency) (old : ¬age < grace)
    (member : finding ∈ comparePair policy state record age grace) :
    finding.remote = if finding.kind = .statusMismatch then some [(str "status", .str record.status)]
      else some (vector record.authorizedMinor record.capturedMinor record.refundedMinor) := by
  cases (comparePair_cases member).1 with
  | foreign other => exact absurd currency other
  | young young => exact absurd young old
  | partial_ kind remote => rw [remote, if_neg (by rw [kind]; decide)]
  | mismatch _ _ kind remote => rw [remote, if_neg (by rw [kind]; decide)]
  | status kind remote => rw [remote, if_pos kind]

/-- What differs from `held` shows in its list, and what is shown tells what differed. Then
two of which the lists show the same are the same. -/
theorem alike_of_told {α β : Type} {held first second : β} {p : α → Prop} {shown shown' : List α}
    (told : ∀ x, x ∈ shown ↔ x ∈ shown') (seen : held ≠ first → ∃ x ∈ shown, p x) (seen' : held ≠ second → ∃ x ∈ shown', p x)
    (tells : ∀ x ∈ shown, p x → first = second) : first = second := by
  by_cases differs : held = first
  · by_cases differs' : held = second
    · exact differs.symm.trans differs'
    · obtain ⟨x, member, kind⟩ := seen' differs'
      exact tells x ((told x).mpr member) kind
  · obtain ⟨x, member, kind⟩ := seen differs
    exact tells x member kind

/-- Two records that the same is told of, next to the payment, agree as far as is read of them. -/
theorem comparePair_told (currency : first.currency = second.currency) (age : now - first.createdAt = now - second.createdAt)
    (own : state.currency = first.currency)
    (told : ∀ finding, finding ∈ comparePair policy state first (now - first.createdAt) policy.inFlightGraceSeconds ↔
      finding ∈ comparePair policy state second (now - second.createdAt) policy.inFlightGraceSeconds) :
    (Agrees state first ↔ Agrees state second) ∧
      (¬now - first.createdAt < policy.inFlightGraceSeconds → amounts first = amounts second ∧ first.status = second.status) := by
  have own' := own.trans currency
  refine ⟨?_, fun old => ?_⟩
  · rw [← comparePair_eq_nil own, ← comparePair_eq_nil own', List.eq_nil_iff_forall_not_mem, List.eq_nil_iff_forall_not_mem]
    exact forall_congr' fun finding => not_congr (told finding)
  have old' : ¬now - second.createdAt < policy.inFlightGraceSeconds := by rwa [← age]
  have remote {finding : Finding T}
      (member : finding ∈ comparePair policy state first (now - first.createdAt) policy.inFlightGraceSeconds) :=
    (comparePair_remote own old member).symm.trans (comparePair_remote own' old' ((told finding).mp member))
  constructor
  · refine alike_of_told told (comparePair_amounts policy own old) (comparePair_amounts policy own' old') fun finding member kind => ?_
    have same := remote member
    rw [if_neg kind, if_neg kind, Option.some.injEq] at same
    simpa [vector, amounts] using same
  · refine alike_of_told told (comparePair_status policy own old) (comparePair_status policy own' old') fun finding member kind => ?_
    have same := remote member
    rw [if_pos kind, if_pos kind, Option.some.injEq] at same
    simpa using same

end Pairs

section Ids

/-- The finding is one of comparing the sides on this payment id, and names a record. -/
structure OfEvent (paymentId : Str) (finding : Finding T) : Prop where
  kind : finding.kind ∈ eventKinds
  paymentId : finding.paymentId = some paymentId
  providerRef : finding.providerRef.isSome
  age : finding.ageSeconds.isSome

/-- What having several records is reported as. -/
def duplicateRemote (policy : GatePolicy T) (now : T) (paymentId : Str) (n : Nat) (record : RemotePayment T) : Finding T :=
  { drift policy .duplicateRemote (Str.ofNat n ++ str " provider records carry the payment id " ++
        paymentId ++ str ", which is a double authorization") with
    paymentId := some paymentId, providerRef := some record.providerRef, currency := some record.currency
    ageSeconds := some (now - record.createdAt) }

/-- Several records are reported next to what is told of the first. -/
theorem reconcileId_several (single : locals.length ≤ 1) (paymentId : Str) (record : RemotePayment T)
    {rest : List (RemotePayment T)} (several : rest ≠ []) :
    reconcileId policy now paymentId locals (record :: rest) =
      duplicateRemote policy now paymentId (rest.length + 1) record :: reconcileId policy now paymentId locals [record] := by
  have many : 1 < (record :: rest).length := Nat.succ_lt_succ (List.length_pos_iff.mpr several)
  have one : ¬1 < [record].length := Nat.lt_irrefl 1
  have lone : ¬1 < locals.length := Nat.not_lt.mpr single
  unfold reconcileId duplicateRemote
  rw [if_neg lone, if_neg lone, if_pos many, if_neg one]
  cases locals <;> rfl

variable (policy now) in
theorem reconcileId_unknown (paymentId : Str) (record : RemotePayment T) : ∃ finding,
    reconcileId policy now paymentId [] [record] = [finding] ∧
      finding.remote = some (vector record.authorizedMinor record.capturedMinor record.refundedMinor) :=
  ⟨_, rfl, rfl⟩

theorem reconcileId_known (paymentId : Str) (state : PaymentState) (record : RemotePayment T) :
    reconcileId policy now paymentId [state] [record] =
      comparePair policy state record (now - record.createdAt) policy.inFlightGraceSeconds := rfl

theorem reconcileId_one {paymentId : Str} (single : locals.length ≤ 1) (own : ∀ state ∈ locals, state.paymentId = paymentId)
    {record : RemotePayment T} {finding : Finding T} (member : finding ∈ reconcileId policy now paymentId locals [record]) :
    OfEvent paymentId finding ∧ finding.kind ≠ .duplicateRemote := by
  cases reconcileId_cases member with
  | duplicateLocal many => exact absurd single (Nat.not_le.mpr many)
  | duplicateRemote many => exact absurd many (Nat.lt_irrefl 1)
  | missingRemotely absent => cases absent
  | missingLocally _ kind named ref age =>
    refine ⟨⟨?_, named, by rw [ref]; rfl, by rw [age]; rfl⟩, ?_⟩
    all_goals rcases kind with kind | kind <;> rw [kind] <;> decide
  | pair here _ compared =>
    have pair := comparePair_ofPair compared
    have kind : ∀ kind ∈ pairKinds, kind ≠ DriftKind.duplicateRemote := by decide
    refine ⟨⟨List.mem_append_right _ pair.kind, ?_, by rw [pair.providerRef]; rfl, by rw [pair.age]; rfl⟩, kind _ pair.kind⟩
    rw [pair.paymentId, own _ (List.mem_of_head? here)]

/-- Beside the duplicates, the same is told of several records as of the first alone. -/
theorem mem_reconcileId_several (single : locals.length ≤ 1) {paymentId : Str} {record : RemotePayment T} {rest : List (RemotePayment T)}
    (several : rest ≠ []) {finding : Finding T} (kind : finding.kind ≠ .duplicateRemote) :
    finding ∈ reconcileId policy now paymentId locals (record :: rest) ↔ finding ∈ reconcileId policy now paymentId locals [record] := by
  rw [reconcileId_several single _ _ several, List.mem_cons, or_iff_right]
  rintro rfl
  exact kind rfl

/-- Records of which the same is told, each as the first of several, are interchangeable. -/
theorem interchangeable_of_told {paymentId : Str} (single : locals.length ≤ 1) (own : ∀ state ∈ locals, state.paymentId = paymentId)
    {rest rest' : List (RemotePayment T)} (several : rest ≠ []) (several' : rest' ≠ [])
    (told : ∀ finding, OfEvent paymentId finding → (finding ∈ reconcileId policy now paymentId locals (first :: rest) ↔
      finding ∈ reconcileId policy now paymentId locals (second :: rest'))) :
    Interchangeable policy now locals first second := by
  have duplicate := (told (duplicateRemote policy now paymentId (rest.length + 1) first)
      ⟨show DriftKind.duplicateRemote ∈ eventKinds by decide, rfl, rfl, rfl⟩).mp
    (by rw [reconcileId_several single _ _ several]; exact List.mem_cons_self)
  have same : duplicateRemote policy now paymentId (rest.length + 1) first =
      duplicateRemote policy now paymentId (rest'.length + 1) second := by
    rw [reconcileId_several single _ _ several'] at duplicate
    rcases List.mem_cons.mp duplicate with same | other
    · exact same
    · exact absurd rfl (reconcileId_one single own other).2
  have currency : first.currency = second.currency := Option.some.inj (congrArg Finding.currency same)
  have age : now - first.createdAt = now - second.createdAt := Option.some.inj (congrArg Finding.ageSeconds same)
  have told' (finding : Finding T) : finding ∈ reconcileId policy now paymentId locals [first] ↔
      finding ∈ reconcileId policy now paymentId locals [second] := by
    constructor
    · intro member
      obtain ⟨event, kind⟩ := reconcileId_one single own member
      apply (mem_reconcileId_several single several' kind).mp
      exact (told finding event).mp ((mem_reconcileId_several single several kind).mpr member)
    · intro member
      obtain ⟨event, kind⟩ := reconcileId_one single own member
      apply (mem_reconcileId_several single several kind).mp
      exact (told finding event).mpr ((mem_reconcileId_several single several' kind).mpr member)
  have ref : first.providerRef = second.providerRef := Option.some.inj (congrArg Finding.providerRef same)
  match locals with
  | [] =>
    refine ⟨ref, currency, age, fun _ => ?_, nofun, nofun⟩
    obtain ⟨finding, one, remote⟩ := reconcileId_unknown policy now paymentId first
    obtain ⟨other, one', remote'⟩ := reconcileId_unknown policy now paymentId second
    have vectors := told' finding
    rw [one, one', List.mem_singleton, List.mem_singleton, eq_self, true_iff] at vectors
    rw [vectors, remote', Option.some.injEq] at remote
    simpa [vector, amounts, eq_comm] using remote
  | [state] =>
    simp only [reconcileId_known] at told'
    refine ⟨ref, currency, age, nofun, fun other member own _ => ?_, fun other member own old => ?_⟩
    · rw [List.mem_singleton.mp member] at own ⊢
      exact (comparePair_told currency age own told').1
    · rw [List.mem_singleton.mp member] at own
      exact (comparePair_told currency age own told').2 old
  | _ :: _ :: _ => exact absurd single (by simp)

end Ids
end Quidz.Proofs
