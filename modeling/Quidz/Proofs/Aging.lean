import Mathlib.Algebra.Order.Group.Int
import Quidz.Library.Tally
import Quidz.Proofs.Gate
import Quidz.Proofs.Returns

/-! The report as time goes by. A finding that weighs on the gate stays in the report for as
long as the records stay as they are, and others come to it, so that a gate that is closed
is not opened by waiting. -/

namespace Quidz.Proofs

open Library (Group.group Group.members)

variable {T R : Type}

/-- A finding but for its age, which its text tells too. -/
def timeless (finding : Finding T) : Finding T := { finding with ageSeconds := none, detail := [] }

/-- The finding is of the two severities that the gate looks at. -/
def weighs (finding : Finding T) : Bool := finding.severity = .break_ || finding.severity = .critical

def standing (findings : List (Finding T)) : List (Finding T) := (findings.map timeless).filter weighs

section Standing

theorem standing_append (first second : List (Finding T)) : standing (first ++ second) = standing first ++ standing second := by
  simp [standing]

theorem standing_flatMap {α : Type} {items : List α} {first second : α → List (Finding T)}
    (each : ∀ item, (standing (first item)).Sublist (standing (second item))) :
    (standing (items.flatMap first)).Sublist (standing (items.flatMap second)) := by
  induction items with
  | nil => exact List.Sublist.refl _
  | cons item rest ih =>
    rw [List.flatMap_cons, List.flatMap_cons, standing_append, standing_append]
    exact (each item).append ih

theorem standing_perm {first second : List (Finding T)} (perm : first.Perm second) : (standing first).Perm (standing second) :=
  (perm.map timeless).filter weighs

theorem standing_same {first second : List (Finding T)} (same : first.map timeless = second.map timeless) :
    (standing first).Sublist (standing second) := by
  rw [standing, same]
  exact List.Sublist.refl _

/-- What does not weigh is not standing. -/
theorem standing_light {findings : List (Finding T)} (light : ∀ finding ∈ findings, finding.severity = .info ∨ finding.severity = .warn) :
    standing findings = [] := by
  refine List.filter_eq_nil_iff.mpr fun finding member => ?_
  obtain ⟨original, inside, rfl⟩ := List.mem_map.mp member
  rcases light original inside with severity | severity <;> simp [weighs, timeless, severity]

end Standing

section Exposure

/-- What a finding adds to the exposure, under its currency. -/
def exposure (finding : Finding T) : Option (Str × Int) :=
  match finding.deltaMinor, finding.currency with
  | some delta, some currency => if delta ≠ 0 ∧ currency ≠ [] then some (currency, delta.natAbs) else none
  | _, _ => none

theorem addExposure_eq (totals : List (Str × Int)) (currency : Str) (delta : Int) :
    addExposure totals currency delta = Library.Tally.add currency delta totals := by
  induction totals with
  | nil => rfl
  | cons entry rest ih => rw [addExposure, Library.Tally.add, ih]

theorem exposureByCurrency_eq (findings : List (Finding T)) :
    exposureByCurrency findings = Library.Tally.tally (findings.filterMap exposure) := by
  unfold exposureByCurrency Library.Tally.tally
  rw [List.foldl_filterMap]
  congr 1
  funext totals finding
  unfold exposure
  cases finding.deltaMinor with
  | none => rfl
  | some delta =>
    cases finding.currency with
    | none => rfl
    | some currency =>
      dsimp only
      split
      · exact addExposure_eq _ _ _
      · rfl

theorem exposure_nonneg {findings : List (Finding T)} : ∀ entry ∈ findings.filterMap exposure, 0 ≤ entry.2 := by
  intro entry member
  obtain ⟨finding, _, found⟩ := List.mem_filterMap.mp member
  unfold exposure at found
  split at found
  next delta currency _ _ =>
    split at found
    next => cases found; exact Int.natCast_nonneg _
    next => cases found
  next => cases found

/-- The exposure does not look at what a finding's age is. -/
theorem exposure_timeless (findings : List (Finding T)) : (findings.map timeless).filterMap exposure = findings.filterMap exposure := by
  rw [List.filterMap_map]
  rfl

end Exposure

section Gates

theorem standing_severity {severity : Severity} (heavy : severity = .break_ ∨ severity = .critical) (findings : List (Finding T)) :
    (standing findings).filter (·.severity = severity) = (findings.filter (·.severity = severity)).map timeless := by
  rw [standing, List.filter_filter, List.filter_map]
  congr 1
  refine List.filter_congr fun finding _ => ?_
  rcases heavy with rfl | rfl <;> cases severity : finding.severity <;> simp [weighs, timeless, severity]

theorem subperm_severity {severity : Severity} (heavy : severity = .break_ ∨ severity = .critical) {first second : List (Finding T)}
    (stands : (standing first).Subperm (standing second)) :
    ((first.filter (·.severity = severity)).map timeless).Subperm ((second.filter (·.severity = severity)).map timeless) := by
  rw [← standing_severity heavy, ← standing_severity heavy]
  exact stands.filter _

variable {before after : ExceptionReport T}

/-- Breaks that are material stay so when others come to them. -/
theorem material_stands (policy : GatePolicy T) (stands : (standing before.findings).Subperm (standing after.findings))
    (enough : material before policy = true) : material after policy = true := by
  have kept : ((breaks before).map timeless).Subperm ((breaks after).map timeless) := subperm_severity (.inl rfl) stands
  unfold material at enough ⊢
  rw [Bool.or_eq_true, decide_eq_true_eq, List.any_eq_true] at enough ⊢
  rcases enough with many | ⟨⟨currency, total⟩, listed, large⟩
  · left
    have more := kept.length_le
    rw [List.length_map, List.length_map] at more
    omega
  · right
    have entries : (((breaks before).map timeless).filterMap exposure).Subperm (((breaks after).map timeless).filterMap exposure) := by
      obtain ⟨part, perm, sub⟩ := kept
      exact ⟨_, perm.filterMap exposure, sub.filterMap exposure⟩
    rw [exposure_timeless, exposure_timeless] at entries
    rw [exposureByCurrency_eq] at listed
    obtain ⟨larger, found, least⟩ := Library.Tally.tally_mono entries exposure_nonneg listed
    refine ⟨(currency, larger), by rwa [exposureByCurrency_eq], ?_⟩
    exact decide_eq_true ((of_decide_eq_true large).trans least)

theorem effective_stands (policy : GatePolicy T) (stands : (standing before.findings).Subperm (standing after.findings))
    (some_ : effective before policy ≠ []) : effective after policy ≠ [] := by
  have of_sub {first second : List (Finding T)} (kept : (first.map timeless).Subperm (second.map timeless))
      (nonempty : first ≠ []) : second ≠ [] := by
    have less := kept.length_le
    rw [List.length_map, List.length_map] at less
    exact List.ne_nil_of_length_pos ((List.length_pos_iff.mpr nonempty).trans_le less)
  unfold effective at some_ ⊢
  rw [ne_eq, List.append_eq_nil_iff, not_and_or] at some_ ⊢
  rcases some_ with critical | broken
  · exact .inl (of_sub (subperm_severity (.inr rfl) stands) critical)
  · right
    split at broken
    next enough =>
      rw [if_pos (material_stands policy stands enough)]
      exact of_sub (subperm_severity (.inl rfl) stands) broken
    next => exact absurd rfl broken

/-- Findings that take effect have an id to block. -/
theorem scopedIds_ne_nil (scope : Scope) {findings : List (Finding T)} (some_ : findings ≠ []) : scopedIds scope findings ≠ [] := by
  have of_source {id : Str} (source : Source scope findings id) : scopedIds scope findings ≠ [] :=
    List.ne_nil_of_mem (mem_scopedIds.mpr ⟨some_, source⟩)
  by_cases whole : scope = .batch
  · exact of_source (.batch whole rfl)
  by_cases keyed : Keyed scope findings
  · obtain ⟨finding, member, key⟩ := keyed
    exact of_source (.keyed member (Option.some_get key).symm)
  by_cases referenced : Referenced findings
  · obtain ⟨finding, member, reference⟩ := referenced
    exact of_source (.referenced whole keyed member (Option.some_get reference).symm)
  · exact of_source (.unreferenced whole keyed referenced rfl)

end Gates

variable [Seconds T] {rt : Runtime T R} {policy : GatePolicy T}

theorem comparePair_ages (plain : policy.severityOverrides = []) {age older : T} (ages : age ≤ older) (local_ : PaymentState)
    (remote : RemotePayment T) (grace : T) :
    (standing (comparePair policy local_ remote age grace)).Sublist (standing (comparePair policy local_ remote older grace)) := by
  unfold comparePair
  split
  next => exact List.Sublist.refl _
  next =>
    dsimp only
    split
    next => exact List.Sublist.refl _
    next =>
      by_cases young : age < grace
      · rw [if_pos young, standing_light]
        · exact List.nil_sublist _
        · intro finding member
          rw [List.mem_singleton.mp member]
          exact .inl (drift_severity plain _ _)
      · have old : ¬older < grace := fun young' => young (lt_of_le_of_lt ages young')
        rw [if_neg young, if_neg old]
        simp only [standing_append]
        refine List.Sublist.append ?_ ?_
        · split <;> exact standing_same rfl
        · split <;> exact standing_same rfl

section Reports
variable {now later : T}

theorem reconcileId_waits (plain : policy.severityOverrides = []) (waits : ∀ moment, now - moment ≤ later - moment) (paymentId : Str)
    (locals : List PaymentState) (remotes : List (RemotePayment T)) :
    (standing (reconcileId policy now paymentId locals remotes)).Sublist
      (standing (reconcileId policy later paymentId locals remotes)) := by
  unfold reconcileId
  simp only [standing_append]
  refine ((List.Sublist.refl _).append ?_).append ?_
  · split
    next => exact standing_same rfl
    next => exact List.Sublist.refl _
  · cases remotes with
    | nil => cases locals <;> exact List.Sublist.refl _
    | cons remote rest =>
      cases locals with
      | nil =>
        dsimp only
        by_cases young : now - remote.createdAt < policy.inFlightGraceSeconds
        · rw [standing_light]
          · exact List.nil_sublist _
          · intro finding member
            rw [List.mem_singleton.mp member]
            simp only [if_pos young]
            exact .inl (drift_severity plain _ _)
        · have old : ¬later - remote.createdAt < policy.inFlightGraceSeconds := fun young' =>
            young (lt_of_le_of_lt (waits _) young')
          rw [if_neg young, if_neg old]
          exact standing_same rfl
      | cons local_ others => exact comparePair_ages plain (waits _) local_ remote _

theorem unsettled_waits (waits : ∀ moment, now - moment ≤ later - moment) (settled : List Str) (paymentId : Str)
    (locals : List PaymentState) (remotes : List (RemotePayment T)) :
    (standing (unsettled policy now settled paymentId locals remotes)).Sublist
      (standing (unsettled policy later settled paymentId locals remotes)) := by
  unfold unsettled
  cases locals with
  | nil => exact List.Sublist.refl _
  | cons local_ others =>
    cases remotes with
    | nil => exact List.Sublist.refl _
    | cons remote rest =>
      dsimp only
      by_cases settles : local_.capturedMinor ≤ 0 ∨ remote.providerRef ∈ settled ∨ now - remote.createdAt ≤ policy.settlementSlaSeconds
      · rw [if_pos settles]
        exact List.nil_sublist _
      · have still : ¬(local_.capturedMinor ≤ 0 ∨ remote.providerRef ∈ settled ∨
            later - remote.createdAt ≤ policy.settlementSlaSeconds) := by
          rintro (none | joins | young)
          · exact settles (.inl none)
          · exact settles (.inr (.inl joins))
          · exact settles (.inr (.inr ((waits _).trans young)))
        rw [if_neg settles, if_neg still]
        exact standing_same rfl

theorem parkedFindings_waits (plain : policy.severityOverrides = []) (waits : ∀ moment, now - moment ≤ later - moment)
    (parked : List (Str × T)) :
    (standing (parkedFindings policy now parked)).Sublist (standing (parkedFindings policy later parked)) := by
  unfold parkedFindings
  rw [List.map_eq_flatMap, List.map_eq_flatMap]
  refine standing_flatMap fun entry => ?_
  dsimp only
  by_cases stale : policy.parkMaxAgeSeconds < now - entry.2
  · rw [if_pos stale, if_pos (lt_of_lt_of_le stale (waits _))]
    exact standing_same rfl
  · rw [standing_light]
    · exact List.nil_sublist _
    · intro finding member
      rw [List.mem_singleton.mp member]
      simp only [if_neg stale]
      exact .inl (drift_severity plain _ _)

variable (rt) in
/-- What stands in a report stands in every later one. -/
theorem reconcile_waits (plain : policy.severityOverrides = []) (waits : ∀ moment, now - moment ≤ later - moment)
    (local_ : List PaymentState) (remote : List (RemotePayment T)) (settlement : List SettlementRow)
    (parked : List (Str × T)) (counters counters' : List (Str × Int)) :
    (standing (reconcile rt policy local_ remote settlement parked now counters).findings).Subperm
      (standing (reconcile rt policy local_ remote settlement parked later counters').findings) := by
  rw [reconcile_findings, reconcile_findings]
  refine (standing_perm (List.perm_insertionSort _ _)).subperm.trans
    (List.Subperm.trans (List.Sublist.subperm ?_) (standing_perm (List.perm_insertionSort _ _)).symm.subperm)
  simp only [standing_append]
  refine ((List.Sublist.append ?_ ?_).append ?_).append (parkedFindings_waits plain waits parked)
  · rw [standing_light]
    · exact List.nil_sublist _
    · intro finding member
      obtain ⟨row, _, rfl⟩ := List.mem_map.mp member
      exact .inr (drift_severity plain _ _)
  · exact standing_flatMap fun paymentId => reconcileId_waits plain waits paymentId _ _
  · unfold reconcileSettlement
    simp only [standing_append]
    exact (List.Sublist.refl _).append (standing_flatMap fun entry => unsettled_waits waits _ _ _ _)

end Reports

section Blocked
variable {now : T}

theorem blocked_iff (floatText : T → Str) (report : ExceptionReport T)
    (sealed_ : ∀ glass, policy.breakGlass = some glass → glass.expiresAt ≤ now) :
    (gate floatText report policy now).outboundBlocked = true ↔ effective report policy ≠ [] := by
  have whole (ids : List Str) : suppress policy.breakGlass now ids = (none, ids) := by
    unfold suppress
    split
    next glass held => exact if_neg fun live => (sealed_ glass held).not_gt live.1
    next => rfl
  unfold gate
  dsimp only
  rw [whole, Bool.and_eq_true, decide_eq_true_eq, decide_eq_true_eq, ne_eq, List.length_eq_zero_iff]
  exact and_iff_left_of_imp fun some_ => scopedIds_ne_nil policy.scope some_

theorem effective_of_blocked (floatText : T → Str) (report : ExceptionReport T)
    (blocked : (gate floatText report policy now).outboundBlocked = true) : effective report policy ≠ [] := by
  unfold gate at blocked
  dsimp only at blocked
  rw [Bool.and_eq_true, decide_eq_true_eq] at blocked
  exact fun none => blocked.1 (by rw [none]; rfl)

end Blocked

/-- Waiting never opens the gate. While the records stay as they are, each finding that
weighs on it is in every later report but for its age and its text, and once it blocks it
blocks at every later time at which no break glass is live. -/
theorem waiting_never_opens (rt : Runtime T R) (policy : GatePolicy T) (plain : policy.severityOverrides = [])
    (local_ : List PaymentState) (remote : List (RemotePayment T)) (settlement : List SettlementRow) (parked : List (Str × T))
    (counters counters' : List (Str × Int)) (now later : T) (waits : ∀ moment, now - moment ≤ later - moment)
    (before after : ExceptionReport T)
    (first : tryReconcile rt policy local_ remote settlement parked now counters = .ok before)
    (second : tryReconcile rt policy local_ remote settlement parked later counters' = .ok after) (floatText : T → Str) :
    (standing before.findings).Subperm (standing after.findings) ∧
      ∀ earlier decision, tryGate policy before floatText now = .ok earlier → tryGate policy after floatText later = .ok decision →
        earlier.outboundBlocked = true → (∀ glass, policy.breakGlass = some glass → glass.expiresAt ≤ later) →
          decision.outboundBlocked = true := by
  obtain ⟨_, rfl⟩ := tryReconcile_ok.mp first
  obtain ⟨_, rfl⟩ := tryReconcile_ok.mp second
  have stands := reconcile_waits rt.binary64 plain waits local_ remote settlement parked counters counters'
  refine ⟨stands, fun earlier decision decided decided' blocked sealed_ => ?_⟩
  obtain ⟨_, rfl⟩ := (tryGate_ok ..).mp decided
  obtain ⟨_, rfl⟩ := (tryGate_ok ..).mp decided'
  exact (blocked_iff floatText _ sealed_).mpr (effective_stands policy stands (effective_of_blocked floatText _ blocked))

/-- Here one break is material. -/
def strictGate : GatePolicy Int := { standardGate with materialityCount := 1 }

/-- The captured payment for which no settlement row came, reported on at a time. -/
def overdueReport (now : Int) : ExceptionReport Int :=
  reconcile (.binary64 (.recorded [] [])) strictGate [capturedState] [capturedRow] [] [] now []

theorem overdueReport_returned (now : Int) :
    tryReconcile (.recorded [] []) strictGate [capturedState] [capturedRow] [] [] now [] = .ok (overdueReport now) := by
  refine tryReconcile_ok.mpr ⟨⟨fun state record paired _ _ => ?_, fun row member => absurd member List.not_mem_nil,
    fun state record paired _ _ _ => ?_⟩, rfl⟩
  · obtain ⟨rfl, rfl⟩ := paired_captured paired
    exact writable_small (by decide)
  · obtain ⟨rfl, rfl⟩ := paired_captured paired
    exact writable_small (by decide)

/-- Once its SLA is past the payment blocks, and a week later it still does. -/
theorem waiting_never_opens_overdue : ∃ earlier decision,
    tryGate strictGate (overdueReport 259201) Str.ofInt 259201 = .ok earlier ∧ earlier.outboundBlocked = true ∧
      tryGate strictGate (overdueReport 864001) Str.ofInt 864001 = .ok decision ∧ decision.outboundBlocked = true := by
  have waits (moment : Int) : 259201 - moment ≤ 864001 - moment := by omega
  have unbroken (glass : BreakGlass Int) (held : strictGate.breakGlass = some glass) : glass.expiresAt ≤ 864001 := by cases held
  have decides (now : Int) (written : writeRationale strictGate (overdueReport now) now = .ok ()) :
      tryGate strictGate (overdueReport now) Str.ofInt now = .ok (gate Str.ofInt (overdueReport now) strictGate now) :=
    (tryGate_ok ..).mpr ⟨(writeRationale_ok ..).mp written, rfl⟩
  have first := decides 259201 (by decide +kernel)
  have second := decides 864001 (by decide +kernel)
  have blocks : (gate Str.ofInt (overdueReport 259201) strictGate 259201).outboundBlocked = true := by decide +kernel
  refine ⟨_, _, first, blocks, second, ?_⟩
  exact (waiting_never_opens _ _ rfl _ _ _ _ _ _ _ _ waits _ _ (overdueReport_returned 259201) (overdueReport_returned 864001)
    Str.ofInt).2 _ _ first second blocks unbroken

end Quidz.Proofs
