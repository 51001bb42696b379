import Quidz.Limits
import Quidz.Proofs.Transitions

/-! What the gate blocks. An effective finding is held by the id it is blocked
under; findings that lack the scope's key are left out as soon as one has it. -/

namespace Quidz.Proofs

variable {T : Type}

section Writing

theorem formatInt_bind {α : Type} {n : Int} {next : Except Exc α} {value : α} :
    (formatInt n >>= fun _ => next) = .ok value ↔ Writable n ∧ next = .ok value := by
  rw [bind_ok, formatInt]
  split
  next writable => simp [writable]
  next long => simp [long]

theorem bind_unit_ok {α : Type} {first : Except Exc Unit} {next : Except Exc α} {value : α} :
    (first >>= fun _ => next) = .ok value ↔ first = .ok () ∧ next = .ok value := by
  rw [bind_ok]
  exact ⟨fun ⟨_, here, rest⟩ => ⟨here, rest⟩, fun ⟨here, rest⟩ => ⟨(), here, rest⟩⟩

theorem forM_ok {α : Type} {items : List α} {act : α → Except Exc Unit} :
    items.forM act = .ok () ↔ ∀ item ∈ items, act item = .ok () := by
  induction items with
  | nil => exact iff_of_true rfl nofun
  | cons item items ih =>
    rw [List.forall_mem_cons, ← ih]
    change (act item >>= fun _ => items.forM act) = _ ↔ _
    exact bind_unit_ok

end Writing

theorem mem_sortedSet {ids : List Str} {id : Str} : id ∈ sortedSet ids ↔ id ∈ ids := by
  rw [sortedSet, List.mem_insertionSort, List.mem_dedup]

theorem sortedSet_eq_nil {ids : List Str} : sortedSet ids = [] ↔ ids = [] := by
  simp only [List.eq_nil_iff_forall_not_mem, mem_sortedSet]

/-- The effective findings include one with the scope's key. -/
def Keyed (scope : Scope) (findings : List (Finding T)) : Prop := ∃ finding ∈ findings, (finding.scopeKey scope).isSome

def Referenced (findings : List (Finding T)) : Prop := ∃ finding ∈ findings, (present finding.providerRef).isSome

instance (scope : Scope) (findings : List (Finding T)) : Decidable (Keyed scope findings) :=
  inferInstanceAs (Decidable (∃ finding ∈ findings, _))

instance (findings : List (Finding T)) : Decidable (Referenced findings) :=
  inferInstanceAs (Decidable (∃ finding ∈ findings, _))

/-- The ids that cover one of the findings: its key, or its reference where it lacks the key. All
of them at once are covered by the batch, and where none has either. -/
def coveringIds (scope : Scope) (findings : List (Finding T)) (finding : Finding T) : List Str :=
  if scope = .batch ∨ ¬Keyed scope findings ∧ ¬Referenced findings then [str "*"]
  else ((finding.scopeKey scope).orElse fun _ => present finding.providerRef).toList

private theorem collected_eq_nil {findings : List (Finding T)} {key : Finding T → Option Str} :
    sortedSet (findings.filterMap key) = [] ↔ ¬∃ finding ∈ findings, (key finding).isSome := by
  simp [sortedSet_eq_nil, List.filterMap_eq_nil_iff]

private theorem mem_collected {findings : List (Finding T)} {key : Finding T → Option Str} {id : Str} :
    id ∈ sortedSet (findings.filterMap key) ↔ ∃ finding ∈ findings, key finding = some id := by
  rw [mem_sortedSet, List.mem_filterMap]

/-- Where an id before any break glass comes from. The references come in only
where no finding has the scope's key, and the batch only where none has either. -/
inductive Source (scope : Scope) (findings : List (Finding T)) (id : Str) : Prop where
  | batch (all : scope = .batch) (whole : id = str "*")
  | keyed {finding} (member : finding ∈ findings) (key : finding.scopeKey scope = some id)
  | referenced {finding} (finer : scope ≠ .batch) (unkeyed : ¬Keyed scope findings) (member : finding ∈ findings)
      (reference : present finding.providerRef = some id)
  | unreferenced (finer : scope ≠ .batch) (unkeyed : ¬Keyed scope findings) (unreferenced : ¬Referenced findings)
      (whole : id = str "*")

private theorem source_of_scope {scope : Scope} (finer : scope ≠ .batch) {findings : List (Finding T)} {id : Str} :
    id ∈ scopedIds scope findings ↔ findings ≠ [] ∧ Source scope findings id := by
  have unfolded : scopedIds scope findings =
      if findings ≠ [] ∧ sortedSet (findings.filterMap fun finding => finding.scopeKey scope) = [] then
        if sortedSet (findings.filterMap fun finding => present finding.providerRef) = [] then [str "*"]
        else sortedSet (findings.filterMap fun finding => present finding.providerRef)
      else sortedSet (findings.filterMap fun finding => finding.scopeKey scope) := by
    cases scope with
    | batch => exact absurd rfl finer
    | payment => rfl
    | currency => rfl
  rw [unfolded]
  by_cases empty : findings = []
  · simp [empty, sortedSet]
  by_cases unkeyed : ∃ finding ∈ findings, (finding.scopeKey scope).isSome
  · rw [if_neg fun both => collected_eq_nil.mp both.2 unkeyed, mem_collected]
    constructor
    · intro ⟨finding, member, key⟩
      exact ⟨empty, .keyed member key⟩
    · intro ⟨_, source⟩
      cases source with
      | batch is => exact absurd is finer
      | keyed member key => exact ⟨_, member, key⟩
      | referenced _ none => exact absurd unkeyed none
      | unreferenced _ none => exact absurd unkeyed none
  rw [if_pos ⟨empty, collected_eq_nil.mpr unkeyed⟩]
  have noKey {finding : Finding T} (member : finding ∈ findings) : finding.scopeKey scope ≠ some id := fun key =>
    unkeyed ⟨finding, member, by simp [key]⟩
  by_cases unreferenced : ∃ finding ∈ findings, (present finding.providerRef).isSome
  · rw [if_neg fun none => collected_eq_nil.mp none unreferenced, mem_collected]
    constructor
    · intro ⟨finding, member, reference⟩
      exact ⟨empty, .referenced finer unkeyed member reference⟩
    · intro ⟨_, source⟩
      cases source with
      | batch is => exact absurd is finer
      | keyed member key => exact absurd key (noKey member)
      | referenced _ _ member reference => exact ⟨_, member, reference⟩
      | unreferenced _ _ none => exact absurd unreferenced none
  · rw [if_pos (collected_eq_nil.mpr unreferenced), List.mem_singleton]
    constructor
    · intro whole
      exact ⟨empty, .unreferenced finer unkeyed unreferenced whole⟩
    · intro ⟨_, source⟩
      cases source with
      | batch is => exact absurd is finer
      | keyed member key => exact absurd key (noKey member)
      | referenced _ _ member reference => exact absurd ⟨_, member, by simp [reference]⟩ unreferenced
      | unreferenced _ _ _ whole => exact whole

theorem mem_scopedIds {scope : Scope} {findings : List (Finding T)} {id : Str} :
    id ∈ scopedIds scope findings ↔ findings ≠ [] ∧ Source scope findings id := by
  by_cases finer : scope = .batch
  · subst finer
    by_cases empty : findings = []
    · simp [scopedIds, empty]
    · have ids : scopedIds .batch findings = [str "*"] := by simp [scopedIds, empty]
      rw [ids, List.mem_singleton]
      constructor
      · exact fun whole => ⟨empty, .batch rfl whole⟩
      · intro ⟨_, source⟩
        cases source with
        | batch _ whole => exact whole
        | keyed _ key => cases key
        | referenced finer => exact absurd rfl finer
        | unreferenced finer => exact absurd rfl finer
  · exact source_of_scope finer

section Gate

variable [Seconds T]

/-- The break glass is live and lists the id. -/
def Opened (policy : GatePolicy T) (now : T) (id : Str) : Prop :=
  ∃ live, policy.breakGlass = some live ∧ now < live.expiresAt ∧ id ∈ live.scopeIds

/-- The break glass opens an id that covers the finding. -/
def Named (policy : GatePolicy T) (now : T) (findings : List (Finding T)) (finding : Finding T) : Prop :=
  ∃ id ∈ coveringIds policy.scope findings finding, Opened policy now id

theorem mem_suppress {glass : Option (BreakGlass T)} {now : T} {ids : List Str} {id : Str} :
    id ∈ (suppress glass now ids).2 ↔
      id ∈ ids ∧ ¬∃ live, glass = some live ∧ now < live.expiresAt ∧ id ∈ live.scopeIds := by
  cases glass with
  | none => simp [suppress]
  | some live =>
    have kept : id ∈ ids.filter (fun id => id ∉ live.scopeIds) ↔ id ∈ ids ∧ id ∉ live.scopeIds := by simp
    simp only [suppress, Option.some.injEq, exists_eq_left', not_and]
    split
    next fresh =>
      split
      next => simp [fresh.1]
      next same =>
        rw [ne_eq, not_not] at same
        rw [same] at kept
        simp only [fresh.1, true_implies]
        exact kept
    next stale =>
      constructor
      · intro inside
        exact ⟨inside, fun fresh => absurd ⟨fresh, List.ne_nil_of_mem inside⟩ stale⟩
      · exact And.left

/-- The finding has an id it is blocked under, whatever a break glass then does. -/
inductive Answerable (scope : Scope) (findings : List (Finding T)) (finding : Finding T) : Prop where
  | batch (all : scope = .batch)
  | keyed (key : (finding.scopeKey scope).isSome)
  | referenced (unkeyed : ¬Keyed scope findings) (reference : (present finding.providerRef).isSome)
  | unreferenced (unkeyed : ¬Keyed scope findings) (unreferenced : ¬Referenced findings)
  /-- Another finding's key or reference happens to be an id of this one. -/
  | borrowed {other id} (finer : scope ≠ .batch) (member : other ∈ findings) (mine : id ∈ coveringIds scope findings finding)
      (theirs : other.scopeKey scope = some id ∨ ¬Keyed scope findings ∧ present other.providerRef = some id)

omit [Seconds T] in
/-- A finding with a key or a reference is covered by that. -/
private theorem covering_own {scope : Scope} {findings : List (Finding T)} {finding : Finding T} {id : Str} (finer : scope ≠ .batch)
    (some_ : Keyed scope findings ∨ Referenced findings)
    (own : ((finding.scopeKey scope).orElse fun _ => present finding.providerRef) = some id) :
    id ∈ coveringIds scope findings finding := by
  have several : ¬(scope = .batch ∨ ¬Keyed scope findings ∧ ¬Referenced findings) := by tauto
  rw [coveringIds, if_neg several, own]
  exact List.mem_singleton.mpr rfl

omit [Seconds T] in
theorem answerable_iff {scope : Scope} {findings : List (Finding T)} {finding : Finding T} (member : finding ∈ findings) :
    Answerable scope findings finding ↔ ∃ id ∈ coveringIds scope findings finding, id ∈ scopedIds scope findings := by
  have nonempty : findings ≠ [] := List.ne_nil_of_mem member
  simp only [mem_scopedIds, nonempty, ne_eq, not_false_eq_true, true_and]
  constructor
  · intro answerable
    by_cases finer : scope = .batch
    · exact ⟨str "*", by simp [coveringIds, finer], .batch finer rfl⟩
    cases answerable with
    | batch all => exact absurd all finer
    | keyed key =>
      have keyed : Keyed scope findings := ⟨finding, member, key⟩
      obtain ⟨id, key⟩ := Option.isSome_iff_exists.mp key
      exact ⟨id, covering_own finer (.inl keyed) (by simp [key]), .keyed member key⟩
    | referenced unkeyed reference =>
      have referenced : Referenced findings := ⟨finding, member, reference⟩
      obtain ⟨id, reference⟩ := Option.isSome_iff_exists.mp reference
      have keyless : finding.scopeKey scope = none := by
        apply Option.not_isSome_iff_eq_none.mp
        exact fun key => unkeyed ⟨finding, member, key⟩
      exact ⟨id, covering_own finer (.inr referenced) (by simp [keyless, reference]), .referenced finer unkeyed member reference⟩
    | unreferenced unkeyed unreferenced =>
      refine ⟨str "*", ?_, .unreferenced finer unkeyed unreferenced rfl⟩
      rw [coveringIds, if_pos (.inr ⟨unkeyed, unreferenced⟩)]
      exact List.mem_singleton.mpr rfl
    | borrowed _ holds mine theirs =>
      rcases theirs with key | ⟨unkeyed, reference⟩
      · exact ⟨_, mine, .keyed holds key⟩
      · exact ⟨_, mine, .referenced finer unkeyed holds reference⟩
  · intro ⟨id, mine, source⟩
    cases source with
    | batch all whole => exact .batch all
    | keyed held key =>
      have finer : scope ≠ .batch := by
        rintro rfl
        cases key
      exact .borrowed finer held mine (.inl key)
    | referenced finer unkeyed held reference => exact .borrowed finer held mine (.inr ⟨unkeyed, reference⟩)
    | unreferenced finer unkeyed unreferenced whole => exact .unreferenced unkeyed unreferenced

variable (floatText : T → Str) (report : ExceptionReport T) (policy : GatePolicy T) (now : T)

theorem gate_blockedIds (id : Str) : id ∈ (gate floatText report policy now).blockedIds ↔
    id ∈ scopedIds policy.scope (effective report policy) ∧ ¬Opened policy now id := mem_suppress

section Rationale

/-- The integers of the rationale have at most 4300 digits each: the thresholds where only
breaks below them are reported, the exposures where an id is left blocked. -/
structure Phrased (report : ExceptionReport T) (policy : GatePolicy T) (now : T) : Prop where
  thresholds : effective report policy = [] → breaks report ≠ [] →
    Writable policy.materialityCount ∧ Writable policy.materialityValueMinor
  exposures : (∃ id ∈ scopedIds policy.scope (effective report policy), ¬Opened policy now id) →
    ∀ entry ∈ exposureByCurrency (breaks report), Writable entry.2

theorem writeRationale_ok : writeRationale policy report now = .ok () ↔ Phrased report policy now := by
  have left : (suppress policy.breakGlass now (scopedIds policy.scope (effective report policy))).2 ≠ [] ↔
      ∃ id ∈ scopedIds policy.scope (effective report policy), ¬Opened policy now id := by
    constructor
    · intro some_
      obtain ⟨id, member⟩ := List.exists_mem_of_ne_nil _ some_
      exact ⟨id, mem_suppress.mp member⟩
    · rintro ⟨id, blocked⟩
      exact List.ne_nil_of_mem (mem_suppress.mpr blocked)
  unfold writeRationale
  dsimp only
  split
  next none_ =>
    have none_ := List.length_eq_zero_iff.mp none_
    have ids : scopedIds policy.scope (effective report policy) = [] := by
      rw [none_]
      cases policy.scope <;> rfl
    have closed : ¬∃ id ∈ scopedIds policy.scope (effective report policy), ¬Opened policy now id := by simp [ids]
    split
    next some_ =>
      have some_ : breaks report ≠ [] := fun none => some_ (List.length_eq_zero_iff.mpr none)
      simp only [formatInt_bind, pure_eq_ok, and_true]
      exact ⟨fun fit => ⟨fun _ _ => fit, fun open_ => absurd open_ closed⟩, fun phrased => phrased.thresholds none_ some_⟩
    next few =>
      rw [ne_eq, not_not] at few
      exact iff_of_true rfl ⟨fun _ some_ => absurd (List.length_eq_zero_iff.mp few) some_, fun open_ => absurd open_ closed⟩
  next some_ =>
    have some_ : effective report policy ≠ [] := fun none => some_ (List.length_eq_zero_iff.mpr none)
    split
    next blocked =>
      rw [forM_ok]
      simp only [formatInt_bind, pure_eq_ok, and_true]
      exact ⟨fun fit => ⟨fun none => absurd none some_, fun _ => fit⟩, fun phrased => phrased.exposures (left.mp blocked)⟩
    next unblocked => exact iff_of_true rfl ⟨fun none => absurd none some_, fun open_ => absurd (left.mpr open_) unblocked⟩

theorem tryGate_ok {decision : GateDecision T} : tryGate policy report floatText now = .ok decision ↔
    Phrased report policy now ∧ gate floatText report policy now = decision := by
  unfold tryGate
  rw [bind_unit_ok, writeRationale_ok, pure_eq_ok, Except.ok.injEq]

end Rationale

/-- What a decision owes the findings it is about. -/
structure FailsClosed (policy : GatePolicy T) (now : T) (findings : List (Finding T)) (decision : GateDecision T) : Prop where
  covered : ∀ finding ∈ findings, (∃ id ∈ coveringIds policy.scope findings finding, id ∈ decision.blockedIds) ∨
    Named policy now findings finding
  sourced : ∀ id ∈ decision.blockedIds, id = str "*" ∨
    ∃ finding ∈ findings, finding.scopeKey policy.scope = some id ∨ present finding.providerRef = some id
  opened : decision.outboundBlocked = false → ∀ finding ∈ findings, Named policy now findings finding

/-- The gate decides, holds every effective finding and opens for no more than a live break glass
names, exactly if its rationale can be written and each finding is answerable or named. -/
theorem gate_holds_iff (floatText : T → Str) (report : ExceptionReport T) (policy : GatePolicy T) (now : T) :
    (∃ decision, tryGate policy report floatText now = .ok decision ∧ FailsClosed policy now (effective report policy) decision) ↔
      Phrased report policy now ∧ ∀ finding ∈ effective report policy,
        Answerable policy.scope (effective report policy) finding ∨ Named policy now (effective report policy) finding := by
  simp only [tryGate_ok, and_assoc, exists_and_left, exists_eq_left']
  refine and_congr_right fun _ => ?_
  generalize listed : effective report policy = findings
  have held {finding : Finding T} (member : finding ∈ findings) :
      (∃ id ∈ coveringIds policy.scope findings finding, id ∈ (gate floatText report policy now).blockedIds) ∨
          Named policy now findings finding ↔
        Answerable policy.scope findings finding ∨ Named policy now findings finding := by
    simp only [gate_blockedIds, listed]
    rw [answerable_iff member]
    constructor
    · rintro (⟨id, mine, blocked⟩ | named)
      · exact .inl ⟨id, mine, blocked.1⟩
      · exact .inr named
    · rintro (⟨id, mine, listed⟩ | named)
      · by_cases opened : Opened policy now id
        · exact .inr ⟨id, mine, opened⟩
        · exact .inl ⟨id, mine, listed, opened⟩
      · exact .inr named
  constructor
  · exact fun closed finding member => (held member).mp (closed.covered finding member)
  · intro answered
    have covered (finding : Finding T) (member : finding ∈ findings) := (held member).mpr (answered finding member)
    refine ⟨covered, fun id blocked => ?_, fun opened finding member => ?_⟩
    · rw [gate_blockedIds, listed] at blocked
      obtain ⟨_, source⟩ := mem_scopedIds.mp blocked.1
      cases source with
      | batch _ whole => exact .inl whole
      | keyed member key => exact .inr ⟨_, member, .inl key⟩
      | referenced _ _ member reference => exact .inr ⟨_, member, .inr reference⟩
      | unreferenced _ _ _ whole => exact .inl whole
    · rcases covered finding member with ⟨id, _, blocked⟩ | named
      · have both : (gate floatText report policy now).outboundBlocked =
            (decide ((effective report policy).length ≠ 0) && decide ((gate floatText report policy now).blockedIds ≠ [])) := rfl
        have shut : (gate floatText report policy now).outboundBlocked = true := by
          simp [both, listed, List.ne_nil_of_mem member, List.ne_nil_of_mem blocked]
        rw [shut] at opened
        cases opened
      · exact named

end Gate

/-- A payment the ledger does not know, and five deliveries parked past their limit,
which carry no currency. -/
def strandedReport : ExceptionReport Int where
  generatedAt := 1000000
  findings :=
    { kind := .missingLocally, severity := .critical, paymentId := some (str "pay_1"), currency := some (str "EUR"),
      deltaMinor := some 1000, detail := str "captured at the provider" } ::
    (List.range 5).map fun n =>
      { kind := .parkedStale, severity := .break_, paymentId := some (str "parked_" ++ Str.ofNat n),
        ageSeconds := some 1000, detail := str "parked" }
  countsBySeverity := [(.critical, 1), (.break_, 5)]
  counters := []

/-- A glass that names the one currency the ledger is out by. -/
def strandedPolicy : GatePolicy Int where
  inFlightGraceSeconds := 3600
  settlementSlaSeconds := 259200
  parkMaxAgeSeconds := 900
  scope := .currency
  breakGlass := some ⟨str "ops-lead", str "known provider backfill", 1003600, [str "EUR"]⟩

/-- Outbound is open, and five breaks that were to block it are named by no one. -/
theorem stranded_opens : ∃ decision, tryGate strandedPolicy strandedReport Str.ofInt 1000000 = .ok decision ∧
    decision.outboundBlocked = false ∧ decision.blockedIds = [] ∧
    ∃ finding ∈ effective strandedReport strandedPolicy,
      finding.kind = .parkedStale ∧ ¬Named strandedPolicy 1000000 (effective strandedReport strandedPolicy) finding := by
  have quiet : writeRationale strandedPolicy strandedReport 1000000 = .ok () := by decide +kernel
  have decided : tryGate strandedPolicy strandedReport Str.ofInt 1000000 =
      .ok (gate Str.ofInt strandedReport strandedPolicy 1000000) := by rw [tryGate, quiet]; rfl
  refine ⟨_, decided, by decide +kernel, by decide +kernel, ?_⟩
  have listed : ((effective strandedReport strandedPolicy).find? fun finding =>
      finding.kind = .parkedStale ∧ coveringIds .currency (effective strandedReport strandedPolicy) finding = []).isSome := by
    decide +kernel
  obtain ⟨finding, found⟩ := Option.isSome_iff_exists.mp listed
  have holds := List.find?_some found
  simp only [decide_eq_true_eq] at holds
  refine ⟨finding, List.mem_of_find?_eq_some found, holds.1, ?_⟩
  rintro ⟨id, mine, _⟩
  change id ∈ coveringIds .currency _ finding at mine
  rw [holds.2] at mine
  cases mine

end Quidz.Proofs
