import Quidz.Proofs.Book
import Quidz.Proofs.Notifications

/-! Where the rows of the store come from, whoever writes them. Each transaction stores what
came in under the id it came in under, decodes what is stored, and enters at most one effect
in the book. -/

namespace Quidz.Proofs

open Library (Path Table)

variable {T R : Type}

/-- Which bodies may be stored under which ids. The provider is part of an id. -/
structure Sources where
  arrived : Str → Provider → Bytes → Prop
  named : ∀ {id provider raw}, arrived id provider raw → ∃ name, id = deliveryId provider name

theorem deliveryId_provider {first second : Provider} {name other : Str}
    (same : deliveryId first name = deliveryId second other) : first = second := by
  have start := congrArg List.head? same
  cases first <;> cases second
  all_goals first | rfl | exact absurd start (by simp [deliveryId, Provider.value, str]; decide)

/-- The rows of the first table are all in the second, as they were received. -/
def Stays (before after : Db T) : Prop :=
  ∀ row ∈ before.deliveries.rows, ∃ later ∈ after.deliveries.rows,
    later.deliveryId = row.deliveryId ∧ later.provider = row.provider ∧ later.receivedAt = row.receivedAt

/-- Deliveries stay, and effects are only ever entered behind the others. -/
structure Evolves (before after : Db T) : Prop where
  stays : Stays before after
  entered : ∃ entries : List (Str × CanonicalEvent T),
    Path Book.Enters (view before) (entries.map Prod.snd) (view after) ∧
    after.effects.rows = before.effects.rows ++ entries.map fun entry => effectRow entry.1 entry.2

variable {db after : Db T}

namespace Evolves

theorem refl (db : Db T) : Evolves db db := ⟨fun row member => ⟨row, member, rfl, rfl, rfl⟩, [], .nil, by simp⟩

theorem trans {first second third : Db T} (here : Evolves first second) (further : Evolves second third) :
    Evolves first third := by
  obtain ⟨entries, path, rows⟩ := here.entered
  obtain ⟨entries', path', rows'⟩ := further.entered
  refine ⟨fun row member => ?_, entries ++ entries', ?_, ?_⟩
  · obtain ⟨middle, inside, id, provider, received⟩ := here.stays row member
    obtain ⟨last, found, id', provider', received'⟩ := further.stays middle inside
    exact ⟨last, found, id'.trans id, provider'.trans provider, received'.trans received⟩
  · rw [List.map_append]
    exact path.trans path'
  · rw [rows', rows, List.append_assoc, List.map_append]

theorem known (evolves : Evolves db after) {id : Str} (known : Known db id) : Known after id := by
  obtain ⟨row, member, rfl⟩ := known
  obtain ⟨later, inside, same, _⟩ := evolves.stays row member
  exact ⟨later, inside, same⟩

/-- The ledger is left alone. -/
theorem quiet (stays : Stays db after) (effects : after.effects = db.effects) (payments : after.payments = db.payments) :
    Evolves db after := ⟨stays, [], view_congr effects payments ▸ .nil, by simp [effects]⟩

end Evolves

section Changes
variable {id : Str} {change : Delivery T → Delivery T} {keeps}

/-- The row is written to, and still says where it came from and when. -/
theorem Stays.changed (deliveries : after.deliveries = db.deliveries.modify id change keeps)
    (provider : ∀ row, (change row).provider = row.provider) (receivedAt : ∀ row, (change row).receivedAt = row.receivedAt) :
    Stays db after := by
  intro row member
  rw [deliveries]
  by_cases selected : row.deliveryId = id
  · exact ⟨change row, Table.mem_modify.mpr (.inl ⟨row, member, selected, rfl⟩), keeps row, provider row, receivedAt row⟩
  · exact ⟨row, Table.mem_modify.mpr (.inr ⟨member, selected⟩), rfl, rfl, rfl⟩

theorem Stays.inserted {fresh : Delivery T} (inserted : db.deliveries.insert? fresh = some after.deliveries) : Stays db after := by
  intro row member
  rw [(Table.insert?_eq_some.mp inserted).2]
  exact ⟨row, List.mem_append_left _ member, rfl, rfl, rfl⟩

end Changes

variable [Seconds T] (rt : Runtime T R) (sources : Sources)

structure Sourced (db : Db T) : Prop where
  deliveries : ∀ row ∈ db.deliveries.rows, sources.arrived row.deliveryId row.provider row.raw
  effects : ∀ effect ∈ db.effects.rows, ∃ provider raw event, sources.arrived effect.deliveryId provider raw ∧
    decode rt provider raw = .ok event ∧ effect = effectRow effect.deliveryId event
  owned : ∀ effect ∈ db.effects.rows, Known db effect.deliveryId
  counted : db.counter (.metric .applied) = db.effects.rows.length

variable {rt sources}

theorem Sourced.empty : Sourced rt sources (Db.empty : Db T) := ⟨nofun, nofun, nofun, rfl⟩

/-- The inbox is written to, and the ledger is left alone. -/
theorem Sourced.quiet (sourced : Sourced rt sources db) (stays : Stays db after)
    (deliveries : ∀ row ∈ after.deliveries.rows, sources.arrived row.deliveryId row.provider row.raw)
    (effects : after.effects = db.effects) (payments : after.payments = db.payments)
    (counter : after.counter (.metric .applied) = db.counter (.metric .applied)) :
    Sourced rt sources after ∧ Evolves db after := by
  have evolves := Evolves.quiet stays effects payments
  refine ⟨⟨deliveries, effects ▸ sourced.effects, fun effect member => ?_, ?_⟩, evolves⟩
  · exact evolves.known (sourced.owned effect (effects ▸ member))
  · rw [counter, effects, sourced.counted]

theorem Sourced.bumped (sourced : Sourced rt sources db) {name : Metric} (other : name ≠ .applied) :
    Sourced rt sources (db.bump name) ∧ Evolves db (db.bump name) :=
  sourced.quiet (Evolves.refl db).stays sourced.deliveries rfl rfl (by simp [other.symm])

section Rows
variable {id : Str} {change : Delivery T → Delivery T} {keeps}

theorem Sourced.marked (sourced : Sourced rt sources db) (deliveries : after.deliveries = db.deliveries.modify id change keeps)
    (provider : ∀ row, (change row).provider = row.provider) (raw : ∀ row, (change row).raw = row.raw) :
    ∀ row ∈ after.deliveries.rows, sources.arrived row.deliveryId row.provider row.raw := by
  intro row member
  rw [deliveries] at member
  rcases Table.mem_modify.mp member with ⟨old, inside, _, rfl⟩ | ⟨inside, _⟩
  · rw [keeps old, provider old, raw old]
    exact sourced.deliveries old inside
  · exact sourced.deliveries row inside

end Rows

section Claims
variable {fresh : Delivery T} {now : T} {answer : Except Exc ClaimResult}

theorem Sourced.claimed (sourced : Sourced rt sources db) (arrived : sources.arrived fresh.deliveryId fresh.provider fresh.raw)
    (claimed : Claimed db fresh now answer after) : Sourced rt sources after ∧ Evolves db after := by
  cases claimed with
  | new bound inserted =>
    refine sourced.quiet (.inserted inserted) (fun row member => ?_) rfl rfl rfl
    rw [(Table.insert?_eq_some.mp inserted).2] at member
    rcases List.mem_append.mp member with inside | new
    · exact sourced.deliveries row inside
    · rw [List.mem_singleton.mp new]
      exact arrived
  | reclaimed found held expired =>
    refine sourced.quiet (.changed (Db.updateDelivery_deliveries _ _ _ _) (fun _ => rfl) fun _ => rfl) ?_ rfl rfl rfl
    intro row member
    rw [Db.updateDelivery_deliveries] at member
    rcases Table.mem_modify.mp member with ⟨old, inside, selected, rfl⟩ | ⟨inside, _⟩
    · -- The id under which the new bytes came in tells the provider of the stored row.
      obtain ⟨_, stored⟩ := sources.named (sourced.deliveries old inside)
      obtain ⟨_, named⟩ := sources.named arrived
      have provider : old.provider = fresh.provider := deliveryId_provider (stored.symm.trans (selected.trans named))
      change sources.arrived old.deliveryId old.provider fresh.raw
      rw [selected, provider]
      exact arrived
    · exact sourced.deliveries row inside
  | _ => exact ⟨sourced, .refl _⟩

/-- Whatever a claim answers, the delivery is in the inbox. -/
theorem Claimed.answered {result : ClaimResult} (claimed : Claimed db fresh now (.ok result) after) :
    Known after fresh.deliveryId := by
  have located {row : Delivery T} (found : db.deliveries.find? fresh.deliveryId = some row) : Known db fresh.deliveryId :=
    known_find?.mpr (by rw [found]; rfl)
  cases claimed with
  | new bound inserted => exact known_find?.mpr (by simp [Table.find?_insert inserted])
  | duplicate found | inProgress found => exact located found
  | reclaimed found => exact known_find?.mpr (by simp [found])

end Claims

section Passes
variable {policy : RetryPolicy T} {now : T} {row : Selected}

theorem Sourced.attempted (sourced : Sourced rt sources db) (arrived : sources.arrived row.deliveryId row.provider row.raw)
    {fault : Option Exc} {result : Except Exc DrainReport} (answered : Attempted rt policy now fault row db result after) :
    Sourced rt sources after ∧ Evolves db after := by
  cases answered with
  | @delivered event outcome reached sound decoded delivered =>
    have deliveries := settle_deliveries policy now row.deliveryId row.state outcome reached
    have effects := settle_effects policy now row.deliveryId row.state outcome reached
    have payments := settle_payments policy now row.deliveryId row.state outcome reached
    have counter := settle_counter policy now row.deliveryId row.state outcome reached .applied (by decide)
    rw [delivered.deliveries] at deliveries
    rw [delivered.counter] at counter
    have stays : Stays db (settle policy row.deliveryId row.state outcome now reached).2 :=
      .changed deliveries (fun stored => by cases outcome <;> rfl) fun stored => by cases outcome <;> rfl
    have marked := sourced.marked deliveries (fun stored => by cases outcome <;> rfl) fun stored => by cases outcome <;> rfl
    by_cases applies : outcome = .applied
    · subst applies
      have extended := delivered.extended
      have rows := (Table.insert?_eq_some.mp extended.inserted).2
      have evolves : Evolves db (settle policy row.deliveryId row.state .applied now reached).2 := by
        refine ⟨stays, [(row.deliveryId, event)], .cons ?_ .nil, ?_⟩
        · rw [view_congr effects payments]
          exact extended.enters
        · rw [effects, rows]
          rfl
      refine ⟨⟨marked, fun effect member => ?_, fun effect member => ?_, ?_⟩, evolves⟩
      · rw [effects, rows] at member
        rcases List.mem_append.mp member with before | new
        · exact sourced.effects effect before
        · obtain rfl := List.mem_singleton.mp new
          exact ⟨row.provider, row.raw, event, arrived, decoded, rfl⟩
      · rw [effects, rows] at member
        rcases List.mem_append.mp member with before | new
        · exact evolves.known (sourced.owned effect before)
        · obtain rfl := List.mem_singleton.mp new
          exact evolves.known (known_find?.mpr extended.known)
      · rw [counter, effects, rows, sourced.counted]
        simp
    · obtain rfl := delivered.unapplied applies
      refine sourced.quiet stays marked effects payments ?_
      cases outcome with
      | applied => exact absurd rfl applies
      | rejected => cases delivered
      | _ => simpa using counter
  | _ => exact ⟨sourced, .refl _⟩

theorem Sourced.handled {pass : Pass T R} (sourced : Sourced rt sources pass.db) (row : Selected) (exc : Exc) :
    Sourced rt sources (handle rt policy now row exc pass).db ∧ Evolves pass.db (handle rt policy now row exc pass).db := by
  have deliveries := handle_deliveries rt policy now row exc pass
  refine sourced.quiet (.changed deliveries (fun stored => ?_) fun stored => ?_)
    (sourced.marked deliveries (fun stored => ?_) fun stored => ?_) (handle_effects ..) (handle_payments ..)
    (by simp [handle_counter])
  all_goals cases retryDelay rt policy row exc pass.budgetUsed pass.rng <;> rfl

end Passes
end Quidz.Proofs
