import Quidz.Proofs.Parties
import Quidz.Proofs.StripeBinding

/-! The service under every schedule of its parties. What is stored came in with a request
that verified, what is in the ledger was decoded from that, each effect counts once, and
what was acknowledged is there to stay. -/

namespace Quidz.Proofs

open Library (Contract Path Pool Process Table Move)

variable {T R : Type} [Seconds T] (rt : Runtime T R)

/-- The delivery id that a body of the provider is stored under. -/
def Names (provider : Provider) (raw : Bytes) (id : Str) : Prop :=
  ∃ body name, payload rt raw = .ok body ∧ identity provider body = .ok name ∧ id = deliveryId provider name

def fleetContract (sources : Sources) : Contract (Db T) := ⟨Sourced rt sources, Evolves, .refl, .trans⟩

/-- The body may be stored under every id it names. -/
def Admits (sources : Sources) (provider : Provider) (raw : Bytes) : Prop :=
  ∀ id, Names rt provider raw id → sources.arrived id provider raw

/-- A result that is no exception has the delivery in the inbox. -/
def Filed (provider : Provider) (raw : Bytes) (answer : Except Exc ClaimResult) (db : Db T) : Prop :=
  ∀ result, answer = .ok result → ∃ id, Names rt provider raw id ∧ Known db id

section Receive
variable {rt} {sources : Sources} {db : Db T}

theorem bumping_ensures {α : Type} {post : α → Db T → Prop} {name : Metric} (other : name ≠ .applied)
    {next : Process (Db T) α} (further : ∀ now, Sourced rt sources now → Evolves db now →
      (fleetContract rt sources).Ensures post next now) : (fleetContract rt sources).Ensures post (bumping name next) db :=
  .call fun now sourced evolved => by
    obtain ⟨kept, moved⟩ := Sourced.bumped sourced other
    exact ⟨kept, moved, further _ kept (evolved.trans moved)⟩

theorem failed_ensures {provider : Provider} {raw : Bytes} (exc : Exc) :
    (fleetContract rt sources).Ensures (Filed rt provider raw) (.done (.error exc)) db :=
  fun _ _ _ _ answered => by cases answered

theorem claimProcess_ensures {provider : Provider} {body : Mapping} {raw : Bytes} (admits : Admits rt sources provider raw)
    (parsed : payload rt raw = .ok body) (headers : List (Str × Str)) (now leaseSeconds : T) :
    (fleetContract rt sources).Ensures (Filed rt provider raw)
      (claimProcess rt provider body raw headers now leaseSeconds) db := by
  unfold claimProcess
  split
  next exc _ => exact failed_ensures exc
  next name identified =>
    refine .call fun found sourced _ => ?_
    have names : Names rt provider raw (deliveryId provider name) := ⟨body, name, parsed, identified, rfl⟩
    have claimed := claimed_self rt provider name raw headers now leaseSeconds found
    obtain ⟨kept, evolves⟩ := sourced.claimed (admits _ names) claimed
    refine ⟨kept, evolves, ?_⟩
    generalize (claim rt provider name raw headers now leaseSeconds found).1 = answer at claimed
    generalize (claim rt provider name raw headers now leaseSeconds found).2 = after at claimed
    cases answer with
    | error exc => exact failed_ensures exc
    | ok result =>
      have known : Known after (deliveryId provider name) := claimed.answered
      have stored : ∀ now, Evolves after now → Filed rt provider raw (.ok result) now :=
        fun now evolved result _ => ⟨_, names, evolved.known known⟩
      dsimp only
      split
      next => exact bumping_ensures (by decide) fun now _ evolved final _ further => stored final (evolved.trans further)
      next => exact fun final _ further => stored final further

theorem receiveStripe_ensures {raw : Bytes} {headers : List (Str × Str)} {secrets : List Bytes}
    {received now leaseSeconds toleranceSeconds : T}
    (admits : ∀ t, verifyStripe rt raw headers secrets received toleranceSeconds = .ok t → Admits rt sources .stripe raw) :
    (fleetContract rt sources).Ensures (Filed rt .stripe raw)
      (receiveStripeProcess rt raw headers secrets received now leaseSeconds toleranceSeconds) db := by
  refine bumping_ensures (by decide) fun _ _ _ => ?_
  split
  next exc _ =>
    split
    next => exact bumping_ensures (by decide) fun _ _ _ => failed_ensures exc
    next =>
      split
      next => exact bumping_ensures (by decide) fun _ _ _ => failed_ensures exc
      next => exact failed_ensures exc
  next t verified =>
    split
    next exc _ => exact failed_ensures exc
    next body parsed => exact claimProcess_ensures (admits t verified) parsed headers now leaseSeconds

theorem receiveAdyen_ensures {raw : Bytes} {hmacKeyHex : Str} {now leaseSeconds : T}
    (admits : ∀ item, payload rt raw = .ok item → verifyAdyen rt item (adyenSignature rt item) hmacKeyHex = .ok () →
      Admits rt sources .adyen raw) :
    (fleetContract rt sources).Ensures (Filed rt .adyen raw) (receiveAdyenProcess rt raw hmacKeyHex now leaseSeconds) db := by
  refine bumping_ensures (by decide) fun _ _ _ => ?_
  split
  next exc _ => exact failed_ensures exc
  next item parsed =>
    split
    next exc _ =>
      split
      next => exact bumping_ensures (by decide) fun _ _ _ => failed_ensures exc
      next => exact failed_ensures exc
    next verified => exact claimProcess_ensures (admits item parsed verified) parsed [] now leaseSeconds

end Receive

section Drain
variable {rt} {sources : Sources} {db : Db T}

theorem drainRows_ensures {policy : RetryPolicy T} {now : T} {faults : Str → Option Exc} {rows : List Selected}
    (arrived : ∀ row ∈ rows, sources.arrived row.deliveryId row.provider row.raw) (used : Int) (rng : R)
    (report : DrainReport) : (fleetContract rt sources).Ensures (fun _ _ => True)
      (drainRowsProcess rt policy now faults rows used rng report) db := by
  induction rows generalizing used rng report db with
  | nil => exact fun _ _ _ => trivial
  | cons row rest ih =>
    obtain ⟨here, later⟩ := List.forall_mem_cons.mp arrived
    refine .call fun found sourced _ => ?_
    obtain ⟨kept, evolves⟩ := sourced.attempted here (attempted_self rt policy now (faults row.deliveryId) row found)
    refine ⟨kept, evolves, ?_⟩
    split
    next settled _ => exact ih later used rng _
    next exc _ =>
      refine .call fun found sourced _ => ?_
      obtain ⟨kept, evolves⟩ :=
        (show Sourced rt sources (Pass.mk found used rng report).db from sourced).handled row exc
      exact ⟨kept, evolves, ih later _ _ _⟩

/-- The rows of a pass carry the bodies that were stored when they were selected. -/
theorem drain_ensures (call : DrainCall T R) : (fleetContract rt sources).Ensures (fun _ _ => True)
    (drainProcess rt call.policy call.now call.faults call.limit call.rng) db := by
  refine .call fun first sourced _ => ⟨sourced, .refl _, .call fun second sourced _ => ⟨sourced, .refl _, ?_⟩⟩
  refine drainRows_ensures (fun row member => ?_) _ _ _
  obtain ⟨stored, inside, _, rfl⟩ := mem_selectDue member
  exact sourced.deliveries stored inside

end Drain

section Parties
variable (compact : Json → Str) (config : AppConfig T)

/-- The items of a notification. -/
def carried (raw : Bytes) : Except Exc (List Mapping) := do adyenItems (← rt.loads raw)

/-- The body came in with one of the requests that were sent, and verified. -/
inductive Arrived (sent : Party T R → Prop) : Str → Provider → Bytes → Prop where
  | stripe {request t id} (arrived : sent (.stripe request))
      (verified : verifyStripe rt request.raw request.headers config.secrets request.received config.toleranceSeconds = .ok t)
      (names : Names rt .stripe request.raw id) : Arrived sent id .stripe request.raw
  | adyen {request items item body read id} (arrived : sent (.adyen request)) (carries : carried rt request.raw = .ok items)
      (member : item ∈ items) (made : itemBody compact item = .ok body) (parsed : payload rt body = .ok read)
      (verified : verifyAdyen rt read (adyenSignature rt read) config.adyenHmacKeyHex = .ok ())
      (names : Names rt .adyen body id) : Arrived sent id .adyen body

def arrivals (sent : Party T R → Prop) : Sources where
  arrived := Arrived rt compact config sent
  named := by
    rintro id provider raw arrived
    cases arrived with
    | stripe _ _ names | adyen _ _ _ _ _ _ names =>
      obtain ⟨_, name, _, _, same⟩ := names
      exact ⟨name, same⟩

/-- The answer tells the provider not to send the delivery again, or not to for now. -/
def acknowledges (statusCode : Nat) : Prop := statusCode = 200 ∨ statusCode = 409

/-- What was acknowledged to the sender of a request is in the inbox. -/
def Acknowledged (db : Db T) : Party T R → Reply → Prop
  | .stripe request, .stripe (.ok response) =>
    acknowledges response.statusCode → ∃ id, Names rt .stripe request.raw id ∧ Known db id
  | .adyen request, .adyen (.ok response) =>
    acknowledges response.statusCode → ∃ items, carried rt request.raw = .ok items ∧
      ∀ item ∈ items, ∃ body id, itemBody compact item = .ok body ∧ Names rt .adyen body id ∧ Known db id
  | _, _ => True

variable {rt compact config} {db after : Db T}

omit [Seconds T] in
theorem Acknowledged.later {party : Party T R} {answer : Reply} (acknowledged : Acknowledged rt compact db party answer)
    (kept : ∀ id, Known db id → Known after id) : Acknowledged rt compact after party answer := by
  unfold Acknowledged at acknowledged ⊢
  split at acknowledged
  next =>
    intro accepted
    obtain ⟨id, names, known⟩ := acknowledged accepted
    exact ⟨id, names, kept id known⟩
  next =>
    intro accepted
    obtain ⟨items, carries, all⟩ := acknowledged accepted
    refine ⟨items, carries, fun item member => ?_⟩
    obtain ⟨body, id, made, names, known⟩ := all item member
    exact ⟨body, id, made, names, kept id known⟩
  next => trivial

variable {sent : Party T R → Prop}

theorem stripe_ensures {request : StripeRequest T} (arrived : sent (.stripe request)) :
    (fleetContract rt (arrivals rt compact config sent)).Ensures
      (fun response now => Acknowledged rt compact now (.stripe request : Party T R) (.stripe response))
      (stripeProcess rt config request) db := by
  have received : (fleetContract rt (arrivals rt compact config sent)).Ensures (Filed rt .stripe request.raw)
      (receiveStripeProcess rt request.raw request.headers config.secrets request.received request.now config.leaseSeconds
        config.toleranceSeconds) db :=
    receiveStripe_ensures fun t verified id names => .stripe arrived verified names
  refine received.map fun result now filed => ?_
  cases result with
  | ok result =>
    unfold stripeAnswer
    dsimp only
    split
    all_goals exact fun _ => filed result rfl
  | error exc =>
    unfold stripeAnswer
    dsimp only
    split
    next => exact fun accepted => by simp [acknowledges, errorResponse] at accepted
    next =>
      split
      next => exact fun accepted => by simp [acknowledges, errorResponse] at accepted
      next => trivial

/-- The items of a notification that are left when the request has come this far. -/
theorem items_ensures (sourced : Sourced rt (arrivals rt compact config sent) db) {request : AdyenRequest T}
    (arrived : sent (.adyen request)) {items all : List Mapping} (carries : carried rt request.raw = .ok all)
    (within : ∀ item ∈ items, item ∈ all) (turn : Nat) (inProgress : Bool) :
    (fleetContract rt (arrivals rt compact config sent)).Ensures
      (fun answer now => ∀ response, answer = .ok response → acknowledges response.statusCode →
        ∀ item ∈ items, ∃ body id, itemBody compact item = .ok body ∧ Names rt .adyen body id ∧ Known now id)
      (receiveItemsProcess rt compact config.adyenHmacKeyHex request.now config.leaseSeconds items turn inProgress) db := by
  induction items generalizing turn inProgress db with
  | nil => exact fun _ _ _ _ _ _ _ member => absurd member List.not_mem_nil
  | cons item rest ih =>
    obtain ⟨here, later⟩ := List.forall_mem_cons.mp within
    unfold receiveItemsProcess
    split
    next => exact fun _ _ _ _ failed => by cases failed
    next body made =>
      have received : (fleetContract rt (arrivals rt compact config sent)).Ensures (Filed rt .adyen body)
          (receiveAdyenProcess rt body config.adyenHmacKeyHex (request.now turn) config.leaseSeconds) db :=
        receiveAdyen_ensures fun read parsed verified id names => .adyen arrived carries here made parsed verified names
      refine received.bind sourced fun result now sourced _ filed => ?_
      cases result with
      | error exc =>
        refine fun _ _ _ response refused accepted => ?_
        split at refused
        next => cases refused; simp [acknowledges] at accepted
        next =>
          split at refused
          next => cases refused; simp [acknowledges] at accepted
          next => cases refused
      | ok result =>
        obtain ⟨id, names, known⟩ := filed result rfl
        refine (ih sourced later (turn + 1) _).imp fun answer final _ evolved rest response answered accepted => ?_
        exact List.forall_mem_cons.mpr ⟨⟨body, id, made, names, evolved.known known⟩, rest response answered accepted⟩

theorem adyen_ensures (sourced : Sourced rt (arrivals rt compact config sent) db) {request : AdyenRequest T}
    (arrived : sent (.adyen request)) : (fleetContract rt (arrivals rt compact config sent)).Ensures
      (fun response now => Acknowledged rt compact now (.adyen request : Party T R) (.adyen response))
      (adyenProcess rt compact config request) db := by
  unfold adyenProcess
  split
  next exc _ =>
    intro _ _ _
    split
    next => exact fun accepted => by simp [acknowledges] at accepted
    next => trivial
  next items carries =>
    refine (items_ensures sourced arrived carries (fun _ member => member) 0 false).imp fun answer _ _ _ holds => ?_
    cases answer with
    | error exc => trivial
    | ok response => exact fun accepted => ⟨items, carries, holds response rfl accepted⟩

theorem program_ensures (sourced : Sourced rt (arrivals rt compact config sent) db) {party : Party T R} (arrived : sent party) :
    (fleetContract rt (arrivals rt compact config sent)).Ensures (fun answer now => Acknowledged rt compact now party answer)
      (party.program rt compact config) db := by
  cases party with
  | stripe request => exact (stripe_ensures arrived).map fun _ _ acknowledged => acknowledged
  | adyen request => exact (adyen_ensures sourced arrived).map fun _ _ acknowledged => acknowledged
  | drain call => exact (drain_ensures call).map fun _ _ _ => trivial

end Parties

section Schedules
variable (compact : Json → Str) (config : AppConfig T)

/-- The parties that a schedule sets to work. -/
def started (turns : List (Move (Party T R))) (party : Party T R) : Prop := .start party ∈ turns

/-- A schedule goes on from where an earlier one left the service. -/
theorem fleet_sound (earlier later : List (Move (Party T R))) :
    Pool.Sound (fleetContract rt (arrivals rt compact config (started (earlier ++ later))))
      (started (earlier ++ later)) (fun party answer now => Acknowledged rt compact now party answer)
      (Fleet.run rt compact config earlier).state (Fleet.run rt compact config (earlier ++ later)) := by
  let allowed := started (earlier ++ later)
  let contract := fleetContract rt (arrivals rt compact config allowed)
  have stable (party : Party T R) (answer : Reply) (before after : Db T) (evolves : contract.moves before after) :
      Acknowledged rt compact before party answer → Acknowledged rt compact after party answer :=
    fun acknowledged => acknowledged.later fun _ => evolves.known
  have programs (party : Party T R) (db : Db T) (sent : allowed party) (sourced : contract.valid db) :
      contract.Ensures (fun answer now => Acknowledged rt compact now party answer) (party.program rt compact config) db :=
    program_ensures sourced sent
  have empty : Pool.Sound contract allowed (fun party answer now => Acknowledged rt compact now party answer) Db.empty
      ({ state := Db.empty } : Fleet T R) := .start Sourced.empty
  have before := empty.run stable programs fun party (member : Move.start party ∈ earlier) => List.mem_append_left later member
  have here : Pool.Sound contract allowed (fun party answer now => Acknowledged rt compact now party answer)
      (Fleet.run rt compact config earlier).state (Fleet.run rt compact config earlier) := { before with moved := .refl _ }
  have further := here.run stable programs fun party (member : Move.start party ∈ later) => List.mem_append_right earlier member
  have continued : Fleet.run rt compact config (earlier ++ later) =
      Pool.run (Party.program rt compact config) (Fleet.run rt compact config earlier) later := Pool.run_append ..
  rw [continued]
  exact further

/-- Under every schedule the tables are a book in which each effect was entered once. What
comes after a schedule only enters more behind it. -/
theorem fleet_keeps_book (earlier later : List (Move (Party T R))) :
    let before := (Fleet.run rt compact config earlier).state
    let after := (Fleet.run rt compact config (earlier ++ later)).state
    (∃ entries : List (Str × CanonicalEvent T), Path Book.Enters (view before) (entries.map Prod.snd) (view after) ∧
      after.effects.rows = before.effects.rows ++ entries.map fun entry => effectRow entry.1 entry.2) ∧
    (∃ events : List (CanonicalEvent T), Path Book.Enters Book.empty events (view before) ∧ (events.map eventKey).Nodup ∧
      before.counter (.metric .applied) = events.length) ∧
    (∀ effect ∈ before.effects.rows, Known before effect.deliveryId) ∧
    ∀ paymentId state, (view before).payment paymentId = some state →
      0 ≤ state.refundedMinor ∧ state.refundedMinor ≤ state.capturedMinor ∧ state.capturedMinor ≤ state.authorizedMinor := by
  intro before after
  have whole := fleet_sound rt compact config [] earlier
  obtain ⟨entries, path, rows⟩ := whole.moved.entered
  change Path Book.Enters (view Db.empty) (entries.map Prod.snd) (view before) at path
  change before.effects.rows = [] ++ _ at rows
  rw [view_empty] at path
  have balanced : (view before).Balanced := path.keeps .empty Book.Balanced.enters
  refine ⟨(fleet_sound rt compact config earlier later).moved.entered, ⟨entries.map Prod.snd, path, ?_, ?_⟩,
    whole.valid.owned, fun paymentId state found => ?_⟩
  · exact (Book.entered_of_path path).1
  · rw [show before.counter (.metric .applied) = before.effects.rows.length from whole.valid.counted, rows]
    simp
  · have conserved := balanced paymentId state found
    exact ⟨conserved.refunded_nonneg, conserved.refunded_le, conserved.captured_le⟩

/-- Under every schedule the bytes of every delivery came in with a request that verified,
and every effect was decoded from such bytes, under the id they name. -/
theorem only_authentic_effects (turns : List (Move (Party T R))) :
    let db := (Fleet.run rt compact config turns).state
    (∀ row ∈ db.deliveries.rows, Arrived rt compact config (started turns) row.deliveryId row.provider row.raw) ∧
    ∀ effect ∈ db.effects.rows, ∃ provider raw event, Arrived rt compact config (started turns) effect.deliveryId provider raw ∧
      decode rt provider raw = .ok event ∧ effect = effectRow effect.deliveryId event := by
  intro db
  have sourced : Sourced rt (arrivals rt compact config (started turns)) db := (fleet_sound rt compact config [] turns).valid
  exact ⟨sourced.deliveries, sourced.effects⟩

/-- What a request was acknowledged for is in the inbox under every schedule from then on,
whatever is killed. -/
theorem acknowledged_stored (earlier later : List (Move (Party T R))) {party : Party T R} {answer : Reply}
    (answered : (party, answer) ∈ (Fleet.run rt compact config earlier).answers) : started earlier party ∧
      Acknowledged rt compact (Fleet.run rt compact config (earlier ++ later)).state party answer := by
  obtain ⟨sent, acknowledged⟩ := (fleet_sound rt compact config [] earlier).answers _ answered
  exact ⟨sent, acknowledged.later fun _ => (fleet_sound rt compact config earlier later).moved.known⟩

open StripeBinding (signing signedCall)

/-- The service with the one secret that `signing` knows. -/
def signedConfig : AppConfig Int where
  secrets := signedCall.secrets
  adyenHmacKeyHex := []
  leaseSeconds := 30
  toleranceSeconds := 300

def signedRequest : StripeRequest Int where
  raw := signedCall.raw
  headers := signedCall.headers
  received := 400
  now := 400

def onePass : DrainCall Int Unit := { policy := .standard, now := 500, limit := defaultLimit, rng := none, faults := fun _ => none }

def signedResponse : Except Exc JsonResponse :=
  (stripeWebhook signing signedRequest.raw signedRequest.headers signedConfig.secrets signedRequest.received signedRequest.now
    signedConfig.leaseSeconds signedConfig.toleranceSeconds Db.empty).1

theorem serve_stripe (request : StripeRequest T) (db : Db T) :
    ((Party.stripe request : Party T R).serve rt compact config db).1 =
      .stripe (stripeWebhook rt request.raw request.headers config.secrets request.received request.now config.leaseSeconds
        config.toleranceSeconds db).1 := rfl

/-- The service when the signed request was given its turns. -/
theorem signed_answered : ∃ steps response, response.statusCode = 200 ∧
    Fleet.run signing Json.written signedConfig (.start (.stripe signedRequest) :: List.replicate steps (.step 0)) =
      { state := (Party.serve signing Json.written signedConfig (.stripe signedRequest : Party Int Unit) Db.empty).2
        answers := [(.stripe signedRequest, .stripe (.ok response))] } := by
  obtain ⟨steps, ran⟩ := Pool.run_alone (Party.program signing Json.written signedConfig)
    (show (Pool.mk Db.empty [] []).working = [] from rfl)
    (.stripe signedRequest : Party Int Unit)
  rw [program_alone] at ran
  rw [serve_stripe] at ran
  have answers : signedResponse.toOption.map JsonResponse.statusCode = some 200 := by decide +kernel
  change _ = ({ answers := [] ++ [(Party.stripe signedRequest, Reply.stripe signedResponse)], .. } : Fleet Int Unit) at ran
  cases answered : signedResponse with
  | error exc =>
    rw [answered] at answers
    cases answers
  | ok response =>
    rw [answered] at answers ran
    exact ⟨steps, response, Option.some.inj answers, ran⟩

theorem acknowledged_stored_signed : ∃ steps response, response.statusCode = 200 ∧
    Acknowledged signing Json.written (Fleet.run signing Json.written signedConfig
        ((.start (.stripe signedRequest) :: List.replicate steps (.step 0)) ++
          [.start (.drain onePass), .step 0, .step 0, .step 0, .kill 0])).state
      (.stripe signedRequest) (.stripe (.ok response)) := by
  obtain ⟨steps, response, accepted, ran⟩ := signed_answered
  refine ⟨steps, response, accepted, (acknowledged_stored signing Json.written signedConfig _ _ ?_).2⟩
  rw [ran]
  exact List.mem_singleton.mpr rfl

end Schedules
end Quidz.Proofs
