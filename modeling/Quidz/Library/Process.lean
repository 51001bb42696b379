import Mathlib.Data.List.Basic

/-! Parties that share a state. Each works in atomic statements; between two of them the
others may work, and a party may be gone for good. What every statement keeps, and how it
may move the state on, is the contract the parties have with one another. -/

namespace Quidz.Library

/-- What a party has left to do: its answer, or a statement and what follows from the state
it was executed in. -/
inductive Process (σ α : Type) where
  | done (answer : α)
  | atomic (statement : σ → σ) (next : σ → Process σ α)

variable {σ ι α β : Type}

namespace Process

/-- An operation on the state as one statement, with its result handed on. -/
def call (operation : σ → α × σ) (next : α → Process σ β) : Process σ β :=
  .atomic (fun state => (operation state).2) fun state => next (operation state).1

def bind : Process σ α → (α → Process σ β) → Process σ β
  | .done answer, further => further answer
  | .atomic statement next, further => .atomic statement fun state => (next state).bind further

/-- The party with nobody else at work. -/
def alone : Process σ α → σ → α × σ
  | .done answer, state => (answer, state)
  | .atomic statement next, state => (next state).alone (statement state)

@[simp] theorem alone_done (answer : α) (state : σ) : (done answer).alone state = (answer, state) := rfl

@[simp] theorem alone_call (operation : σ → α × σ) (next : α → Process σ β) (state : σ) :
    (call operation next).alone state = (next (operation state).1).alone (operation state).2 := rfl

@[simp] theorem alone_bind (process : Process σ α) (next : α → Process σ β) (state : σ) :
    (process.bind next).alone state = (next (process.alone state).1).alone (process.alone state).2 := by
  induction process generalizing state with
  | done answer => rfl
  | atomic statement further ih => exact ih state (statement state)

end Process

structure Contract (σ : Type) where
  valid : σ → Prop
  moves : σ → σ → Prop
  refl : ∀ state, moves state state
  trans : ∀ {first second third}, moves first second → moves second third → moves first third

namespace Contract

variable (contract : Contract σ) {post : α → σ → Prop}

/-- Wherever the others have moved the state, each statement keeps the contract, and the
answer is right when it is given. -/
def Ensures (post : α → σ → Prop) : Process σ α → σ → Prop
  | .done answer, state => ∀ now, contract.valid now → contract.moves state now → post answer now
  | .atomic statement next, state => ∀ now, contract.valid now → contract.moves state now →
      contract.valid (statement now) ∧ contract.moves now (statement now) ∧
        Ensures post (next now) (statement now)

variable {contract}

theorem Ensures.later {process : Process σ α} {state now : σ} (ensures : contract.Ensures post process state)
    (moved : contract.moves state now) : contract.Ensures post process now := by
  cases process with
  | done answer => exact fun final valid further => ensures final valid (contract.trans moved further)
  | atomic statement next => exact fun final valid further => ensures final valid (contract.trans moved further)

theorem Ensures.call {operation : σ → β × σ} {next : β → Process σ α} {state : σ}
    (keeps : ∀ now, contract.valid now → contract.moves state now →
      contract.valid (operation now).2 ∧ contract.moves now (operation now).2 ∧
        contract.Ensures post (next (operation now).1) (operation now).2) :
    contract.Ensures post (.call operation next) state := keeps

/-- The answer may be read in another way, in view of how the state has moved. -/
theorem Ensures.imp {post' : α → σ → Prop} {process : Process σ α} {state : σ} (ensures : contract.Ensures post process state)
    (reads : ∀ answer now, contract.valid now → contract.moves state now → post answer now → post' answer now) :
    contract.Ensures post' process state := by
  induction process generalizing state with
  | done answer => exact fun now valid moved => reads answer now valid moved (ensures now valid moved)
  | atomic statement next ih =>
    intro now valid moved
    obtain ⟨kept, moves, after⟩ := ensures now valid moved
    refine ⟨kept, moves, ih now after fun answer final held later => ?_⟩
    exact reads answer final held (contract.trans moved (contract.trans moves later))

/-- A further process may count on the answer, and on how the state has moved since. -/
theorem Ensures.bind {middle : β → σ → Prop} {process : Process σ β} {next : β → Process σ α} {state : σ}
    (valid : contract.valid state) (first : contract.Ensures middle process state)
    (further : ∀ answer now, contract.valid now → contract.moves state now → middle answer now →
      contract.Ensures post (next answer) now) : contract.Ensures post (process.bind next) state := by
  induction process generalizing state with
  | done answer => exact further answer state valid (contract.refl state) (first state valid (contract.refl state))
  | atomic statement rest ih =>
    intro now held moved
    obtain ⟨kept, moves, after⟩ := first now held moved
    refine ⟨kept, moves, ih now kept after fun answer final valid later => ?_⟩
    exact further answer final valid (contract.trans moved (contract.trans moves later))

/-- What is made of an answer needs no further statement. -/
theorem Ensures.map {post' : β → σ → Prop} {process : Process σ α} {answer : α → β} {state : σ}
    (ensures : contract.Ensures post process state) (reads : ∀ value now, post value now → post' (answer value) now) :
    contract.Ensures post' (process.bind fun value => .done (answer value)) state := by
  induction process generalizing state with
  | done value => exact fun now valid moved => reads value now (ensures now valid moved)
  | atomic statement next ih =>
    intro now valid moved
    obtain ⟨kept, moves, after⟩ := ensures now valid moved
    exact ⟨kept, moves, ih now after⟩

end Contract

/-- The state, the parties that are at work on it, and the answers of those that are done. -/
structure Pool (σ ι α : Type) where
  state : σ
  working : List (ι × Process σ α) := []
  answers : List (ι × α) := []

/-- One turn of the scheduler: a party sets to work, executes its next statement or gives
its answer, or is gone. -/
inductive Move (ι : Type) where
  | start (party : ι)
  | step (place : Nat)
  | kill (place : Nat)

namespace Pool

variable (program : ι → Process σ α)

def turn (pool : Pool σ ι α) : Move ι → Pool σ ι α
  | .start party => { pool with working := pool.working ++ [(party, program party)] }
  | .kill place => { pool with working := pool.working.eraseIdx place }
  | .step place =>
    match pool.working[place]? with
    | none => pool
    | some (party, .done answer) =>
      { pool with working := pool.working.eraseIdx place, answers := pool.answers ++ [(party, answer)] }
    | some (party, .atomic statement next) =>
      { pool with state := statement pool.state, working := pool.working.set place (party, next pool.state) }

def run (pool : Pool σ ι α) (turns : List (Move ι)) : Pool σ ι α := turns.foldl (turn program) pool

theorem run_append (pool : Pool σ ι α) (earlier later : List (Move ι)) :
    pool.run program (earlier ++ later) = (pool.run program earlier).run program later := List.foldl_append

/-- Where nobody is at work, a party can be given all the turns it needs. -/
theorem run_alone {pool : Pool σ ι α} (idle : pool.working = []) (party : ι) : ∃ steps,
    pool.run program (.start party :: List.replicate steps (.step 0)) =
      { state := ((program party).alone pool.state).2
        answers := pool.answers ++ [(party, ((program party).alone pool.state).1)] } := by
  have works (process : Process σ α) (state : σ) (answers : List (ι × α)) : ∃ steps,
      run program ⟨state, [(party, process)], answers⟩ (List.replicate steps (.step 0)) =
        ⟨(process.alone state).2, [], answers ++ [(party, (process.alone state).1)]⟩ := by
    induction process generalizing state with
    | done answer => exact ⟨1, rfl⟩
    | atomic statement next ih =>
      obtain ⟨steps, ran⟩ := ih state (statement state)
      exact ⟨steps + 1, ran⟩
  obtain ⟨steps, ran⟩ := works (program party) pool.state pool.answers
  refine ⟨steps, Eq.trans ?_ ran⟩
  rw [run, List.foldl_cons, turn, idle]
  rfl

variable (contract : Contract σ) (allowed : ι → Prop) (post : ι → α → σ → Prop)

/-- The contract is kept so far, by parties that are allowed. -/
structure Sound (initial : σ) (pool : Pool σ ι α) : Prop where
  valid : contract.valid pool.state
  moved : contract.moves initial pool.state
  working : ∀ entry ∈ pool.working, allowed entry.1 ∧ contract.Ensures (post entry.1) entry.2 pool.state
  answers : ∀ entry ∈ pool.answers, allowed entry.1 ∧ post entry.1 entry.2 pool.state

variable {program contract allowed post} {initial : σ} {pool : Pool σ ι α}

theorem Sound.start {state : σ} (valid : contract.valid state) :
    Sound contract allowed post state ({ state } : Pool σ ι α) :=
  ⟨valid, contract.refl state, List.forall_mem_nil _, List.forall_mem_nil _⟩

/-- A statement of one party is something the others have to live with. -/
theorem Sound.turn (sound : Sound contract allowed post initial pool)
    (stable : ∀ party answer before after, contract.moves before after → post party answer before → post party answer after)
    (programs : ∀ party state, allowed party → contract.valid state → contract.Ensures (post party) (program party) state)
    {turn : Move ι} (starts : ∀ party, turn = .start party → allowed party) :
    Sound contract allowed post initial (pool.turn program turn) := by
  cases turn with
  | start party =>
    refine { sound with working := fun entry member => ?_ }
    rcases List.mem_append.mp member with before | new
    · exact sound.working entry before
    · obtain rfl := List.mem_singleton.mp new
      exact ⟨starts party rfl, programs party pool.state (starts party rfl) sound.valid⟩
  | kill place => exact { sound with working := fun entry member => sound.working entry (List.mem_of_mem_eraseIdx member) }
  | step place =>
    unfold Pool.turn
    dsimp only
    split
    next => exact sound
    next party answer found =>
      obtain ⟨listed, ensures⟩ := sound.working _ (List.mem_of_getElem? found)
      refine { sound with
        working := fun entry member => sound.working entry (List.mem_of_mem_eraseIdx member), answers := fun entry member => ?_ }
      rcases List.mem_append.mp member with before | new
      · exact sound.answers entry before
      · obtain rfl := List.mem_singleton.mp new
        exact ⟨listed, ensures pool.state sound.valid (contract.refl _)⟩
    next party statement next found =>
      obtain ⟨listed, ensures⟩ := sound.working _ (List.mem_of_getElem? found)
      obtain ⟨valid, moves, after⟩ := ensures pool.state sound.valid (contract.refl _)
      refine ⟨valid, contract.trans sound.moved moves, fun entry member => ?_, fun entry member => ?_⟩
      · rcases List.mem_or_eq_of_mem_set member with other | rfl
        · obtain ⟨listed, ensures⟩ := sound.working entry other
          exact ⟨listed, ensures.later moves⟩
        · exact ⟨listed, after⟩
      · obtain ⟨listed, holds⟩ := sound.answers entry member
        exact ⟨listed, stable _ _ _ _ moves holds⟩

theorem Sound.run (sound : Sound contract allowed post initial pool)
    (stable : ∀ party answer before after, contract.moves before after → post party answer before → post party answer after)
    (programs : ∀ party state, allowed party → contract.valid state → contract.Ensures (post party) (program party) state)
    {turns : List (Move ι)} (starts : ∀ party, .start party ∈ turns → allowed party) :
    Sound contract allowed post initial (pool.run program turns) :=
  List.foldlRecOn turns (Pool.turn program) sound fun _ sound _ member =>
    sound.turn stable programs fun party started => starts party (started ▸ member)

end Pool
end Quidz.Library
