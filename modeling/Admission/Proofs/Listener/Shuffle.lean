import Mathlib.Logic.Equiv.Basic
import Admission.Proofs.Listener.Deeds

/-!
Contract: connections under other numbers.

Owns:
- `reidentify`, for all that has the number of a connection in it;
- `Deed.Uniform`, that deeds differ by the number of a new connection alone, with
  `exists_shuffle`: the deeds of two operations in one order and in the other;
- `Steady`, that a shuffle leaves alone what is there, and `steady_ran`.
-/

namespace Admission.Listener

/-! ## Other numbers -/

section Reidentify

variable (shuffle : Equiv.Perm Nat)

def Connection.reidentify (connection : Connection) : Connection :=
  connection.identify (shuffle connection.id)

def StreamInfo.reidentify (info : StreamInfo) : StreamInfo :=
  { info with connectionId := info.connectionId.map shuffle }

def ConnectionRecord.reidentify (record : ConnectionRecord) : ConnectionRecord :=
  { record with
    connection := shuffle record.connection
    info := record.info.reidentify shuffle }

def Fate.reidentify : Fate → Fate
  | served connection chain => served (shuffle connection) chain
  | fate => fate

def Departure.reidentify (departure : Departure) : Departure :=
  { departure with fate := departure.fate.reidentify shuffle }

variable {shuffle}

private theorem Connection.reidentify_of_fixed {connection : Connection}
    (fixed : shuffle connection.id = connection.id) :
    connection.reidentify shuffle = connection := by
  unfold reidentify
  rw [fixed]
  rfl

private theorem StreamInfo.reidentify_of_fixed {info : StreamInfo}
    (fixed : ∀ number, info.connectionId = some number → shuffle number = number) :
    info.reidentify shuffle = info := by
  have same : info.connectionId.map shuffle = info.connectionId := by
    cases numbered : info.connectionId with
    | none => rfl
    | some number => exact congrArg some (fixed number numbered)
  unfold reidentify
  rw [same]

variable (shuffle)

/-- The same deed, where the new connection has another number. -/
def Deed.reidentify {σ : Type} : Deed σ → Deed σ
  | refused pending matched connection => refused pending matched (connection.reidentify shuffle)
  | connected pending matched connection =>
      connected pending matched (connection.reidentify shuffle)
  | deed => deed

end Reidentify

namespace Deed

variable {σ : Type} {shuffle : Equiv.Perm Nat} (deed : Deed σ)

/-- A shuffle leaves alone what a deed says of an older connection. -/
def Steady (shuffle : Equiv.Perm Nat) : Deed σ → Prop
  | rejected pending => pending.info.reidentify shuffle = pending.info
  | unmatched pending => pending.info.reidentify shuffle = pending.info
  | removed record => record.reidentify shuffle = record
  | _ => True

theorem place_reidentify : (deed.reidentify shuffle).place = deed.place := by
  cases deed <;> rfl

theorem made_reidentify :
    (deed.reidentify shuffle).made = deed.made.map (·.reidentify shuffle) := by
  cases deed <;> rfl

theorem added_reidentify :
    (deed.reidentify shuffle).added = deed.added.map (·.reidentify shuffle) := by
  cases deed <;> rfl

theorem counts_reidentify : (deed.reidentify shuffle).counts = deed.counts := by
  cases deed <;> rfl

theorem outcomes_reidentify : (deed.reidentify shuffle).outcomes = deed.outcomes := by
  cases deed <;> rfl

theorem departures_reidentify :
    (deed.reidentify shuffle).departures = deed.departures.map (·.reidentify shuffle) := by
  cases deed <;> rfl

variable {deed}

theorem Steady.withdrawn (steady : deed.Steady shuffle) :
    (deed.reidentify shuffle).withdrawn = deed.withdrawn.map (·.reidentify shuffle) := by
  cases deed with
  | removed record =>
      have same : record.reidentify shuffle = record := steady
      have anonymous :
          record.anonymous.reidentify shuffle = (record.reidentify shuffle).anonymous := rfl
      show [record.anonymous] = [record.anonymous.reidentify shuffle]
      rw [anonymous, same]
  | _ => rfl

theorem Steady.lines (steady : deed.Steady shuffle) :
    (deed.reidentify shuffle).lines = deed.lines.map (·.reidentify shuffle) := by
  cases deed with
  | rejected pending =>
      have same : pending.info.reidentify shuffle = pending.info := steady
      show [pending.info] = [pending.info.reidentify shuffle]
      rw [same]
  | unmatched pending =>
      have same : pending.info.reidentify shuffle = pending.info := steady
      have marked : pending.unmatchedInfo.reidentify shuffle =
          (pending.info.reidentify shuffle).mark .noRouteFound "filter_chain_not_found" := rfl
      show [pending.unmatchedInfo] = [pending.unmatchedInfo.reidentify shuffle]
      rw [marked, same]
      rfl
  | removed record =>
      have same : record.reidentify shuffle = record := steady
      have info : record.info.reidentify shuffle = (record.reidentify shuffle).info := rfl
      show [record.info] = [record.info.reidentify shuffle]
      rw [info, same]
  | _ => rfl

/-! ## Deeds that differ by a number -/

/-- The deed of one operation, for each number that its connection may get. -/
structure Uniform (deeds : Nat → Deed σ) : Prop where
  reidentify : ∀ (shuffle : Equiv.Perm Nat) number,
    (deeds number).reidentify shuffle = deeds (shuffle number)
  single : ∀ number, (deeds number).made.length ≤ 1
  constant : ∀ number other, (deeds number).made = [] → deeds other = deeds number

/-- The second of two operations numbers its connection after that of the first. In the other order
the numbers are exchanged. -/
theorem exists_shuffle {first second : Nat → Deed σ} (uniformFirst : Uniform first)
    (uniformSecond : Uniform second) (made : Nat) :
    ∃ shuffle : Equiv.Perm Nat, (∀ id ≤ made, shuffle id = id) ∧
      first (made + (second (made + 1)).made.length + 1) =
        (first (made + 1)).reidentify shuffle ∧
      second (made + 1) =
        (second (made + (first (made + 1)).made.length + 1)).reidentify shuffle := by
  by_cases noFirst : (first (made + 1)).made = []
  · refine ⟨Equiv.refl _, fun _ _ => rfl, ?_, ?_⟩
    · rw [uniformFirst.reidentify]
      exact uniformFirst.constant _ _ noFirst
    · rw [uniformSecond.reidentify, noFirst]
      rfl
  · by_cases noSecond : (second (made + 1)).made = []
    · refine ⟨Equiv.refl _, fun _ _ => rfl, ?_, ?_⟩
      · rw [uniformFirst.reidentify, noSecond]
        rfl
      · rw [uniformSecond.reidentify]
        exact (uniformSecond.constant _ _ noSecond).symm
    · have one : (first (made + 1)).made.length = 1 :=
        Nat.le_antisymm (uniformFirst.single _) (List.length_pos_iff.mpr noFirst)
      have other : (second (made + 1)).made.length = 1 :=
        Nat.le_antisymm (uniformSecond.single _) (List.length_pos_iff.mpr noSecond)
      refine ⟨Equiv.swap (made + 1) (made + 2), ?_, ?_, ?_⟩
      · intro id bounded
        exact Equiv.swap_apply_of_ne_of_ne (by omega) (by omega)
      · rw [uniformFirst.reidentify, other, Equiv.swap_apply_left]
      · rw [uniformSecond.reidentify, one, Equiv.swap_apply_right]

end Deed

namespace ListenerState

variable {σ : Type} {state : ListenerState σ}

/-- What becomes of a socket depends on the number of its connection only where it has one. -/
theorem deedOn_cases (state : ListenerState σ) (pending : PendingSocket σ) :
    (∃ deed : Deed σ, deed.made = [] ∧ (∀ shuffle, deed.reidentify shuffle = deed) ∧
      ∀ number, state.deedOn number pending = deed) ∨
    (∃ matched, ∃ connection : Connection, ∀ number,
      state.deedOn number pending = .refused pending matched (connection.identify number)) ∨
    ∃ matched, ∃ connection : Connection, ∀ number,
      state.deedOn number pending = .connected pending matched (connection.identify number) := by
  unfold deedOn
  by_cases waits : pending.pipeline.state = .suspended ∨ pending.pipeline.state = .running
  · exact .inl ⟨.held pending, rfl, fun _ => rfl, fun _ => if_pos waits⟩
  · by_cases passed : pending.pipeline.state = .completed
    · cases answer : state.matchOf? pending.socket with
      | none =>
          refine .inl ⟨.unmatched pending, rfl, fun _ => rfl, fun _ => ?_⟩
          rw [if_neg waits, if_pos passed]
      | some matched =>
          by_cases closed : (state.connectionFor pending.socket matched.chain).state = .closed
          · refine .inr (.inl ⟨matched,
              (state.connectionFor pending.socket matched.chain).destroy, fun number => ?_⟩)
            rw [if_neg waits, if_pos passed]
            exact if_pos closed
          · refine .inr (.inr ⟨matched, state.connectionFor pending.socket matched.chain,
              fun number => ?_⟩)
            rw [if_neg waits, if_pos passed]
            exact if_neg closed
    · refine .inl ⟨.rejected pending, rfl, fun _ => rfl, fun _ => ?_⟩
      rw [if_neg waits, if_neg passed]

private theorem uniform_deedOn (state : ListenerState σ) (pending : PendingSocket σ) :
    Deed.Uniform fun number => state.deedOn number pending := by
  rcases state.deedOn_cases pending with
    ⟨deed, nothing, same, always⟩ | ⟨matched, connection, always⟩ | ⟨matched, connection, always⟩
  · refine ⟨?_, ?_, ?_⟩
    · intro shuffle number
      rw [always, always, same]
    · intro number
      rw [always, nothing]
      exact Nat.zero_le 1
    · intro number other _
      rw [always, always]
  all_goals
    refine ⟨?_, ?_, ?_⟩
    · intro shuffle number
      rw [always, always]
      rfl
    · intro number
      rw [always]
      exact Nat.le_refl 1
    · intro number other nothing
      rw [always] at nothing
      exact absurd nothing (by simp [Deed.made])

/-- An operation on what is there has a deed, whatever number its connection gets. -/
theorem exists_deeds {operation : Operation} {target : Target}
    (works : operation.target? = some target) (hosts : state.Hosts target) :
    ∃ deeds : Nat → Deed σ, Deed.Uniform deeds ∧
      ∀ number, state.deed? number operation = some (deeds number) := by
  rcases operation.target_cases σ works with ⟨id, step, rfl, steps⟩ | ⟨handle, rfl, removes⟩
  · obtain ⟨pending, found⟩ := Option.isSome_iff_exists.mp hosts
    refine ⟨_, state.uniform_deedOn (pending.stepped step), fun number => ?_⟩
    rw [steps.deed, found]
    rfl
  · obtain ⟨record, found⟩ := Option.isSome_iff_exists.mp hosts
    refine ⟨fun _ => .removed record,
      ⟨fun _ _ => rfl, fun _ => Nat.zero_le 1, fun _ _ _ => rfl⟩, fun number => ?_⟩
    rw [removes.deed, found]
    rfl

/-! ## What is there already -/

/-- A renaming leaves alone all that has a number already. -/
structure Steady (state : ListenerState σ) (shuffle : Equiv.Perm Nat) : Prop where
  connections : ∀ connection ∈ state.connections, connection.reidentify shuffle = connection
  records : ∀ record ∈ state.records, record.reidentify shuffle = record
  due : ∀ info ∈ state.due, info.reidentify shuffle = info
  pending : ∀ id pending, state.pending? id = some pending →
    pending.info.reidentify shuffle = pending.info

private theorem steady_deedOn {shuffle : Equiv.Perm Nat} {pending : PendingSocket σ}
    (same : pending.info.reidentify shuffle = pending.info) (number : Nat) :
    (state.deedOn number pending).Steady shuffle :=
  state.deedOn_rec trivial same same (fun _ _ => trivial) fun _ _ => trivial

theorem Steady.deed {shuffle : Equiv.Perm Nat} (steady : state.Steady shuffle)
    (housed : state.Housed) {operation : Operation} {target : Target}
    (works : operation.target? = some target) {number : Nat} {deed : Deed σ}
    (does : state.deed? number operation = some deed) : deed.Steady shuffle := by
  rcases operation.target_cases σ works with ⟨id, step, _, steps⟩ | ⟨handle, _, removes⟩
  · rw [steps.deed] at does
    obtain ⟨pending, found, rfl⟩ := Option.map_eq_some_iff.mp does
    have same : (pending.stepped step).info.reidentify shuffle = (pending.stepped step).info :=
      steady.pending id pending found
    exact steady_deedOn same number
  · rw [removes.deed] at does
    obtain ⟨record, found, rfl⟩ := Option.map_eq_some_iff.mp does
    exact steady.records record (housed.mem_records_iff.mpr (tracks_of_record? found))

section Run

variable (config : ListenerConfig σ) (carrier : Carrier) (operations : List Operation)

/-- The lines of a run are of connections that were made in it. -/
theorem line_bounded {info : StreamInfo} (listed : info ∈ (ran config carrier operations).lines)
    {number : Nat} (numbered : info.connectionId = some number) :
    number ≤ (ran config carrier operations).connections.length := by
  have booked := booked_ran config carrier operations
  obtain ⟨departure, left, rfl⟩ :=
    List.mem_map.mp ((lines_ran config carrier operations).mem_iff.mp listed)
  have served : number ∈ (departed config carrier operations).filterMap (·.fate.connection?) :=
    List.mem_filterMap.mpr ⟨departure, left, numbered⟩
  rw [booked.numbers] at served
  have bounds := (List.mem_range'_1.mp served).2
  have made := booked.connections
  have none : (new config carrier).connections.length = 0 := rfl
  omega

/-- Nothing is known yet of a socket in listener filters. -/
theorem blank_of_pending? {id : SocketId} {pending : PendingSocket σ}
    (found : (ran config carrier operations).pending? id = some pending) : pending.info.Blank := by
  have booked := booked_ran config carrier operations
  have listed : pending.guest ∈ (ran config carrier operations).guests :=
    List.mem_map_of_mem (Slab.mem_values_iff.mpr ⟨_, (pending?_eq_some_iff.mp found).1⟩)
  have came := booked.guests.mem_iff.mp (List.mem_append_left _ listed)
  exact blank_of_arrived config carrier operations came

theorem steady_ran {shuffle : Equiv.Perm Nat}
    (fixed : ∀ id ≤ (ran config carrier operations).connections.length, shuffle id = id) :
    (ran config carrier operations).Steady shuffle := by
  have line {info : StreamInfo} (listed : info ∈ (ran config carrier operations).lines) :
      info.reidentify shuffle = info :=
    StreamInfo.reidentify_of_fixed fun _ numbered =>
      fixed _ (line_bounded config carrier operations listed numbered)
  refine ⟨?_, ?_, ?_, ?_⟩
  · intro connection listed
    have numbers := identified_ran config carrier operations
    have number := List.mem_map_of_mem (f := (·.id)) listed
    rw [numbers] at number
    have bounds := (List.mem_range'_1.mp number).2
    exact Connection.reidentify_of_fixed (fixed _ (by omega))
  · intro record listed
    have bounded := (grounded_ran config carrier operations record
      (List.mem_append_left _ listed)).2
    have info := line (List.mem_append_right _ (List.mem_map_of_mem listed))
    unfold ConnectionRecord.reidentify
    rw [fixed _ bounded, info]
  · intro info listed
    exact line (List.mem_append_left _ listed)
  · intro id pending found
    have blank := blank_of_pending? config carrier operations found
    refine StreamInfo.reidentify_of_fixed fun number numbered => ?_
    rw [blank] at numbered
    exact absurd numbered (by simp [StreamInfo.between])

end Run

end ListenerState

end Admission.Listener
