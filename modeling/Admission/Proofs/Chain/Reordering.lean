import Admission.Proofs.Chain.Selected

/-!
Contract: the order of a batch does not matter.

Owns:
- that narrowing leaves the same rules of a list in whatever order they come (`Rules.narrow_perm`);
- `accepts_iff_faultless`, which batches are accepted, without a word on order or on how far the
  building came;
- `exists_accepted_of_perm` and `selects_of_perm`, for two orders of one batch and two builders.
-/

namespace Admission.Chain

open Admission.Listener

namespace Rules

variable {α κ : Type} [DecidableEq κ] {left right : Rules α}

private theorem commit_perm (permuted : left.Perm right) (level : Slot → κ) (keys : List κ) :
    (left.commit level keys).Perm (right.commit level keys) := by
  have present : (fun key => left.any fun rule => decide (level rule.1 = key)) =
      fun key => right.any fun rule => decide (level rule.1 = key) := by
    funext key
    exact permuted.any_eq
  unfold commit
  rw [present]
  split
  · exact permuted.filter _
  · exact .nil

private theorem longest_perm (permuted : left.Perm right) (fits : Slot → Bool) (size : Slot → Nat) :
    (left.longest fits size).Perm (right.longest fits size) := by
  have bounds : (fun rule : Slot × α => fits rule.1 &&
        left.all fun other => !fits other.1 || decide (size other.1 ≤ size rule.1)) =
      fun rule => fits rule.1 &&
        right.all fun other => !fits other.1 || decide (size other.1 ≤ size rule.1) := by
    funext rule
    rw [permuted.all_eq]
  unfold longest
  rw [bounds]
  exact permuted.filter _

/-- Narrowing leaves the same rules, in whatever order they come. -/
theorem narrow_perm (permuted : left.Perm right) (socket : Socket) :
    (left.narrow socket).Perm (right.narrow socket) := by
  have named := longest_perm (commit_perm permuted Slot.port (socket.localAddress.port?.toList ++ [0]))
    (fun slot => slot.destination.contains socket.localAddress.ipOrPlaceholder)
    fun slot => slot.destination.length
  have narrowed := commit_perm named Slot.serverName
    ([socket.serverName] ++ (wildcardKeys socket.serverName ++ [""]))
  rw [← byServerName_eq, ← byServerName_eq] at narrowed
  exact commit_perm (longest_perm (commit_perm (commit_perm (commit_perm narrowed _ _) _ _) _ _) _ _)
    _ _

end Rules

private theorem rulesOf_perm {left right : List FilterChainDescriptor}
    (permuted : left.Perm right) :
    (rulesOf left).Perm (rulesOf right) :=
  permuted.flatMap_right _

private theorem eq_of_perm_of_length_le_one {α : Type} {left right : List α}
    (permuted : left.Perm right) (single : left.length ≤ 1) : left = right := by
  match left, right, permuted.length_eq with
  | [], [], _ => rfl
  | [_], [_], _ => rw [List.singleton_perm_singleton.mp permuted]
  | _ :: _ :: _, _, _ => exact absurd single (by simp)

/-- Where no slot comes up twice, the flat rules leave the same description in both orders. -/
theorem selected_eq_of_perm {left right : List FilterChainDescriptor} (permuted : left.Perm right)
    (distinct : (left.flatMap (·.criteria.slots)).Nodup) (socket : Socket) :
    selected left socket = selected right socket := by
  have single : ((rulesOf left).narrow socket).length ≤ 1 := by
    rw [← rulesOf_slots] at distinct
    exact narrow_length_le distinct socket
  have same := eq_of_perm_of_length_le_one (Rules.narrow_perm (rulesOf_perm permuted) socket) single
  rw [selected, selected, same]

/-- A builder that has a blueprint for every description of a batch. -/
def Builds (builder : ChainBuilder) (descriptors : List FilterChainDescriptor) : Prop :=
  ∀ descriptor ∈ descriptors, ∃ blueprint, (builder descriptor).result = .built blueprint

/-- Descriptions without fault stay so in another order, wherever their chains come from. -/
theorem Faultless.perm {builder other : ChainBuilder} {previous earlier : Option MatchIndex}
    {left right : List FilterChainDescriptor} (faultless : Faultless builder previous left)
    (permuted : left.Perm right)
    (supplied : ∀ descriptor ∈ right,
      (∃ chain, earlier.bind (·.chainOf? descriptor.reuseKey) = some chain) ∨
        ∃ blueprint, (other descriptor).result = .built blueprint) :
    Faultless other earlier right where
  different := (permuted.map _).nodup_iff.mp faultless.different
  valid := fun descriptor listed => faultless.valid descriptor (permuted.mem_iff.mpr listed)
  supplied := supplied
  keys := (permuted.flatMap_right _).nodup_iff.mp faultless.keys

/-- No two keys of some descriptions collide. -/
def Apart (descriptors : List FilterChainDescriptor) : Prop :=
  ∀ left ∈ descriptors.flatMap (·.criteria.slotKeys),
    ∀ right ∈ descriptors.flatMap (·.criteria.slotKeys), ¬ left.Collides right

theorem Apart.perm {left right : List FilterChainDescriptor} (apart : Apart left)
    (permuted : left.Perm right) : Apart right := by
  have keys := permuted.flatMap_right fun descriptor => descriptor.criteria.slotKeys
  intro first firstListed second secondListed
  exact apart first (keys.mem_iff.mpr firstListed) second (keys.mem_iff.mpr secondListed)

namespace MatchIndex

/-- A batch is accepted exactly if it is without fault and no two of its keys collide. -/
theorem accepts_iff_faultless (generation : GenerationId) (listener : String)
    (descriptors : List FilterChainDescriptor) (builder : ChainBuilder)
    (previous : Option MatchIndex) (next : Nat) :
    (∃ index, (build generation listener descriptors builder previous next).outcome = .ok index) ↔
      Faultless builder previous descriptors ∧ Apart descriptors := by
  rcases build_cases generation listener descriptors builder previous next with
    ⟨index, chains, ok, supplied, _, faultless, free, _⟩ | ⟨error, refused, fault⟩
  · exact ⟨fun _ => ⟨faultless, (free_collide_iff supplied).mp free⟩, fun _ => ⟨index, ok⟩⟩
  · constructor
    · rintro ⟨index, ok⟩
      exact absurd (refused.symm.trans ok) (by simp)
    · intro right
      exact absurd right fault

/-- An accepted batch is accepted in every order, by every builder that builds it, whatever index it
follows. -/
theorem exists_accepted_of_perm {generation later : GenerationId} {listener another : String}
    {left right : List FilterChainDescriptor} {builder other : ChainBuilder}
    {previous earlier : Option MatchIndex} {next first : Nat} {index : MatchIndex}
    (accepted : (build generation listener left builder previous next).outcome = .ok index)
    (permuted : left.Perm right) (builds : Builds other right) :
    ∃ result, (build later another right other earlier first).outcome = .ok result := by
  obtain ⟨faultless, apart⟩ := (accepts_iff_faultless _ _ _ _ _ _).mp ⟨index, accepted⟩
  exact (accepts_iff_faultless _ _ _ _ _ _).mpr
    ⟨faultless.perm permuted fun descriptor listed => .inr (builds descriptor listed),
      apart.perm permuted⟩

theorem slots_nodup_of_accepted {generation : GenerationId} {listener : String}
    {descriptors : List FilterChainDescriptor} {builder : ChainBuilder}
    {previous : Option MatchIndex} {next : Nat} {index : MatchIndex}
    (accepted : (build generation listener descriptors builder previous next).outcome = .ok index) :
    (descriptors.flatMap (·.criteria.slots)).Nodup := by
  obtain ⟨faultless, apart⟩ := (accepts_iff_faultless _ _ _ _ _ _).mp ⟨index, accepted⟩
  exact slots_nodup_of_faultless faultless apart

/-- Look-ups in the indices of two orders of one batch select the same description. -/
theorem selects_of_perm {generation later : GenerationId} {listener another : String}
    {left right : List FilterChainDescriptor} {builder other : ChainBuilder}
    {previous earlier : Option MatchIndex} {next first : Nat} {index result : MatchIndex}
    (accepted : (build generation listener left builder previous next).outcome = .ok index)
    (alsoAccepted : (build later another right other earlier first).outcome = .ok result)
    (permuted : left.Perm right) (socket : Socket) :
    index.Selects left socket (selected left socket) ∧
      result.Selects right socket (selected left socket) := by
  refine ⟨selects_selected accepted socket, ?_⟩
  rw [selected_eq_of_perm permuted (slots_nodup_of_accepted accepted)]
  exact selects_selected alsoAccepted socket

end MatchIndex

end Admission.Chain
