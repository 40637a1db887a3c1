import Admission.Proofs.Chain.FirstFault
import Admission.Proofs.Chain.Reachability

/-!
Contract: which server names a chain that lists only wildcards is selected for.

A wildcard `*.a.test` is stored under `.a.test`, in one dictionary with the names that are listed as
they are. The name that a client asks for is looked up there first, and only then its suffixes behind
the first letter. So what is in front of the suffix may be empty: a client that asks for `.a.test`
itself meets the wildcard at the first look.

Owns:
- `Rules.narrow_ask`, by which asking for the key of a rule that is left leaves the same rules;
- `MatchIndex.wildcard_selected`, that whatever name selects the chain ends with a dot and the rest
  of a wildcard, and that this end alone selects it as well.
-/

namespace Admission.Chain

open Admission.Listener

/-- A socket that asks for another server name. -/
def askingFor (name : String) (socket : Socket) : Socket :=
  { socket with serverName := name }

namespace Rules

variable {α : Type} {rules : Rules α} {rule : Slot × α} {socket : Socket}

private theorem mem_byServerName_of_left (left : rule ∈ rules.narrow socket) :
    rule ∈ ((rules.byPort socket).byDestination socket).byServerName socket := by
  have bySource := (mem_commit_iff.mp left).1
  have byType := (mem_longest_iff.mp bySource).1
  have onPath := (mem_commit_iff.mp byType).1
  have byTransport := (mem_commit_iff.mp onPath).1
  exact (mem_commit_iff.mp byTransport).1

/-- The key of a rule that is left is the name asked for, an end of it, or the catch-all. -/
theorem serverName_of_left (left : rule ∈ rules.byServerName socket) :
    rule.1.serverName = "" ∨
      ∃ front, socket.serverName.toList = front ++ rule.1.serverName.toList := by
  rw [byServerName_eq] at left
  have listed := List.mem_of_find?_eq_some (mem_commit_iff.mp left).2
  rw [List.mem_append, List.mem_append, List.mem_singleton, List.mem_singleton] at listed
  rcases listed with exact | wildcard | empty
  · exact .inr ⟨[], by rw [exact, List.nil_append]⟩
  · rw [← isWildcardOf_iff, isWildcardOf, decide_eq_true_eq] at wildcard
    obtain ⟨-, -, ⟨front, split⟩, -⟩ := wildcard
    exact .inr ⟨front, split.symm⟩
  · exact .inl empty

/-- Lists of keys in which the same key comes up first leave the same rules. -/
theorem commit_congr {κ : Type} [DecidableEq κ] {level : Slot → κ} {keys others : List κ}
    (same : (keys.find? fun key => rules.any fun other => level other.1 = key) =
      others.find? fun key => rules.any fun other => level other.1 = key) :
    rules.commit level keys = rules.commit level others := by
  unfold commit
  rw [same]

/-- A key is found at once by a socket that asks for it. -/
theorem byServerName_ask (left : rule ∈ rules.byServerName socket) :
    rules.byServerName (askingFor rule.1.serverName socket) = rules.byServerName socket := by
  rw [byServerName_eq] at left
  obtain ⟨listed, first⟩ := mem_commit_iff.mp left
  have present : (rules.any fun other => other.1.serverName = rule.1.serverName) = true :=
    List.any_eq_true.mpr ⟨rule, listed, decide_eq_true rfl⟩
  rw [byServerName_eq, byServerName_eq]
  apply commit_congr
  rw [first]
  show (rule.1.serverName :: (wildcardKeys rule.1.serverName ++ [""])).find? _ = _
  rw [List.find?_cons, present]

/-- Only the level of the server name looks at the server name. -/
theorem narrow_ask (left : rule ∈ rules.narrow socket) :
    rules.narrow (askingFor rule.1.serverName socket) = rules.narrow socket := by
  have named := byServerName_ask (mem_byServerName_of_left left)
  show ((((((((rules.byPort socket).byDestination socket).byServerName
    (askingFor rule.1.serverName socket)).byTransport socket).byProtocol socket).bySourceType
      socket).bySource socket).bySourcePort socket) = _
  rw [named]
  rfl

end Rules

namespace MatchCriteria

/-- The keys of criteria that list only wildcards. -/
theorem exists_wildcard_of_mem_slots {criteria : MatchCriteria}
    (filled : criteria.serverNames ≠ [])
    (wildcards : ∀ name ∈ criteria.serverNames, IsWildcard name) {slot : Slot}
    (own : slot ∈ criteria.slots) :
    ∃ suffix, "*." ++ suffix ∈ criteria.serverNames ∧ slot.serverName = "." ++ suffix := by
  have keys : orCatchAll "" (criteria.serverNames.map storedName) =
      criteria.serverNames.map storedName := by
    cases names : criteria.serverNames with
    | nil => exact absurd names filled
    | cons _ _ => rfl
  unfold slots at own
  simp only [keys, List.mem_flatMap, List.mem_map] at own
  obtain ⟨_, -, _, ⟨name, named, rfl⟩, _, -, _, -, _, -, rfl⟩ := own
  obtain ⟨suffix, spelled⟩ := wildcards name named
  have whole : name = "*." ++ String.ofList suffix := by
    rw [← String.toList_inj, spelled]
    simp
  refine ⟨String.ofList suffix, whole ▸ named, ?_⟩
  show storedName name = _
  rw [storedName_of_wildcard spelled, ← String.toList_inj]
  simp

end MatchCriteria

namespace MatchIndex

variable {generation : GenerationId} {listener : String}
  {descriptors : List FilterChainDescriptor} {builder : ChainBuilder}
  {previous : Option MatchIndex} {next : Nat} {index : MatchIndex}

/-- Where a chain whose server names are all wildcards is selected, the name asked for is one of
them without its star, with something or nothing in front, if the chain lists any at all; and with
nothing in front the chain is selected as well. -/
theorem wildcard_selected (reached : Reached previous next)
    (accepted : (build generation listener descriptors builder previous next).outcome = .ok index)
    {descriptor : FilterChainDescriptor}
    (wildcards : ∀ name ∈ descriptor.criteria.serverNames, MatchCriteria.IsWildcard name)
    {socket : Socket} (selects : index.Selects descriptors socket (some descriptor)) :
    descriptor.criteria.serverNames = [] ∨
      ∃ front suffix, "*." ++ suffix ∈ descriptor.criteria.serverNames ∧
        socket.serverName = front ++ "." ++ suffix ∧
        index.Selects descriptors (askingFor ("." ++ suffix) socket) (some descriptor) := by
  rw [or_iff_not_imp_left]
  intro filled
  have chosen := (selects_iff reached accepted).mp selects
  obtain ⟨rule, first, rfl⟩ := Option.map_eq_some_iff.mp chosen.symm
  have left := List.mem_of_head? first
  have own := (mem_rulesOf_iff.mp ((Rules.narrow_settles _ socket).sublist.subset left)).2
  obtain ⟨suffix, named, key⟩ :=
    MatchCriteria.exists_wildcard_of_mem_slots filled wildcards own
  rcases Rules.serverName_of_left (Rules.mem_byServerName_of_left left) with
    empty | ⟨front, split⟩
  · rw [key, ← String.toList_inj] at empty
    exact absurd empty (by simp)
  · refine ⟨String.ofList front, suffix, named, ?_, ?_⟩
    · rw [← String.toList_inj, split, key]
      simp
    · rw [selects_iff reached accepted, ← key, selected, Rules.narrow_ask left]
      exact chosen

/-- A socket without addresses that asks for a name. -/
def clientOf (name : String) : Socket :=
  askingFor name (.between (.internal "here") (.internal "there"))

/-- A chain that is alone in its batch is selected if any is. -/
theorem selects_alone {descriptor : FilterChainDescriptor} {socket : Socket}
    (accepted : (build generation listener [descriptor] builder previous next).outcome = .ok index)
    (left : (selected [descriptor] socket).isSome = true) :
    index.Selects [descriptor] socket (some descriptor) := by
  have selects := selects_selected accepted socket
  obtain ⟨owner, chosen⟩ := Option.isSome_iff_exists.mp left
  rw [chosen] at selects
  obtain rfl := List.mem_singleton.mp selects.1
  exact selects

private theorem wildcard_accepted :
    ∃ index,
      (build ⟨1⟩ "listener" [chainFor ["*.a.test"]] (BuildScript.builder ⟨none, false, []⟩) none
        1).outcome = .ok index :=
  exists_ok_of_isOk (by decide +kernel)

theorem wildcard_selected_below :
    ∃ index,
      (build ⟨1⟩ "listener" [chainFor ["*.a.test"]] (BuildScript.builder ⟨none, false, []⟩) none
        1).outcome = .ok index ∧
      index.Selects [chainFor ["*.a.test"]] (clientOf "www.a.test")
        (some (chainFor ["*.a.test"])) ∧
      ∃ front suffix, "*." ++ suffix ∈ ["*.a.test"] ∧ "www.a.test" = front ++ "." ++ suffix ∧
        index.Selects [chainFor ["*.a.test"]] (askingFor ("." ++ suffix) (clientOf "www.a.test"))
          (some (chainFor ["*.a.test"])) := by
  obtain ⟨index, accepted⟩ := wildcard_accepted
  have wildcards : ∀ name ∈ ["*.a.test"], MatchCriteria.IsWildcard name := by
    intro name listed
    rw [List.mem_singleton.mp listed]
    exact ⟨"a.test".toList, by decide⟩
  have left : (selected [chainFor ["*.a.test"]] (clientOf "www.a.test")).isSome = true := by
    decide +kernel
  have selects := selects_alone accepted left
  rcases wildcard_selected (.start 1) accepted wildcards selects with none | some
  · exact absurd none (by decide)
  · exact ⟨index, accepted, selects, some⟩

/-- The name behind the star of its wildcard selects a chain, with nothing in front. -/
theorem bare_suffix_selected :
    ∃ index,
      (build ⟨1⟩ "listener" [chainFor ["*.a.test"]] (BuildScript.builder ⟨none, false, []⟩) none
        1).outcome = .ok index ∧
      index.Selects [chainFor ["*.a.test"]] (clientOf ".a.test") (some (chainFor ["*.a.test"])) ∧
      ¬∃ front suffix, "*." ++ suffix ∈ (chainFor ["*.a.test"]).criteria.serverNames ∧
        (clientOf ".a.test").serverName = front ++ "." ++ suffix ∧ front ≠ "" := by
  obtain ⟨index, accepted⟩ := wildcard_accepted
  refine ⟨index, accepted, selects_alone accepted (by decide +kernel), ?_⟩
  rintro ⟨front, suffix, named, split, filled⟩
  have wildcard : "*." ++ suffix = "*.a.test" := List.mem_singleton.mp named
  have sizes := congrArg String.length wildcard
  have whole : ".a.test".length = (front ++ "." ++ suffix).length := congrArg String.length split
  rw [String.length_append, show "*.".length = 2 from rfl, show "*.a.test".length = 8 from rfl]
    at sizes
  rw [String.length_append, String.length_append, show ".".length = 1 from rfl,
    show ".a.test".length = 7 from rfl] at whole
  exact filled (String.length_eq_zero_iff.mp (by omega))

end MatchIndex

end Admission.Chain
