import Admission.Proofs.Chain.Reachability
import Admission.Proofs.Tls.Acceptance
import Admission.Proofs.Tls.Chunking

/-!
Contract: which rules the host name of a ClientHello reaches.

The inspector brings host names into one form: lower case, no dots at the end. Configured names are
keys as they are written. So a name that is configured in this form is reached however a client
writes it, and a name in any other form is not reached even as it is written.

Owns:
- `SameHost`, by which spellings name one host, and `IsPlainHost`, the form the inspector gives;
- `Slot.IsByName`, the slots of criteria that list server names alone, among which only the name
  decides (`Rules.mem_narrow_of_byName`);
- `MatchIndex.plain_names_reach_their_rules`, with a name that does not.
-/

namespace Admission.Tls

open Admission.Listener

/-! ## Spellings of a host -/

/-- Two spellings are the same up to letter case and dots at the end. -/
def SameHost (left right : List Char) : Prop :=
  Text.lowercase (left.rdropWhile (· = '.')) = Text.lowercase (right.rdropWhile (· = '.'))

instance (left right : List Char) : Decidable (SameHost left right) :=
  inferInstanceAs (Decidable (Text.lowercase _ = Text.lowercase _))

/-- A host name in ASCII, without capital letters and without a dot at its end. -/
structure IsPlainHost (name : List Char) : Prop where
  ascii : ∀ c ∈ name, c.toNat < 0x80
  small : ∀ c ∈ name, c.toLower = c
  undotted : name.rdropWhile (· = '.') = name

/-- Dots at the end do not matter to the letters before them. -/
theorem startsCased_append_dots (text : List Char) (count : Nat) :
    Text.startsCased (text ++ List.replicate count '.') = Text.startsCased text := by
  have ignored : Text.isCaseIgnorable '.' = true := by decide +kernel
  unfold Text.startsCased
  rw [List.dropWhile_append]
  cases left : text.dropWhile Text.isCaseIgnorable with
  | nil =>
      have gone : (List.replicate count '.').dropWhile Text.isCaseIgnorable = [] := by
        rw [List.dropWhile_eq_nil_iff]
        intro c listed
        rw [List.eq_of_mem_replicate listed, ignored]
      rw [List.isEmpty_nil, if_pos rfl, gone]
  | cons first rest => rfl

private theorem lowercaseFrom_append_dots (before text : List Char) (count : Nat) :
    Text.lowercaseFrom before (text ++ List.replicate count '.') =
      Text.lowercaseFrom before text ++ List.replicate count '.' := by
  induction text generalizing before with
  | nil =>
      rw [List.nil_append, Text.lowercaseFrom_ascii, List.map_replicate]
      · rfl
      · intro c listed
        rw [List.eq_of_mem_replicate listed]
        decide
  | cons first rest inductionHypothesis =>
      have same : Text.lowercaseAt before first (rest ++ List.replicate count '.') =
          Text.lowercaseAt before first rest := by
        unfold Text.lowercaseAt
        rw [startsCased_append_dots]
      rw [List.cons_append, Text.lowercaseFrom, Text.lowercaseFrom, same, inductionHypothesis,
        List.append_assoc]

private theorem exists_dots (host : List Char) :
    ∃ count, host = host.rdropWhile (· = '.') ++ List.replicate count '.' := by
  refine ⟨(host.rtakeWhile (· = '.')).length, ?_⟩
  have dots : host.rtakeWhile (· = '.') =
      List.replicate (host.rtakeWhile (· = '.')).length '.' := by
    refine List.eq_replicate_iff.mpr ⟨rfl, fun c listed => ?_⟩
    simpa using List.mem_rtakeWhile_imp listed
  rw [← dots, List.rdropWhile_append_rtakeWhile]

private theorem rdropWhile_append_dots (text : List Char) (count : Nat) :
    (text ++ List.replicate count '.').rdropWhile (· = '.') = text.rdropWhile (· = '.') := by
  induction count with
  | zero => rw [List.replicate_zero, List.append_nil]
  | succ count inductionHypothesis =>
      rw [List.replicate_succ', ← List.append_assoc, List.rdropWhile_concat_pos _ _ _ rfl,
        inductionHypothesis]

/-- The inspector gives a plain name, whatever its spelling was. -/
theorem canonical_of_sameHost {host name : List Char} (plain : IsPlainHost name)
    (same : SameHost host name) : (Text.lowercase host).rdropWhile (· = '.') = name := by
  obtain ⟨count, whole⟩ := exists_dots host
  have core : Text.lowercase (host.rdropWhile (· = '.')) = name := by
    rw [same, plain.undotted, Text.lowercase, Text.lowercaseFrom_ascii _ _ plain.ascii]
    conv_rhs => rw [← List.map_id name]
    exact List.map_congr_left plain.small
  have spelled : Text.lowercase host = name ++ List.replicate count '.' := by
    conv_lhs => rw [whole]
    rw [Text.lowercase, lowercaseFrom_append_dots]
    exact congrArg (· ++ List.replicate count '.') core
  rw [spelled, rdropWhile_append_dots, plain.undotted]

/-- The host name that a message asks for, as it is written in the last list of names. -/
def Body.host? (body : Body) : Option (List Char) :=
  (((body.extensions.elim [] (·.extensions)).filterMap (·.content.serverNames?)).getLast?.bind
    (·.host)).map (·.text)

/-- A message that asks for a host is found to offer the plain name of it. -/
theorem Body.offer_serverName {body : Body} {host name : List Char} (plain : IsPlainHost name)
    (asks : body.host? = some host) (same : SameHost host name) :
    body.offer.serverName = some (String.ofList name) := by
  obtain ⟨entry, listed, rfl⟩ := Option.map_eq_some_iff.mp asks
  obtain ⟨names, last, held⟩ := Option.bind_eq_some_iff.mp listed
  have offered : body.offer.serverName =
      some (String.ofList ((Text.lowercase entry.text).rdropWhile (· = '.'))) := by
    unfold Body.offer Extension.offer
    dsimp only
    rw [last, Option.bind_some, NameList.serverName, held]
    rfl
  rw [offered, canonical_of_sameHost plain same]

/-! ## Sockets -/

variable {σ : Type} {limit : Nat} {memory : σ} {socket : Socket} {records : List Record}
  {message : Message} {after rest : List UInt8} {lengths : List Nat}

/-- The inspector puts down what a message offers that comes in records within its limit, whatever
comes after them and in whatever pieces. -/
theorem inspected_of_records (isOpen : socket.isOpen = true)
    (written : records.flatMap (·.fragment.bytes) = message.encoded ++ after)
    (fits : (records.flatMap Record.encoded).length ≤ limit)
    (whole : lengths.getLast? = some (records.flatMap Record.encoded ++ rest).length) :
    inspected limit memory socket (records.flatMap Record.encoded ++ rest) lengths =
      ((inspection limit memory).advance.enter .completed,
        socket.learn message.body.offer.findings) := by
  refine inspected_of_found limit memory isOpen ?_ whole
  rw [List.take_append, List.take_of_length_le fits]
  exact (ClientHello.joinRecords_eq_found_iff rfl).mpr
    ⟨message, records, after, _, rfl, written, rfl⟩

end Admission.Tls

namespace Admission.Chain

open Admission.Net Admission.Listener Admission.Tls

/-! ## Rules by name alone -/

/-- The criteria list server names and nothing else. -/
def MatchCriteria.IsByName (criteria : MatchCriteria) : Prop :=
  criteria = { MatchCriteria.anything with serverNames := criteria.serverNames }

instance (criteria : MatchCriteria) : Decidable criteria.IsByName :=
  inferInstanceAs (Decidable (criteria = _))

/-- A slot has the catch-all of every level but that of the server name. -/
structure Slot.IsByName (slot : Slot) : Prop where
  port : slot.port = 0
  destination : slot.destination.length = 0
  transport : slot.transport = ""
  protocol : slot.protocol = ""
  sourceType : slot.sourceType = .any
  source : slot.source.length = 0
  sourcePort : slot.sourcePort = 0

/-- The range of the whole family of an address. -/
def family (address : IpAddress) : CidrRange :=
  if address.isV4 then .allV4 else .allV6

private theorem family_mem (address : IpAddress) : family address ∈ MatchCriteria.rangesOf [] := by
  unfold family
  split
  · exact List.mem_cons_self
  · exact List.mem_cons_of_mem _ (List.mem_singleton_self _)

private theorem family_contains (address : IpAddress) :
    (family address).contains address = true := by
  rw [CidrRange.contains_iff]
  cases address with
  | v4 bits => exact ⟨rfl, List.nil_prefix⟩
  | v6 bits => exact ⟨rfl, List.nil_prefix⟩

/-- The slot of a listed name for the families of two addresses. -/
def slotByName (name : String) (localAddress peer : IpAddress) : Slot :=
  ⟨0, family localAddress, name, "", "", .any, family peer, 0⟩

namespace MatchCriteria

variable {criteria : MatchCriteria}

private theorem mem_slots_iff_of_byName (byName : criteria.IsByName) {slot : Slot} :
    slot ∈ criteria.slots ↔ ∃ destination ∈ rangesOf [],
      ∃ name ∈ orCatchAll "" (criteria.serverNames.map storedName), ∃ source ∈ rangesOf [],
        slot = ⟨0, destination, name, "", "", .any, source, 0⟩ := by
  rw [byName]
  simp [slots, anything, orCatchAll]

private theorem isByName_of_mem (byName : criteria.IsByName) {slot : Slot}
    (own : slot ∈ criteria.slots) :
    slot.IsByName := by
  have whole : ∀ range ∈ rangesOf [], range.length = 0 := by
    intro range listed
    have either : range = .allV4 ∨ range = .allV6 := by simpa [rangesOf] using listed
    rcases either with rfl | rfl <;> rfl
  obtain ⟨destination, destinationListed, name, _, source, sourceListed, rfl⟩ :=
    (mem_slots_iff_of_byName byName).mp own
  exact ⟨rfl, whole destination destinationListed, rfl, rfl, rfl, whole source sourceListed, rfl⟩

private theorem slotByName_mem (byName : criteria.IsByName) {name : String}
    (listed : name ∈ criteria.serverNames) (unstarred : '*' ∉ name.toList)
    (localAddress peer : IpAddress) :
    slotByName name localAddress peer ∈ criteria.slots := by
  have stored : storedName name = name := by
    refine storedName_of_not_wildcard fun suffix wildcard => unstarred ?_
    rw [wildcard]
    exact List.mem_cons_self
  have key : name ∈ orCatchAll "" (criteria.serverNames.map storedName) := by
    have member : name ∈ criteria.serverNames.map storedName :=
      List.mem_map.mpr ⟨name, listed, stored⟩
    cases names : criteria.serverNames.map storedName with
    | nil =>
        rw [names] at member
        cases member
    | cons first others =>
        rw [names] at member
        exact member
  exact (mem_slots_iff_of_byName byName).mpr
    ⟨_, family_mem localAddress, name, key, _, family_mem peer, rfl⟩

end MatchCriteria

namespace Rules

variable {α κ : Type} [DecidableEq κ] {rules : Rules α} {rule : Slot × α}

/-- Where all rules have one key and it is looked up, they are all left. -/
theorem mem_commit_of_common {level : Slot → κ} {keys : List κ} {key : κ} (listed : rule ∈ rules)
    (common : ∀ other ∈ rules, level other.1 = key) (asked : key ∈ keys) :
    rule ∈ rules.commit level keys := by
  refine mem_commit_iff.mpr ⟨listed, ?_⟩
  rw [common rule listed]
  have present : (rules.any fun other => level other.1 = key) = true :=
    List.any_eq_true.mpr ⟨rule, listed, decide_eq_true (common rule listed)⟩
  cases found : keys.find? fun key => rules.any fun other => level other.1 = key with
  | none => exact absurd present (List.find?_eq_none.mp found key asked)
  | some first =>
      have any : (rules.any fun other => level other.1 = first) = true := by
        simpa using List.find?_some found
      obtain ⟨other, otherListed, has⟩ := List.any_eq_true.mp any
      rw [← common other otherListed, of_decide_eq_true has]

/-- Where all ranges are those of whole families, the rules for the family of an address are left. -/
theorem mem_longest_of_whole {level : Slot → CidrRange} {address : IpAddress}
    (listed : rule ∈ rules) (whole : ∀ other ∈ rules, (level other.1).length = 0)
    (holds : (level rule.1).contains address = true) :
    rule ∈ rules.longest (fun slot => (level slot).contains address)
      (fun slot => (level slot).length) := by
  refine mem_longest_iff.mpr ⟨listed, holds, fun other otherListed _ => ?_⟩
  rw [whole other otherListed]
  exact Nat.zero_le _

/-- All slots of the rules are by name alone. -/
def AreByName (rules : Rules α) : Prop :=
  ∀ rule ∈ rules, rule.1.IsByName

private theorem AreByName.commit (byName : rules.AreByName) (level : Slot → κ) (keys : List κ) :
    (rules.commit level keys).AreByName :=
  fun rule listed => byName rule (mem_commit_iff.mp listed).1

private theorem AreByName.longest (byName : rules.AreByName) (fits : Slot → Bool)
    (size : Slot → Nat) :
    (rules.longest fits size).AreByName :=
  fun rule listed => byName rule (List.mem_of_mem_filter listed)

/-- Among rules by name alone, the name decides. -/
theorem mem_narrow_of_byName {socket : Socket} (byName : rules.AreByName)
    (listed : rule ∈ rules) (slot : rule.1 = slotByName socket.serverName
      socket.localAddress.ipOrPlaceholder socket.remoteAddress.ipOrPlaceholder) :
    rule ∈ rules.narrow socket := by
  have name : socket.serverName = rule.1.serverName := by
    rw [slot]
    rfl
  have destination : rule.1.destination.contains socket.localAddress.ipOrPlaceholder = true := by
    rw [slot]
    exact family_contains _
  have source : rule.1.source.contains socket.remoteAddress.ipOrPlaceholder = true := by
    rw [slot]
    exact family_contains _
  -- Each level leaves the rule, and of the others only some.
  have ports : (rules.byPort socket).AreByName := byName.commit _ _
  have byPort : rule ∈ rules.byPort socket :=
    mem_commit_of_common listed (fun other member => (byName other member).port)
      (List.mem_append_right _ (List.mem_singleton_self _))
  have destinations : ((rules.byPort socket).byDestination socket).AreByName := ports.longest _ _
  have byDestination : rule ∈ (rules.byPort socket).byDestination socket :=
    mem_longest_of_whole byPort (fun other member => (ports other member).destination) destination
  have names : (((rules.byPort socket).byDestination socket).byServerName socket).AreByName := by
    rw [byServerName_eq]
    exact destinations.commit _ _
  have byServerName :
      rule ∈ ((rules.byPort socket).byDestination socket).byServerName socket := by
    rw [byServerName_eq, name]
    exact mem_commit_of_first byDestination
  have transports : ((((rules.byPort socket).byDestination socket).byServerName
      socket).byTransport socket).AreByName := names.commit _ _
  have byTransport : rule ∈ (((rules.byPort socket).byDestination socket).byServerName
      socket).byTransport socket :=
    mem_commit_of_common byServerName (fun other member => (names other member).transport)
      (List.mem_cons_of_mem _ (List.mem_singleton_self _))
  have paths : (rules.path socket).AreByName := transports.commit _ _
  have onPath : rule ∈ rules.path socket :=
    mem_commit_of_common byTransport (fun other member => (transports other member).protocol)
      (List.mem_append_right _ (List.mem_singleton_self _))
  have types : ((rules.path socket).bySourceType socket).AreByName := paths.commit _ _
  have byType : rule ∈ (rules.path socket).bySourceType socket :=
    mem_commit_of_common onPath (fun other member => (paths other member).sourceType)
      (List.mem_cons_of_mem _ (List.mem_singleton_self _))
  have sources : (((rules.path socket).bySourceType socket).bySource socket).AreByName :=
    types.longest _ _
  have bySource : rule ∈ ((rules.path socket).bySourceType socket).bySource socket :=
    mem_longest_of_whole byType (fun other member => (types other member).source) source
  exact mem_commit_of_common bySource (fun other member => (sources other member).sourcePort)
    (List.mem_cons_of_mem _ (List.mem_singleton_self _))

end Rules

namespace MatchIndex

variable {generation : GenerationId} {listener : String}
  {descriptors : List FilterChainDescriptor} {builder : ChainBuilder}
  {previous : Option MatchIndex} {next : Nat} {index : MatchIndex}

/-- A socket that asks for a listed name selects the description that lists it. -/
theorem selects_of_listed
    (accepted : (build generation listener descriptors builder previous next).outcome = .ok index)
    (byName : ∀ descriptor ∈ descriptors, descriptor.criteria.IsByName)
    {descriptor : FilterChainDescriptor} (listed : descriptor ∈ descriptors) {socket : Socket}
    (named : socket.serverName ∈ descriptor.criteria.serverNames)
    (unstarred : '*' ∉ socket.serverName.toList) :
    index.Selects descriptors socket (some descriptor) := by
  have ruleListed : (slotByName socket.serverName socket.localAddress.ipOrPlaceholder
      socket.remoteAddress.ipOrPlaceholder, descriptor) ∈ rulesOf descriptors :=
    mem_rulesOf_iff.mpr ⟨listed, MatchCriteria.slotByName_mem (byName descriptor listed) named
      unstarred _ _⟩
  have rulesByName : (rulesOf descriptors).AreByName := by
    intro rule member
    obtain ⟨owner, own⟩ := mem_rulesOf_iff.mp member
    exact MatchCriteria.isByName_of_mem (byName rule.2 owner) own
  have left := Rules.mem_narrow_of_byName rulesByName ruleListed rfl
  rw [← selected_of_left (slots_nodup_of_accepted accepted) left]
  exact selects_selected accepted socket

/-- A listed name in the form that the inspector gives is reached by every ClientHello for it, however
it spells the name, in however many records and pieces it comes, and whatever else it offers. -/
theorem plain_names_reach_their_rules {σ : Type} {limit : Nat} {memory : σ}
    (accepted : (build generation listener descriptors builder previous next).outcome = .ok index)
    (byName : ∀ descriptor ∈ descriptors, descriptor.criteria.IsByName)
    {descriptor : FilterChainDescriptor} (listed : descriptor ∈ descriptors) {name : String}
    (named : name ∈ descriptor.criteria.serverNames) (unstarred : '*' ∉ name.toList)
    (plain : IsPlainHost name.toList)
    {message : Message} {host : List Char} (asks : message.body.host? = some host)
    (same : SameHost host name.toList)
    {records : List Record} {after rest : List UInt8}
    (written : records.flatMap (·.fragment.bytes) = message.encoded ++ after)
    (fits : (records.flatMap Record.encoded).length ≤ limit)
    {socket : Socket} (isOpen : socket.isOpen = true) {lengths : List Nat}
    (whole : lengths.getLast? = some (records.flatMap Record.encoded ++ rest).length) :
    let (pipeline, inspectedSocket) :=
      inspected limit memory socket (records.flatMap Record.encoded ++ rest) lengths
    pipeline.state = .completed ∧ inspectedSocket.isOpen = true ∧
      index.Selects descriptors inspectedSocket (some descriptor) := by
  rw [inspected_of_records isOpen written fits whole]
  have serverName : (socket.learn message.body.offer.findings).serverName = name := by
    unfold Socket.learn ClientHello.findings
    rw [Body.offer_serverName plain asks same]
    exact String.ofList_toList
  refine ⟨rfl, isOpen, ?_⟩
  refine selects_of_listed accepted byName listed ?_ ?_
  · rw [serverName]
    exact named
  · rw [serverName]
    exact unstarred

/-- One chain for two names and one for all names below a domain. -/
def namesBatch : List FilterChainDescriptor := [
  { FilterChainDescriptor.blank with
    name := "names"
    criteria := { MatchCriteria.anything with serverNames := ["b.test", "a.test"] } },
  { FilterChainDescriptor.blank with
    name := "domain"
    criteria := { MatchCriteria.anything with serverNames := ["*.test"] } }]

/-- The client writes the name in another case and with a dot at its end. -/
theorem plain_names_reach_their_rules_namesBatch :
    ∃ index,
      (build ⟨1⟩ "listener" namesBatch (BuildScript.builder ⟨none, false, []⟩) none
        1).outcome = .ok index ∧
      ∃ descriptor ∈ namesBatch, descriptor.name = "names" ∧
        index.Selects namesBatch
          (inspected 8192 () freshSocket (ClientHello.hostRecords.flatMap Record.encoded ++ [0xff])
            [3, 83]).2 (some descriptor) := by
  have isOk : (build ⟨1⟩ "listener" namesBatch (BuildScript.builder ⟨none, false, []⟩) none
      1).outcome.isOk = true := by decide +kernel
  obtain ⟨index, accepted⟩ := exists_ok_of_isOk isOk
  have plain : IsPlainHost "a.test".toList := ⟨by simp, by simp, by decide⟩
  have same : SameHost "A.test.".toList "a.test".toList := by decide +kernel
  have written : ClientHello.hostRecords.flatMap (·.fragment.bytes) =
      ClientHello.hostHello.encoded ++ [] := by decide +kernel
  have whole : [3, 83].getLast? =
      some (ClientHello.hostRecords.flatMap Record.encoded ++ [0xff]).length := by decide +kernel
  have reached : (inspected 8192 () freshSocket
        (ClientHello.hostRecords.flatMap Record.encoded ++ [0xff]) [3, 83]).1.state = .completed ∧
      (inspected 8192 () freshSocket
        (ClientHello.hostRecords.flatMap Record.encoded ++ [0xff]) [3, 83]).2.isOpen = true ∧
      index.Selects namesBatch (inspected 8192 () freshSocket
        (ClientHello.hostRecords.flatMap Record.encoded ++ [0xff]) [3, 83]).2 (some _) :=
    plain_names_reach_their_rules accepted (by decide) List.mem_cons_self
      (List.mem_cons_of_mem _ (List.mem_singleton_self _)) (by decide) plain (by decide) same written
      (by decide) rfl whole
  exact ⟨index, accepted, _, List.mem_cons_self, rfl, reached.2.2⟩

/-- One chain for one name. -/
def listing (name : String) : List FilterChainDescriptor := [
  { FilterChainDescriptor.blank with
    name := "web"
    criteria := { MatchCriteria.anything with serverNames := [name] } }]

/-- A socket after its ClientHello asked for `a.test`. -/
def askingSocket : Socket :=
  { freshSocket with
    transportProtocol := "tls"
    serverName := "a.test"
    applicationProtocols := ["h2"] }

private theorem hostRecords_inspected :
    (inspected 8192 () freshSocket (ClientHello.hostRecords.flatMap Record.encoded ++ [])
      [82]).2 = askingSocket := by
  have offer : ClientHello.hostHello.body.offer = ⟨some "a.test", ["h2"]⟩ := by decide +kernel
  have written : ClientHello.hostRecords.flatMap (·.fragment.bytes) =
      ClientHello.hostHello.encoded ++ [] := by decide +kernel
  rw [inspected_of_records rfl written (by decide) (by decide), offer]
  rfl

/-- Where the flat rules leave nothing, a look-up finds nothing. -/
theorem chain_eq_none_of_unselected
    (accepted : (build generation listener descriptors builder previous next).outcome = .ok index)
    {socket : Socket} (left : (selected descriptors socket).isNone = true) :
    (index.find socket).chain = none := by
  have selects := selects_selected accepted socket
  rw [Option.isNone_iff_eq_none.mp left] at selects
  exact selects

/-- A client asks for the host with a certain name, and finds no chain though one lists this name. -/
def IsMissed (name : String) : Prop :=
  SameHost "A.test.".toList name.toList ∧
  ∃ index,
    (build ⟨1⟩ "listener" (listing name) (BuildScript.builder ⟨none, false, []⟩) none
      1).outcome = .ok index ∧
    (index.find (inspected 8192 () freshSocket
      (ClientHello.hostRecords.flatMap Record.encoded ++ []) [82]).2).chain = none

private theorem isMissed_of_unselected {name : String}
    (alike : SameHost "A.test.".toList name.toList)
    (accepts : (build ⟨1⟩ "listener" (listing name) (BuildScript.builder ⟨none, false, []⟩) none
      1).outcome.isOk = true)
    (unselected : (selected (listing name) askingSocket).isNone = true) : IsMissed name := by
  obtain ⟨index, accepted⟩ := exists_ok_of_isOk accepts
  refine ⟨alike, index, accepted, ?_⟩
  rw [hostRecords_inspected]
  exact chain_eq_none_of_unselected accepted unselected

/-- A name with a capital letter, and one with a dot at its end, are not reached by a client that asks
for the host. -/
theorem other_names_are_not_reached :
    ClientHello.hostHello.body.host? = some "A.test.".toList ∧
      IsMissed "A.test" ∧ IsMissed "a.test." := by
  refine ⟨by decide, ?_, ?_⟩
  · exact isMissed_of_unselected (by decide +kernel) (by decide +kernel) (by decide +kernel)
  · exact isMissed_of_unselected (by decide +kernel) (by decide +kernel) (by decide +kernel)

end MatchIndex

end Admission.Chain
