import Admission.Proofs.Text.Utf8
import Admission.Proofs.Tls.Encoding

/-!
Contract: which streams are found to hold a ClientHello, and what it offers.

Each reader accepts exactly what the layer that it reads can be written as: one `iff` for a reader,
in the order in which they call each other.

Owns: `parse_eq_found_iff`.
-/

namespace Admission.Tls

namespace ClientHello

/-! ## Names -/

/-- The list is read up to its first host name, so that a list without one must be read to its end. -/
theorem firstHost_eq_some_iff {bytes : List UInt8} {host : Option String} :
    firstHost bytes = some host ↔
      ∃ names : NameList, names.encoded = bytes ∧ names.serverName = host := by
  constructor
  · intro read
    fun_induction firstHost bytes with
    | case1 => exact ⟨⟨[], none⟩, rfl, Option.some.inj read⟩
    | case2 => cases read
    | case3 rest name remaining taken =>
        obtain ⟨fits, rfl⟩ := takeBlock_eq_some_iff.mp taken
        obtain ⟨text, decoded, rfl⟩ := Option.map_eq_some_iff.mp read
        obtain rfl := Text.decodeUtf8?_eq_some_iff.mp decoded
        exact ⟨⟨[], some ⟨text, fits, remaining⟩⟩, rfl, rfl⟩
    | case4 kind rest name remaining taken foreign inductionHypothesis =>
        obtain ⟨fits, rfl⟩ := takeBlock_eq_some_iff.mp taken
        obtain ⟨⟨others, last⟩, rfl, rfl⟩ := inductionHypothesis read
        refine ⟨⟨⟨kind, ⟨name, fits⟩, foreign⟩ :: others, last⟩, ?_, rfl⟩
        simp [NameList.encoded, OtherName.encoded, Field.encoded]
  · rintro ⟨⟨others, last⟩, rfl, rfl⟩
    -- Reading passes over the entries of other kinds one by one.
    induction others with
    | nil =>
        cases last with
        | none =>
            rw [NameList.encoded, List.flatMap_nil, Option.elim_none, List.append_nil, firstHost]
            rfl
        | some host =>
            have taken : takeBlock 2 (block 2 (Text.encodeUtf8 host.text) ++ host.after) =
                some (Text.encodeUtf8 host.text, host.after) :=
              takeBlock_eq_some_iff.mpr ⟨host.fits, rfl⟩
            have decoded := Text.decodeUtf8?_eq_some_iff.mpr (Eq.refl (Text.encodeUtf8 host.text))
            rw [NameList.encoded, List.flatMap_nil, Option.elim_some, List.nil_append,
              HostName.encoded, firstHost, taken]
            dsimp only
            rw [if_pos rfl, decoded]
            rfl
    | cons entry others inductionHypothesis =>
        have taken : takeBlock 2 (entry.name.encoded ++ NameList.encoded ⟨others, last⟩) =
            some (entry.name.bytes, NameList.encoded ⟨others, last⟩) :=
          takeBlock_eq_some_iff.mpr ⟨entry.name.fits, rfl⟩
        have front : NameList.encoded ⟨entry :: others, last⟩ =
            entry.kind :: (entry.name.encoded ++ NameList.encoded ⟨others, last⟩) := by
          simp [NameList.encoded, OtherName.encoded]
        rw [front, firstHost, taken]
        dsimp only
        rw [if_neg entry.foreign]
        exact inductionHypothesis

private theorem serverNameOf_eq_some_iff {payload : List UInt8} (fits : payload.length < 256 ^ 2)
    {host : Option String} :
    serverNameOf payload = some host ↔
      ∃ (names : NameList) (after : List UInt8),
        block 2 names.encoded ++ after = payload ∧ names.serverName = host := by
  rw [serverNameOf, bind_takeBlock_eq_some_iff]
  constructor
  · rintro ⟨_, after, _, rfl, read⟩
    obtain ⟨names, rfl, rfl⟩ := firstHost_eq_some_iff.mp read
    exact ⟨names, after, rfl, rfl⟩
  · rintro ⟨names, after, rfl, rfl⟩
    exact ⟨names.encoded, after, lt_of_block_append_lt fits, rfl,
      firstHost_eq_some_iff.mpr ⟨names, rfl, rfl⟩⟩

private theorem protocolNames_eq_some_iff {bytes : List UInt8} {protocols : List String} :
    protocolNames bytes = some protocols ↔
      ∃ names : List (Field 1), names.flatMap Field.encoded = bytes ∧
        names.map Field.text = protocols := by
  constructor
  · intro read
    fun_induction protocolNames bytes generalizing protocols with
    | case1 => exact ⟨[], rfl, Option.some.inj read⟩
    | case2 => cases read
    | case3 length rest name remaining taken inductionHypothesis =>
        obtain ⟨others, readOthers, rfl⟩ := Option.map_eq_some_iff.mp read
        obtain ⟨names, rfl, rfl⟩ := inductionHypothesis readOthers
        obtain ⟨lengths, rfl⟩ := takeBytes_eq_some_iff.mp taken
        refine ⟨⟨name, lengths ▸ length.toNat_lt⟩ :: names, ?_, rfl⟩
        simp [Field.encoded, block, digits_one, lengths]
  · rintro ⟨names, rfl, rfl⟩
    induction names with
    | nil =>
        rw [List.flatMap_nil, protocolNames]
        rfl
    | cons name names inductionHypothesis =>
        have length : (UInt8.ofNat name.bytes.length).toNat = name.bytes.length :=
          UInt8.toNat_ofNat_of_lt' name.fits
        have taken : takeBytes (UInt8.ofNat name.bytes.length).toNat
            (name.bytes ++ names.flatMap Field.encoded) =
              some (name.bytes, names.flatMap Field.encoded) :=
          takeBytes_eq_some_iff.mpr ⟨length.symm, rfl⟩
        have front : (name :: names).flatMap Field.encoded =
            .ofNat name.bytes.length :: (name.bytes ++ names.flatMap Field.encoded) := by
          rw [List.flatMap_cons, Field.encoded, block, digits_one]
          rfl
        rw [front, protocolNames, taken]
        dsimp only
        rw [inductionHypothesis]
        rfl

private theorem protocolsOf_eq_some_iff {payload : List UInt8} (fits : payload.length < 256 ^ 2)
    {protocols : List String} :
    protocolsOf payload = some protocols ↔
      ∃ (names : List (Field 1)) (after : List UInt8),
        block 2 (names.flatMap Field.encoded) ++ after = payload ∧
        names.map Field.text = protocols := by
  rw [protocolsOf, bind_takeBlock_eq_some_iff]
  constructor
  · rintro ⟨_, after, _, rfl, read⟩
    obtain ⟨names, rfl, rfl⟩ := protocolNames_eq_some_iff.mp read
    exact ⟨names, after, rfl, rfl⟩
  · rintro ⟨names, after, rfl, rfl⟩
    exact ⟨names.flatMap Field.encoded, after, lt_of_block_append_lt fits, rfl,
      protocolNames_eq_some_iff.mpr ⟨names, rfl, rfl⟩⟩

/-! ## Extensions -/

/-- A ClientHello with what an extension says. -/
def told (hello : ClientHello) : Content → ClientHello
  | .serverName names _ => { hello with serverName := names.serverName }
  | .protocols names _ => { hello with applicationProtocols := names.map Field.text }
  | .other _ _ _ _ => hello

private theorem withExtension_eq_some_iff {hello after : ClientHello} {kind : Nat}
    {payload : List UInt8} (small : kind < 256 ^ 2) (fits : payload.length < 256 ^ 2) :
    hello.withExtension kind payload = some after ↔
      ∃ content : Content, content.kind = kind ∧ content.payload = payload ∧
        hello.told content = after := by
  constructor
  · intro read
    unfold withExtension at read
    split at read
    · rename_i isServerName
      obtain ⟨host, given, rfl⟩ := Option.map_eq_some_iff.mp read
      obtain ⟨names, rest, rfl, rfl⟩ := (serverNameOf_eq_some_iff fits).mp given
      exact ⟨.serverName names rest, isServerName.symm, rfl, rfl⟩
    · rename_i notServerName
      split at read
      · rename_i isProtocols
        obtain ⟨protocols, given, rfl⟩ := Option.map_eq_some_iff.mp read
        obtain ⟨names, rest, rfl, rfl⟩ := (protocolsOf_eq_some_iff fits).mp given
        exact ⟨.protocols names rest, isProtocols.symm, rfl, rfl⟩
      · rename_i notProtocols
        exact ⟨.other kind payload small ⟨notServerName, notProtocols⟩, rfl, rfl,
          Option.some.inj read⟩
  · rintro ⟨content, rfl, rfl, rfl⟩
    unfold withExtension
    cases content with
    | serverName names rest =>
        rw [Content.kind, if_pos rfl, (serverNameOf_eq_some_iff fits).mpr ⟨names, rest, rfl, rfl⟩]
        rfl
    | protocols names rest =>
        have different : protocolsType ≠ serverNameType := by decide
        rw [Content.kind, if_neg different, if_pos rfl,
          (protocolsOf_eq_some_iff fits).mpr ⟨names, rest, rfl, rfl⟩]
        rfl
    | other kind payload _ foreign =>
        rw [Content.kind, if_neg foreign.1, if_neg foreign.2]
        rfl

private theorem withExtensions_eq_bind {hello : ClientHello} {kind : Nat}
    {bytes afterKind payload remaining : List UInt8}
    (header : takeNumber 2 bytes = some (kind, afterKind))
    (taken : takeBlock 2 afterKind = some (payload, remaining)) :
    hello.withExtensions bytes =
      (hello.withExtension kind payload).bind (·.withExtensions remaining) := by
  cases bytes with
  | nil => cases header
  | cons byte rest =>
      rw [withExtensions, header]
      dsimp only
      rw [taken]

private theorem withExtensions_eq_some_iff {hello after : ClientHello} {bytes : List UInt8} :
    hello.withExtensions bytes = some after ↔
      ∃ extensions : List Extension, extensions.flatMap Extension.encoded = bytes ∧
        extensions.foldl (fun hello extension => hello.told extension.content) hello = after := by
  constructor
  · intro read
    fun_induction withExtensions hello bytes with
    | case1 hello => exact ⟨[], rfl, Option.some.inj read⟩
    | case2 => cases read
    | case3 => cases read
    | case4 hello byte rest kind afterKind header payload remaining taken inductionHypothesis =>
        obtain ⟨small, front⟩ := takeNumber_eq_some_iff.mp header
        obtain ⟨fits, rfl⟩ := takeBlock_eq_some_iff.mp taken
        obtain ⟨next, given, read⟩ := Option.bind_eq_some_iff.mp read
        obtain ⟨content, rfl, rfl, rfl⟩ := (withExtension_eq_some_iff small fits).mp given
        obtain ⟨extensions, rfl, rfl⟩ := inductionHypothesis _ read
        refine ⟨⟨content, fits⟩ :: extensions, ?_, rfl⟩
        rw [front, List.flatMap_cons, Extension.encoded, List.append_assoc]
  · rintro ⟨extensions, rfl, rfl⟩
    induction extensions generalizing hello with
    | nil =>
        rw [List.flatMap_nil, withExtensions]
        rfl
    | cons extension extensions inductionHypothesis =>
        have small := extension.content.kind_lt
        have taken : takeBlock 2 (block 2 extension.content.payload ++
            extensions.flatMap Extension.encoded) =
              some (extension.content.payload, extensions.flatMap Extension.encoded) :=
          takeBlock_eq_some_iff.mpr ⟨extension.fits, rfl⟩
        have header : takeNumber 2 ((extension :: extensions).flatMap Extension.encoded) =
            some (extension.content.kind, block 2 extension.content.payload ++
              extensions.flatMap Extension.encoded) := by
          rw [List.flatMap_cons, Extension.encoded, List.append_assoc]
          exact takeNumber_eq_some_iff.mpr ⟨small, rfl⟩
        have read : hello.withExtension extension.content.kind extension.content.payload =
            some (hello.told extension.content) :=
          (withExtension_eq_some_iff small extension.fits).mpr ⟨extension.content, rfl, rfl, rfl⟩
        rw [withExtensions_eq_bind header taken, read, Option.bind_some]
        exact inductionHypothesis

/-- Of each type the last extension counts. -/
theorem foldl_told (extensions : List Extension) :
    extensions.foldl (fun hello extension => hello.told extension.content) plain =
      Extension.offer extensions := by
  induction extensions using List.reverseRecOn with
  | nil => rfl
  | append_singleton extensions last inductionHypothesis =>
      rw [List.foldl_concat, inductionHypothesis]
      unfold Extension.offer
      rw [List.filterMap_append, List.filterMap_append]
      cases content : last.content with
      | serverName names after => simp [told, Content.serverNames?, Content.protocolNames?, content]
      | protocols names after => simp [told, Content.serverNames?, Content.protocolNames?, content]
      | other kind payload small foreign =>
          simp [told, Content.serverNames?, Content.protocolNames?, content]

/-! ## The message -/

/-- What is read at the end of a body: nothing, or a block of extensions. -/
theorem ofExtensions_eq_some_iff {bytes : List UInt8} {hello : ClientHello} :
    (if bytes.isEmpty then some plain
      else (takeBlock 2 bytes).bind fun (extensions, _) => plain.withExtensions extensions) =
        some hello ↔
      ∃ extensions : Option ExtensionBlock, extensions.elim [] ExtensionBlock.encoded = bytes ∧
        Extension.offer (extensions.elim [] (·.extensions)) = hello := by
  constructor
  · intro read
    split at read
    · rename_i empty
      exact ⟨none, (List.isEmpty_iff.mp empty).symm, Option.some.inj read⟩
    · obtain ⟨_, after, fits, rfl, given⟩ := bind_takeBlock_eq_some_iff.mp read
      obtain ⟨extensions, rfl, rfl⟩ := withExtensions_eq_some_iff.mp given
      exact ⟨some ⟨extensions, fits, after⟩, rfl, (foldl_told extensions).symm⟩
  · rintro ⟨extensions, rfl, rfl⟩
    cases extensions with
    | none => rfl
    | some extensions =>
        have filled : ¬extensions.encoded.isEmpty = true := by
          rw [List.isEmpty_iff, ← List.length_eq_zero_iff, ExtensionBlock.encoded,
            List.length_append, block_length]
          omega
        rw [Option.elim_some, if_neg filled]
        exact bind_takeBlock_eq_some_iff.mpr ⟨_, extensions.after, extensions.fits, rfl,
          withExtensions_eq_some_iff.mpr ⟨extensions.extensions, rfl, foldl_told _⟩⟩

private theorem ofBody_eq_some_iff {bytes : List UInt8} {hello : ClientHello} :
    ofBody bytes = some hello ↔ ∃ body : Body, body.encoded = bytes ∧ body.offer = hello := by
  have opened : ofBody bytes = some hello ↔ ∃ fixed afterFixed,
      takeBytes fixedLength bytes = some (fixed, afterFixed) ∧ ∃ sessionId afterSession,
      takeBlock 1 afterFixed = some (sessionId, afterSession) ∧ ∃ suites afterSuites,
      takeBlock 2 afterSession = some (suites, afterSuites) ∧ ∃ compression rest,
      takeBlock 1 afterSuites = some (compression, rest) ∧
      (if rest.isEmpty then some plain
        else (takeBlock 2 rest).bind fun (extensions, _) => plain.withExtensions extensions) =
          some hello := by
    simp only [ofBody, Option.bind_eq_bind, Option.bind_eq_some_iff, Prod.exists]
    rfl
  rw [opened]
  constructor
  · rintro ⟨fixed, _, takenFixed, sessionId, _, takenSession, suites, _, takenSuites, compression, _,
      takenCompression, read⟩
    obtain ⟨fixedLength, rfl⟩ := takeBytes_eq_some_iff.mp takenFixed
    obtain ⟨sessionFits, rfl⟩ := takeBlock_eq_some_iff.mp takenSession
    obtain ⟨suitesFit, rfl⟩ := takeBlock_eq_some_iff.mp takenSuites
    obtain ⟨compressionFits, rfl⟩ := takeBlock_eq_some_iff.mp takenCompression
    obtain ⟨extensions, rfl, rfl⟩ := ofExtensions_eq_some_iff.mp read
    have versionLength : (fixed.take 2).length = 2 := by
      rw [List.length_take, fixedLength]
      rfl
    have randomLength : (fixed.drop 2).length = 32 := by
      rw [List.length_drop, fixedLength]
      rfl
    refine ⟨{
      version := ⟨(fixed.take 2).toArray, versionLength⟩
      random := ⟨(fixed.drop 2).toArray, randomLength⟩
      sessionId := ⟨sessionId, sessionFits⟩
      cipherSuites := ⟨suites, suitesFit⟩
      compression := ⟨compression, compressionFits⟩
      extensions := extensions }, ?_, rfl⟩
    simp [Body.encoded, Field.encoded, List.append_assoc]
  · rintro ⟨body, rfl, rfl⟩
    have fixed : (body.version.toList ++ body.random.toList).length = fixedLength := by
      rw [List.length_append, Vector.length_toList, Vector.length_toList]
      rfl
    have layout : body.encoded = (body.version.toList ++ body.random.toList) ++
        (body.sessionId.encoded ++ (body.cipherSuites.encoded ++ (body.compression.encoded ++
          body.extensions.elim [] ExtensionBlock.encoded))) := by
      simp only [Body.encoded, List.append_assoc]
    rw [layout]
    exact ⟨_, _, takeBytes_eq_some_iff.mpr ⟨fixed, rfl⟩,
      body.sessionId.bytes, _, takeBlock_eq_some_iff.mpr ⟨body.sessionId.fits, rfl⟩,
      body.cipherSuites.bytes, _, takeBlock_eq_some_iff.mpr ⟨body.cipherSuites.fits, rfl⟩,
      body.compression.bytes, _, takeBlock_eq_some_iff.mpr ⟨body.compression.fits, rfl⟩,
      ofExtensions_eq_some_iff.mpr ⟨body.extensions, rfl, rfl⟩⟩

theorem ofHandshake_eq_found_iff {joined : List UInt8} {hello : ClientHello} :
    ofHandshake joined = some (.found hello) ↔
      ∃ (message : Message) (after : List UInt8), message.encoded ++ after = joined ∧
        message.body.offer = hello := by
  constructor
  · intro read
    cases joined with
    | nil => cases read
    | cons kind rest =>
        unfold ofHandshake at read
        dsimp only at read
        split at read
        · cases read
        · rename_i isHello
          split at read
          · cases read
          · rename_i bytes after taken
            split at read
            · rename_i found given
              obtain ⟨fits, rfl⟩ := takeBlock_eq_some_iff.mp taken
              obtain ⟨body, rfl, rfl⟩ := ofBody_eq_some_iff.mp given
              obtain rfl := Decidable.not_not.mp isHello
              rw [Option.some.injEq, Verdict.found.injEq] at read
              exact ⟨⟨body, fits⟩, after, rfl, read⟩
            · cases read
  · rintro ⟨message, after, rfl, rfl⟩
    have taken : takeBlock 3 (block 3 message.body.encoded ++ after) =
        some (message.body.encoded, after) := takeBlock_eq_some_iff.mpr ⟨message.fits, rfl⟩
    have given : ofBody message.body.encoded = some message.body.offer :=
      ofBody_eq_some_iff.mpr ⟨message.body, rfl, rfl⟩
    rw [Message.encoded, List.cons_append, ofHandshake, if_neg (not_not_intro rfl), taken]
    dsimp only
    rw [given]

/-- A verdict on the message stands with whatever bytes come after it. -/
theorem ofHandshake_append {joined : List UInt8} {verdict : Verdict}
    (known : ofHandshake joined = some verdict) (more : List UInt8) :
    ofHandshake (joined ++ more) = some verdict := by
  cases joined with
  | nil => cases known
  | cons kind rest =>
      unfold ofHandshake at known ⊢
      dsimp only [List.cons_append] at known ⊢
      split
      · rename_i other
        rw [if_pos other] at known
        exact known
      · rename_i isHello
        rw [if_neg isHello] at known
        split at known
        · cases known
        · rename_i body after taken
          obtain ⟨fits, rfl⟩ := takeBlock_eq_some_iff.mp taken
          have longer : takeBlock 3 (block 3 body ++ after ++ more) = some (body, after ++ more) :=
            takeBlock_eq_some_iff.mpr ⟨fits, List.append_assoc _ _ _⟩
          rw [longer]
          exact known

/-! ## Records -/

theorem nextRecord_eq_fragment_iff {stream bytes rest : List UInt8} :
    nextRecord stream = .fragment bytes rest ↔
      ∃ record : Record, record.encoded ++ rest = stream ∧ record.fragment.bytes = bytes := by
  constructor
  · intro split
    cases stream with
    | nil => cases split
    | cons kind afterKind =>
        by_cases foreign : kind ≠ 0x16
        · simp only [nextRecord, if_pos foreign] at split
          cases split
        obtain rfl := Decidable.not_not.mp foreign
        -- Without a whole header there is no fragment.
        rcases afterKind with _ | ⟨major, _ | ⟨minor, _ | ⟨high, _ | ⟨low, payload⟩⟩⟩⟩
        iterate 4
          cases split
        simp only [nextRecord, if_neg foreign] at split
        by_cases alien : major ≠ 3
        · rw [if_pos alien] at split
          cases split
        rw [if_neg alien] at split
        obtain rfl := Decidable.not_not.mp alien
        cases taken : takeBytes (bigEndian [high, low]) payload with
        | none =>
            rw [taken] at split
            cases split
        | some parts =>
            obtain ⟨front, after⟩ := parts
            rw [taken] at split
            cases front with
            | nil => cases split
            | cons first front =>
                obtain ⟨rfl, rfl⟩ := RecordStep.fragment.inj split
                obtain ⟨length, rfl⟩ := takeBytes_eq_some_iff.mp taken
                have fits : (first :: front).length < 256 ^ 2 := by
                  rw [length]
                  exact bigEndian_lt [high, low]
                have digits : Digest.bigEndian 2 (first :: front).length = [high, low] := by
                  rw [length]
                  exact digits_bigEndian [high, low]
                refine ⟨⟨minor, ⟨first :: front, fits⟩, List.cons_ne_nil _ _⟩, ?_, rfl⟩
                rw [Record.encoded, Field.encoded, block, digits]
                rfl
  · rintro ⟨⟨minor, ⟨bytes, fits⟩, filled⟩, rfl, rfl⟩
    have length : bigEndian [.ofNat (bytes.length / 256), .ofNat bytes.length] = bytes.length := by
      rw [← digits_two, bigEndian_digits, Nat.mod_eq_of_lt fits]
    have taken : takeBytes (bigEndian [.ofNat (bytes.length / 256), .ofNat bytes.length])
        (bytes ++ rest) = some (bytes, rest) := takeBytes_eq_some_iff.mpr ⟨length.symm, rfl⟩
    rw [Record.encoded, Field.encoded, block, digits_two]
    simp only [nextRecord, List.cons_append, List.nil_append, ne_eq, not_true_eq_false, if_false,
      taken]
    cases bytes with
    | nil => exact absurd rfl filled
    | cons first bytes => rfl

/-- With joined fragments that give no verdict yet, a stream is found to hold what the message says
that its records complete. -/
theorem joinRecords_eq_found_iff {joined stream : List UInt8} {hello : ClientHello}
    (unknown : ofHandshake joined = none) :
    joinRecords joined stream = .found hello ↔
      ∃ (message : Message) (records : List Record) (after rest : List UInt8),
        records.flatMap Record.encoded ++ rest = stream ∧
        joined ++ records.flatMap (·.fragment.bytes) = message.encoded ++ after ∧
        message.body.offer = hello := by
  constructor
  · intro found
    fun_induction joinRecords joined stream with
    | case1 => cases found
    | case2 => cases found
    | case3 => cases found
    | case4 => cases found
    | case5 joined stream bytes rest split verdict known =>
        obtain ⟨record, rfl, rfl⟩ := nextRecord_eq_fragment_iff.mp split
        rw [found] at known
        obtain ⟨message, after, whole, offers⟩ := ofHandshake_eq_found_iff.mp known
        refine ⟨message, [record], after, rest, ?_, ?_, offers⟩
        · rw [List.flatMap_singleton]
        · rw [List.flatMap_singleton, whole]
    | case6 joined stream bytes rest split incomplete inductionHypothesis =>
        obtain ⟨record, rfl, rfl⟩ := nextRecord_eq_fragment_iff.mp split
        obtain ⟨message, records, after, left, rfl, whole, offers⟩ :=
          inductionHypothesis incomplete found
        refine ⟨message, record :: records, after, left, ?_, ?_, offers⟩
        · rw [List.flatMap_cons, List.append_assoc]
        · rw [List.flatMap_cons, ← List.append_assoc, whole]
  · rintro ⟨message, records, after, rest, rfl, whole, offers⟩
    have complete := ofHandshake_eq_found_iff.mpr ⟨message, after, rfl, offers⟩
    rw [← whole] at complete
    -- A verdict before the last record would be the verdict on all of them.
    induction records generalizing joined with
    | nil =>
        rw [List.flatMap_nil, List.append_nil, unknown] at complete
        cases complete
    | cons record records inductionHypothesis =>
        rw [List.flatMap_cons, ← List.append_assoc] at complete whole
        have split : nextRecord ((record :: records).flatMap Record.encoded ++ rest) =
            .fragment record.fragment.bytes (records.flatMap Record.encoded ++ rest) :=
          nextRecord_eq_fragment_iff.mpr ⟨record, by rw [List.flatMap_cons, List.append_assoc], rfl⟩
        rw [joinRecords, split]
        dsimp only
        cases known : ofHandshake (joined ++ record.fragment.bytes) with
        | none => exact inductionHypothesis known whole complete
        | some verdict =>
            rw [ofHandshake_append known] at complete
            exact Option.some.inj complete

/-- A stream is found to hold a ClientHello exactly if it starts with records whose fragments, put
together, start with a message as its layers are written, and what it is found to offer is the offer
of this message. -/
theorem parse_eq_found_iff (stream : List UInt8) (hello : ClientHello) :
    parse stream = .found hello ↔
      ∃ (message : Message) (records : List Record) (after rest : List UInt8),
        records.flatMap Record.encoded ++ rest = stream ∧
        records.flatMap (·.fragment.bytes) = message.encoded ++ after ∧
        message.body.offer = hello :=
  joinRecords_eq_found_iff rfl

/-- A message that names a host in another case and with a dot at its end. -/
def hostHello : Message where
  body := {
    version := Vector.replicate 2 3
    random := Vector.replicate 32 0
    sessionId := ⟨[], by decide⟩
    cipherSuites := ⟨[0x00, 0x2F], by decide⟩
    compression := ⟨[0x00], by decide⟩
    extensions := some {
      extensions := [
        ⟨.serverName ⟨[], some ⟨['A', '.', 't', 'e', 's', 't', '.'], by decide, []⟩⟩ [], by decide⟩,
        ⟨.protocols [⟨[0x68, 0x32], by decide⟩] [], by decide⟩]
      fits := by decide
      after := [] } }
  fits := by decide

/-- A message that offers the empty name before HTTP/2. -/
def emptyFirstHello : Message where
  body := {
    version := Vector.replicate 2 3
    random := Vector.replicate 32 0
    sessionId := ⟨[], by decide⟩
    cipherSuites := ⟨[], by decide⟩
    compression := ⟨[], by decide⟩
    extensions := some {
      extensions := [⟨.protocols [⟨[], by decide⟩, ⟨[0x68, 0x32], by decide⟩] [], by decide⟩]
      fits := by decide
      after := [] } }
  fits := by decide

/-- The first message in two records. -/
def hostRecords : List Record := [
  ⟨1, ⟨hostHello.encoded.take 20, by decide⟩, by decide⟩,
  ⟨1, ⟨hostHello.encoded.drop 20, by decide⟩, by decide⟩]

theorem parse_eq_found_iff_hostRecords :
    parse (hostRecords.flatMap Record.encoded) = .found ⟨some "a.test", ["h2"]⟩ := by
  have joined : hostRecords.flatMap (·.fragment.bytes) = hostHello.encoded ++ [] := by decide
  have offers : hostHello.body.offer = ⟨some "a.test", ["h2"]⟩ := by decide +kernel
  exact (parse_eq_found_iff _ _).mpr
    ⟨hostHello, hostRecords, [], [], List.append_nil _, joined, offers⟩

end ClientHello

end Admission.Tls
