import Admission.Chain.Descriptor
import Admission.Proofs.Json.Canonical
import Mathlib.Data.List.Forall2

/-!
Contract: which descriptions have one key.

Owns:
- `FilterChainDescriptor.Alike`, by which descriptions are compared field by field;
- `CollisionFree`, the assumption on the digest, made of the texts in question only;
- `reuseKey_eq_iff`.
-/

namespace Admission.Chain

open Admission.Json

/-! ## Bytes -/

private theorem encodeUtf8_injective : Function.Injective Text.encodeUtf8 := by
  intro left right same
  have bytes : left.utf8Encode = right.utf8Encode := congrArg List.toByteArray same
  rw [← String.toByteArray_ofList, ← String.toByteArray_ofList, String.toByteArray_inj] at bytes
  exact String.ofList_injective bytes

/-- No two of some texts have one digest. -/
def CollisionFree (texts : Set (List UInt8)) : Prop :=
  ∀ left ∈ texts, ∀ right ∈ texts, Digest.sha256Hex left = Digest.sha256Hex right → left = right

/-! ## Descriptions -/

/-- One factory, with one configuration as it is written, in whatever order the keys came. -/
structure FactoryConfig.Alike (left right : FactoryConfig) : Prop where
  name : left.name = right.name
  config : left.config.spelling = right.config.spelling

namespace FilterChainDescriptor

/-- Equal criteria and, field by field, one content. -/
structure Alike (left right : FilterChainDescriptor) : Prop where
  criteria : left.criteria = right.criteria
  name : left.name = right.name
  transportSocket : left.transportSocket.Alike right.transportSocket
  filters : List.Forall₂ FactoryConfig.Alike left.filters right.filters
  connectTimeout : left.transportSocketConnectTimeout = right.transportSocketConnectTimeout

/-- The bytes that the fingerprint is the digest of. -/
def contentBytes (descriptor : FilterChainDescriptor) : List UInt8 :=
  Text.encodeUtf8 descriptor.content.chars

private theorem content_eq (descriptor : FilterChainDescriptor) :
    descriptor.content = .object [
      ("filters", .array (descriptor.filters.map FactoryConfig.toJson)),
      ("name", .string descriptor.name),
      ("transport_socket", descriptor.transportSocket.toJson),
      ("transport_socket_connect_timeout_ms",
        .ofOption .ofNat descriptor.transportSocketConnectTimeout)] := by
  have sorted : "filters" < "name" ∧ ¬ "transport_socket" < "name" ∧
      ¬ "transport_socket_connect_timeout_ms" < "filters" ∧
      ¬ "transport_socket_connect_timeout_ms" < "name" ∧
      ¬ "transport_socket_connect_timeout_ms" < "transport_socket" := by decide
  have distinct : "filters" ≠ "name" := by decide
  simp [content, contentMembers, Value.ofMembers, Value.insertMember, sorted, distinct]

end FilterChainDescriptor

private theorem FactoryConfig.toJson_eq (factory : FactoryConfig) :
    factory.toJson = .object [("config", factory.config), ("name", .string factory.name)] := by
  have sorted : "config" < "name" := by decide
  simp [toJson, Value.ofMembers, Value.insertMember, sorted]

private theorem FactoryConfig.alike_iff {left right : FactoryConfig} :
    left.Alike right ↔ left.toJson.spelling = right.toJson.spelling := by
  rw [toJson_eq, toJson_eq]
  simp only [Value.spelling, spellMembers]
  constructor
  · rintro ⟨name, config⟩
    rw [name, config]
  · intro same
    simp only [Spelling.object.injEq, List.cons.injEq, Prod.mk.injEq, true_and, and_true,
      Spelling.string.injEq] at same
    exact ⟨same.2, same.1⟩

private theorem factories_alike_iff {left right : List FactoryConfig} :
    List.Forall₂ FactoryConfig.Alike left right ↔
      spellItems (left.map FactoryConfig.toJson) = spellItems (right.map FactoryConfig.toJson) := by
  induction left generalizing right with
  | nil => cases right <;> simp [spellItems]
  | cons factory left inductionHypothesis =>
      cases right with
      | nil => simp [spellItems]
      | cons other right =>
          rw [List.forall₂_cons, inductionHypothesis, FactoryConfig.alike_iff]
          simp [spellItems]

private theorem timeout_eq_iff {left right : Option Nat} :
    left = right ↔
      (Value.ofOption .ofNat left).spelling = (Value.ofOption .ofNat right).spelling := by
  constructor
  · intro same
    rw [same]
  · intro same
    cases left with
    | none =>
        cases right with
        | none => rfl
        | some n => exact absurd same (by simp [Value.ofOption, Value.ofNat, Value.spelling])
    | some m =>
        cases right with
        | none => exact absurd same (by simp [Value.ofOption, Value.ofNat, Value.spelling])
        | some n =>
            have texts : (toString (m : Int)).toList = (toString (n : Int)).toList :=
              Spelling.number.inj same
            have digits : Nat.toDigits 10 m = Nat.toDigits 10 n := by
              have written : (Nat.repr m).toList = (Nat.repr n).toList := texts
              simpa [Nat.repr_eq_ofList_toDigits] using written
            have numbers := congrArg (Nat.ofDigitChars 10 · 0) digits
            simp only [Nat.ofDigitChars_ten_toDigits] at numbers
            rw [numbers]

namespace FilterChainDescriptor

/-- Descriptions are alike exactly if they have equal criteria and one text of their content. -/
theorem alike_iff {left right : FilterChainDescriptor} :
    left.Alike right ↔ left.criteria = right.criteria ∧ left.contentBytes = right.contentBytes := by
  have contents : left.content.spelling = right.content.spelling ↔
      left.contentBytes = right.contentBytes := by
    rw [spelling_eq_iff]
    exact encodeUtf8_injective.eq_iff.symm
  rw [← contents, content_eq, content_eq]
  simp only [Value.spelling, spellMembers, Spelling.object.injEq, List.cons.injEq, Prod.mk.injEq,
    true_and, and_true, Spelling.string.injEq, Spelling.array.injEq]
  rw [← factories_alike_iff, ← FactoryConfig.alike_iff, ← timeout_eq_iff]
  constructor
  · rintro ⟨criteria, name, transportSocket, filters, connectTimeout⟩
    exact ⟨criteria, filters, name, transportSocket, connectTimeout⟩
  · rintro ⟨criteria, filters, name, transportSocket, connectTimeout⟩
    exact ⟨criteria, name, transportSocket, filters, connectTimeout⟩

/-- Descriptions have one key exactly if they are alike, where the digest has no collisions. -/
theorem reuseKey_eq_iff {texts : Set (List UInt8)} (collisionFree : CollisionFree texts)
    {left right : FilterChainDescriptor} (leftText : left.contentBytes ∈ texts)
    (rightText : right.contentBytes ∈ texts) :
    left.reuseKey = right.reuseKey ↔ left.Alike right := by
  rw [alike_iff, reuseKey, reuseKey, ReuseKey.mk.injEq]
  constructor
  · rintro ⟨criteria, fingerprints⟩
    exact ⟨criteria, collisionFree _ leftText _ rightText fingerprints⟩
  · rintro ⟨criteria, bytes⟩
    exact ⟨criteria, congrArg Digest.sha256Hex bytes⟩

end FilterChainDescriptor

end Admission.Chain
