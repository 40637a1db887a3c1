import Admission.Chain.Registry
import Admission.Report.Failure

/-!
Contract: filter chains, their generations and the outcomes of updates as JSON. Chains are listed
by identity, whatever the order of their batch.
-/

namespace Admission.Report

open Admission.Json Admission.Chain

def listOf (toValue : α → Value) (items : List α) : Value := .array (items.map toValue)

def chainPair (chain : FilterChain) : Value :=
  .array [.ofNat chain.id.value, .string chain.name]

def chainsOf (index : MatchIndex) : List FilterChain :=
  (index.chains.map (·.2)).mergeSort fun x y => x.id.value ≤ y.id.value

/-- A generation with its chains. -/
def index (index : MatchIndex) : Value :=
  .ofMembers [
    ("generation", .ofNat index.generation.value),
    ("listener", .string index.listener),
    ("len", .ofNat index.size),
    ("is_empty", .bool (index.size == 0)),
    ("reused", .ofNat index.reused),
    ("ids", .ofNat index.chainIds.eraseDups.length),
    ("chains", listOf chainPair (chainsOf index))]

/-- The number of a generation, or null. -/
def generation (index : Option MatchIndex) : Value :=
  .ofOption (fun index => .ofNat index.generation.value) index

def chainIds (ids : List FilterChainId) : Value := listOf (fun id => .ofNat id.value) ids

def activation (activation : Activation) : List (String × Value) := [
  ("generation", .ofNat activation.generation.value),
  ("previous", .ofOption (fun previous => .ofNat previous.value) activation.previous),
  ("removed", chainIds activation.removed)]

def updateOutcome (listener : String) : Except ConfigError UpdateOutcome → List (String × Value)
  | .error error => configError listener error
  | .ok (.activated swap) => ("outcome", .string "activated") :: activation swap
  | .ok (.warming generation outstanding) => [
      ("outcome", .string "warming"),
      ("generation", .ofNat generation.value),
      ("pending_targets", .ofNat outstanding)]

/-- The chain that a look-up selects, and how often the locality of the peer was checked. -/
def selection (selection : MatchIndex.Selection) : Value :=
  .ofMembers [
    ("chain", .ofOption chainPair selection.chain),
    ("local_checks", .ofNat selection.localityChecks)]

/-- A successful look-up in a registry. -/
def lookupMatch (found : LookupMatch) : Value :=
  .ofMembers [
    ("id", .ofNat found.chain.id.value),
    ("name", .string found.chain.name),
    ("generation", .ofNat found.index.generation.value)]

end Admission.Report
