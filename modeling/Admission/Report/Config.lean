import Admission.Report.Chain

/-!
Contract: listener files and the settings of a process and of a listener as JSON.
-/

namespace Admission.Report

open Admission.Json Admission.Chain Admission.Listener Admission.Config

def listenerConfig (config : ListenerConfig σ) : Value :=
  .ofMembers [
    ("name", .string config.name),
    ("address", .string config.address.text),
    ("timeout_ms", .ofNat config.filterTimeout),
    ("continue_on_timeout", .bool config.continueOnTimeout),
    ("buffer_limit", .ofNat config.bufferLimit),
    ("filters", .ofStrings (config.filters.map (·.name)))]

/-- The settings that a listener file describes, or why it describes none. -/
def describedConfig (file : ListenerFile) : Value :=
  match file.listenerConfig () with
  | .ok config => listenerConfig config
  | .error error => .ofMembers (configError file.name error)

def listenerFile (file : ListenerFile) : Value :=
  .ofMembers [
    ("name", .string file.name),
    ("address", .string file.address.text),
    ("listener_filters", listOf FactoryConfig.toJson file.listenerFilters),
    ("listener_filters_timeout_ms", .ofNat file.filterTimeout),
    ("continue_on_listener_filters_timeout", .bool file.continueOnTimeout),
    ("per_connection_buffer_limit_bytes", .ofNat file.bufferLimit),
    ("filter_chains", listOf FilterChainDescriptor.toJson file.filterChains),
    ("config", describedConfig file)]

def environment (settings : Environment) : Value :=
  .ofMembers [
    ("config_file", .string settings.configFile),
    ("reload_interval_ms", .ofNat settings.reloadInterval),
    ("log_level", .string settings.logLevel)]

end Admission.Report
