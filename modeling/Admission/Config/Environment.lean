import Admission.Text.Utf8

/-!
Contract: the settings of the process, which come from environment variables.

Owns:
- the names of the variables, the defaults, and the least period between looks at the listener
  file;
- the reading of a whole number, and the faults of the settings with their messages.
-/

namespace Admission.Config

/-- The variable that holds the path of the listener file. -/
def configFileVariable : String := "PORTCULLIS_CONFIG_FILE"

/-- The variable that holds the period between looks at the listener file, in milliseconds. -/
def reloadIntervalVariable : String := "PORTCULLIS_RELOAD_INTERVAL_MS"

def logLevelVariable : String := "PORTCULLIS_LOG_LEVEL"

/-- The period between looks at the listener file if none is set, in milliseconds. -/
def defaultReloadInterval : Nat := 2000

/-- The least period between looks at the listener file, in milliseconds. -/
def minReloadInterval : Nat := 100

def defaultLogLevel : String := "info"

/-- Why a text is no whole number of 64 bits. -/
inductive NumberFault where
  | empty
  | invalidDigit
  | tooLarge
  deriving DecidableEq, Repr

def NumberFault.message : NumberFault → String
  | empty => "cannot parse integer from empty string"
  | invalidDigit => "invalid digit found in string"
  | tooLarge => "number too large to fit in target type"

/-- Why there are no settings. -/
inductive EnvironmentError where
  | missingFile
  | badInterval (fault : NumberFault)
  deriving DecidableEq, Repr

namespace EnvironmentError

/-- What is wrong with the settings. -/
def message : EnvironmentError → String
  | missingFile => s!"Missing listener file. Set {configFileVariable}."
  | badInterval _ => s!"{reloadIntervalVariable} must be an integer (milliseconds)."

/-- The faults behind it, outermost first. -/
def causes : EnvironmentError → List String
  | missingFile => []
  | badInterval fault => [fault.message]

end EnvironmentError

/-- The settings of the process. -/
structure Environment where
  configFile : String
  /-- In milliseconds. -/
  reloadInterval : Nat
  logLevel : String
  deriving DecidableEq, Repr

namespace Environment

/-- Reads decimal digits after a number below 2^64. The first fault counts. -/
def readDigits (value : Nat) : List Char → Except NumberFault Nat
  | [] => .ok value
  | c :: rest =>
      if c.isDigit then
        let next := 10 * value + (c.toNat - 48)
        if next < 0x10000000000000000 then readDigits next rest else .error .tooLarge
      else .error .invalidDigit

/-- Reads a whole number below 2^64; a plus sign may stand in front of its digits. -/
def readNumber : List Char → Except NumberFault Nat
  | [] => .error .empty
  | ['+'] => .error .invalidDigit
  | '+' :: digits => readDigits 0 digits
  | digits => readDigits 0 digits

/-- The settings in variables; of what is wrong, a missing file comes first. -/
def ofVariables (lookup : String → Option String) : Except EnvironmentError Environment :=
  match lookup configFileVariable with
  | none => .error .missingFile
  | some configFile =>
      let logLevel := (lookup logLevelVariable).getD defaultLogLevel
      match (lookup reloadIntervalVariable).map fun text => readNumber text.toList with
      | some (.error fault) => .error (.badInterval fault)
      | some (.ok interval) => .ok ⟨configFile, max interval minReloadInterval, logLevel⟩
      | none => .ok ⟨configFile, defaultReloadInterval, logLevel⟩

/-- The settings in variables with bytes as values. A value that is no UTF-8 counts as unset. -/
def ofBytes (lookup : String → Option (List UInt8)) : Except EnvironmentError Environment :=
  ofVariables fun name => ((lookup name).bind Text.decodeUtf8?).map String.ofList

end Environment

end Admission.Config
