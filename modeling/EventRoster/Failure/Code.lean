/-!
# Codes of failures

The words under which failures are counted and routed, whatever class of exception they come from.
-/

namespace EventRoster.Failure

/-- What a failure is about. -/
inductive Code
  | unknown
  | systemError
  | userCodeError
  | configurationInvalid
  | schemaMismatch
  | dataCorruption
  | validationFailed
  | networkError
  | timeout
  | unavailable
  | authenticationFailed
deriving DecidableEq, Repr

namespace Code

/-- The code in writing. -/
def name : Code → String
  | unknown => "UNKNOWN"
  | systemError => "SYSTEM_ERROR"
  | userCodeError => "USER_CODE_ERROR"
  | configurationInvalid => "CONFIGURATION_INVALID"
  | schemaMismatch => "SCHEMA_MISMATCH"
  | dataCorruption => "DATA_CORRUPTION"
  | validationFailed => "VALIDATION_FAILED"
  | networkError => "NETWORK_ERROR"
  | timeout => "TIMEOUT"
  | unavailable => "UNAVAILABLE"
  | authenticationFailed => "AUTHENTICATION_FAILED"

/-- All codes. -/
def every : List Code :=
  [unknown, systemError, userCodeError, configurationInvalid, schemaMismatch, dataCorruption,
    validationFailed, networkError, timeout, unavailable, authenticationFailed]

/-- The code of that name. -/
def ofName? (name : String) : Option Code :=
  every.find? (·.name = name)

end Code

end EventRoster.Failure
