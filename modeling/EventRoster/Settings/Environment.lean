import EventRoster.Settings
import EventRoster.Settings.Text
import EventRoster.Text.Blank
import EventRoster.Text.Cut

/-!
# Settings from the environment

Each setting has a variable.  A variable that is not set leaves the default; one that is set to
nothing leaves the default of a number, clears what may be absent, and is an empty name elsewhere.
The settings that result are validated.
-/

namespace EventRoster

/-- The variables that are set, with their values. -/
abbrev Environment := List (String × String)

namespace Settings

/-- The variable of a setting. -/
def envName (setting : String) : String :=
  "SUBREGISTRY_CASSANDRA_" ++ setting

/-- The value of a setting's variable, if it is set. -/
def value? (env : Environment) (setting : String) : Option String :=
  env.lookup (envName setting)

/-- The value of a setting's variable, if it is set to something. -/
def filled? (env : Environment) (setting : String) : Option String :=
  (value? env setting).filter (· ≠ "")

/-- The hosts in a list with commas, without blanks around them and without those that are blank. -/
def splitHosts (text : String) : List String :=
  ((Text.splitAt ',' text.toList).map fun host => String.ofList (Text.trim host)).filter (· ≠ "")

/-- The port that the environment sets. -/
def portFrom (env : Environment) : Except Failure Int :=
  match filled? env "PORT" with
  | none => .ok ({} : Settings).port
  | some text => (readInt text).mapError
      (blaming (envName "PORT" ++ s!" must be an integer, got {Text.quoted text}"))

/-- The timeout that the environment sets. -/
def timeoutFrom (env : Environment) : Except Failure Scalar :=
  match filled? env "CONNECT_TIMEOUT" with
  | none => .ok ({} : Settings).connectTimeout
  | some text => ((readFloat text).map Scalar.float).mapError
      (blaming (envName "CONNECT_TIMEOUT" ++ s!" must be a number, got {Text.quoted text}"))

/-- The settings that the environment makes, before validation. -/
def gather (env : Environment) : Except Failure Settings := do
  let port ← portFrom env
  let connectTimeout ← timeoutFrom env
  let defaults : Settings := {}
  pure
    { hosts := ((value? env "HOSTS").map splitHosts).getD defaults.hosts
      port
      keyspace := (value? env "KEYSPACE").or defaults.keyspace
      table := (value? env "TABLE").or defaults.table
      localDc := filled? env "LOCAL_DC"
      username := filled? env "USERNAME"
      password := filled? env "PASSWORD"
      connectTimeout }

/-- The settings that the environment makes. -/
def ofEnvironment (env : Environment) : Except Failure Settings := do
  let settings ← gather env
  settings.checked

end Settings

end EventRoster
