import EventRoster.Failure.Basic
import EventRoster.Json.Write

/-!
# Settings of a connection

How the wide-column database is reached, and where the table of subscriptions is.  Settings are plain
values; `Settings.validate` tells apart those that can never connect.
-/

namespace EventRoster

open EventRoster.Failure

/-- The table of subscriptions unless another is named. -/
def defaultTable : String := "subscription"

/-- Ten seconds, the patience of a connection unless another is set. -/
def defaultTimeout : Number.Binary64 :=
  .ofIntRatio 10 1

/-- How the database is reached. -/
structure Settings where
  hosts : List String := ["127.0.0.1"]
  port : Int := 9042
  keyspace : Option String := some "databus"
  table : Option String := some defaultTable
  localDc : Option String := none
  username : Option String := none
  password : Option String := none
  connectTimeout : Scalar := .float defaultTimeout
deriving DecidableEq

namespace Settings

instance : Inhabited Settings := ⟨{}⟩

/-- What connections to one cluster have in common. -/
structure ClusterKey where
  hosts : List String
  port : Int
  localDc : Option String
  username : Option String
deriving DecidableEq, Repr

/-- What the connections to a cluster are told apart by. -/
def clusterKey (s : Settings) : ClusterKey :=
  ⟨s.hosts, s.port, s.localDc, s.username⟩

/-- What is wrong with some settings. -/
inductive Fault
  | noHost
  | badPort (port : Int)
  | noKeyspace
  | noTable
  | badTimeout (timeout : Scalar)
  | timeoutNotANumber
  | halfCredentials
deriving DecidableEq

/-- The failure that a fault of the settings is. -/
def Fault.failure : Fault → Failure
  | noHost => .ofRaised (.configuration "At least one Cassandra host is required" none)
  | badPort port => .ofRaised (.configuration s!"Invalid Cassandra port: {Number.intText port}" none)
  | noKeyspace => .ofRaised (.configuration "Cassandra keyspace is required" none)
  | noTable => .ofRaised (.configuration "Subscription table name is required" none)
  | badTimeout timeout =>
    .ofRaised (.configuration s!"Invalid connect timeout: {timeout.toJson.spelled}" none)
  | timeoutNotANumber => .ofRaised (.ofStandard .typeError "the connect timeout is not a number")
  | halfCredentials =>
    .ofRaised (.configuration "Cassandra username and password must be set together" none)

/-- Whether a scalar is at most zero, if it is a number.  Truth values are the numbers one and zero. -/
def nonpositive? : Scalar → Option Bool
  | .int n => some (n ≤ 0)
  | .float x => some x.isNonpositive
  | .bool b => some !b
  | .null | .text _ => none

/-- Whether a name is missing or empty. -/
def isBlank (name : Option String) : Bool :=
  name.getD "" == ""

/-- The first fault of the settings. -/
def fault? (s : Settings) : Option Fault :=
  if s.hosts.isEmpty then some .noHost
  else if s.port ≤ 0 then some (.badPort s.port)
  else if isBlank s.keyspace then some .noKeyspace
  else if isBlank s.table then some .noTable
  else
    match nonpositive? s.connectTimeout with
    | none => some .timeoutNotANumber
    | some true => some (.badTimeout s.connectTimeout)
    | some false =>
      if s.username.isNone != s.password.isNone then some .halfCredentials else none

/-- Refuses settings that can never connect. -/
def validate (s : Settings) : Except Failure Unit :=
  match s.fault? with
  | none => .ok ()
  | some fault => .error fault.failure

/-- Settings that may connect. -/
def checked (s : Settings) : Except Failure Settings :=
  match s.fault? with
  | none => .ok s
  | some fault => .error fault.failure

/-- Some text or its absence, in quotes, as messages show it. -/
def shownText : Option String → String
  | some s => Text.quoted s
  | none => "None"

/-- Hosts as messages show them: in parentheses, with a comma after a single one. -/
def shownHosts : List String → String
  | [host] => s!"({Text.quoted host},)"
  | hosts => "(" ++ ", ".intercalate (hosts.map fun host : String => Text.quoted host) ++ ")"

/-- The settings as messages show them, without the password. -/
def text (s : Settings) : String :=
  s!"CassandraConfig(hosts={shownHosts s.hosts}, port={Number.intText s.port}, " ++
    s!"keyspace={shownText s.keyspace}, table={shownText s.table}, " ++
    s!"local_dc={shownText s.localDc}, username={shownText s.username}, " ++
    s!"connect_timeout={s.connectTimeout.toJson.spelled})"

end Settings

end EventRoster
