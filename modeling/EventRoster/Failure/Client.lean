import EventRoster.Failure.Kind
import EventRoster.Json.Write

/-!
# What the database's client tells

Exceptions about too few replicas or responses tell, behind their message, what is known of those:
the consistency that was asked for, and how many were needed and came.  An exception that was raised
before anything came knows of nothing.  A few other exceptions are worded by what they are made from
instead of a message.
-/

namespace EventRoster.Failure.Client

/-- The consistency of a request, where it is not known. -/
def noConsistency : Json :=
  .text "Not Set"

/-- What an exception of a class knows of the replicas and their responses when nothing has come. -/
def account : Client → Json.Members
  | unavailable =>
    [("consistency", noConsistency), ("required_replicas", .null), ("alive_replicas", .null)]
  | timeout | readTimeout =>
    [("consistency", noConsistency), ("required_responses", .null), ("received_responses", .null)]
  | writeTimeout =>
    [("consistency", noConsistency), ("required_responses", .null), ("received_responses", .null),
      ("write_type", .text "SIMPLE")]
  | coordinationFailure | readFailure | writeFailure =>
    [("consistency", noConsistency), ("required_responses", .null), ("received_responses", .null),
      ("failures", .null)]
  | _ => []

/-- A message with an account behind it, if there is one. -/
def withAccount (message : String) (account : Json.Members) : String :=
  if account.isEmpty then message else message ++ " info=" ++ (Json.object account).spelled

/-- The text of an exception about a keyspace, or a table in it, that is there already. -/
def existing (keyspace : String) : Option String → String
  | some table => s!"Table '{keyspace}.{table}' already exists"
  | none => s!"Keyspace '{keyspace}' already exists"

/-- The text of an exception that was made from one text.  That text is the message, unless the class
has no messages: then it is the keyspace, or what went wrong with the hosts. -/
def text (c : Client) (message : String) : String :=
  match c with
  | alreadyExists => existing message none
  | operationTimedOut => s!"errors={message}, last_host=None"
  | noHostAvailable => s!"({Text.quoted message}, " ++ (Json.object []).spelled ++ ")"
  | c => withAccount message c.account

end EventRoster.Failure.Client
