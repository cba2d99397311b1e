import EventRoster.Failure.Client
import EventRoster.Failure.Code
import EventRoster.Failure.Errno
import EventRoster.Number.Written
import EventRoster.Scalar
import EventRoster.Text.Quoted

/-!
# Exceptions

An exception as it is raised, without what it was raised from.  The registry's own exceptions have a
number, a code and details of their own; of all others only the class, the text, and sometimes a
number of the operating system or a code are known.

The text of an own exception is its message, its number unless that is zero, and the text of the
exception that it was made for.
-/

namespace EventRoster.Failure

namespace Own

/-- The number that exceptions of a class have unless they are given another. -/
def number : Own → Int
  | registryBaseException => 0
  | registryError => 100
  | transientError => 101
  | permanentError => 102
  | configurationError => 104
  | schemaResolutionError => 110
  | filterParseError => 120
  | corruptRecordError => 130
  | missingFieldError => 131

/-- The code that exceptions of a class have unless they are given another. -/
def code : Own → Code
  | registryBaseException => .unknown
  | registryError => .systemError
  | transientError => .networkError
  | permanentError => .userCodeError
  | configurationError => .configurationInvalid
  | schemaResolutionError => .schemaMismatch
  | filterParseError => .validationFailed
  | corruptRecordError | missingFieldError => .dataCorruption

end Own

/-- What an own exception carries beside its message. -/
inductive Detail
  | plain
  | retry (after : Scalar)
  | location (keyspace table : Option String)
  | source (text : Text) (position : Int)
  | record (subscription : String)
  | field (subscription field : String)
deriving DecidableEq

/-- The class and the text of the exception that another one was made for. -/
structure Mention where
  className : String
  text : String
deriving DecidableEq, Repr

/-- An exception of the registry. -/
structure OwnError where
  className : String
  kind : Own
  message : String
  number : Int
  override : Option Code
  cause : Option Mention
  detail : Detail
deriving DecidableEq

namespace OwnError

/-- The code of the exception. -/
def code (e : OwnError) : Code :=
  e.override.getD e.kind.code

/-- The text of the exception. -/
def text (e : OwnError) : String :=
  e.message ++ (if e.number = 0 then "" else s!" (code={Number.intText e.number})") ++
    match e.cause with
    | none => ""
    | some cause => " caused by: " ++ cause.text

end OwnError

/-- An exception that is none of the registry's. -/
structure ForeignError where
  className : String
  kind : Kind
  text : String
  errno : Option Nat
  code : Option Code
deriving DecidableEq, Repr

/-- An exception. -/
inductive Raised
  | own (e : OwnError)
  | foreign (e : ForeignError)
deriving DecidableEq

namespace Raised

/-- The name of the exception's class. -/
def className : Raised → String
  | own e => e.className
  | foreign e => e.className

/-- The class of the exception, or the nearest known one that its class is a kind of. -/
def kind : Raised → Kind
  | own e => .own e.kind
  | foreign e => e.kind

/-- The text of the exception. -/
def text : Raised → String
  | own e => e.text
  | foreign e => e.text

/-- The code that the exception carries. -/
def code? : Raised → Option Code
  | own e => some e.code
  | foreign e => e.code

/-- Whether the exception is one of a class. -/
def isA (e : Raised) (kind : Kind) : Bool :=
  e.kind.isA kind

/-- The exception as another one mentions it. -/
def mention (e : Raised) : Mention :=
  ⟨e.className, e.text⟩

/-- The exception with a code put on it. -/
def withCode (code : Code) : Raised → Raised
  | own e => own { e with override := some code }
  | foreign e => foreign { e with code := some code }

/-- An own exception of a class without anything special about it. -/
def ofOwn (kind : Own) (message : String) (detail : Detail) (cause : Option Mention) : Raised :=
  own { className := kind.name, kind, message, number := kind.number, override := none, cause, detail }

/-- The text of a foreign exception with a message: exceptions of the client are worded by it, and
exceptions about keys show the key in quotes. -/
def foreignText (kind : Kind) (message : String) : String :=
  match kind with
  | .client c => c.text message
  | kind => if kind.isA (.standard .keyError) then EventRoster.Text.quoted message else message

/-- A foreign exception of a class and a message. -/
def ofKind (kind : Kind) (message : String) : Raised :=
  foreign { className := kind.name, kind, text := foreignText kind message, errno := none, code := none }

/-- A standard exception. -/
def ofStandard (standard : Standard) (message : String) : Raised :=
  ofKind (.standard standard) message

/-- The client was to make a keyspace, or a table in it, that is there already. -/
def alreadyExists (keyspace : String) (table : Option String) : Raised :=
  foreign
    { className := Client.alreadyExists.name
      kind := .client .alreadyExists
      text := Client.existing keyspace table
      errno := none
      code := none }

instance : Inhabited Raised := ⟨ofStandard .exception ""⟩

/-- An operating system error with a number. -/
def ofErrno (number : Nat) (message : String) : Raised :=
  foreign
    { className := (Errno.classOf number).name
      kind := .standard (Errno.classOf number)
      text := s!"[Errno {number}] {message}"
      errno := some number
      code := none }

/-- The settings cannot work. -/
def configuration (message : String) (cause : Option Mention) : Raised :=
  ofOwn .configurationError message .plain cause

/-- The table is missing or unfit. -/
def schema (message : String) (keyspace table : Option String) (cause : Option Mention) : Raised :=
  ofOwn .schemaResolutionError message (.location keyspace table) cause

/-- A text is no condition. -/
def parse (message : String) (text : Text) (position : Int) : Raised :=
  ofOwn .filterParseError
    s!"{message} at position {Number.intText position}: {EventRoster.Text.quoted text}"
    (.source text position) none

/-- A stored record cannot be read. -/
def corrupt (message subscription : String) (cause : Option Mention) : Raised :=
  ofOwn .corruptRecordError s!"Subscription {EventRoster.Text.quoted subscription}: {message}"
    (.record subscription) cause

/-- A stored record lacks a field. -/
def missingField (field subscription : String) : Raised :=
  ofOwn .missingFieldError
    (s!"Subscription {EventRoster.Text.quoted subscription}: " ++
      s!"missing required field {EventRoster.Text.quoted field}")
    (.field subscription field) none

@[simp] theorem kind_ofOwn (kind : Own) (message : String) (detail : Detail) (cause : Option Mention) :
    (ofOwn kind message detail cause).kind = .own kind := rfl

@[simp] theorem code?_ofOwn (kind : Own) (message : String) (detail : Detail) (cause : Option Mention) :
    (ofOwn kind message detail cause).code? = some kind.code := rfl

end Raised

end EventRoster.Failure
