/-!
# Classes of exceptions

A failure is an exception of some class, and what is done about it depends on the class: whether it
is worth a retry, and which code it is reported under.  Three families of classes meet here: the
registry's own, those of the wide-column database's client, and the standard ones that either may
raise or wrap.

Every class but the root is a kind of one other class.  `Kind.isA` follows that relation, and
classes are told apart by what they are, never by their names: an unrelated class may carry the name
of a standard one.
-/

namespace EventRoster.Failure

/-- The classes of the registry itself. -/
inductive Own
  | registryBaseException
  | registryError
  | transientError
  | permanentError
  | configurationError
  | schemaResolutionError
  | filterParseError
  | corruptRecordError
  | missingFieldError
deriving DecidableEq, Repr

/-- The classes of the database's client. -/
inductive Client
  | driverException
  | requestExecutionException
  | unavailable
  | timeout
  | readTimeout
  | writeTimeout
  | coordinationFailure
  | readFailure
  | writeFailure
  | functionFailure
  | cdcWriteFailure
  | requestValidationException
  | configurationException
  | alreadyExists
  | invalidRequest
  | unauthorized
  | authenticationFailed
  | operationTimedOut
  | unsupportedOperation
  | noHostAvailable
deriving DecidableEq, Repr

/-- The standard classes. -/
inductive Standard
  | baseException
  | exception
  | generatorExit
  | keyboardInterrupt
  | systemExit
  | arithmeticError
  | assertionError
  | attributeError
  | bufferError
  | eofError
  | importError
  | lookupError
  | memoryError
  | nameError
  | osError
  | referenceError
  | runtimeError
  | stopAsyncIteration
  | stopIteration
  | syntaxError
  | systemError
  | typeError
  | valueError
  | warning
  | blockingIOError
  | bytesWarning
  | childProcessError
  | connectionError
  | deprecationWarning
  | encodingWarning
  | fileExistsError
  | fileNotFoundError
  | floatingPointError
  | futureWarning
  | importWarning
  | indentationError
  | indexError
  | interruptedError
  | isADirectoryError
  | keyError
  | moduleNotFoundError
  | notADirectoryError
  | notImplementedError
  | overflowError
  | pendingDeprecationWarning
  | permissionError
  | processLookupError
  | recursionError
  | resourceWarning
  | runtimeWarning
  | syntaxWarning
  | timeoutError
  | unboundLocalError
  | unicodeError
  | unicodeWarning
  | userWarning
  | zeroDivisionError
  | brokenPipeError
  | connectionAbortedError
  | connectionRefusedError
  | connectionResetError
  | tabError
  | unicodeDecodeError
  | unicodeEncodeError
  | unicodeTranslateError
  | gaierror
  | herror
  | jsonDecodeError
deriving DecidableEq, Repr

/-- The name of the class. -/
def Own.name : Own → String
  | registryBaseException => "RegistryBaseException"
  | registryError => "RegistryError"
  | transientError => "TransientError"
  | permanentError => "PermanentError"
  | configurationError => "ConfigurationError"
  | schemaResolutionError => "SchemaResolutionError"
  | filterParseError => "FilterParseError"
  | corruptRecordError => "CorruptRecordError"
  | missingFieldError => "MissingFieldError"

/-- The name of the class. -/
def Client.name : Client → String
  | driverException => "DriverException"
  | requestExecutionException => "RequestExecutionException"
  | unavailable => "Unavailable"
  | timeout => "Timeout"
  | readTimeout => "ReadTimeout"
  | writeTimeout => "WriteTimeout"
  | coordinationFailure => "CoordinationFailure"
  | readFailure => "ReadFailure"
  | writeFailure => "WriteFailure"
  | functionFailure => "FunctionFailure"
  | cdcWriteFailure => "CDCWriteFailure"
  | requestValidationException => "RequestValidationException"
  | configurationException => "ConfigurationException"
  | alreadyExists => "AlreadyExists"
  | invalidRequest => "InvalidRequest"
  | unauthorized => "Unauthorized"
  | authenticationFailed => "AuthenticationFailed"
  | operationTimedOut => "OperationTimedOut"
  | unsupportedOperation => "UnsupportedOperation"
  | noHostAvailable => "NoHostAvailable"

/-- The name of the class. -/
def Standard.name : Standard → String
  | baseException => "BaseException"
  | exception => "Exception"
  | generatorExit => "GeneratorExit"
  | keyboardInterrupt => "KeyboardInterrupt"
  | systemExit => "SystemExit"
  | arithmeticError => "ArithmeticError"
  | assertionError => "AssertionError"
  | attributeError => "AttributeError"
  | bufferError => "BufferError"
  | eofError => "EOFError"
  | importError => "ImportError"
  | lookupError => "LookupError"
  | memoryError => "MemoryError"
  | nameError => "NameError"
  | osError => "OSError"
  | referenceError => "ReferenceError"
  | runtimeError => "RuntimeError"
  | stopAsyncIteration => "StopAsyncIteration"
  | stopIteration => "StopIteration"
  | syntaxError => "SyntaxError"
  | systemError => "SystemError"
  | typeError => "TypeError"
  | valueError => "ValueError"
  | warning => "Warning"
  | blockingIOError => "BlockingIOError"
  | bytesWarning => "BytesWarning"
  | childProcessError => "ChildProcessError"
  | connectionError => "ConnectionError"
  | deprecationWarning => "DeprecationWarning"
  | encodingWarning => "EncodingWarning"
  | fileExistsError => "FileExistsError"
  | fileNotFoundError => "FileNotFoundError"
  | floatingPointError => "FloatingPointError"
  | futureWarning => "FutureWarning"
  | importWarning => "ImportWarning"
  | indentationError => "IndentationError"
  | indexError => "IndexError"
  | interruptedError => "InterruptedError"
  | isADirectoryError => "IsADirectoryError"
  | keyError => "KeyError"
  | moduleNotFoundError => "ModuleNotFoundError"
  | notADirectoryError => "NotADirectoryError"
  | notImplementedError => "NotImplementedError"
  | overflowError => "OverflowError"
  | pendingDeprecationWarning => "PendingDeprecationWarning"
  | permissionError => "PermissionError"
  | processLookupError => "ProcessLookupError"
  | recursionError => "RecursionError"
  | resourceWarning => "ResourceWarning"
  | runtimeWarning => "RuntimeWarning"
  | syntaxWarning => "SyntaxWarning"
  | timeoutError => "TimeoutError"
  | unboundLocalError => "UnboundLocalError"
  | unicodeError => "UnicodeError"
  | unicodeWarning => "UnicodeWarning"
  | userWarning => "UserWarning"
  | zeroDivisionError => "ZeroDivisionError"
  | brokenPipeError => "BrokenPipeError"
  | connectionAbortedError => "ConnectionAbortedError"
  | connectionRefusedError => "ConnectionRefusedError"
  | connectionResetError => "ConnectionResetError"
  | tabError => "TabError"
  | unicodeDecodeError => "UnicodeDecodeError"
  | unicodeEncodeError => "UnicodeEncodeError"
  | unicodeTranslateError => "UnicodeTranslateError"
  | gaierror => "gaierror"
  | herror => "herror"
  | jsonDecodeError => "JSONDecodeError"

/-- The class that a class is a kind of, within the same family. -/
def Own.parent? : Own → Option Own
  | registryBaseException => none
  | registryError => some registryBaseException
  | transientError | permanentError => some registryError
  | configurationError | schemaResolutionError | filterParseError | corruptRecordError => some permanentError
  | missingFieldError => some corruptRecordError

/-- The class that a class is a kind of, within the same family. -/
def Client.parent? : Client → Option Client
  | driverException | noHostAvailable => none
  | requestExecutionException | requestValidationException | authenticationFailed
  | operationTimedOut | unsupportedOperation => some driverException
  | unavailable | timeout | coordinationFailure | functionFailure | cdcWriteFailure => some requestExecutionException
  | readTimeout | writeTimeout => some timeout
  | readFailure | writeFailure => some coordinationFailure
  | configurationException | invalidRequest | unauthorized => some requestValidationException
  | alreadyExists => some configurationException

/-- The class that a class is a kind of, within the same family. -/
def Standard.parent? : Standard → Option Standard
  | baseException => none
  | exception | generatorExit | keyboardInterrupt | systemExit => some baseException
  | arithmeticError | assertionError | attributeError | bufferError | eofError
  | importError | lookupError | memoryError | nameError | osError | referenceError
  | runtimeError | stopAsyncIteration | stopIteration | syntaxError | systemError
  | typeError | valueError | warning => some exception
  | blockingIOError | childProcessError | connectionError | fileExistsError
  | fileNotFoundError | interruptedError | isADirectoryError | notADirectoryError
  | permissionError | processLookupError | timeoutError | gaierror | herror => some osError
  | bytesWarning | deprecationWarning | encodingWarning | futureWarning | importWarning
  | pendingDeprecationWarning | resourceWarning | runtimeWarning | syntaxWarning
  | unicodeWarning | userWarning => some warning
  | floatingPointError | overflowError | zeroDivisionError => some arithmeticError
  | indentationError => some syntaxError
  | indexError | keyError => some lookupError
  | moduleNotFoundError => some importError
  | notImplementedError | recursionError => some runtimeError
  | unboundLocalError => some nameError
  | unicodeError | jsonDecodeError => some valueError
  | brokenPipeError | connectionAbortedError | connectionRefusedError
  | connectionResetError => some connectionError
  | tabError => some indentationError
  | unicodeDecodeError | unicodeEncodeError | unicodeTranslateError => some unicodeError

/-- All classes of the family. -/
def Own.every : List Own :=
  [.registryBaseException, .registryError, .transientError, .permanentError, .configurationError,
    .schemaResolutionError, .filterParseError, .corruptRecordError, .missingFieldError]

/-- All classes of the family. -/
def Client.every : List Client :=
  [.driverException, .requestExecutionException, .unavailable, .timeout, .readTimeout,
    .writeTimeout, .coordinationFailure, .readFailure, .writeFailure, .functionFailure,
    .cdcWriteFailure, .requestValidationException, .configurationException, .alreadyExists,
    .invalidRequest, .unauthorized, .authenticationFailed, .operationTimedOut,
    .unsupportedOperation, .noHostAvailable]

/-- All classes of the family. -/
def Standard.every : List Standard :=
  [.baseException, .exception, .generatorExit, .keyboardInterrupt, .systemExit, .arithmeticError,
    .assertionError, .attributeError, .bufferError, .eofError, .importError, .lookupError,
    .memoryError, .nameError, .osError, .referenceError, .runtimeError, .stopAsyncIteration,
    .stopIteration, .syntaxError, .systemError, .typeError, .valueError, .warning,
    .blockingIOError, .bytesWarning, .childProcessError, .connectionError, .deprecationWarning,
    .encodingWarning, .fileExistsError, .fileNotFoundError, .floatingPointError, .futureWarning,
    .importWarning, .indentationError, .indexError, .interruptedError, .isADirectoryError,
    .keyError, .moduleNotFoundError, .notADirectoryError, .notImplementedError, .overflowError,
    .pendingDeprecationWarning, .permissionError, .processLookupError, .recursionError,
    .resourceWarning, .runtimeWarning, .syntaxWarning, .timeoutError, .unboundLocalError,
    .unicodeError, .unicodeWarning, .userWarning, .zeroDivisionError, .brokenPipeError,
    .connectionAbortedError, .connectionRefusedError, .connectionResetError, .tabError,
    .unicodeDecodeError, .unicodeEncodeError, .unicodeTranslateError, .gaierror, .herror,
    .jsonDecodeError]

/-- A class of exceptions. -/
inductive Kind
  | own (o : Own)
  | client (c : Client)
  | standard (s : Standard)
deriving DecidableEq, Repr

namespace Kind

/-- The name of the class. -/
def name : Kind → String
  | own o => o.name
  | client c => c.name
  | standard s => s.name

/-- The class that a class is a kind of.  The families of the registry and of the client stand under
the standard class of all exceptions. -/
def parent? : Kind → Option Kind
  | own o => some ((o.parent?.map own).getD (standard .exception))
  | client c => some ((c.parent?.map client).getD (standard .exception))
  | standard s => s.parent?.map standard

/-- The class and those above it, up to a number of steps. -/
def climb : Nat → Kind → List Kind
  | 0, k => [k]
  | steps + 1, k =>
    match k.parent? with
    | none => [k]
    | some p => k :: climb steps p

/-- The class and all classes that it is a kind of, itself first.  No class is more than seven steps
below the root. -/
def lineage (k : Kind) : List Kind :=
  climb 7 k

/-- Whether every exception of one class is one of the other. -/
def isA (k other : Kind) : Bool :=
  k.lineage.contains other

/-- All classes. -/
def every : List Kind :=
  Own.every.map own ++ Client.every.map client ++ Standard.every.map standard

/-- The class of a name.  Two names of old stand for the class of operating system errors. -/
def ofName? (name : String) : Option Kind :=
  if name = "IOError" ∨ name = "EnvironmentError" then some (standard .osError)
  else every.find? (·.name = name)

@[simp] theorem isA_self (k : Kind) : k.isA k = true := by
  rw [isA, lineage, climb]
  split <;> simp

end Kind

end EventRoster.Failure
