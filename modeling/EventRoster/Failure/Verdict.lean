import EventRoster.Failure.Basic
import EventRoster.Text.LowerCase

/-!
# What to do about a failure

Three questions are asked of a failure: under which code it is reported, whether it may pass when the
operation is tried again, and whether it is certain not to.

The last two are answered by the exception nearest to the failure that decides them.  The code is the
one that the failure itself carries; if it carries none, the one nearest to the root; and if there is
none at all, the name of the exception's class is taken for a hint.
-/

namespace EventRoster.Failure

/-! ## Retries -/

/-- The foreign classes that stand for a passing trouble. -/
def passing : List Kind :=
  [.client .noHostAvailable, .client .operationTimedOut, .client .timeout, .client .unavailable,
    .client .coordinationFailure, .standard .connectionError, .standard .timeoutError,
    .standard .gaierror]

/-- The foreign classes that stand for a fault of the program or of its data. -/
def lasting : List Kind :=
  [.standard .valueError, .standard .typeError, .standard .keyError]

/-- Whether an exception has a number of the operating system that stands for a passing trouble. -/
def Raised.hasRetriedErrno : Raised → Bool
  | .own _ => false
  | .foreign e =>
    match e.errno with
    | some n => Errno.retried.contains n
    | none => false

/-- What one exception says about a retry; most say nothing. -/
def Raised.transience (e : Raised) : Option Bool :=
  if e.isA (.own .transientError) then some true
  else if e.isA (.own .permanentError) then some false
  else if passing.any e.isA then some true
  else if e.isA (.standard .osError) && e.hasRetriedErrno then some true
  else none

/-- What one exception says about permanence; most say nothing. -/
def Raised.permanence (e : Raised) : Option Bool :=
  if e.isA (.own .permanentError) then some true
  else if e.isA (.own .transientError) then some false
  else if lasting.any e.isA then some true
  else none

/-- The first verdict along some exceptions, which is no if none has one. -/
def decided (verdict : Raised → Option Bool) (links : List Raised) : Bool :=
  (links.findSome? verdict).getD false

/-- Whether the failure may pass when the operation is tried again. -/
def isTransient (f : Failure) : Bool :=
  decided Raised.transience f.links

/-- Whether the failure is certain not to pass. -/
def isPermanent (f : Failure) : Bool :=
  decided Raised.permanence f.links

/-! ## Codes -/

/-- Parts of class names and the codes that they hint at, in the order in which they are tried. -/
def hints : List (Code × List String) :=
  [(.timeout, ["timeout", "timedout"]),
    (.unavailable, ["unavailable", "nohost"]),
    (.networkError, ["connection", "network", "socket", "dns"]),
    (.authenticationFailed, ["authentication", "authorization", "unauthorized", "permission"]),
    (.validationFailed, ["validation", "invalid", "parse"]),
    (.configurationInvalid, ["config", "setting", "environment"])]

/-- The code that the name of a class hints at. -/
def hintedCode (className : String) : Code :=
  let name := Text.lower className.toList
  match hints.find? fun (_, parts) => parts.any fun part => Text.occursIn part.toList name with
  | some (code, _) => code
  | none => .unknown

/-- The code under which the failure is reported. -/
def classify (f : Failure) : Code :=
  match f.error.code? with
  | some code => code
  | none => (f.rootFirst.findSome? (·.code?)).getD (hintedCode f.error.className)

/-- A failure with a code of its own is reported under it. -/
theorem classify_of_code? {f : Failure} {code : Code} (h : f.error.code? = some code) :
    f.classify = code := by
  simp [classify, h]

end EventRoster.Failure
