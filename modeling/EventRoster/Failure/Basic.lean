import EventRoster.Failure.Raised

/-!
# Failures

A failure is an exception and, behind it, the exceptions that it was raised from: its direct cause
first, the root of the trouble last.
-/

namespace EventRoster

/-- An exception with its causes. -/
structure Failure where
  error : Failure.Raised
  causes : List Failure.Raised
deriving DecidableEq

namespace Failure

/-- An exception that was raised from no other. -/
def ofRaised (error : Raised) : Failure :=
  ⟨error, []⟩

/-- An exception raised from a failure. -/
def raisedFrom (error : Raised) (cause : Failure) : Failure :=
  ⟨error, cause.error :: cause.causes⟩

/-- The exception and its causes, from it to the root. -/
def links (f : Failure) : List Raised :=
  f.error :: f.causes

/-- The causes and the exception, from the root to it. -/
def rootFirst (f : Failure) : List Raised :=
  f.links.reverse

/-- The place, counted from the root, of the first exception of a class. -/
def findIdx? (f : Failure) (kind : Kind) : Option Nat :=
  f.rootFirst.findIdx? (·.isA kind)

/-- The first exception of a class, counted from the root. -/
def find? (f : Failure) (kind : Kind) : Option Raised :=
  f.rootFirst.find? (·.isA kind)

@[simp] theorem links_ne_nil (f : Failure) : f.links ≠ [] := by simp [links]

@[simp] theorem links_raisedFrom (error : Raised) (cause : Failure) :
    (raisedFrom error cause).links = error :: cause.links := rfl

end Failure

end EventRoster
