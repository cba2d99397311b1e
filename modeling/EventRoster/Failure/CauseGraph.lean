import EventRoster.Failure.Verdict

/-!
# Causes as links

Exceptions refer to their causes, and nothing keeps such links from running in circles.  Here some
exceptions are given with, for each of them, the place of its cause among them; the failure behind
one of them is found by following the links.

An exception that is its own cause ends the walk.  A longer circle never ends, and has no failure.

What is asked of an exception is asked along the way to its root.  Each question is given a number of
steps, and has no answer within them if its walk is not at its end by then.  Two questions may be
answered before the root: the code of an exception that carries one, and a verdict that some exception
on the way decides.
-/

namespace EventRoster.Failure

/-- An exception and the place of its cause. -/
structure Linked where
  error : Raised
  cause : Option Nat
deriving DecidableEq

/-- Exceptions with links among them. -/
abbrev CauseGraph := List Linked

namespace CauseGraph

/-- The exceptions on the way from a place to its root, unless there are more than a number. -/
def walk (graph : CauseGraph) : Nat → Nat → Option (List Raised)
  | 0, _ => none
  | steps + 1, place =>
    match graph[place]? with
    | none => some []
    | some node =>
      match node.cause with
      | none => some [node.error]
      | some next =>
        if next = place then some [node.error]
        else (walk graph steps next).map (node.error :: ·)

/-- The exceptions on the way from a place to its root.  A way that is longer than the graph runs in
a circle. -/
def links? (graph : CauseGraph) (place : Nat) : Option (List Raised) :=
  walk graph (graph.length + 1) place

/-- The failure behind the exception at a place. -/
def failure? (graph : CauseGraph) (place : Nat) : Option Failure :=
  match links? graph place with
  | some (error :: causes) => some ⟨error, causes⟩
  | _ => none

/-- The exceptions on the way from a place to its root, the root first. -/
def rootFirst? (graph : CauseGraph) (steps place : Nat) : Option (List Raised) :=
  (walk graph steps place).map List.reverse

/-- What is found when the first exception of a class is looked for, counted from the root. -/
def find? (graph : CauseGraph) (kind : Kind) (steps place : Nat) : Option (Option Raised) :=
  (rootFirst? graph steps place).map (List.find? (·.isA kind))

/-- The code under which the exception at a place is reported.  An exception that carries one is
reported under it without a walk. -/
def classify? (graph : CauseGraph) (steps place : Nat) : Option Code :=
  match graph[place]? with
  | none => none
  | some node =>
    match node.error.code? with
    | some code => some code
    | none => (rootFirst? graph steps place).map fun errors =>
      (errors.findSome? (·.code?)).getD (hintedCode node.error.className)

/-- The first verdict on the way from a place to its root, which is no if none has one. -/
def ask (verdict : Raised → Option Bool) (graph : CauseGraph) : Nat → Nat → Option Bool
  | 0, _ => none
  | steps + 1, place =>
    match graph[place]? with
    | none => some false
    | some node =>
      match verdict node.error with
      | some answer => some answer
      | none =>
        match node.cause with
        | none => some false
        | some next => if next = place then some false else ask verdict graph steps next

/-- Exceptions of which each is caused by the next, and the last by itself if it is to be. -/
def chain (errors : List Raised) (closed : Bool) : CauseGraph :=
  errors.zipIdx.map fun (error, i) =>
    if i + 1 < errors.length then ⟨error, some (i + 1)⟩
    else ⟨error, if closed then some i else none⟩

end CauseGraph

end EventRoster.Failure
