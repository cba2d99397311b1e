import EventRoster.Condition.Written
import EventRoster.Time.Instant
import EventRoster.Time.Lifetime

/-!
# Subscriptions

A subscription is a named interest in the events that meet a condition, held by an owner until some
time.  The expiry in it is a hint for its readers; when a stored subscription is dropped is for the
store to decide.
-/

namespace EventRoster

/-- A registered interest in events. -/
structure Subscription where
  name : String
  condition : Condition
  /-- When the subscription is meant to end, in milliseconds since the beginning of 1970. -/
  expiresAt : Int
  /-- How long the events delivered to it are kept. -/
  eventTtl : Duration
  /-- Who holds the subscription, if that is known. -/
  owner : Option Text := none

namespace Subscription

/-- Whether two subscriptions are the same: their conditions by their literals, all else by value. -/
def same (a b : Subscription) : Bool :=
  a.name == b.name && a.condition == b.condition && a.expiresAt == b.expiresAt &&
    a.eventTtl == b.eventTtl && a.owner == b.owner

instance : BEq Subscription := ⟨same⟩

/-- When the subscription is meant to end, as an instant. -/
def expiry (s : Subscription) : Except Failure Instant :=
  (Instant.ofMillis s.expiresAt).mapError Instant.Fault.failure

/-- Whether the expiry hint has passed. -/
def isExpired (s : Subscription) (now : Int) : Bool :=
  s.expiresAt ≤ now

/-- The subscription that is registered at some time for some lifetime.  The hint is the requested
lifetime in whole milliseconds, whatever the store makes of it; how long events are kept is brought
into range. -/
def register (now : Int) (owner : Option Text) (name : String) (condition : Condition)
    (lifetime eventTtl : Duration) : Subscription :=
  { name, condition, owner
    expiresAt := now + lifetime.wholeMillis
    eventTtl := Lifetime.clamp eventTtl }

end Subscription

end EventRoster
