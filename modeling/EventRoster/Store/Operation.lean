import EventRoster.Failure.Basic
import EventRoster.Subscription

/-!
# Operations on stores

What is asked of a store of subscriptions, and what it answers.  Both kinds of stores understand the
same operations, so that their answers can be compared.
-/

namespace EventRoster.Store

/-- A subscription to be put into a store. -/
structure Registration where
  owner : Option Text
  name : String
  condition : Condition
  lifetime : Duration
  eventTtl : Duration

/-- The subscription that is registered at some time. -/
def Registration.subscription (r : Registration) (now : Int) : Subscription :=
  .register now r.owner r.name r.condition r.lifetime r.eventTtl

/-- What a listing shows of each subscription. -/
inductive Selection
  | subscriptions
  | names
deriving DecidableEq, Repr

/-- What is asked of a store. -/
inductive Operation
  | insert (r : Registration)
  | delete (name : String)
  | get (name : String)
  | list (what : Selection)

/-- An entry of a listing. -/
inductive Item
  | subscription (s : Subscription)
  | name (n : String)

/-- The entries of a listing, and the failure that ended it before its end. -/
structure Listing where
  items : List Item
  stopped : Option Failure

/-- What a store answers. -/
inductive Answer
  | done
  | found (s : Option Subscription)
  | listed (l : Listing)

/-- What a listing shows of a subscription. -/
def Selection.show (s : Subscription) : Selection → Item
  | subscriptions => .subscription s
  | names => .name s.name

/-- The next entry of a listing that is read step by step, if there is one, and what comes after. -/
structure Pull (Cursor : Type) where
  rest : Cursor
  outcome : Except Failure (Option Item)

end EventRoster.Store
