import EventRoster.Action.Basic
import EventRoster.Shelf
import EventRoster.Store.Operation

/-!
# The store in memory

Each subscription is kept with the time from which on it is gone.  Subscriptions that are gone are
removed when they are met: one by looking it up, all by listing.

A listing that is read step by step shows what was there when its first entry was asked for.
-/

namespace EventRoster.Store

/-- A subscription and the time from which on it is gone. -/
structure Entry where
  subscription : Subscription
  deadline : Int

/-- Whether an entry is still there at some time. -/
def Entry.isLive (e : Entry) (now : Int) : Bool :=
  now < e.deadline

/-- The store in memory. -/
structure Memory where
  rows : Shelf Entry

namespace Memory

/-- The store with nothing in it. -/
def empty : Memory :=
  ⟨∅⟩

/-- The entry of a subscription that is registered at some time. -/
def entry (now : Int) (r : Registration) : Entry :=
  ⟨r.subscription now, now + Lifetime.clampSeconds r.lifetime * 1000⟩

/-- Puts a subscription under its name. -/
def insert (m : Memory) (now : Int) (r : Registration) : Memory :=
  ⟨m.rows.put r.name (entry now r)⟩

/-- Removes the subscription under a name. -/
def delete (m : Memory) (name : String) : Memory :=
  ⟨m.rows.erase name⟩

/-- The subscription under a name, and the store without it if it is gone. -/
def get (m : Memory) (now : Int) (name : String) : Option Subscription × Memory :=
  match m.rows.get? name with
  | none => (none, m)
  | some e => if e.isLive now then (some e.subscription, m) else (none, m.delete name)

/-- The store without the subscriptions that are gone. -/
def purged (m : Memory) (now : Int) : Memory :=
  ⟨m.rows.filter fun _ e => e.isLive now⟩

/-- The subscriptions that are there, in the order of their names. -/
def snapshot (m : Memory) (now : Int) : List Subscription :=
  (m.purged now).rows.values.map (·.subscription)

/-- What a listing at some time shows. -/
def items (m : Memory) (now : Int) (what : Selection) : List Item :=
  (m.snapshot now).map what.show

/-- Performs an operation at some time. -/
def perform (now : Int) : Operation → Action Memory Answer
  | .insert r => do
    Action.change (·.insert now r)
    pure .done
  | .delete name => do
    Action.change (·.delete name)
    pure .done
  | .get name => do
    let m ← Action.state
    let (found, m) := m.get now name
    Action.change fun _ => m
    pure (.found found)
  | .list what => do
    let m ← Action.state
    Action.change (·.purged now)
    pure (.listed ⟨m.items now what, none⟩)

/-- A listing that is read step by step. -/
inductive Cursor
  | unopened (what : Selection)
  | opened (rest : List Item)

/-- Takes an entry off the front. -/
def takeItem : List Item → Pull Cursor
  | [] => ⟨.opened [], .ok none⟩
  | item :: rest => ⟨.opened rest, .ok (some item)⟩

/-- Reads the next entry of a listing. -/
def pull (now : Int) : Cursor → Action Memory (Pull Cursor)
  | .unopened what => do
    let m ← Action.state
    Action.change (·.purged now)
    pure (takeItem (m.items now what))
  | .opened rest => pure (takeItem rest)

end Memory

end EventRoster.Store
