/- The relay of a backend's answer, item by item. -/
import TenantScope.Text.Basic

namespace TenantScope

/-- What polling a stream of octets yields. -/
inductive StreamItem
  | chunk (bytes : Bytes)
  | failure (message : Text)
  | pending
  | ended
  deriving DecidableEq, Repr

namespace StreamItem

def bytes : StreamItem → Bytes
  | chunk bytes => bytes
  | _ => []

def isLast : StreamItem → Bool
  | failure _ | ended => true
  | _ => false

end StreamItem

/-- A relay: the items that the inner stream has still to yield, the octets relayed in a counter of
64 bits, and whether the last item was relayed. -/
structure Relay where
  queue : List StreamItem
  counter : UInt64
  finished : Bool
  deriving DecidableEq, Repr

namespace Relay

def ofItems (items : List StreamItem) : Relay := ⟨items, 0, false⟩

/-- The number of octets relayed, which starts again from zero after 2^64 of them. -/
def relayed (r : Relay) : Nat := r.counter.toNat

/-- The next item of the inner stream, whose end is also reached by an empty queue. -/
def next (r : Relay) : StreamItem := r.queue.headD .ended

/-- Polls the relay once. A finished relay yields its end and takes nothing. -/
def poll (r : Relay) : StreamItem × Relay :=
  if r.finished then (.ended, r)
  else (r.next, ⟨r.queue.tail, r.counter + .ofNat r.next.bytes.length, r.next.isLast⟩)

/-- Adds an item behind those that the inner stream has still to yield. -/
def push (r : Relay) (item : StreamItem) : Relay := { r with queue := r.queue ++ [item] }

end Relay
end TenantScope
