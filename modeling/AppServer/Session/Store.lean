import Std.Data.TreeMap

/-!
# Bounded store of sessions

Entries under ids, and beside them the ids in the order in which they were
inserted. The store holds a bounded number of entries: before an insertion the
oldest are evicted until there is room for one more.
-/

namespace AppServer

abbrev SessionId := String

structure Store (α : Type) where
  capacity : Nat
  capacity_pos : 0 < capacity
  byId : Std.TreeMap SessionId α
  /-- The ids, oldest first. -/
  order : List SessionId

namespace Store

def defaultCapacity : Nat := 10000

/-- An empty store; a capacity of zero counts as one. -/
def withCapacity (α : Type) (capacity : Nat) : Store α := ⟨max capacity 1, by omega, {}, []⟩

def new (α : Type) : Store α := withCapacity α defaultCapacity

def load? (s : Store α) (id : SessionId) : Option α := s.byId[id]?

def size (s : Store α) : Nat := s.byId.size

/-- Drops the oldest ids with their entries until fewer than `capacity` entries are left. -/
def evict (capacity : Nat) (byId : Std.TreeMap SessionId α) :
    List SessionId → Std.TreeMap SessionId α × List SessionId
  | [] => (byId, [])
  | oldest :: rest =>
    if capacity ≤ byId.size then evict capacity (byId.erase oldest) rest else (byId, oldest :: rest)

def makeRoom (s : Store α) : Store α :=
  let (byId, order) := evict s.capacity s.byId s.order
  { s with byId, order }

/-- Inserts an entry under a new id, evicting the oldest while the store is full. -/
def insert (s : Store α) (id : SessionId) (value : α) : Store α :=
  let s := s.makeRoom
  { s with byId := s.byId.insert id value, order := s.order ++ [id] }

def remove (s : Store α) (id : SessionId) : Store α :=
  if id ∈ s.byId then { s with byId := s.byId.erase id, order := s.order.filter (· ≠ id) } else s

theorem load?_withCapacity (capacity : Nat) (id : SessionId) :
    (withCapacity α capacity).load? id = none := by
  simp [load?, withCapacity]

theorem capacity_remove (s : Store α) (id : SessionId) : (s.remove id).capacity = s.capacity := by
  simp only [remove]
  split <;> rfl

end Store

end AppServer
