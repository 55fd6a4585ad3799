import PendingCalls.Handle

-- The operations that wait for their callbacks, by handle, and the counter that
-- issues the handles. Whoever removes an operation decides what becomes of it.

namespace PendingCalls

-- A native call under way: its handle and the channel of its outcome.
structure Operation where
  handle : Handle
  channel : Nat
deriving DecidableEq

structure Registry where
  counter : HandleCounter
  pending : List Operation
  distinct : (pending.map Operation.handle).Nodup

namespace Registry

def start (first : Int32) : Registry := ⟨HandleCounter.start first, [], List.nodup_nil⟩

instance : Inhabited Registry := ⟨start 1⟩

def size (r : Registry) : Nat := r.pending.length

def find? (r : Registry) (h : Handle) : Option Operation := r.pending.find? (·.handle = h)

def contains (r : Registry) (h : Handle) : Bool := (r.find? h).isSome

theorem find?_none (missing : find? r h = none) : h ∉ r.pending.map Operation.handle := by
  intro present
  obtain ⟨op,member,rfl⟩ := List.mem_map.mp present
  have wrong := List.find?_eq_none.mp missing op member
  simp at wrong

-- Refuses an operation whose handle is pending already.
def insert? (r : Registry) (op : Operation) : Option Registry :=
  match missing : r.find? op.handle with
  | some _ => none
  | none =>
      some { r with
        pending := op :: r.pending
        distinct := List.nodup_cons.mpr ⟨find?_none missing,r.distinct⟩ }

def erase (r : Registry) (h : Handle) : Registry :=
  { r with
    pending := r.pending.filter (·.handle ≠ h)
    distinct := r.distinct.sublist (List.filter_sublist.map _) }

def remove (r : Registry) (h : Handle) : Option (Operation × Registry) :=
  (r.find? h).map (fun op => (op, r.erase h))

def allocate (r : Registry) : Handle × Registry :=
  let (h, counter) := r.counter.issue
  (h, { r with counter })

def clear (r : Registry) : Registry := { r with pending := [], distinct := List.nodup_nil }

end Registry

end PendingCalls
