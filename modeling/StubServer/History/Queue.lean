/-! # Bounded queues

A queue takes elements at its end and gives up the oldest ones while it holds more than its
capacity.  Capacity zero keeps all.
-/

namespace StubServer.History.Queue

variable {α : Type}

/-- Drops elements from the front until no more than `capacity` are left. -/
def evict (capacity : Nat) : List α → List α
  | [] => []
  | x :: rest => if capacity < rest.length + 1 then evict capacity rest else x :: rest

def push (capacity : Nat) (queue : List α) (x : α) : List α :=
  if 0 < capacity then evict capacity (queue ++ [x]) else queue ++ [x]

/-- Takes elements in one after the other. -/
def pushAll (capacity : Nat) (queue xs : List α) : List α := xs.foldl (push capacity) queue

end StubServer.History.Queue
