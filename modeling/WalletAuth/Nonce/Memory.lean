import WalletAuth.Nonce.Record

/-!
# WalletAuth.Nonce.Memory — nonce records held in process

The in-process store is a list of slots, one per account and nonce, in the order they were
inserted. A slot holds the record, whether it was consumed, and the instant until which it is
retained.

* `insert` refuses a key already present.
* `claim` marks a slot consumed and answers what it held before.
* `purge` drops the slots whose retention is at or before the given instant, and counts them.
-/

namespace WalletAuth

/-- A kept record. -/
structure Slot where
  record : NonceRecord
  consumed : Bool
  retainUntil : Instant
  deriving DecidableEq, Repr

namespace Slot

/-- Whether the slot is kept under the account and nonce. -/
def keyed (s : Slot) (a : Address) (n : String) : Bool :=
  s.record.address == a && s.record.nonce == n

/-- What the slot tells about its nonce. -/
def state (s : Slot) : NonceState :=
  if s.consumed then .consumed s.record else .pending s.record

end Slot

/-- The in-process store. -/
structure MemoryStore where
  slots : List Slot := []
  deriving DecidableEq, Repr

namespace MemoryStore

/-- The number of kept records. -/
def size (m : MemoryStore) : Nat := m.slots.length

/-- What is kept under an account and nonce. -/
def get (m : MemoryStore) (a : Address) (n : String) : NonceState :=
  match m.slots.find? (·.keyed a n) with
  | some s => s.state
  | none => .missing

/-- Keeps a new pending record until `retainUntil`, unless its key is taken. -/
def insert (m : MemoryStore) (r : NonceRecord) (retainUntil : Instant) :
    Except StoreError MemoryStore :=
  if m.slots.any (·.keyed r.address r.nonce) then .error .duplicate
  else .ok ⟨m.slots ++ [⟨r, false, retainUntil⟩]⟩

/-- Marks a record consumed, answering what was kept before. -/
def claim (m : MemoryStore) (a : Address) (n : String) : NonceState × MemoryStore :=
  (m.get a n, ⟨m.slots.map fun s => if s.keyed a n then { s with consumed := true } else s⟩)

/-- Forgets a record. -/
def remove (m : MemoryStore) (a : Address) (n : String) : MemoryStore :=
  ⟨m.slots.filter fun s => !s.keyed a n⟩

/-- Drops the records retained only until `now` or earlier, answering how many went. -/
def purge (m : MemoryStore) (now : Instant) : Nat × MemoryStore :=
  let kept := m.slots.filter fun s => now < s.retainUntil
  (m.slots.length - kept.length, ⟨kept⟩)

end MemoryStore
end WalletAuth
