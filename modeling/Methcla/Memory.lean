import Methcla.Osc
import Mathlib.Algebra.BigOperators.Group.List
import Mathlib.Algebra.Order.Ring.Nat
/-!
The engine's two allocators: the realtime arena `rtMem()` that the audio thread allocates
from, and the system heap `Methcla::Memory` that everything else uses.

Neither is under src/, so both are modelled from the spec (§4.1): the arena is a fixed-size
region whose `alloc` never reaches the system allocator and fails when the bytes left do
not suffice. It fails by throwing `std::bad_alloc`: that is what `methcla_api_world_alloc`
catches around `rtMem().alloc`, and it is why a `replyError` on an exhausted arena does not
return (see `Methcla.Failure`).

A block is named by its allocator and a block number. The allocator is ghost data (a C++
`void*` does not carry it); it is what lets the worker channel state that every block goes
back to the allocator it came from.
-/

set_option autoImplicit false

namespace Methcla

/-- Which allocator a block came from. -/
inductive Alloc where
  /-- `Environment::rtMem()`, the realtime arena. -/
  | rt
  /-- `Methcla::Memory`, the system heap. -/
  | nrt
  deriving Repr, DecidableEq

/-- A data pointer: the allocator it came from and its block number there. -/
structure Ptr where
  alloc : Alloc
  block : Nat
  deriving Repr, DecidableEq

/-! ## The realtime arena -/

/-- Modelled from the spec: `Memory::RTMemoryManager` is not under src/. A region of
`size` bytes; `live` lists the blocks handed out and not freed, with their sizes. -/
structure RTMemoryManager where
  size : Nat
  live : List (Nat × Nat)
  next : Nat
  deriving Repr, DecidableEq

namespace RTMemoryManager

/-- An arena of `size` bytes with nothing allocated. -/
def new (size : Nat) : RTMemoryManager := ⟨size, [], 0⟩

/-- Bytes handed out and not freed. -/
def used (m : RTMemoryManager) : Nat := (m.live.map Prod.snd).sum

/-- `rtMem().alloc(bytes)`: a fresh block, or `std::bad_alloc`. -/
def alloc (m : RTMemoryManager) (bytes : Nat) : Except Exception (Nat × RTMemoryManager) :=
  if m.used + bytes ≤ m.size then
    .ok (m.next, { m with live := (m.next, bytes) :: m.live, next := m.next + 1 })
  else .error .badAlloc

/-- `rtMem().free(ptr)`. -/
def free (m : RTMemoryManager) (b : Nat) : RTMemoryManager :=
  { m with live := m.live.filter (·.1 ≠ b) }

/-- A block is live when it was handed out and not freed. -/
def IsLive (m : RTMemoryManager) (b : Nat) : Prop := b ∈ m.live.map Prod.fst

instance (m : RTMemoryManager) (b : Nat) : Decidable (m.IsLive b) :=
  inferInstanceAs (Decidable (b ∈ _))

theorem alloc_eq_ok {m m' : RTMemoryManager} {bytes b : Nat}
    (h : m.alloc bytes = .ok (b, m')) :
    b = m.next ∧ m' = { m with live := (m.next, bytes) :: m.live, next := m.next + 1 } := by
  unfold alloc at h
  split at h
  · cases h; exact ⟨rfl, rfl⟩
  · cases h

/-- The arena throws exactly when the request does not fit in what is left. -/
theorem alloc_eq_error {m : RTMemoryManager} {bytes : Nat} {e : Exception} :
    m.alloc bytes = .error e ↔ e = .badAlloc ∧ m.size < m.used + bytes := by
  unfold alloc
  split <;> simp_all [eq_comm]

@[simp] theorem isLive_free {m : RTMemoryManager} {b c : Nat} :
    (m.free b).IsLive c ↔ m.IsLive c ∧ c ≠ b := by
  simp [IsLive, free, and_comm]

end RTMemoryManager

/-! ## The system heap -/

/-- Modelled from the spec: `Methcla::Memory` is not under src/. The system heap never
fails in the model; `live` lists the blocks handed out and not freed. -/
structure Heap where
  live : List Nat
  next : Nat
  deriving Repr, DecidableEq

namespace Heap

/-- `Methcla::Memory::alloc`: a fresh block. -/
def alloc (h : Heap) : Nat × Heap := (h.next, ⟨h.next :: h.live, h.next + 1⟩)

/-- `Methcla::Memory::free(ptr)`. -/
def free (h : Heap) (b : Nat) : Heap := { h with live := h.live.filter (· ≠ b) }

end Heap

end Methcla
